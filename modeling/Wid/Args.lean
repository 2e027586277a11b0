import Wid.Runs

/-!
# コマンドの引数

`main.c` の `wid next | stream | validate | parse | healthcheck | bench` は、`argv` の残りを
`parse_opts` で `cli_opts_t` に読み、その値で生成器を作る。整数は `parse_int`（`strtol`）で読む。

* `parseInt_eq_some` — `parse_int` が受け入れるのは、空白、符号、一つ以上の十進の数字が
  この順に並んだ文字列で、値が `[-2147483647, 2147483647]` に入るものにちょうど限る。
  `INT_MIN` は受け入れない。
* `parseOpts_image` — `parse_opts` の結果はどれも `CliOpts.Valid`（生成器が値を切り詰めずに
  使える範囲）を満たし、逆に `CliOpts.Valid` な値はどれも、旗の列に書き戻して読むと元に戻る。
* `cmdHealthcheck_of_parseOpts` — `parse_opts` が受け入れたどの引数でも、9999 年までの時刻なら
  `wid healthcheck` は `Z ≤ 33` で見本の ID を受け入れて 0 で終わり、`Z ∈ [34, 64]` では
  `raw[33]` の外に書く。

`argv` の要素は C の文字列なので NUL を含まない。`strcmp` の等しさは列の等しさになる。
-/

namespace Wid

/-! ## `strtol` -/

/-- C の `isspace`（"C" ロケール）。 -/
def cIsSpace (c : Char) : Bool :=
  c = ' ' || c = '\t' || c = '\n' || c = '\x0b' || c = '\x0c' || c = '\r'

/-- `strtol` の符号：`-` なら負、`+` は読み飛ばす。 -/
def strtolSign : List Char → Bool × List Char
  | '-' :: u => (true, u)
  | '+' :: u => (false, u)
  | u => (false, u)

/-- `long`（64 ビット）に入らない値は `LONG_MAX` / `LONG_MIN` に張り付く。 -/
def clampLong (v : Int) : Int := max int64Min (min int64Max v)

/-- `strtol(s, &end, 10)`：値と、`end` から先の文字列。空白と符号のあとに数字が一つもなければ
`end = s` で値は 0。 -/
def strtol10 (s : List Char) : Int × List Char :=
  let su := strtolSign (s.dropWhile cIsSpace)
  let ds := su.2.takeWhile widIsDigit
  if ds = [] then (0, s)
  else (clampLong (if su.1 then -(decValue ds : Int) else decValue ds), su.2.dropWhile widIsDigit)

/-- `parse_int`（main.c 82–90）。空の文字列、数字の後ろに残りのある文字列、`int` の
`[-2147483647, 2147483647]` を出る値を断る。 -/
def parseInt (s : List Char) : Option Int :=
  if s = [] then none
  else
    let r := strtol10 s
    if cAt r.2 0 ≠ '\x00' then none
    else if r.1 < -2147483647 ∨ r.1 > 2147483647 then none
    else some r.1

example : parseInt " +42".toList = some 42 := by decide
example : parseInt "-2147483648".toList = none := by decide

/-- 空白の文字は数字より前にある。 -/
theorem toNat_lt_of_cIsSpace {c : Char} (h : cIsSpace c = true) : c.toNat < 48 := by
  simp only [cIsSpace, Bool.or_eq_true, decide_eq_true_eq] at h
  rcases h with (((((rfl | rfl) | rfl) | rfl) | rfl) | rfl) <;> decide

theorem cIsSpace_of_digit {c : Char} (h : widIsDigit c = true) : cIsSpace c = false := by
  have := widIsDigit_iff.mp h
  cases hs : cIsSpace c
  · rfl
  · have := toNat_lt_of_cIsSpace hs; omega

/-- 符号の三つの形。 -/
theorem strtolSign_spec (t : List Char) : ∃ sgn, t = sgn ++ (strtolSign t).2 ∧
    (sgn = [] ∨ sgn = ['+'] ∨ sgn = ['-']) ∧ (strtolSign t).1 = decide (sgn = ['-']) := by
  cases t with
  | nil => exact ⟨[], rfl, by simp, rfl⟩
  | cons c u =>
    by_cases h1 : c = '-'
    · subst h1; exact ⟨['-'], rfl, by simp, rfl⟩
    by_cases h2 : c = '+'
    · subst h2; exact ⟨['+'], rfl, by simp, rfl⟩
    have h := strtolSign.eq_3 (c :: u) (fun _ h => h1 (List.cons.inj h).1)
      (fun _ h => h2 (List.cons.inj h).1)
    exact ⟨[], by rw [h]; rfl, by simp, by rw [h]; rfl⟩

/-- 数字で始まる列の符号は空。 -/
theorem strtolSign_digit {c : Char} (hc : widIsDigit c = true) (u : List Char) :
    strtolSign (c :: u) = (false, c :: u) :=
  strtolSign.eq_3 _ (fun _ h => absurd ((List.cons.inj h).1 ▸ hc) (by decide))
    (fun _ h => absurd ((List.cons.inj h).1 ▸ hc) (by decide))

/-- 空白のあとの列の頭が空白でなければ、空白だけが読み飛ばされる。 -/
theorem dropWhile_append_of_head {p : Char → Bool} {ws t : List Char} (hw : ∀ c ∈ ws, p c = true)
    (ht : ∀ c ∈ t.head?, p c = false) : (ws ++ t).dropWhile p = t := by
  induction ws with
  | nil =>
    cases t with
    | nil => rfl
    | cons c t => simp [List.dropWhile_cons, ht c rfl]
  | cons w ws ih =>
    rw [List.cons_append, List.dropWhile_cons, if_pos (hw w (List.mem_cons_self _ _))]
    exact ih (fun c hc => hw c (List.mem_cons_of_mem _ hc))

theorem clampLong_of_le {v : Int} (h1 : -2147483647 ≤ v) (h2 : v ≤ 2147483647) : clampLong v = v := by
  unfold clampLong int64Min int64Max; omega

/-- 空白、符号、数字の並びを `parse_int` は値 `±decValue ds` として読む（範囲の中なら）。 -/
theorem parseInt_of_shape {ws sgn ds : List Char} (hw : ∀ c ∈ ws, cIsSpace c = true)
    (hs : sgn = [] ∨ sgn = ['+'] ∨ sgn = ['-']) (hne : ds ≠ []) (hd : ∀ c ∈ ds, widIsDigit c = true)
    (h1 : -2147483647 ≤ (if sgn = ['-'] then -(decValue ds : Int) else decValue ds))
    (h2 : (if sgn = ['-'] then -(decValue ds : Int) else decValue ds) ≤ 2147483647) :
    parseInt (ws ++ sgn ++ ds) = some (if sgn = ['-'] then -(decValue ds : Int) else decValue ds) := by
  obtain ⟨c, u, rfl⟩ := List.exists_cons_of_ne_nil hne
  have hc := hd c (List.mem_cons_self _ _)
  have hsign : strtolSign (sgn ++ c :: u) = (decide (sgn = ['-']), c :: u) := by
    rcases hs with rfl | rfl | rfl
    · exact strtolSign_digit hc u
    · rfl
    · rfl
  have hdrop : (ws ++ sgn ++ c :: u).dropWhile cIsSpace = sgn ++ c :: u := by
    rw [List.append_assoc]
    refine dropWhile_append_of_head hw fun x hx => ?_
    rcases hs with rfl | rfl | rfl <;> simp at hx <;> subst hx
    · exact cIsSpace_of_digit hc
    all_goals decide
  have hall := List.takeWhile_eq_self_iff.mpr hd
  have hnil := List.dropWhile_eq_nil_iff.mpr hd
  unfold parseInt strtol10
  simp only [hdrop, hsign, hall, hnil, List.cons_ne_nil, if_false, cAt_nil, ne_eq,
    not_true_eq_false, decide_eq_true_eq, List.append_eq_nil, and_false]
  rw [clampLong_of_le h1 h2, if_neg (by omega)]

/-- `parse_int` の成功は、`strtol` が終端まで読み、値が範囲に入ること。 -/
theorem parseInt_eq_some_iff {s : List Char} {v : Int} : parseInt s = some v ↔
    s ≠ [] ∧ cAt (strtol10 s).2 0 = '\x00' ∧ -2147483647 ≤ (strtol10 s).1 ∧
      (strtol10 s).1 ≤ 2147483647 ∧ (strtol10 s).1 = v := by
  unfold parseInt
  by_cases h1 : s = []
  · simp [h1]
  by_cases h2 : cAt (strtol10 s).2 0 = '\x00'
  · by_cases h3 : (strtol10 s).1 < -2147483647 ∨ (strtol10 s).1 > 2147483647
    · simp only [h1, h2, h3, ne_eq, not_true_eq_false, if_false, if_true, reduceCtorEq, false_iff]
      omega
    · simp [h1, h2, h3]
      omega
  · simp [h1, h2]

theorem eq_nil_of_cAt_zero {l : List Char} (hl : '\x00' ∉ l) (h : cAt l 0 = '\x00') : l = [] := by
  cases l with
  | nil => rfl
  | cons c t => exact absurd (h ▸ List.mem_cons_self c t) hl

/-- `parse_int` が受け入れた文字列は、空白、符号、数字だけでできている（NUL を含まない文字列で）。 -/
theorem parseInt_shape {s : List Char} (hs : '\x00' ∉ s) {v : Int} (h : parseInt s = some v) :
    ∃ ws sgn ds, s = ws ++ sgn ++ ds ∧ (∀ c ∈ ws, cIsSpace c = true) ∧
      (sgn = [] ∨ sgn = ['+'] ∨ sgn = ['-']) ∧ ds ≠ [] ∧ (∀ c ∈ ds, widIsDigit c = true) ∧
      v = (if sgn = ['-'] then -(decValue ds : Int) else decValue ds) := by
  obtain ⟨hne, hend, h1, h2, rfl⟩ := parseInt_eq_some_iff.mp h
  obtain ⟨sgn, hsplit, hsg, hneg⟩ := strtolSign_spec (s.dropWhile cIsSpace)
  have hs_eq := List.takeWhile_append_dropWhile cIsSpace s
  unfold strtol10 at hend h1 h2 ⊢
  generalize strtolSign (s.dropWhile cIsSpace) = su at hsplit hneg hend h1 h2 ⊢
  rw [hsplit, ← List.takeWhile_append_dropWhile widIsDigit su.2, ← List.append_assoc] at hs_eq
  by_cases hds : su.2.takeWhile widIsDigit = []
  · simp only [hds, if_true] at hend
    exact absurd (eq_nil_of_cAt_zero hs hend) hne
  simp only [hds, if_false, hneg, decide_eq_true_eq] at hend h1 h2 ⊢
  have hrest : su.2.dropWhile widIsDigit = [] :=
    eq_nil_of_cAt_zero
      (fun hc => hs (hs_eq ▸ List.mem_append_right _ (List.mem_append_right _ hc))) hend
  refine ⟨s.takeWhile cIsSpace, sgn, su.2.takeWhile widIsDigit, ?_, fun c => List.mem_takeWhile_imp,
    hsg, hds, fun c => List.mem_takeWhile_imp, ?_⟩
  · rw [hrest, List.append_nil] at hs_eq; exact hs_eq.symm
  · generalize (if sgn = ['-'] then -(decValue (su.2.takeWhile widIsDigit) : Int)
      else decValue (su.2.takeWhile widIsDigit)) = x at h1 h2 ⊢
    unfold clampLong int64Min int64Max at h1 h2 ⊢
    omega

/-- **`parse_int` が受け入れる文字列。** 空白、符号（なし、`+`、`-`）、一つ以上の十進の数字が
この順に並び、その値が `[-2147483647, 2147483647]` に入るものにちょうど限る。 -/
theorem parseInt_eq_some {s : List Char} (hs : '\x00' ∉ s) {v : Int} :
    parseInt s = some v ↔ ∃ ws sgn ds, s = ws ++ sgn ++ ds ∧ (∀ c ∈ ws, cIsSpace c = true) ∧
      (sgn = [] ∨ sgn = ['+'] ∨ sgn = ['-']) ∧ ds ≠ [] ∧ (∀ c ∈ ds, widIsDigit c = true) ∧
      v = (if sgn = ['-'] then -(decValue ds : Int) else decValue ds) ∧
      -2147483647 ≤ v ∧ v ≤ 2147483647 := by
  constructor
  · intro h
    obtain ⟨-, -, h1, h2, rfl⟩ := parseInt_eq_some_iff.mp h
    obtain ⟨ws, sgn, ds, hsd, hw, hsg, hne, hd, hv⟩ := parseInt_shape hs h
    exact ⟨ws, sgn, ds, hsd, hw, hsg, hne, hd, hv, h1, h2⟩
  · rintro ⟨ws, sgn, ds, rfl, hw, hsg, hne, hd, rfl, h1, h2⟩
    exact parseInt_of_shape hw hsg hne hd h1 h2

theorem parseInt_space_plus_seven : parseInt " +7".toList = some 7 :=
  (parseInt_eq_some (by decide)).mpr
    ⟨[' '], ['+'], ['7'], rfl, by decide, by decide, by decide, by decide, rfl, by decide, by decide⟩

theorem decValue_fixedDigits_numDigits (n : Nat) : decValue (fixedDigits (numDigits n) n) = n := by
  rw [decValue_fixedDigits, Nat.mod_eq_of_lt (lt_pow_numDigits n)]

theorem fixedDigits_numDigits_ne_nil (n : Nat) : fixedDigits (numDigits n) n ≠ [] := by
  rw [← List.length_pos, length_fixedDigits]; exact numDigitsAux_pos n n

/-- `printf("%d", v)` で書いた数を `parse_int` は読み戻す。 -/
theorem parseInt_fmtZeroPad {v : Int} (h1 : -2147483647 ≤ v) (h2 : v ≤ 2147483647) :
    parseInt (fmtZeroPad 0 v) = some v := by
  have hd : ∀ n, ∀ c ∈ fixedDigits (numDigits n) n, widIsDigit c = true :=
    fun _ _ hc => widIsDigit_of_mem_fixedDigits hc
  by_cases hv : v < 0
  · have he : fmtZeroPad 0 v = [] ++ ['-'] ++ fixedDigits (numDigits v.natAbs) v.natAbs := by
      simp [fmtZeroPad, hv]
    have hval : -(decValue (fixedDigits (numDigits v.natAbs) v.natAbs) : Int) = v := by
      rw [decValue_fixedDigits_numDigits]; omega
    rw [he, parseInt_of_shape (by simp) (by simp) (fixedDigits_numDigits_ne_nil _) (hd _)
      (by rw [if_pos rfl, hval]; exact h1) (by rw [if_pos rfl, hval]; exact h2), if_pos rfl, hval]
  · have he : fmtZeroPad 0 v = [] ++ [] ++ fixedDigits (numDigits v.toNat) v.toNat := by
      simp [fmtZeroPad, hv]
    have hval : (decValue (fixedDigits (numDigits v.toNat) v.toNat) : Int) = v := by
      rw [decValue_fixedDigits_numDigits]; omega
    rw [he, parseInt_of_shape (by simp) (by simp) (fixedDigits_numDigits_ne_nil _) (hd _)
      (by rw [if_neg (by simp), hval]; exact h1) (by rw [if_neg (by simp), hval]; exact h2),
      if_neg (by simp), hval]

/-! ## `wid_time_unit_from_str` / `wid_time_unit_to_str` -/

/-- `wid_time_unit_from_str`（wid.h 186–197）。 -/
def widTimeUnitFromStr (s : List Char) : Option WidTimeUnit :=
  if s = "sec".toList then some .sec else if s = "ms".toList then some .ms else none

/-- `wid_time_unit_to_str`（wid.h 199–201）。 -/
def widTimeUnitToStr (u : WidTimeUnit) : List Char := if u = .ms then "ms".toList else "sec".toList

/-- 読めるのはちょうど二つの名前で、名前に書いて読むと戻る。 -/
theorem widTimeUnitFromStr_eq_some {s : List Char} {u : WidTimeUnit} :
    widTimeUnitFromStr s = some u ↔ s = widTimeUnitToStr u := by
  unfold widTimeUnitFromStr widTimeUnitToStr
  cases u <;> by_cases h1 : s = "sec".toList <;> by_cases h2 : s = "ms".toList <;> simp_all

/-! ## `parse_opts` -/

/-- `cli_opts_t`。`kind` と `node` は `argv` の文字列を指す。 -/
structure CliOpts where
  kind : List Char
  node : List Char
  W : Int
  Z : Int
  timeUnit : WidTimeUnit
  count : Int
  json : Bool
  deriving DecidableEq, Repr

/-- `parse_opts` がはじめに書く値（main.c 1107–1114）。 -/
def CliOpts.default : CliOpts :=
  ⟨"wid".toList, "c".toList, widDefaultW, widDefaultZ, .sec, 0, false⟩

/-- 値をとる旗が次の引数 `v` をどう書き込むか。`parse_int` や `wid_time_unit_from_str` が
断れば `none`。値をとらない旗と知らない旗には何も返さない。`--count` は `allowCount` のときだけ。 -/
def optsSetter (allowCount : Bool) (a : List Char) : Option (List Char → CliOpts → Option CliOpts) :=
  if a = "--kind".toList then some fun v o => some { o with kind := v }
  else if a = "--node".toList then some fun v o => some { o with node := v }
  else if a = "--W".toList then some fun v o => (parseInt v).map fun W => { o with W := W }
  else if a = "--Z".toList then some fun v o => (parseInt v).map fun Z => { o with Z := Z }
  else if a = "--time-unit".toList ∨ a = "--T".toList then
    some fun v o => (widTimeUnitFromStr v).map fun u => { o with timeUnit := u }
  else if allowCount ∧ a = "--count".toList then
    some fun v o => (parseInt v).map fun n => { o with count := n }
  else none

/-- `parse_opts` の `for` の繰り返し（main.c 1116–1136）。値をとる旗の後ろに引数がなければ、
`--json` でも値をとる旗でもない引数があれば失敗。 -/
def parseOptsLoop (allowCount : Bool) : List (List Char) → CliOpts → Option CliOpts
  | [], o => some o
  | a :: rest, o =>
    match optsSetter allowCount a with
    | some set =>
      match rest with
      | [] => none
      | v :: rest' => (set v o).bind fun o' => parseOptsLoop allowCount rest' o'
    | none => if a = "--json".toList then parseOptsLoop allowCount rest { o with json := true }
      else none

/-- `parse_opts`（main.c 1106–1144）：繰り返しのあとの検査。 -/
def parseOpts (args : List (List Char)) (allowCount : Bool) : Option CliOpts :=
  (parseOptsLoop allowCount args CliOpts.default).bind fun o =>
    if o.kind ≠ "wid".toList ∧ o.kind ≠ "hlc".toList then none
    else if o.W ≤ 0 ∨ o.Z < 0 then none
    else if o.W > widMaxW ∨ o.Z > widMaxZ then none
    else if o.count < 0 then none
    else if o.kind = "hlc".toList ∧ widValidNode o.node = false then none
    else some o

/-- `parse_opts` が受け入れた値。生成器は `W` と `Z` を切り詰めずに使い、HLC ならノードは正しい。
`--count` をとらない命令では `count` は 0 のまま。 -/
structure CliOpts.Valid (allowCount : Bool) (o : CliOpts) : Prop where
  kind : o.kind = "wid".toList ∨ o.kind = "hlc".toList
  W_pos : 1 ≤ o.W
  W_le : o.W ≤ widMaxW
  Z_nonneg : 0 ≤ o.Z
  Z_le : o.Z ≤ widMaxZ
  count_nonneg : 0 ≤ o.count
  count_le : o.count ≤ 2147483647
  count_zero : allowCount = false → o.count = 0
  node : o.kind = "hlc".toList → widValidNode o.node = true

/-- 値を旗の列に書き戻す。`--count` は `allowCount` のときだけ書く。 -/
def renderOpts (allowCount : Bool) (o : CliOpts) : List (List Char) :=
  ["--kind".toList, o.kind, "--node".toList, o.node, "--W".toList, fmtZeroPad 0 o.W,
    "--Z".toList, fmtZeroPad 0 o.Z, "--time-unit".toList, widTimeUnitToStr o.timeUnit] ++
  ((if allowCount then ["--count".toList, fmtZeroPad 0 o.count] else []) ++
    if o.json then ["--json".toList] else [])

theorem optsSetter_kind (ac : Bool) :
    optsSetter ac "--kind".toList = some fun v o => some { o with kind := v } := rfl

theorem optsSetter_node (ac : Bool) :
    optsSetter ac "--node".toList = some fun v o => some { o with node := v } := rfl

theorem optsSetter_W (ac : Bool) :
    optsSetter ac "--W".toList = some fun v o => (parseInt v).map fun W => { o with W := W } := rfl

theorem optsSetter_Z (ac : Bool) :
    optsSetter ac "--Z".toList = some fun v o => (parseInt v).map fun Z => { o with Z := Z } := rfl

theorem optsSetter_timeUnit (ac : Bool) : optsSetter ac "--time-unit".toList =
    some fun v o => (widTimeUnitFromStr v).map fun u => { o with timeUnit := u } := rfl

theorem optsSetter_count_flag :
    optsSetter true "--count".toList = some fun v o => (parseInt v).map fun n => { o with count := n } :=
  rfl

theorem parseOptsLoop_json (ac : Bool) (rest : List (List Char)) (o : CliOpts) :
    parseOptsLoop ac ("--json".toList :: rest) o = parseOptsLoop ac rest { o with json := true } := by
  have h : optsSetter ac "--json".toList = none := by cases ac <;> rfl
  rw [parseOptsLoop, h, if_pos rfl]

theorem parseOptsLoop_value {ac : Bool} {a : List Char} {set : List Char → CliOpts → Option CliOpts}
    (h : optsSetter ac a = some set) (v : List Char) (rest : List (List Char)) (o : CliOpts) :
    parseOptsLoop ac (a :: v :: rest) o = (set v o).bind fun o' => parseOptsLoop ac rest o' := by
  rw [parseOptsLoop, h]

/-- 一つの旗は `count` を変えないか、`--count` で `int` の値を書く。 -/
theorem optsSetter_count {ac : Bool} {a v : List Char} {set : List Char → CliOpts → Option CliOpts}
    {o o' : CliOpts} (h : optsSetter ac a = some set) (hs : set v o = some o') :
    o'.count = o.count ∨ (ac = true ∧ -2147483647 ≤ o'.count ∧ o'.count ≤ 2147483647) := by
  unfold optsSetter at h
  split_ifs at h with h1 h2 h3 h4 h5 h6 <;> cases h <;>
    simp only [Option.some.injEq, Option.map_eq_some'] at hs
  · exact .inl (hs ▸ rfl)
  · exact .inl (hs ▸ rfl)
  · obtain ⟨_, -, rfl⟩ := hs; exact .inl rfl
  · obtain ⟨_, -, rfl⟩ := hs; exact .inl rfl
  · obtain ⟨_, -, rfl⟩ := hs; exact .inl rfl
  · obtain ⟨n, hn, rfl⟩ := hs
    obtain ⟨-, -, h1, h2, rfl⟩ := parseInt_eq_some_iff.mp hn
    exact .inr ⟨h6.1, h1, h2⟩

/-- 繰り返しの全体でも同じ。 -/
theorem parseOptsLoop_count {ac : Bool} {args : List (List Char)} {o o' : CliOpts}
    (h : parseOptsLoop ac args o = some o') :
    o'.count = o.count ∨ (ac = true ∧ -2147483647 ≤ o'.count ∧ o'.count ≤ 2147483647) := by
  induction args, o using parseOptsLoop.induct ac with
  | case1 o => cases h; exact .inl rfl
  | case2 a o set hs => rw [parseOptsLoop, hs] at h; cases h
  | case3 a o set hs v rest ih =>
    rw [parseOptsLoop_value hs] at h
    obtain ⟨o1, h1, h2⟩ := Option.bind_eq_some.mp h
    rcases ih o1 h2 with e | e
    · rw [e]; exact optsSetter_count hs h1
    · exact .inr e
  | case4 rest o hs ih =>
    rw [parseOptsLoop, hs, if_pos rfl] at h
    exact ih h
  | case5 a rest o hs hj => rw [parseOptsLoop, hs, if_neg hj] at h; cases h

/-- 旗の列に書き戻した値は、はじめの値がなんであれ、そのまま読み戻される。 -/
theorem parseOptsLoop_renderOpts {ac : Bool} {o : CliOpts} (hv : o.Valid ac) :
    parseOptsLoop ac (renderOpts ac o) CliOpts.default = some o := by
  have hW := parseInt_fmtZeroPad (v := o.W) (by have := hv.W_pos; omega)
    (by have := hv.W_le; unfold widMaxW at this; omega)
  have hZ := parseInt_fmtZeroPad (v := o.Z) (by have := hv.Z_nonneg; omega)
    (by have := hv.Z_le; unfold widMaxZ at this; omega)
  have hu : widTimeUnitFromStr (widTimeUnitToStr o.timeUnit) = some o.timeUnit :=
    widTimeUnitFromStr_eq_some.mpr rfl
  unfold renderOpts
  simp only [List.cons_append, List.nil_append, parseOptsLoop_value (optsSetter_kind ac),
    parseOptsLoop_value (optsSetter_node ac), parseOptsLoop_value (optsSetter_W ac),
    parseOptsLoop_value (optsSetter_Z ac), parseOptsLoop_value (optsSetter_timeUnit ac),
    Option.some_bind, hW, hZ, hu, Option.map_some']
  cases ac with
  | false =>
    have h0 := hv.count_zero rfl
    cases o with
    | mk kind node W Z u count json => cases json <;> simp_all [parseOptsLoop, parseOptsLoop_json, CliOpts.default]
  | true =>
    have hc := parseInt_fmtZeroPad (v := o.count) (by have := hv.count_nonneg; omega) hv.count_le
    simp only [if_true, List.cons_append, parseOptsLoop_value optsSetter_count_flag, Option.some_bind,
      hc, Option.map_some']
    cases o with
    | mk kind node W Z u count json => cases json <;> simp [parseOptsLoop, parseOptsLoop_json, CliOpts.default]

/-- `parse_opts` の結果は `Valid`。 -/
theorem parseOpts_valid {args : List (List Char)} {ac : Bool} {o : CliOpts}
    (h : parseOpts args ac = some o) : o.Valid ac := by
  obtain ⟨o1, hl, hc⟩ := Option.bind_eq_some.mp h
  have hcount := parseOptsLoop_count hl
  simp only [CliOpts.default] at hcount
  split_ifs at hc with h1 h2 h3 h4 h5
  cases hc
  refine ⟨by tauto, by omega, by omega, by omega, by omega, by omega, by omega, ?_, ?_⟩
  · rintro rfl; simpa using hcount
  · intro hk; simpa [hk] using h5

/-- `Valid` な値は、旗の列に書き戻して読むと元に戻る。 -/
theorem parseOpts_renderOpts {ac : Bool} {o : CliOpts} (hv : o.Valid ac) :
    parseOpts (renderOpts ac o) ac = some o := by
  have hW := hv.W_le; have hZ := hv.Z_le
  unfold widMaxW at hW; unfold widMaxZ at hZ
  rw [parseOpts, parseOptsLoop_renderOpts hv, Option.some_bind,
    if_neg (by rcases hv.kind with h | h <;> simp [h]), if_neg (by have := hv.W_pos; have := hv.Z_nonneg; omega),
    if_neg (by unfold widMaxW widMaxZ; omega), if_neg (by have := hv.count_nonneg; omega),
    if_neg (fun h => by simp [hv.node h.1] at h)]

/-- **`parse_opts` が受け入れる値。** 結果はどれも `CliOpts.Valid` で、逆に `Valid` な値はどれも
旗の列 `renderOpts` に書き戻して読むと元に戻る。したがって結果の集まりはちょうど `Valid` な値。 -/
theorem parseOpts_image (ac : Bool) :
    (∀ args o, parseOpts args ac = some o → o.Valid ac) ∧
    (∀ o, o.Valid ac → parseOpts (renderOpts ac o) ac = some o) :=
  ⟨fun _ _ => parseOpts_valid, fun _ => parseOpts_renderOpts⟩

/-! ## 命令 -/

/-- `cmd_next`（main.c 1146–1159）：終了コードと標準出力。時刻 `now` と乱数 `rnd` は
`wid_gen_next` / `hlc_wid_gen_next` の中で読まれるもの。未定義動作は `none`。 -/
def cmdNext (o : CliOpts) (now : Int) (rnd : Nat → UInt8) : Option (Nat × List Char) :=
  if o.kind = "wid".toList then
    (widGenNext (widGenInitEx o.W o.Z o.timeUnit) now rnd widMaxLen).map fun r => (0, r.2 ++ ['\n'])
  else match hlcWidGenInitEx o.node o.W o.Z o.timeUnit with
    | none => some (1, [])
    | some g => (hlcWidGenNext g now rnd widMaxLen).map fun r => (0, r.2 ++ ['\n'])

/-- `cmd_validate`（main.c 1182–1188）。 -/
def cmdValidate (id : List Char) (o : CliOpts) : Nat × List Char :=
  let ok := if o.kind = "wid".toList then widValidateEx id o.W o.Z o.timeUnit
    else hlcWidValidateEx id o.W o.Z o.timeUnit
  (if ok then 0 else 1, (if ok then "true".toList else "false".toList) ++ ['\n'])

/-- `cmd_healthcheck` が書く行（main.c 1296–1304）。 -/
def healthcheckLine (o : CliOpts) (ok : Bool) (id : List Char) : List Char :=
  let okStr := if ok then "true".toList else "false".toList
  if o.json then
    "\x7b\"ok\":".toList ++ okStr ++ ",\"kind\":\"".toList ++ o.kind ++ "\",\"W\":".toList ++
      fmtZeroPad 0 o.W ++ ",\"Z\":".toList ++ fmtZeroPad 0 o.Z ++ ",\"time_unit\":\"".toList ++
      widTimeUnitToStr o.timeUnit ++ "\",\"sample_id\":\"".toList ++ id ++ "\"\x7d\n".toList
  else "ok=".toList ++ okStr ++ " kind=".toList ++ o.kind ++ " sample=".toList ++ id ++ ['\n']

/-- `cmd_healthcheck`（main.c 1278–1306）：見本の ID を一つ作って検査する。 -/
def cmdHealthcheck (o : CliOpts) (now : Int) (rnd : Nat → UInt8) : Option (Nat × List Char) :=
  let report := fun (id : List Char) (ok : Bool) => ((if ok then 0 else 1 : Nat), healthcheckLine o ok id)
  if o.kind = "wid".toList then
    (widGenNext (widGenInitEx o.W o.Z o.timeUnit) now rnd widMaxLen).map fun r =>
      report r.2 (widValidateEx r.2 o.W o.Z o.timeUnit)
  else match hlcWidGenInitEx o.node o.W o.Z o.timeUnit with
    | none => some (1, [])
    | some g => (hlcWidGenNext g now rnd widMaxLen).map fun r =>
      report r.2 (hlcWidValidateEx r.2 o.W o.Z o.timeUnit)

/-- 作ったばかりの WID の生成器の最初の一歩：tick は `max now 0`。 -/
theorem widGenAdvance_init (W Z : Int) (u : WidTimeUnit) (now : Int) :
    ∃ g', widGenAdvance (widGenInitEx W Z u) now = some g' ∧ g'.lastTick = max now 0 := by
  have hg := widGenInitEx_inv W Z u
  obtain ⟨h9, hlt⟩ := hg.maxSeq_bounds
  rw [widGenAdvance_eq (by omega) hlt hg.lastSeq_ge hg.lastSeq_le]
  have ht : (widGenInitEx W Z u).lastTick = 0 := rfl
  have hs : (widGenInitEx W Z u).lastSeq = -1 := rfl
  by_cases hn : 0 < now
  · exact ⟨_, if_pos (by omega), by simp only; omega⟩
  · exact ⟨_, by rw [if_neg (by omega), if_pos (by omega)], by simp only [ht]; omega⟩

/-- 作ったばかりの HLC の生成器の最初の一歩：`pt` は `max now 0`。 -/
theorem hlcWidGenAdvance_init {g : HlcWidGen} (hg : g.Inv) (hp : g.pt = 0) (hl : g.lc = 0)
    (now : Int) : ∃ g', hlcWidGenAdvance g now = some g' ∧ g'.pt = max now 0 := by
  obtain ⟨h9, hlt⟩ := hg.maxLc_bounds
  rw [hlcWidGenAdvance_eq (by omega) hlt hg.lc_nonneg hg.lc_le]
  by_cases hn : 0 < now
  · exact ⟨_, if_pos (by omega), by simp only; omega⟩
  · exact ⟨_, by rw [if_neg (by omega), if_pos (by omega)], by simp only [hp]; omega⟩

theorem hlcWidGenInitEx_of_valid {node : List Char} (h : widValidNode node = true) (W Z : Int)
    (u : WidTimeUnit) : ∃ g, hlcWidGenInitEx node W Z u = some g := by
  simp [hlcWidGenInitEx, h]

/-- 作ったばかりの WID の生成器の最初の ID：`Z ≤ 33` なら書けて、生成器の `W`・`Z` での検査を
通る（9999 年までの時刻で）。`Z ≥ 34` なら `raw[33]` の外に書く。 -/
theorem widGenNext_init {W Z : Int} {u : WidTimeUnit} (hZ0 : 0 ≤ Z) {now : Int}
    (hnow : now ≤ widMaxTick u) (rnd : Nat → UInt8) :
    (Z ≤ 33 → ∃ g s, widGenNext (widGenInitEx W Z u) now rnd widMaxLen = some (g, s) ∧
      widValidateEx s (widGenInitEx W Z u).W Z u = true) ∧
    (34 ≤ Z → widGenNext (widGenInitEx W Z u) now rnd widMaxLen = none) := by
  obtain ⟨hm0, hm1⟩ := widMaxTick_lt u
  have hg := widGenInitEx_inv W Z u
  have hZg : 34 ≤ Z → 34 ≤ (widGenInitEx W Z u).Z := by
    rw [widGenInitEx_Z, if_neg (by omega)]; unfold widMaxZ; omega
  obtain ⟨g1, ha, ht⟩ := widGenAdvance_init W Z u now
  obtain ⟨-, hfr, -⟩ := widGenAdvance_spec hg ha
  refine ⟨fun hZ => ?_, fun hZ => ?_⟩
  · have hZg' : (widGenInitEx W Z u).Z = Z := by
      rw [widGenInitEx_Z, if_neg (by omega)]; unfold widMaxZ; omega
    obtain ⟨⟨g2, s⟩, hr⟩ := @widGenNext_isSome _ now hg (by rw [hZg']; exact hZ)
      (max_lt (by omega) (by exact (by decide : (0 : Int) < int64Max))) rnd
    obtain ⟨ha2, -⟩ := widGenNext_eq_some hr
    rw [ha] at ha2; cases ha2
    obtain ⟨hval, -⟩ := widGenNext_parse hg hr (by rw [ht]; exact max_le hnow hm0)
    rw [hZg'] at hval
    exact ⟨g1, s, hr, hval⟩
  · have hZ1 : 33 < g1.Z := by rw [hfr]; have := hZg hZ; simp only; omega
    simp only [widGenNext, ha, Option.some_bind, widGenEmit_of_Z_gt hZ1, Option.map_none']

/-- HLC も同じ。ノードは正しいノードとする。 -/
theorem hlcWidGenNext_init {node : List Char} (hn : widValidNode node = true) {W Z : Int}
    {u : WidTimeUnit} (hZ0 : 0 ≤ Z) (hZ1 : Z ≤ 64) {now : Int} (hnow : now ≤ widMaxTick u)
    (rnd : Nat → UInt8) : ∃ g, hlcWidGenInitEx node W Z u = some g ∧
    (Z ≤ 33 → ∃ g' s, hlcWidGenNext g now rnd widMaxLen = some (g', s) ∧
      hlcWidValidateEx s g.W Z u = true) ∧
    (34 ≤ Z → hlcWidGenNext g now rnd widMaxLen = none) := by
  obtain ⟨hm0, hm1⟩ := widMaxTick_lt u
  obtain ⟨hne, hnc⟩ := widValidNode_eq_true.mp hn
  obtain ⟨g, hi⟩ := hlcWidGenInitEx_of_valid hn W Z u
  obtain ⟨-, hnd, hu, hp, hl, hg⟩ := hlcWidGenInitEx_eq_some hi
  have hZg : g.Z = Z := by rw [hlcWidGenInitEx_Z hi]; unfold widMaxZ; omega
  obtain ⟨g1, ha, ht⟩ := hlcWidGenAdvance_init hg hp hl now
  obtain ⟨hg1, hfr, -⟩ := hlcWidGenAdvance_spec hg ha
  have hW1 : g1.W = g.W := by rw [hfr]
  have hZ1' : g1.Z = Z := by rw [hfr]; exact hZg
  have hu1 : g1.timeUnit = u := by rw [hfr]; exact hu
  have hn1 : g1.node = node.take 63 := by rw [hfr]; exact hnd
  refine ⟨g, hi, fun hZ => ?_, fun hZ => ?_⟩
  · obtain ⟨pad, he, -⟩ := hlcWidGenEmit_full hg1 (by rw [hn1]; simp) (by omega) rnd
    obtain ⟨hval, -⟩ := hlcWidGenEmit_parse hg1 (by rw [hn1]; simpa using hne) (by rw [hn1]; simp)
      (by rw [hn1]; exact fun c hc => hnc c (List.mem_of_mem_take hc)) (by rw [ht, hu1]; omega) he
    rw [hW1, hZ1', hu1] at hval
    exact ⟨g1, _, by simp only [hlcWidGenNext, ha, Option.some_bind, he, Option.map_some'], hval⟩
  · simp only [hlcWidGenNext, ha, Option.some_bind, hlcWidGenEmit_of_Z_gt (by omega : 33 < g1.Z),
      Option.map_none']

/-- **`parse_opts` が受け入れた引数での `wid healthcheck`。** 9999 年までのどの時刻とどの乱数でも、
`Z ≤ 33` なら見本の ID は検査を通って 0 で終わり、`Z ∈ [34, 64]` なら `wid_random_hex` が
`raw[33]` の外に書く。 -/
theorem cmdHealthcheck_of_parseOpts {args : List (List Char)} {o : CliOpts}
    (h : parseOpts args false = some o) {now : Int} (hnow : now ≤ widMaxTick o.timeUnit)
    (rnd : Nat → UInt8) :
    (o.Z ≤ 33 → ∃ out, cmdHealthcheck o now rnd = some (0, out)) ∧
    (34 ≤ o.Z → cmdHealthcheck o now rnd = none) := by
  have hv := parseOpts_valid h
  have hW1 := hv.W_pos; have hW2 := hv.W_le; have hZ0 := hv.Z_nonneg; have hZ1 := hv.Z_le
  unfold widMaxW at hW2; unfold widMaxZ at hZ1
  unfold cmdHealthcheck
  by_cases hk : o.kind = "wid".toList
  · rw [if_pos hk]
    obtain ⟨hok, hub⟩ := widGenNext_init (W := o.W) hZ0 hnow rnd
    refine ⟨fun hZ => ?_, fun hZ => by rw [hub hZ]; rfl⟩
    obtain ⟨g, s, hr, hval⟩ := hok hZ
    rw [widGenInitEx_W hW1 hW2] at hval
    exact ⟨_, by rw [hr, Option.map_some', hval]; rfl⟩
  · rw [if_neg hk]
    obtain ⟨g, hi, hok, hub⟩ :=
      hlcWidGenNext_init (hv.node (hv.kind.resolve_left hk)) (W := o.W) hZ0 hZ1 hnow rnd
    simp only [hi]
    refine ⟨fun hZ => ?_, fun hZ => by rw [hub hZ]; rfl⟩
    obtain ⟨g', s, hr, hval⟩ := hok hZ
    rw [(hlcWidGenInitEx_W_Z hi hW1 hW2 hZ0 hZ1).1] at hval
    exact ⟨_, by rw [hr, Option.map_some', hval]; rfl⟩

theorem cmdHealthcheck_Z0 :
    parseOpts ["--Z".toList, "0".toList] false =
        some ⟨"wid".toList, "c".toList, 4, 0, .sec, 0, false⟩ ∧
      ∃ out, cmdHealthcheck ⟨"wid".toList, "c".toList, 4, 0, .sec, 0, false⟩ 0 (fun _ => 0) =
        some (0, out) :=
  ⟨by decide, (@cmdHealthcheck_of_parseOpts ["--Z".toList, "0".toList] _ (by decide) 0 (by decide)
    (fun _ => 0)).1 (by decide)⟩

end Wid
