import Wid.Args

/-!
# 正準の引数 `KEY=value`

`argv[1]` が `=` を含めば、`main` は `parse_canonical` で `argv[1..]` を `canon_opts_t` に読み、
`run_canonical` に渡す。読み方は欄ごとに三通りある。

* 整数の欄（`W Z L N DIGITS MAX_AGE_SEC MAX_FUTURE_SEC`）：`#` は既定値、値は `parse_int`。
* 既定値のある文字列の欄（`A T D I E R M`）：`#` は既定値、`snprintf` が欄の大きさで切る。
* 既定値のない文字列の欄（`WID KEY SIG DATA OUT MODE CODE`）：`snprintf` で切るだけ。

そのあと `A` を小文字にして別名を直し、`T`、シェルに渡る欄の文字、整数の範囲、`R` を検査する。

* `canonLoop_fits` — 繰り返しの一歩ごとに、文字列の欄は欄の大きさに収まり、`#` のままの欄はなく、
  整数は `int` の範囲に入る。`parse_canonical` の結果はどれも `CanonOpts.Valid`。
* `parseCanonical_image` — 逆に `Valid` な値はどれも、`KEY=value` の列に書き戻して読むと元に戻る。
  結果の集まりはちょうど `Valid` な値である。
* `canonHealthcheck_exit` — `A=healthcheck` は `W > 18` も受け入れるが、生成器は `W` を 18 に
  切り、見本の検査は切る前の `W` で行うので、そのときは見本を断って 1 で終わる。
-/

namespace Wid

/-! ## `canon_opts_t` -/

/-- `PATH_MAX`。 -/
def pathMax : Nat := 4096

/-- `canon_opts_t`（main.c 96–118）。文字列の欄は `char X[n]` の中身。 -/
structure CanonOpts where
  A : List Char
  W : Int
  Z : Int
  L : Int
  N : Int
  T : List Char
  D : List Char
  I : List Char
  E : List Char
  R : List Char
  M : List Char
  wid : List Char
  key : List Char
  sig : List Char
  data : List Char
  out : List Char
  mode : List Char
  code : List Char
  digits : Int
  maxAgeSec : Int
  maxFutureSec : Int
  deriving DecidableEq, Repr

/-- `parse_canonical` がはじめに書く値（main.c 154–174）。 -/
def CanonOpts.default : CanonOpts :=
  ⟨"next".toList, 4, 6, 3600, 0, "sec".toList, [], "auto".toList, "state".toList, "auto".toList,
    "false".toList, [], [], [], [], [], [], [], 6, 0, 5⟩

/-- 値 `#` はその欄の既定値を表す。 -/
def hashDefault (dflt v : List Char) : List Char := if v = ['#'] then dflt else v

/-- 一つの `KEY=value` の書き込み（main.c 181–240）。知らない鍵と読めない整数は `none`。 -/
def canonSet (key v : List Char) (o : CanonOpts) : Option CanonOpts :=
  if key = "A".toList then some { o with A := cSnprintf 32 (hashDefault "next".toList v) }
  else if key = "W".toList then (parseInt (hashDefault "4".toList v)).map fun n => { o with W := n }
  else if key = "Z".toList then (parseInt (hashDefault "6".toList v)).map fun n => { o with Z := n }
  else if key = "L".toList then
    (parseInt (hashDefault "3600".toList v)).map fun n => { o with L := n }
  else if key = "N".toList then (parseInt (hashDefault "0".toList v)).map fun n => { o with N := n }
  else if key = "T".toList then some { o with T := cSnprintf 8 (hashDefault "sec".toList v) }
  else if key = "D".toList then some { o with D := cSnprintf 256 (hashDefault [] v) }
  else if key = "I".toList then some { o with I := cSnprintf 32 (hashDefault "auto".toList v) }
  else if key = "E".toList then some { o with E := cSnprintf 64 (hashDefault "state".toList v) }
  else if key = "R".toList then some { o with R := cSnprintf 32 (hashDefault "auto".toList v) }
  else if key = "M".toList then some { o with M := cSnprintf 16 (hashDefault "false".toList v) }
  else if key = "WID".toList then some { o with wid := cSnprintf 512 v }
  else if key = "KEY".toList then some { o with key := cSnprintf pathMax v }
  else if key = "SIG".toList then some { o with sig := cSnprintf 1024 v }
  else if key = "DATA".toList then some { o with data := cSnprintf pathMax v }
  else if key = "OUT".toList then some { o with out := cSnprintf pathMax v }
  else if key = "MODE".toList then some { o with mode := cSnprintf 16 v }
  else if key = "CODE".toList then some { o with code := cSnprintf 64 v }
  else if key = "DIGITS".toList then
    (parseInt (hashDefault "6".toList v)).map fun n => { o with digits := n }
  else if key = "MAX_AGE_SEC".toList then
    (parseInt (hashDefault "0".toList v)).map fun n => { o with maxAgeSec := n }
  else if key = "MAX_FUTURE_SEC".toList then
    (parseInt (hashDefault "5".toList v)).map fun n => { o with maxFutureSec := n }
  else none

/-- `parse_canonical` の `for`（main.c 176–242）：各引数を最初の `=` で鍵と値に分ける。 -/
def canonLoop : List (List Char) → CanonOpts → Option CanonOpts
  | [], o => some o
  | a :: rest, o =>
    match cStrchr '=' a with
    | none => none
    | some p => (canonSet (a.take p) (a.drop (p + 1)) o).bind fun o' => canonLoop rest o'

/-- `tolower`（"C" ロケール）。 -/
def cToLower (c : Char) : Char := if 'A' ≤ c ∧ c ≤ 'Z' then Char.ofNat (c.toNat + 32) else c

/-- `A` の別名を正規の名前に直す（main.c 246–262）。 -/
def canonAlias (a : List Char) : List Char :=
  if a = "id".toList ∨ a = "default".toList then "next".toList
  else if a = "hc".toList then "healthcheck".toList
  else if a = "raf".toList then "saf".toList
  else if a = "waf".toList ∨ a = "wraf".toList then "saf-wid".toList
  else if a = "witr".toList then "wir".toList
  else if a = "wim".toList then "wism".toList
  else if a = "wih".toList then "wihp".toList
  else if a = "wip".toList then "wipr".toList
  else a

/-- `is_core_action`（main.c 126–130）。 -/
def isCoreAction (a : List Char) : Bool :=
  a = "next".toList || a = "stream".toList || a = "healthcheck".toList ||
    a = "help-actions".toList || a = "sign".toList || a = "verify".toList || a = "w-otp".toList

/-- `is_transport`（main.c 132–135）。 -/
def isTransport (s : List Char) : Bool :=
  s = "mqtt".toList || s = "ws".toList || s = "redis".toList || s = "null".toList ||
    s = "stdout".toList || s = "auto".toList

/-- `has_unsafe_shell_char`（main.c 142–151）：`'` `"` `;` `&` `|` バッククォート、改行、復帰。 -/
def hasUnsafeShellChar (s : List Char) : Bool :=
  s.any fun c => c = '\x27' || c = '\x22' || c = ';' || c = '&' || c = '|' || c = '\x60' ||
    c = '\n' || c = '\r'

/-- `parse_canonical` がシェルに渡る値として検査する欄（main.c 269–272）。 -/
def CanonOpts.shellFields (o : CanonOpts) : List (List Char) :=
  [o.D, o.I, o.E, o.R, o.M, o.A, o.T, o.key, o.data, o.out, o.sig]

/-- `parse_canonical`（main.c 153–280）：`argv[1..]` を読む。失敗は `return false` で、
`.error` は `stderr` に書いた文。 -/
def parseCanonical (args : List (List Char)) : Except (List Char) CanonOpts :=
  match canonLoop args CanonOpts.default with
  | none => .error []
  | some o =>
    let o := { o with A := canonAlias (o.A.map cToLower) }
    if isCoreAction o.A ∧ o.T ≠ "sec".toList ∧ o.T ≠ "ms".toList then
      .error ("error: T=".toList ++ o.T ++ " not supported in C implementation (use sec|ms)\n".toList)
    else if o.shellFields.any hasUnsafeShellChar then
      .error "error: unsafe characters in canonical values\n".toList
    else if o.W ≤ 0 ∨ o.Z < 0 ∨ o.N < 0 ∨ o.L < 0 then .error []
    else if o.maxAgeSec < 0 ∨ o.maxFutureSec < 0 then .error []
    else if !isTransport o.R then .error []
    else .ok o

example : (parseCanonical ["A=HC".toList, "W=#".toList]).toOption =
    some { CanonOpts.default with A := "healthcheck".toList } := by
  decide

/-! ## 繰り返しの不変条件 -/

/-- `int` の値で、`parse_int` が読めるもの。 -/
def IntArg (n : Int) : Prop := -2147483647 ≤ n ∧ n ≤ 2147483647

/-- 既定値のある文字列の欄が `char X[n]` に収まり、`#` のままでない。 -/
def HashFits (n : Nat) (s : List Char) : Prop := s.length < n ∧ s ≠ ['#']

instance (n : Int) : Decidable (IntArg n) := inferInstanceAs (Decidable (_ ∧ _))

instance (n : Nat) (s : List Char) : Decidable (HashFits n s) := inferInstanceAs (Decidable (_ ∧ _))

/-- 繰り返しのあいだ保たれること：文字列の欄は `char X[n]` に収まり、既定値のある欄は `#` の
ままでなく、整数は `parse_int` が読める値。 -/
structure CanonOpts.Fits (o : CanonOpts) : Prop where
  A : HashFits 32 o.A
  W : IntArg o.W
  Z : IntArg o.Z
  L : IntArg o.L
  N : IntArg o.N
  T : HashFits 8 o.T
  D : HashFits 256 o.D
  I : HashFits 32 o.I
  E : HashFits 64 o.E
  R : HashFits 32 o.R
  M : HashFits 16 o.M
  wid : o.wid.length < 512
  key : o.key.length < pathMax
  sig : o.sig.length < 1024
  data : o.data.length < pathMax
  out : o.out.length < pathMax
  mode : o.mode.length < 16
  code : o.code.length < 64
  digits : IntArg o.digits
  maxAgeSec : IntArg o.maxAgeSec
  maxFutureSec : IntArg o.maxFutureSec

theorem CanonOpts.default_fits : CanonOpts.default.Fits := by
  refine ⟨?_, ?_, ?_, ?_, ?_, ?_, ?_, ?_, ?_, ?_, ?_, ?_, ?_, ?_, ?_, ?_, ?_, ?_, ?_, ?_, ?_⟩ <;>
    simp only [HashFits, IntArg, CanonOpts.default, pathMax] <;> decide

theorem length_cSnprintf_lt {n : Nat} (hn : 0 < n) (s : List Char) : (cSnprintf n s).length < n := by
  have := length_cSnprintf_le n s; omega

/-- 長さ 2 以上で切って `#` になるのは `#` だけ。 -/
theorem eq_hash_of_take {k : Nat} (hk : 2 ≤ k) {v : List Char} (h : v.take k = ['#']) : v = ['#'] := by
  match k, v, h with
  | _ + 2, [c], h => exact h
  | _ + 2, c :: d :: v, h => simp at h

/-- `#` の既定値を入れて切った値は、既定値が `HashFits` なら `HashFits`。 -/
theorem hashFits_cSnprintf {n : Nat} (hn : 3 ≤ n) {dflt : List Char} (hd : HashFits n dflt)
    (v : List Char) : HashFits n (cSnprintf n (hashDefault dflt v)) := by
  refine ⟨length_cSnprintf_lt (by omega) _, fun h => ?_⟩
  unfold hashDefault at h
  split_ifs at h with hv
  · rw [cSnprintf_of_lt hd.1] at h; exact hd.2 h
  · exact hv (eq_hash_of_take (by omega) h)

theorem intArg_of_parseInt {v : List Char} {n : Int} (h : parseInt v = some n) : IntArg n := by
  obtain ⟨-, -, h1, h2, rfl⟩ := parseInt_eq_some_iff.mp h; exact ⟨h1, h2⟩

theorem ite_eq_some_cases {α : Type} {c : Prop} [Decidable c] {x y : Option α} {a : α}
    (h : (if c then x else y) = some a) : x = some a ∨ y = some a := by
  by_cases hc : c
  · exact .inl (by rwa [if_pos hc] at h)
  · exact .inr (by rwa [if_neg hc] at h)

/-- **一歩。** どの鍵と値の書き込みも `Fits` を保つ。 -/
theorem canonSet_fits {key v : List Char} {o o' : CanonOpts} (h : canonSet key v o = some o')
    (hf : o.Fits) : o'.Fits := by
  unfold canonSet at h
  rcases ite_eq_some_cases h with h | h
  · cases h; exact { hf with A := hashFits_cSnprintf (by decide) (by decide) v }
  rcases ite_eq_some_cases h with h | h
  · obtain ⟨n, hn, rfl⟩ := Option.map_eq_some'.mp h; exact { hf with W := intArg_of_parseInt hn }
  rcases ite_eq_some_cases h with h | h
  · obtain ⟨n, hn, rfl⟩ := Option.map_eq_some'.mp h; exact { hf with Z := intArg_of_parseInt hn }
  rcases ite_eq_some_cases h with h | h
  · obtain ⟨n, hn, rfl⟩ := Option.map_eq_some'.mp h; exact { hf with L := intArg_of_parseInt hn }
  rcases ite_eq_some_cases h with h | h
  · obtain ⟨n, hn, rfl⟩ := Option.map_eq_some'.mp h; exact { hf with N := intArg_of_parseInt hn }
  rcases ite_eq_some_cases h with h | h
  · cases h; exact { hf with T := hashFits_cSnprintf (by decide) (by decide) v }
  rcases ite_eq_some_cases h with h | h
  · cases h; exact { hf with D := hashFits_cSnprintf (by decide) (by decide) v }
  rcases ite_eq_some_cases h with h | h
  · cases h; exact { hf with I := hashFits_cSnprintf (by decide) (by decide) v }
  rcases ite_eq_some_cases h with h | h
  · cases h; exact { hf with E := hashFits_cSnprintf (by decide) (by decide) v }
  rcases ite_eq_some_cases h with h | h
  · cases h; exact { hf with R := hashFits_cSnprintf (by decide) (by decide) v }
  rcases ite_eq_some_cases h with h | h
  · cases h; exact { hf with M := hashFits_cSnprintf (by decide) (by decide) v }
  rcases ite_eq_some_cases h with h | h
  · cases h; exact { hf with wid := length_cSnprintf_lt (by decide) _ }
  rcases ite_eq_some_cases h with h | h
  · cases h; exact { hf with key := length_cSnprintf_lt (by decide) _ }
  rcases ite_eq_some_cases h with h | h
  · cases h; exact { hf with sig := length_cSnprintf_lt (by decide) _ }
  rcases ite_eq_some_cases h with h | h
  · cases h; exact { hf with data := length_cSnprintf_lt (by decide) _ }
  rcases ite_eq_some_cases h with h | h
  · cases h; exact { hf with out := length_cSnprintf_lt (by decide) _ }
  rcases ite_eq_some_cases h with h | h
  · cases h; exact { hf with mode := length_cSnprintf_lt (by decide) _ }
  rcases ite_eq_some_cases h with h | h
  · cases h; exact { hf with code := length_cSnprintf_lt (by decide) _ }
  rcases ite_eq_some_cases h with h | h
  · obtain ⟨n, hn, rfl⟩ := Option.map_eq_some'.mp h; exact { hf with digits := intArg_of_parseInt hn }
  rcases ite_eq_some_cases h with h | h
  · obtain ⟨n, hn, rfl⟩ := Option.map_eq_some'.mp h; exact { hf with maxAgeSec := intArg_of_parseInt hn }
  rcases ite_eq_some_cases h with h | h
  · obtain ⟨n, hn, rfl⟩ := Option.map_eq_some'.mp h; exact { hf with maxFutureSec := intArg_of_parseInt hn }
  cases h

/-- **繰り返しの全体。** -/
theorem canonLoop_fits {args : List (List Char)} {o o' : CanonOpts} (h : canonLoop args o = some o')
    (hf : o.Fits) : o'.Fits := by
  induction args generalizing o with
  | nil => cases h; exact hf
  | cons a rest ih =>
    unfold canonLoop at h
    split at h
    · cases h
    · obtain ⟨o1, h1, h2⟩ := Option.bind_eq_some.mp h
      exact ih h2 (canonSet_fits h1 hf)

/-! ## 書き戻しと読み戻し -/

/-- 鍵の一つ一つの書き込み。 -/
theorem canonSet_A (v : List Char) (o : CanonOpts) :
    canonSet "A".toList v o = some { o with A := cSnprintf 32 (hashDefault "next".toList v) } := rfl

theorem canonSet_W (v : List Char) (o : CanonOpts) : canonSet "W".toList v o =
    (parseInt (hashDefault "4".toList v)).map fun n => { o with W := n } := rfl

theorem canonSet_Z (v : List Char) (o : CanonOpts) : canonSet "Z".toList v o =
    (parseInt (hashDefault "6".toList v)).map fun n => { o with Z := n } := rfl

theorem canonSet_L (v : List Char) (o : CanonOpts) : canonSet "L".toList v o =
    (parseInt (hashDefault "3600".toList v)).map fun n => { o with L := n } := rfl

theorem canonSet_N (v : List Char) (o : CanonOpts) : canonSet "N".toList v o =
    (parseInt (hashDefault "0".toList v)).map fun n => { o with N := n } := rfl

theorem canonSet_T (v : List Char) (o : CanonOpts) :
    canonSet "T".toList v o = some { o with T := cSnprintf 8 (hashDefault "sec".toList v) } := rfl

theorem canonSet_D (v : List Char) (o : CanonOpts) :
    canonSet "D".toList v o = some { o with D := cSnprintf 256 (hashDefault [] v) } := rfl

theorem canonSet_I (v : List Char) (o : CanonOpts) :
    canonSet "I".toList v o = some { o with I := cSnprintf 32 (hashDefault "auto".toList v) } := rfl

theorem canonSet_E (v : List Char) (o : CanonOpts) :
    canonSet "E".toList v o = some { o with E := cSnprintf 64 (hashDefault "state".toList v) } := rfl

theorem canonSet_R (v : List Char) (o : CanonOpts) :
    canonSet "R".toList v o = some { o with R := cSnprintf 32 (hashDefault "auto".toList v) } := rfl

theorem canonSet_M (v : List Char) (o : CanonOpts) :
    canonSet "M".toList v o = some { o with M := cSnprintf 16 (hashDefault "false".toList v) } := rfl

theorem canonSet_wid (v : List Char) (o : CanonOpts) :
    canonSet "WID".toList v o = some { o with wid := cSnprintf 512 v } := rfl

theorem canonSet_key (v : List Char) (o : CanonOpts) :
    canonSet "KEY".toList v o = some { o with key := cSnprintf pathMax v } := rfl

theorem canonSet_sig (v : List Char) (o : CanonOpts) :
    canonSet "SIG".toList v o = some { o with sig := cSnprintf 1024 v } := rfl

theorem canonSet_data (v : List Char) (o : CanonOpts) :
    canonSet "DATA".toList v o = some { o with data := cSnprintf pathMax v } := rfl

theorem canonSet_out (v : List Char) (o : CanonOpts) :
    canonSet "OUT".toList v o = some { o with out := cSnprintf pathMax v } := rfl

theorem canonSet_mode (v : List Char) (o : CanonOpts) :
    canonSet "MODE".toList v o = some { o with mode := cSnprintf 16 v } := rfl

theorem canonSet_code (v : List Char) (o : CanonOpts) :
    canonSet "CODE".toList v o = some { o with code := cSnprintf 64 v } := rfl

theorem canonSet_digits (v : List Char) (o : CanonOpts) : canonSet "DIGITS".toList v o =
    (parseInt (hashDefault "6".toList v)).map fun n => { o with digits := n } := rfl

theorem canonSet_maxAgeSec (v : List Char) (o : CanonOpts) : canonSet "MAX_AGE_SEC".toList v o =
    (parseInt (hashDefault "0".toList v)).map fun n => { o with maxAgeSec := n } := rfl

theorem canonSet_maxFutureSec (v : List Char) (o : CanonOpts) : canonSet "MAX_FUTURE_SEC".toList v o =
    (parseInt (hashDefault "5".toList v)).map fun n => { o with maxFutureSec := n } := rfl

/-- 引数 `KEY=value`。 -/
def canonArg (k v : List Char) : List Char := k ++ '=' :: v

/-- 値を `KEY=value` の列に書き戻す。欄の順は `canon_opts_t` の順。 -/
def renderCanon (o : CanonOpts) : List (List Char) :=
  [canonArg "A".toList o.A, canonArg "W".toList (fmtZeroPad 0 o.W),
    canonArg "Z".toList (fmtZeroPad 0 o.Z), canonArg "L".toList (fmtZeroPad 0 o.L),
    canonArg "N".toList (fmtZeroPad 0 o.N), canonArg "T".toList o.T, canonArg "D".toList o.D,
    canonArg "I".toList o.I, canonArg "E".toList o.E, canonArg "R".toList o.R, canonArg "M".toList o.M,
    canonArg "WID".toList o.wid, canonArg "KEY".toList o.key, canonArg "SIG".toList o.sig,
    canonArg "DATA".toList o.data, canonArg "OUT".toList o.out, canonArg "MODE".toList o.mode,
    canonArg "CODE".toList o.code, canonArg "DIGITS".toList (fmtZeroPad 0 o.digits),
    canonArg "MAX_AGE_SEC".toList (fmtZeroPad 0 o.maxAgeSec),
    canonArg "MAX_FUTURE_SEC".toList (fmtZeroPad 0 o.maxFutureSec)]

/-- 鍵に `=` がなければ、最初の `=` は鍵と値の区切り。 -/
theorem canonLoop_step {k v : List Char} (hk : '=' ∉ k) {o o' : CanonOpts}
    (h : canonSet k v o = some o') (rest : List (List Char)) :
    canonLoop (canonArg k v :: rest) o = canonLoop rest o' := by
  rw [canonLoop, canonArg, cStrchr_append_cons hk]
  simp [h]

theorem hashDefault_cSnprintf {n : Nat} {s : List Char} (h : HashFits n s) (d : List Char) :
    cSnprintf n (hashDefault d s) = s := by
  rw [hashDefault, if_neg h.2, cSnprintf_of_lt h.1]

/-- `printf("%d")` の書いた数は `#` ではない。 -/
theorem parseInt_hashDefault_fmt {n : Int} (h : IntArg n) (d : List Char) :
    parseInt (hashDefault d (fmtZeroPad 0 n)) = some n := by
  have hne : fmtZeroPad 0 n ≠ ['#'] := by
    intro he
    by_cases hn : n < 0
    · simp [fmtZeroPad, hn] at he
    · have hm : '#' ∈ fmtZeroPad 0 n := by rw [he]; exact List.mem_singleton_self _
      simp only [fmtZeroPad, hn, if_false] at hm
      exact absurd (widIsDigit_of_mem_fixedDigits hm) (by decide)
  rw [hashDefault, if_neg hne, parseInt_fmtZeroPad h.1 h.2]

/-- **書き戻した値は、既定値から始めて読むと元に戻る。** 一歩ごとに `dsimp only` で
値の形を平らにしておく（しないと入れ子の値が欄の数だけ複製されて膨らむ）。 -/
theorem canonLoop_renderCanon {o : CanonOpts} (hf : o.Fits) :
    canonLoop (renderCanon o) CanonOpts.default = some o := by
  unfold renderCanon CanonOpts.default
  rw [canonLoop_step (by decide) (canonSet_A _ _)]; dsimp only
  rw [canonLoop_step (by decide) (by rw [canonSet_W, parseInt_hashDefault_fmt hf.W]; rfl)]; dsimp only
  rw [canonLoop_step (by decide) (by rw [canonSet_Z, parseInt_hashDefault_fmt hf.Z]; rfl)]; dsimp only
  rw [canonLoop_step (by decide) (by rw [canonSet_L, parseInt_hashDefault_fmt hf.L]; rfl)]; dsimp only
  rw [canonLoop_step (by decide) (by rw [canonSet_N, parseInt_hashDefault_fmt hf.N]; rfl)]; dsimp only
  rw [canonLoop_step (by decide) (canonSet_T _ _)]; dsimp only
  rw [canonLoop_step (by decide) (canonSet_D _ _)]; dsimp only
  rw [canonLoop_step (by decide) (canonSet_I _ _)]; dsimp only
  rw [canonLoop_step (by decide) (canonSet_E _ _)]; dsimp only
  rw [canonLoop_step (by decide) (canonSet_R _ _)]; dsimp only
  rw [canonLoop_step (by decide) (canonSet_M _ _)]; dsimp only
  rw [canonLoop_step (by decide) (canonSet_wid _ _)]; dsimp only
  rw [canonLoop_step (by decide) (canonSet_key _ _)]; dsimp only
  rw [canonLoop_step (by decide) (canonSet_sig _ _)]; dsimp only
  rw [canonLoop_step (by decide) (canonSet_data _ _)]; dsimp only
  rw [canonLoop_step (by decide) (canonSet_out _ _)]; dsimp only
  rw [canonLoop_step (by decide) (canonSet_mode _ _)]; dsimp only
  rw [canonLoop_step (by decide) (canonSet_code _ _)]; dsimp only
  rw [canonLoop_step (by decide) (by rw [canonSet_digits, parseInt_hashDefault_fmt hf.digits]; rfl)]; dsimp only
  rw [canonLoop_step (by decide) (by rw [canonSet_maxAgeSec, parseInt_hashDefault_fmt hf.maxAgeSec]; rfl)]; dsimp only
  rw [canonLoop_step (by decide) (by rw [canonSet_maxFutureSec, parseInt_hashDefault_fmt hf.maxFutureSec]; rfl)]; dsimp only
  rw [canonLoop, hashDefault_cSnprintf hf.A, hashDefault_cSnprintf hf.T, hashDefault_cSnprintf hf.D,
    hashDefault_cSnprintf hf.I, hashDefault_cSnprintf hf.E, hashDefault_cSnprintf hf.R,
    hashDefault_cSnprintf hf.M, cSnprintf_of_lt hf.wid, cSnprintf_of_lt hf.key, cSnprintf_of_lt hf.sig,
    cSnprintf_of_lt hf.data, cSnprintf_of_lt hf.out, cSnprintf_of_lt hf.mode, cSnprintf_of_lt hf.code]

/-! ## `parse_canonical` の結果 -/

/-- `parse_canonical` が受け入れた値：`Fits` で、`A` は小文字の正規の名前、核の命令の `T` は
`sec` か `ms`、シェルに渡る欄は危ない文字を含まず、整数は範囲の中、`R` は運び方の名前。 -/
structure CanonOpts.Valid (o : CanonOpts) extends CanonOpts.Fits o : Prop where
  lower : o.A.map cToLower = o.A
  canonical : canonAlias o.A = o.A
  T_core : isCoreAction o.A = true → o.T = "sec".toList ∨ o.T = "ms".toList
  safe : o.shellFields.any hasUnsafeShellChar = false
  W_pos : 0 < o.W
  nonneg : 0 ≤ o.Z ∧ 0 ≤ o.N ∧ 0 ≤ o.L
  window : 0 ≤ o.maxAgeSec ∧ 0 ≤ o.maxFutureSec
  transport : isTransport o.R = true

theorem toNat_ofNat_of_lt {n : Nat} (h : n < 55296) : (Char.ofNat n).toNat = n := by
  rw [Char.ofNat, dif_pos (Or.inl h)]; rfl

theorem cToLower_of_not_upper {c : Char} (h : ¬ ('A' ≤ c ∧ c ≤ 'Z')) : cToLower c = c := if_neg h

/-- `tolower` は大文字を大文字でない文字に移す。 -/
theorem cToLower_not_upper (c : Char) : ¬ ('A' ≤ cToLower c ∧ cToLower c ≤ 'Z') := by
  by_cases h : 'A' ≤ c ∧ c ≤ 'Z'
  · have h1 : 65 ≤ c.toNat := h.1
    have h2 : c.toNat ≤ 90 := h.2
    have h3 : (cToLower c).toNat = c.toNat + 32 := by
      rw [cToLower, if_pos h, toNat_ofNat_of_lt (by omega)]
    exact fun h4 => absurd (show (cToLower c).toNat ≤ 90 from h4.2) (by omega)
  · rwa [cToLower_of_not_upper h]

theorem cToLower_idem (c : Char) : cToLower (cToLower c) = cToLower c :=
  cToLower_of_not_upper (cToLower_not_upper c)

theorem cToLower_eq_hash {c : Char} (h : cToLower c = '#') : c = '#' := by
  by_cases hu : 'A' ≤ c ∧ c ≤ 'Z'
  · have h1 : 65 ≤ c.toNat := hu.1
    have h3 : (cToLower c).toNat = c.toNat + 32 := by
      rw [cToLower, if_pos hu, toNat_ofNat_of_lt (by have : c.toNat ≤ 90 := hu.2; omega)]
    rw [h] at h3; exact absurd h3 (by show ¬ 35 = c.toNat + 32; omega)
  · rwa [cToLower_of_not_upper hu] at h

/-- 別名を直した先の名前。 -/
def aliasTargets : List (List Char) :=
  ["next".toList, "healthcheck".toList, "saf".toList, "saf-wid".toList, "wir".toList, "wism".toList,
    "wihp".toList, "wipr".toList]

theorem ite_mem {α : Type} {c : Prop} [Decidable c] {t e : α} {s : List α} (ht : t ∈ s) (he : e ∈ s) :
    (if c then t else e) ∈ s := by
  split <;> assumption

/-- 別名を直した名前は、元の名前か、直した先の名前のどれか。 -/
theorem canonAlias_mem (a : List Char) : canonAlias a ∈ a :: aliasTargets :=
  have h : ∀ t ∈ aliasTargets, t ∈ a :: aliasTargets := fun _ => List.mem_cons_of_mem a
  ite_mem (h _ (by decide)) <| ite_mem (h _ (by decide)) <| ite_mem (h _ (by decide)) <|
    ite_mem (h _ (by decide)) <| ite_mem (h _ (by decide)) <| ite_mem (h _ (by decide)) <|
    ite_mem (h _ (by decide)) <| ite_mem (h _ (by decide)) (List.mem_cons_self a _)

theorem aliasTargets_spec : ∀ t ∈ aliasTargets, canonAlias t = t ∧ t.map cToLower = t ∧
    t.length < 32 ∧ t ≠ ['#'] := by
  decide

/-- `A` を小文字にして別名を直した名前は、小文字で、正規の名前で、`char A[32]` に収まり、`#` でない。 -/
theorem canonAlias_lower_spec {a : List Char} (ha : HashFits 32 a) :
    let b := canonAlias (a.map cToLower)
    b.map cToLower = b ∧ canonAlias b = b ∧ HashFits 32 b := by
  intro b
  rcases List.mem_cons.mp (canonAlias_mem (a.map cToLower)) with h | h
  · have hb : b = a.map cToLower := h
    refine ⟨by rw [hb, List.map_map]; exact List.map_congr_left fun c _ => cToLower_idem c,
      by rw [hb]; exact h, by rw [hb, List.length_map]; exact ha.1, fun he => ha.2 ?_⟩
    rw [hb] at he
    obtain ⟨c, rfl⟩ := List.length_eq_one.mp (by simpa using congrArg List.length he)
    rw [cToLower_eq_hash (List.cons.inj he).1]
  · obtain ⟨h1, h2, h3, h4⟩ := aliasTargets_spec b h
    exact ⟨h2, h1, h3, h4⟩

/-- `parse_canonical` の結果は `Valid`。 -/
theorem parseCanonical_valid {args : List (List Char)} {o : CanonOpts}
    (h : parseCanonical args = .ok o) : o.Valid := by
  unfold parseCanonical at h
  cases hl : canonLoop args CanonOpts.default with
  | none => rw [hl] at h; cases h
  | some o1 =>
    have hf := canonLoop_fits hl CanonOpts.default_fits
    obtain ⟨hlow, hcan, hA⟩ := canonAlias_lower_spec hf.A
    rw [hl] at h
    dsimp only at h
    split_ifs at h with h1 h2 h3 h4 h5
    cases h
    exact ⟨{ hf with A := hA }, hlow, hcan, fun hc => by simp only at hc h1 ⊢; tauto,
      by simpa using h2, by simp only at h3 ⊢; omega, by simp only at h3 ⊢; omega,
      by simp only at h4 ⊢; omega, by simpa using h5⟩

/-- `Valid` な値は、書き戻して読むと元に戻る。 -/
theorem parseCanonical_renderCanon {o : CanonOpts} (hv : o.Valid) :
    parseCanonical (renderCanon o) = .ok o := by
  have hW := hv.W_pos; have hn := hv.nonneg; have hw := hv.window
  rw [parseCanonical, canonLoop_renderCanon hv.toFits]
  dsimp only
  rw [hv.lower, hv.canonical, if_neg (fun h => by rcases hv.T_core h.1 with e | e <;> simp [e] at h),
    if_neg (by rw [hv.safe]; decide), if_neg (by omega), if_neg (by omega), if_neg (by simp [hv.transport])]

/-- **`parse_canonical` が受け入れる値。** 結果はどれも `CanonOpts.Valid` で、逆に `Valid` な値は
どれも `KEY=value` の列 `renderCanon` に書き戻して読むと元に戻る。したがって結果の集まりは
ちょうど `Valid` な値。 -/
theorem parseCanonical_image :
    (∀ args o, parseCanonical args = .ok o → o.Valid) ∧
    (∀ o, o.Valid → parseCanonical (renderCanon o) = .ok o) :=
  ⟨fun _ _ => parseCanonical_valid, fun _ => parseCanonical_renderCanon⟩

/-! ## `run_canonical` -/

/-- `parse_state_transport`（main.c 318–336）：状態の方式と、実際に使う運び方。`E` を最初の `+`
（なければ最初の `,`）で分け、`R` が `auto` なら後ろを運び方にする。 -/
def parseStateTransport (c : CanonOpts) : List Char × List Char :=
  let transport := cSnprintf 32 c.R
  let sep := match cStrchr '+' c.E with
    | some p => some p
    | none => cStrchr ',' c.E
  match sep with
  | none => (cSnprintf 64 c.E, transport)
  | some p => (c.E.take (min p 63),
      if transport = "auto".toList then cSnprintf 32 (c.E.drop (p + 1)) else transport)

/-- `run_canonical` が `cmd_next` などに渡す `cli_opts_t`（main.c 1039–1046）。 -/
def canonCliOpts (c : CanonOpts) (u : WidTimeUnit) : CliOpts :=
  ⟨"wid".toList, "c".toList, c.W, c.Z, u, c.N, true⟩

/-- `run_canonical` の行き先。 -/
inductive CanonRoute where
  | badUnit (msg : List Char)
  | helpActions
  | sign
  | verify
  | wotp (u : WidTimeUnit)
  | sqlNext (u : WidTimeUnit)
  | sqlStream (u : WidTimeUnit)
  | next (o : CliOpts)
  | stream (o : CliOpts)
  | healthcheck (o : CliOpts)
  | native
  deriving DecidableEq, Repr

/-- `run_canonical`（main.c 1032–1070）の振り分け。 -/
def runCanonicalRoute (c : CanonOpts) : CanonRoute :=
  match widTimeUnitFromStr c.T with
  | none => .badUnit ("error: invalid T=".toList ++ c.T ++ " (expected sec|ms)\n".toList)
  | some u =>
    if c.A = "help-actions".toList then .helpActions
    else if c.A = "sign".toList then .sign
    else if c.A = "verify".toList then .verify
    else if c.A = "w-otp".toList then .wotp u
    else if (parseStateTransport c).1 = "sql".toList ∧ c.A = "next".toList then .sqlNext u
    else if (parseStateTransport c).1 = "sql".toList ∧ c.A = "stream".toList then .sqlStream u
    else if c.A = "next".toList then .next (canonCliOpts c u)
    else if c.A = "stream".toList then .stream (canonCliOpts c u)
    else if c.A = "healthcheck".toList then .healthcheck (canonCliOpts c u)
    else .native

/-- **正準の形の `A=healthcheck`（別名 `hc`）。** `parse_canonical` は `W > 0` しか見ないので、
生成器は `W` を 18 に切り詰めて ID を作るが、見本は切り詰める前の `W` で検査される。
受け入れたどの引数でも、9999 年までのどの時刻とどの乱数でも、`Z ≤ 33` なら終了コードは
`W ≤ 18` のときちょうど 0 で、`Z ≥ 34` なら `raw[33]` の外に書く。 -/
theorem canonHealthcheck_exit {args : List (List Char)} {c : CanonOpts}
    (h : parseCanonical args = .ok c) (hA : c.A = "healthcheck".toList) :
    ∃ u, widTimeUnitFromStr c.T = some u ∧ runCanonicalRoute c = .healthcheck (canonCliOpts c u) ∧
      ∀ now, now ≤ widMaxTick u → ∀ rnd : Nat → UInt8,
        (c.Z ≤ 33 → ∃ out, cmdHealthcheck (canonCliOpts c u) now rnd =
          some (if c.W ≤ widMaxW then 0 else 1, out)) ∧
        (34 ≤ c.Z → cmdHealthcheck (canonCliOpts c u) now rnd = none) := by
  have hv := parseCanonical_valid h
  obtain ⟨u, hu⟩ : ∃ u, widTimeUnitFromStr c.T = some u := by
    rcases hv.T_core (by rw [hA]; rfl) with e | e <;> rw [e]
    exacts [⟨.sec, rfl⟩, ⟨.ms, rfl⟩]
  refine ⟨u, hu, ?_, fun now hnow rnd => ?_⟩
  · simp [runCanonicalRoute, hu, hA]
  have hZ0 := hv.nonneg.1
  obtain ⟨hok, hub⟩ := widGenNext_init (W := c.W) hZ0 hnow rnd
  simp only [cmdHealthcheck, canonCliOpts, if_true]
  refine ⟨fun hZ => ?_, fun hZ => by rw [hub hZ]; rfl⟩
  obtain ⟨g, s, hr, hval⟩ := hok hZ
  have hcode : (if widValidateEx s c.W c.Z u = true then 0 else 1 : Nat) =
      if c.W ≤ widMaxW then 0 else 1 := by
    by_cases hW : c.W ≤ widMaxW
    · rw [widGenInitEx_W hv.W_pos (by unfold widMaxW at hW; exact hW)] at hval
      rw [hval, if_pos hW]; rfl
    · have hf : widValidateEx s c.W c.Z u = false := by
        unfold widValidateEx; rw [if_neg (by have := hv.W_pos; omega), if_pos (.inl (by omega))]
      rw [hf, if_neg hW]; rfl
  exact ⟨_, by rw [hr, Option.map_some']; dsimp only; rw [hcode]⟩

/-- `wid A=hc W=19 Z=0`：生成器は 18 桁の番号で ID を作るが、健康診断は 1 で終わる。 -/
theorem canonHealthcheck_W19 :
    parseCanonical ["A=hc".toList, "W=19".toList, "Z=0".toList] =
        .ok { CanonOpts.default with A := "healthcheck".toList, W := 19, Z := 0 } ∧
      ∃ out, cmdHealthcheck (canonCliOpts
        { CanonOpts.default with A := "healthcheck".toList, W := 19, Z := 0 } .sec) 0 (fun _ => 0) =
        some (1, out) := by
  obtain ⟨u, hu, -, hrun⟩ := @canonHealthcheck_exit ["A=hc".toList, "W=19".toList, "Z=0".toList]
    { CanonOpts.default with A := "healthcheck".toList, W := 19, Z := 0 } rfl rfl
  cases hu
  exact ⟨rfl, (hrun 0 (by decide) (fun _ => 0)).1 (by decide)⟩

end Wid
