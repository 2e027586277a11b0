import Wid.Timestamp

/-!
# ID の検査と読み取り

`wid_valid_node`・`wid_valid_suffix`・`wid_validate_ex`・`hlc_wid_validate_ex` と、
`wid_parse_ex`・`hlc_wid_parse_ex` を写す。

検査器は位置で書かれている（`wid[ts_len + 1 + W] != 'Z'` など）。ここでの主な補題
`widValidateEx_eq_true`・`hlcWidValidateEx_eq_true` は、それを「文字列がどういう列の連結か」に
言い換える。長さは C と同じく `(int)strlen(...)` で読む（`toInt32`）ので、
2^31 文字以上の文字列ではこの形に `toInt32` が残る。
-/

namespace Wid

/-- `WID_MAX_W`。 -/
def widMaxW : Int := 18

/-- `WID_MAX_Z`。 -/
def widMaxZ : Int := 64

/-! ## ノードと接尾辞 -/

/-- `wid_valid_node`。空でなく、すべてノード文字。 -/
def widValidNode (node : List Char) : Bool :=
  if node = [] then false else node.all widIsNodeChar

/-- `wid_valid_suffix`。空か、`-` の後ろに小文字 16 進が `Z` 個。長さは `(int)strlen(pad)` で
比べ、その数だけの文字を調べる。 -/
def widValidSuffix (suffix : List Char) (Z : Int) : Bool :=
  match suffix with
  | [] => true
  | c :: pad =>
    if c ≠ '-' then false
    else if Z ≤ 0 then false
    else if toInt32 pad.length ≠ Z then false
    else (List.range' 0 (toInt32 pad.length).toNat).all (fun i => widIsLowerHex (cAt pad i))

@[simp] theorem widIsLowerHex_nul : widIsLowerHex '\x00' = false := rfl

@[simp] theorem widIsNodeChar_dash : widIsNodeChar '-' = false := rfl

theorem widValidSuffix_eq_true {suffix : List Char} {Z : Int} :
    widValidSuffix suffix Z = true ↔ suffix = [] ∨ ∃ pad, suffix = '-' :: pad ∧ 0 < Z ∧
      toInt32 pad.length = Z ∧ ∀ i < Z.toNat, widIsLowerHex (cAt pad i) = true := by
  cases suffix with
  | nil => simp [widValidSuffix]
  | cons c pad =>
    simp only [widValidSuffix, ne_eq, ite_not, reduceCtorEq, List.cons.injEq, exists_eq_right_right',
      false_or, all_range'_cAt, Nat.zero_add]
    by_cases hc : c = '-' <;> by_cases hZ : 0 < Z <;> by_cases hn : toInt32 pad.length = Z <;>
      simp [hc, hZ, hn]

/-! ## 検査器 -/

/-- `wid_validate_ex`。 -/
def widValidateEx (wid : List Char) (W Z : Int) (unit : WidTimeUnit) : Bool :=
  if W ≤ 0 ∨ Z < 0 then false
  else if W > widMaxW ∨ Z > widMaxZ then false
  else if toInt32 wid.length < (widTimestampLen unit : Int) + 1 + W + 1 then false
  else if (widParseTimestamp wid unit).isNone then false
  else if cAt wid (widTimestampLen unit + 1 + W.toNat) ≠ 'Z' then false
  else if !(List.range' (widTimestampLen unit + 1) W.toNat).all (fun i => widIsDigit (cAt wid i))
    then false
  else widValidSuffix (wid.drop (widTimestampLen unit + 1 + W.toNat + 1)) Z

/-- `hlc_wid_validate_ex` のノードの走査。`-` か終わりまでノード文字が続けば、`-` の位置
（`suffix_dash - node_start`、なければ `none`）を返す。ほかの文字に当たれば失敗。 -/
def hlcScanNode : List Char → Option (Option Nat)
  | [] => some none
  | c :: cs =>
    if c = '-' then some (some 0)
    else if !widIsNodeChar c then none
    else (hlcScanNode cs).map (Option.map (· + 1))

/-- `hlc_wid_validate_ex` の後半。`node_start` から走査し、ノードの長さ `node_len` を
`(int)` で確かめ、`-` があればそこからを接尾辞として調べる。 -/
def hlcValidNodeSuffix (nodeStart : List Char) (Z : Int) : Bool :=
  match hlcScanNode nodeStart with
  | none => false
  | some none => if toInt32 nodeStart.length ≤ 0 then false else true
  | some (some k) => if toInt32 k ≤ 0 then false else widValidSuffix (nodeStart.drop k) Z

/-- `hlc_wid_validate_ex`。 -/
def hlcWidValidateEx (wid : List Char) (W Z : Int) (unit : WidTimeUnit) : Bool :=
  if W ≤ 0 ∨ Z < 0 then false
  else if W > widMaxW ∨ Z > widMaxZ then false
  else if toInt32 wid.length < (widTimestampLen unit : Int) + 1 + W + 1 + 2 then false
  else if (widParseTimestamp wid unit).isNone then false
  else if cAt wid (widTimestampLen unit + 1 + W.toNat) ≠ 'Z' then false
  else if cAt wid (widTimestampLen unit + 1 + W.toNat + 1) ≠ '-' then false
  else if !(List.range' (widTimestampLen unit + 1) W.toNat).all (fun i => widIsDigit (cAt wid i))
    then false
  else hlcValidNodeSuffix (wid.drop (widTimestampLen unit + 1 + W.toNat + 1 + 1)) Z

/-- ノード文字の列は読み飛ばされ、見つけた `-` の位置にその長さが足される。 -/
theorem hlcScanNode_append {node : List Char} (hn : ∀ c ∈ node, widIsNodeChar c = true)
    (suf : List Char) :
    hlcScanNode (node ++ suf) = (hlcScanNode suf).map (Option.map (· + node.length)) := by
  induction node with
  | nil => simp only [List.nil_append, List.length_nil, Nat.add_zero, Option.map_id', Option.map_id_fun', Option.map_id, id_eq]
  | cons c node ih =>
    have hc := hn c (List.mem_cons_self _ _)
    have hd : c ≠ '-' := by rintro rfl; simp at hc
    rw [List.cons_append, hlcScanNode, if_neg hd, hc, Bool.not_true, if_neg Bool.false_ne_true,
      ih fun x hx => hn x (List.mem_cons_of_mem _ hx)]
    rcases hlcScanNode suf with _ | _ | k <;> simp [Nat.add_assoc]

/-- ノードの走査が止まるのは、ノード文字の列の直後（終わりか `-`）である。 -/
theorem hlcScanNode_eq_some {l : List Char} {d : Option Nat} :
    hlcScanNode l = some d ↔ ∃ node suf, l = node ++ suf ∧ (∀ c ∈ node, widIsNodeChar c = true) ∧
      ((suf = [] ∧ d = none) ∨ ∃ rest, suf = '-' :: rest ∧ d = some node.length) := by
  constructor
  · intro h
    have hn : ∀ c ∈ l.takeWhile widIsNodeChar, widIsNodeChar c = true :=
      fun _ hc => List.mem_takeWhile_imp hc
    refine ⟨_, _, (List.takeWhile_append_dropWhile _ _).symm, hn, ?_⟩
    rw [← List.takeWhile_append_dropWhile widIsNodeChar l, hlcScanNode_append hn] at h
    cases hd : l.dropWhile widIsNodeChar with
    | nil => simp_all [hlcScanNode]
    | cons c rest =>
      have hc : widIsNodeChar c = false := by
        simpa [hd] using List.head_dropWhile_not widIsNodeChar l (by simp [hd])
      by_cases hcd : c = '-'
      · subst hcd; simp_all [hlcScanNode]
      · simp [hd, hlcScanNode, hcd, hc] at h
  · rintro ⟨node, suf, rfl, hn, ⟨rfl, rfl⟩ | ⟨rest, rfl, rfl⟩⟩ <;>
      simp only [hlcScanNode_append hn, hlcScanNode, if_pos, Option.map_some', Option.map, Nat.zero_add]

/-! ## 検査器の仕様 -/

theorem drop_idHead {u : WidTimeUnit} {r : WidTimestamp} (hr : r.Valid u) (seq : List Char) (c : Char)
    (rest : List Char) :
    (renderTimestamp u r ++ '.' :: (seq ++ c :: rest)).drop (widTimestampLen u + 1 + seq.length + 1) =
      rest := by
  rw [show widTimestampLen u + 1 + seq.length + 1 = widTimestampLen u + 1 + (seq.length + 1) by omega,
    ← List.drop_drop, drop_renderTimestamp hr]
  simp

/-- **両方の検査器が同じ順に調べる頭の部分**：時刻部、`.`、`n` 桁の数字、文字 `c`。位置での検査が
通るのは、文字列が正しい時刻の欄を書いた列に `.`・数字・`c` を続けた形のときで、残りへの
検査 `P` はその後ろへの検査になる。 -/
theorem idHead_iff {s : List Char} {u : WidTimeUnit} {n : Nat} {c : Char} (hc : c ≠ '\x00')
    {P : List Char → Prop} :
    (¬widParseTimestamp s u = none ∧ cAt s (widTimestampLen u + 1 + n) = c ∧
      (∀ i < n, widIsDigit (cAt s (widTimestampLen u + 1 + i)) = true) ∧
      P (s.drop (widTimestampLen u + 1 + n + 1))) ↔
    ∃ r seq rest, r.Valid u ∧ seq.length = n ∧ (∀ x ∈ seq, widIsDigit x = true) ∧
      s = renderTimestamp u r ++ '.' :: (seq ++ c :: rest) ∧ P rest := by
  constructor
  · rintro ⟨hp, hZ, hd, hP⟩
    obtain ⟨r, hr⟩ := Option.ne_none_iff_exists'.mp hp
    obtain ⟨hv, hs⟩ := widParseTimestamp_inv hr
    simp only [← cAt_drop] at hZ hd
    obtain ⟨seq, t, ht, hlen, hdig⟩ := (forall_cAt_iff widIsDigit_nul).mp hd
    rw [ht, cAt_append_right (by omega), hlen, Nat.sub_self] at hZ
    have ht' : t = c :: t.drop 1 := by rw [← drop_eq_cons (s := t) hZ hc rfl, List.drop_zero]
    have hs' : s = renderTimestamp u r ++ '.' :: (seq ++ c :: t.drop 1) := by rw [hs, ht, ← ht']
    refine ⟨r, seq, t.drop 1, hv, hlen, hdig, hs', ?_⟩
    rwa [hs', ← hlen, drop_idHead hv] at hP
  · rintro ⟨r, seq, rest, hv, rfl, hdig, rfl, hP⟩
    refine ⟨by simp [widParseTimestamp_render hv], ?_, fun i hi => ?_, by rwa [drop_idHead hv]⟩
    · rw [← cAt_drop, drop_renderTimestamp hv, cAt_append_right le_rfl, Nat.sub_self, cAt_cons_zero]
    · rw [← cAt_drop, drop_renderTimestamp hv]; exact cAt_append_of_mem hdig hi

/-- **`wid_validate_ex` の仕様**：`W`・`Z` の範囲、`(int)strlen` での長さ、正しい時刻部、`.`、
`W` 桁の数字、`Z`、正しい接尾辞。 -/
theorem widValidateEx_eq_true {s : List Char} {W Z : Int} {u : WidTimeUnit} :
    widValidateEx s W Z u = true ↔ (0 < W ∧ 0 ≤ Z) ∧ (W ≤ 18 ∧ Z ≤ 64) ∧
      (widTimestampLen u : Int) + 1 + W + 1 ≤ toInt32 s.length ∧
      ∃ r seq suf, r.Valid u ∧ seq.length = W.toNat ∧ (∀ c ∈ seq, widIsDigit c = true) ∧
        s = renderTimestamp u r ++ '.' :: (seq ++ 'Z' :: suf) ∧ widValidSuffix suf Z = true := by
  simp only [widValidateEx, widMaxW, widMaxZ, Bool.if_false_left, Bool.and_eq_true, Bool.not_eq_true',
    decide_eq_false_iff_not, not_or, not_lt, not_le, ne_eq, not_not, Bool.not_eq_false, all_range'_cAt,
    Option.isNone_iff_eq_none]
  exact and_congr_right fun _ => and_congr_right fun _ => and_congr_right fun _ =>
    idHead_iff (P := fun t => widValidSuffix t Z = true) (by decide)

theorem widValidSuffix_head {suf : List Char} {Z : Int} (h : widValidSuffix suf Z = true) :
    ∀ c rest, suf = c :: rest → c = '-' := by
  rintro c rest rfl
  rcases widValidSuffix_eq_true.mp h with h | ⟨_, h, -⟩ <;> simp_all

/-- **`hlc_wid_validate_ex` の後半の仕様**：ノード文字の列（`(int)` で読んだ長さが正）と、
正しい接尾辞。接尾辞は空か `-` で始まるので、ノードはノード文字の最長の列になる。 -/
theorem hlcValidNodeSuffix_iff {l : List Char} {Z : Int} :
    hlcValidNodeSuffix l Z = true ↔ ∃ node suf, l = node ++ suf ∧
      (∀ c ∈ node, widIsNodeChar c = true) ∧ 0 < toInt32 node.length ∧ widValidSuffix suf Z = true := by
  unfold hlcValidNodeSuffix
  constructor
  · intro h
    split at h
    · cases h
    · next hs =>
      obtain ⟨node, suf, rfl, hn, ⟨rfl, -⟩ | ⟨_, -, h'⟩⟩ := hlcScanNode_eq_some.mp hs
      · refine ⟨node, [], rfl, hn, ?_, rfl⟩
        simp only [List.append_nil, Bool.if_false_left, Bool.and_true, Bool.not_eq_true',
          decide_eq_false_iff_not, not_le] at h
        exact h
      · cases h'
    · next k hs =>
      obtain ⟨node, suf, rfl, hn, ⟨-, h'⟩ | ⟨rest, rfl, hk⟩⟩ := hlcScanNode_eq_some.mp hs
      · cases h'
      · cases hk
        simp only [Bool.if_false_left, Bool.and_eq_true, Bool.not_eq_true', decide_eq_false_iff_not,
          not_le, List.drop_left] at h
        exact ⟨node, _, rfl, hn, h.1, h.2⟩
  · rintro ⟨node, suf, rfl, hn, hpos, hsuf⟩
    cases suf with
    | nil =>
      rw [hlcScanNode_eq_some.mpr ⟨node, [], rfl, hn, .inl ⟨rfl, rfl⟩⟩]
      simpa using hpos
    | cons c rest =>
      obtain rfl := widValidSuffix_head hsuf c rest rfl
      rw [hlcScanNode_eq_some.mpr ⟨node, _, rfl, hn, .inr ⟨rest, rfl, rfl⟩⟩]
      simpa [hpos] using hsuf

/-- **`hlc_wid_validate_ex` の仕様**：WID の頭のあとに `-`、ノード、接尾辞。 -/
theorem hlcWidValidateEx_eq_true {s : List Char} {W Z : Int} {u : WidTimeUnit} :
    hlcWidValidateEx s W Z u = true ↔ (0 < W ∧ 0 ≤ Z) ∧ (W ≤ 18 ∧ Z ≤ 64) ∧
      (widTimestampLen u : Int) + 1 + W + 1 + 2 ≤ toInt32 s.length ∧
      ∃ r seq node suf, r.Valid u ∧ seq.length = W.toNat ∧ (∀ c ∈ seq, widIsDigit c = true) ∧
        s = renderTimestamp u r ++ '.' :: (seq ++ 'Z' :: '-' :: (node ++ suf)) ∧
        (∀ c ∈ node, widIsNodeChar c = true) ∧ 0 < toInt32 node.length ∧
        widValidSuffix suf Z = true := by
  simp only [hlcWidValidateEx, widMaxW, widMaxZ, Bool.if_false_left, Bool.and_eq_true, Bool.not_eq_true',
    decide_eq_false_iff_not, not_or, not_lt, not_le, ne_eq, not_not, Bool.not_eq_false, all_range'_cAt,
    Option.isNone_iff_eq_none]
  have e1 : cAt s (widTimestampLen u + 1 + W.toNat + 1) =
      cAt (s.drop (widTimestampLen u + 1 + W.toNat + 1)) 0 := by simp
  have e2 : s.drop (widTimestampLen u + 1 + W.toNat + 1 + 1) =
      (s.drop (widTimestampLen u + 1 + W.toNat + 1)).drop 1 := by simp
  rw [e1, e2, and_left_comm (a := cAt _ 0 = '-')]
  refine and_congr_right fun _ => and_congr_right fun _ => and_congr_right fun _ =>
    (idHead_iff (c := 'Z') (P := fun t => cAt t 0 = '-' ∧ hlcValidNodeSuffix (t.drop 1) Z = true)
      (by decide)).trans ?_
  constructor
  · rintro ⟨r, seq, rest, hv, hseq, hdig, rfl, hdash, hns⟩
    obtain ⟨node, suf, hl, hn, hpos, hsuf⟩ := hlcValidNodeSuffix_iff.mp hns
    have hrest : rest = '-' :: rest.drop 1 := by
      rw [← drop_eq_cons hdash (by decide) rfl, List.drop_zero]
    exact ⟨r, seq, node, suf, hv, hseq, hdig, by rw [hrest, hl], hn, hpos, hsuf⟩
  · rintro ⟨r, seq, node, suf, hv, hseq, hdig, rfl, hn, hpos, hsuf⟩
    exact ⟨r, seq, _, hv, hseq, hdig, rfl, rfl, hlcValidNodeSuffix_iff.mpr ⟨node, suf, rfl, hn, hpos, hsuf⟩⟩


/-! ## 読み取り -/

/-- `sizeof(node)`：ノードの欄は `char node[64]`。 -/
def widNodeSize : Nat := 64

/-- `parsed_wid_t`。`raw` は `NULL`（`none`）か入力そのもの。`padding` は NUL までの中身。 -/
structure ParsedWid where
  raw : Option (List Char)
  year : Int
  month : Int
  day : Int
  hour : Int
  minute : Int
  second : Int
  millisecond : Int
  sequence : Int
  hasPadding : Bool
  padding : List Char
  deriving DecidableEq, Repr

/-- `memset(out, 0, sizeof(*out))` のあとの `parsed_wid_t`。 -/
def ParsedWid.zero : ParsedWid := ⟨none, 0, 0, 0, 0, 0, 0, 0, 0, false, []⟩

/-- 時刻の欄。 -/
def ParsedWid.timestamp (p : ParsedWid) : WidTimestamp :=
  ⟨p.year, p.month, p.day, p.hour, p.minute, p.second, p.millisecond⟩

/-- `wid_parse_ex`。戻り値と、呼び出しのあとの `*out`。 -/
def widParseEx (wid : List Char) (W Z : Int) (unit : WidTimeUnit) : Bool × ParsedWid :=
  if !widValidateEx wid W Z unit then (false, ParsedWid.zero)
  else
    match widParseTimestamp wid unit with
    | none => (false, ParsedWid.zero)
    | some ts =>
      let out : ParsedWid := { ParsedWid.zero with
        year := ts.year, month := ts.month, day := ts.day, hour := ts.hour, minute := ts.minute,
        second := ts.second, millisecond := ts.millisecond,
        sequence := widParseDigitsI64 (wid.drop (widTimestampLen unit + 1)) W.toNat }
      if out.sequence < 0 then (false, out)
      else
        let out := { out with raw := some wid, hasPadding := false, padding := [] }
        match wid.drop (widTimestampLen unit + 1 + W.toNat + 1) with
        | [] => (true, out)
        | _ :: pad =>
          if (pad.length : Int) > widMaxZ then (false, out)
          else (true, { out with padding := pad, hasPadding := true })

/-- `parsed_hlc_wid_t`。 -/
structure ParsedHlcWid where
  raw : Option (List Char)
  year : Int
  month : Int
  day : Int
  hour : Int
  minute : Int
  second : Int
  millisecond : Int
  logicalCounter : Int
  node : List Char
  hasPadding : Bool
  padding : List Char
  deriving DecidableEq, Repr

/-- `memset(out, 0, sizeof(*out))` のあとの `parsed_hlc_wid_t`。 -/
def ParsedHlcWid.zero : ParsedHlcWid := ⟨none, 0, 0, 0, 0, 0, 0, 0, 0, [], false, []⟩

/-- 時刻の欄。 -/
def ParsedHlcWid.timestamp (p : ParsedHlcWid) : WidTimestamp :=
  ⟨p.year, p.month, p.day, p.hour, p.minute, p.second, p.millisecond⟩

/-- `hlc_wid_parse_ex`。ノードは `strchr(node_start, '-')` までで、`node[64]` に入らなければ
失敗する。そのとき時刻の欄と `logical_counter` は書かれたまま残る。 -/
def hlcWidParseEx (wid : List Char) (W Z : Int) (unit : WidTimeUnit) : Bool × ParsedHlcWid :=
  if !hlcWidValidateEx wid W Z unit then (false, ParsedHlcWid.zero)
  else
    match widParseTimestamp wid unit with
    | none => (false, ParsedHlcWid.zero)
    | some ts =>
      let out : ParsedHlcWid := { ParsedHlcWid.zero with
        year := ts.year, month := ts.month, day := ts.day, hour := ts.hour, minute := ts.minute,
        second := ts.second, millisecond := ts.millisecond,
        logicalCounter := widParseDigitsI64 (wid.drop (widTimestampLen unit + 1)) W.toNat }
      if out.logicalCounter < 0 then (false, out)
      else
        let nodeStart := wid.drop (widTimestampLen unit + 1 + W.toNat + 1 + 1)
        let nodeLen := (cStrchr '-' nodeStart).getD nodeStart.length
        if nodeLen = 0 ∨ nodeLen ≥ widNodeSize then (false, out)
        else
          let out := { out with
            node := nodeStart.take nodeLen, raw := some wid, hasPadding := false, padding := [] }
          match cStrchr '-' nodeStart with
          | none => (true, out)
          | some k =>
            if ((nodeStart.drop (k + 1)).length : Int) > widMaxZ then (false, out)
            else (true, { out with padding := nodeStart.drop (k + 1), hasPadding := true })

/-! ## 読み取りの仕様 -/

theorem widParseDigitsI64_append {seq rest : List Char} (hdig : ∀ c ∈ seq, widIsDigit c = true) :
    widParseDigitsI64 (seq ++ rest) seq.length = decValue seq := by
  rw [widParseDigitsI64_of_digits (fun i hi => cAt_append_of_mem hdig hi), List.take_left' rfl]

/-- **受け入れた形の文字列での `wid_parse_ex`。** 欄は時刻部と数字の値で埋まる。接尾辞が 64 文字を
超えるときだけ失敗し、そのとき `*out` は埋まったまま残る。 -/
theorem widParseEx_of_shape {s : List Char} {W Z : Int} {u : WidTimeUnit} {r : WidTimestamp}
    {seq suf : List Char} (hv : widValidateEx s W Z u = true) (hr : r.Valid u)
    (hseq : seq.length = W.toNat) (hdig : ∀ c ∈ seq, widIsDigit c = true)
    (hs : s = renderTimestamp u r ++ '.' :: (seq ++ 'Z' :: suf)) :
    widParseEx s W Z u =
      let out : ParsedWid := ⟨some s, r.year, r.month, r.day, r.hour, r.minute, r.second,
        r.millisecond, decValue seq, false, []⟩
      match suf with
      | [] => (true, out)
      | _ :: pad =>
        if (pad.length : Int) > widMaxZ then (false, out)
        else (true, { out with hasPadding := true, padding := pad }) := by
  have hp : widParseTimestamp s u = some r := hs ▸ widParseTimestamp_render hr _
  have hq : widParseDigitsI64 (s.drop (widTimestampLen u + 1)) W.toNat = decValue seq := by
    rw [hs, drop_renderTimestamp hr, ← hseq, widParseDigitsI64_append hdig]
  have hd : s.drop (widTimestampLen u + 1 + W.toNat + 1) = suf := by rw [hs, ← hseq, drop_idHead hr]
  unfold widParseEx
  simp only [hv, hp, hq, hd, Bool.not_true, Bool.false_eq_true, if_false, Nat.cast_nonneg, not_lt.mpr,
    ParsedWid.zero]
  cases suf <;> simp

/-- ノードの後ろの `-` を `strchr` が見つける。 -/
theorem cStrchr_node {node suf : List Char} {Z : Int} (hn : ∀ c ∈ node, widIsNodeChar c = true)
    (hsuf : widValidSuffix suf Z = true) :
    cStrchr '-' (node ++ suf) = match suf with | [] => none | _ :: _ => some node.length := by
  have hnd : '-' ∉ node := fun h => absurd (hn '-' h) (by decide)
  cases suf with
  | nil => simpa using cStrchr_of_not_mem hnd
  | cons c pad => obtain rfl := widValidSuffix_head hsuf c pad rfl; exact cStrchr_append_cons hnd

/-- **受け入れた形の文字列での `hlc_wid_parse_ex`。** ノードが `node[64]` に入らなければ失敗し、
そのとき時刻の欄と `logical_counter` は書かれたまま残る。 -/
theorem hlcWidParseEx_of_shape {s : List Char} {W Z : Int} {u : WidTimeUnit} {r : WidTimestamp}
    {seq node suf : List Char} (hv : hlcWidValidateEx s W Z u = true) (hr : r.Valid u)
    (hseq : seq.length = W.toNat) (hdig : ∀ c ∈ seq, widIsDigit c = true)
    (hn : ∀ c ∈ node, widIsNodeChar c = true) (hsuf : widValidSuffix suf Z = true)
    (hs : s = renderTimestamp u r ++ '.' :: (seq ++ 'Z' :: '-' :: (node ++ suf))) :
    hlcWidParseEx s W Z u =
      let out : ParsedHlcWid := ⟨none, r.year, r.month, r.day, r.hour, r.minute, r.second,
        r.millisecond, decValue seq, [], false, []⟩
      if node.length = 0 ∨ node.length ≥ widNodeSize then (false, out)
      else
        let out := { out with node := node, raw := some s }
        match suf with
        | [] => (true, out)
        | _ :: pad =>
          if (pad.length : Int) > widMaxZ then (false, out)
          else (true, { out with hasPadding := true, padding := pad }) := by
  have hp : widParseTimestamp s u = some r := hs ▸ widParseTimestamp_render hr _
  have hq : widParseDigitsI64 (s.drop (widTimestampLen u + 1)) W.toNat = decValue seq := by
    rw [hs, drop_renderTimestamp hr, ← hseq, widParseDigitsI64_append hdig]
  have hd : s.drop (widTimestampLen u + 1 + W.toNat + 1 + 1) = node ++ suf := by
    rw [← List.drop_drop, hs, ← hseq, drop_idHead hr]; rfl
  unfold hlcWidParseEx
  simp only [hv, hp, hq, hd, cStrchr_node hn hsuf, Bool.not_true, Bool.false_eq_true, if_false,
    Nat.cast_nonneg, not_lt.mpr, ParsedHlcWid.zero]
  cases suf <;> simp

end Wid
