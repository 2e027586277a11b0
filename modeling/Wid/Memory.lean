import Wid.Codec

/-!
# 符号が読む位置と書く位置

`wid_validate_ex`・`hlc_wid_validate_ex`・`wid_parse_ex`・`hlc_wid_parse_ex` を、メモリへの
読み書きが一つずつ見える形でもう一度写す。`Wid/Codec.lean` の写しは値だけを見ていて、
終端より先を読むと NUL が返る（`cAt`）。ここでは

1. 入力の C の文字列を、中身と終端の NUL からなる `strlen(s) + 1` 文字の領域とし、その外を
   読むと未定義動作（`peek` が `none`）とする。走査（`strlen`・`strchr`・ノードの走査）は
   領域を一文字ずつ読み進める。
2. `out->node[64]`・`out->padding[WID_MAX_Z + 1]` への `memcpy` と NUL の書き込みは、
   配列に入らなければ未定義動作（`copyTo`）とする。

関数ごとに「読む位置が領域の中にあれば、値の層と同じ結果を返す」を示し、主な定理
`codecM_inBounds` で四つをまとめる：NUL を含まないどの文字列と、どの `W`・`Z`・`unit` でも、
四つの関数は入力の外を読まず、配列の外に書かず、値の層の結果を返す。
-/

namespace Wid

/-! ## C の文字列の領域 -/

/-- NUL で終わる C の文字列：NUL を含まない中身。 -/
structure CStr where
  chars : List Char
  nul_not_mem : '\x00' ∉ chars

/-- `s[i]`：中身と終端の NUL の領域から読む。領域の外は未定義動作（`none`）。 -/
def peek (s : List Char) (i : Nat) : Option Char := (s ++ ['\x00'])[i]?

/-- `s[q]` から `len` 文字を読む（`memcpy` の読み出し側）。 -/
def peekN (s : List Char) (q : Nat) : Nat → Option (List Char)
  | 0 => some []
  | len + 1 => (peek s q).bind fun c => (peekN s (q + 1) len).map (c :: ·)

/-- 領域の残りを NUL まで読み進めて数える。領域の外に出れば未定義動作。 -/
def scanNul : List Char → Option Nat
  | [] => none
  | c :: cs => if c = '\x00' then some 0 else (scanNul cs).map (· + 1)

/-- `strlen(s + p)`。 -/
def cStrlenFrom (s : List Char) (p : Nat) : Option Nat := scanNul ((s ++ ['\x00']).drop p)

/-- `strchr(s + p, c)` の走査：`c` なら位置、NUL なら `NULL`（`some none`）。 -/
def cStrchrScan (c : Char) : List Char → Option (Option Nat)
  | [] => none
  | d :: ds => if d = c then some (some 0) else if d = '\x00' then some none
      else (cStrchrScan c ds).map (Option.map (· + 1))

/-- `for (i = a; i < a + n; i++) if (!p(s[i])) return false;`：左から読み、`p` を満たさない
文字で止まる。 -/
def allAtM (s : List Char) (p : Char → Bool) (a : Nat) : Nat → Option Bool
  | 0 => some true
  | n + 1 => (peek s a).bind fun c => if p c then allAtM s p (a + 1) n else some false

/-- `memcpy(dst, src, len); dst[len] = '\0';` を `size` 文字の配列 `dst` に。`len < size` で
なければ配列の外に書く（未定義動作）。返すのは書いたあとの `dst` の C の文字列。 -/
def copyTo (size : Nat) (src : List Char) : Option (List Char) :=
  if src.length < size then some src else none

/-! ## 時刻の欄 -/

/-- `wid_parse_digits_i64(s + p, n)`。`v` はここまでの値。 -/
def parseDigitsM (s : List Char) (p : Nat) (v : Int) : Nat → Option Int
  | 0 => some v
  | n + 1 => (peek s p).bind fun c =>
      if widIsDigit c then parseDigitsM s (p + 1) (v * 10 + (c.toNat - '0'.toNat : Nat)) n
      else some (-1)

/-- `wid_parse_timestamp` のミリ秒の欄。 -/
def widParseMillisM (s : List Char) (unit : WidTimeUnit) : Option (Option Int) :=
  if unit = .ms then
    (allAtM s widIsDigit 15 3).bind fun d3 =>
    if !d3 then some none
    else (parseDigitsM s 15 0 3).bind fun ms =>
      if ms < 0 ∨ ms > 999 then some none else some (some ms)
  else some (some 0)

/-- `wid_parse_timestamp` の六つの欄 `y, mo, d, h, mi, se` を読む。 -/
def parseYmdhmsM (s : List Char) : Option (Int × Int × Int × Int × Int × Int) :=
  (parseDigitsM s 0 0 4).bind fun y => (parseDigitsM s 4 0 2).bind fun mo =>
  (parseDigitsM s 6 0 2).bind fun d => (parseDigitsM s 9 0 2).bind fun h =>
  (parseDigitsM s 11 0 2).bind fun mi => (parseDigitsM s 13 0 2).map fun se => (y, mo, d, h, mi, se)

/-- `wid_parse_timestamp`。外側の `Option` は未定義動作、内側は戻り値。 -/
def widParseTimestampM (s : List Char) (unit : WidTimeUnit) : Option (Option WidTimestamp) :=
  (peek s 8).bind fun c8 =>
  if c8 ≠ 'T' then some none
  else (allAtM s widIsDigit 0 8).bind fun d8 =>
  if !d8 then some none
  else (allAtM s widIsDigit 9 6).bind fun d6 =>
  if !d6 then some none
  else (parseYmdhmsM s).bind fun (y, mo, d, h, mi, se) =>
  if !widValidYmdhms y mo d h mi se then some none
  else (widParseMillisM s unit).bind fun
    | none => some none
    | some ms => (peek s (widTimestampLen unit)).bind fun cd =>
      if cd ≠ '.' then some none else some (some ⟨y, mo, d, h, mi, se, ms⟩)

/-! ## 検査器 -/

/-- `wid_valid_suffix(s + p, Z)`。 -/
def widValidSuffixM (s : List Char) (p : Nat) (Z : Int) : Option Bool :=
  (peek s p).bind fun c =>
  if c = '\x00' then some true
  else if c ≠ '-' then some false
  else if Z ≤ 0 then some false
  else (cStrlenFrom s (p + 1)).bind fun n =>
    if toInt32 n ≠ Z then some false
    else allAtM s widIsLowerHex (p + 1) (toInt32 n).toNat

/-- `wid_validate_ex`。 -/
def widValidateExM (wid : List Char) (W Z : Int) (unit : WidTimeUnit) : Option Bool :=
  if W ≤ 0 ∨ Z < 0 then some false
  else if W > widMaxW ∨ Z > widMaxZ then some false
  else (cStrlenFrom wid 0).bind fun n =>
  if toInt32 n < (widTimestampLen unit : Int) + 1 + W + 1 then some false
  else (widParseTimestampM wid unit).bind fun ts =>
  if ts.isNone then some false
  else (peek wid (widTimestampLen unit + 1 + W.toNat)).bind fun cz =>
  if cz ≠ 'Z' then some false
  else (allAtM wid widIsDigit (widTimestampLen unit + 1) W.toNat).bind fun dig =>
  if !dig then some false
  else widValidSuffixM wid (widTimestampLen unit + 1 + W.toNat + 1) Z

/-- `hlc_wid_validate_ex` のノードの走査。外側の `Option` は未定義動作、`some none` は
`return false`、`some (some d)` は走査の終わり（`d` は `-` の位置、なければ `none`）。 -/
def hlcScanNodeM : List Char → Option (Option (Option Nat))
  | [] => none
  | c :: cs =>
    if c = '\x00' then some (some none)
    else if c = '-' then some (some (some 0))
    else if !widIsNodeChar c then some none
    else (hlcScanNodeM cs).map (Option.map (Option.map (· + 1)))

/-- `hlc_wid_validate_ex` の後半。`p` は `node_start`。 -/
def hlcValidNodeSuffixM (s : List Char) (p : Nat) (Z : Int) : Option Bool :=
  (hlcScanNodeM ((s ++ ['\x00']).drop p)).bind fun
    | none => some false
    | some none => (cStrlenFrom s p).map fun len => if toInt32 len ≤ 0 then false else true
    | some (some k) => if toInt32 k ≤ 0 then some false else widValidSuffixM s (p + k) Z

/-- `hlc_wid_validate_ex`。 -/
def hlcWidValidateExM (wid : List Char) (W Z : Int) (unit : WidTimeUnit) : Option Bool :=
  if W ≤ 0 ∨ Z < 0 then some false
  else if W > widMaxW ∨ Z > widMaxZ then some false
  else (cStrlenFrom wid 0).bind fun n =>
  if toInt32 n < (widTimestampLen unit : Int) + 1 + W + 1 + 2 then some false
  else (widParseTimestampM wid unit).bind fun ts =>
  if ts.isNone then some false
  else (peek wid (widTimestampLen unit + 1 + W.toNat)).bind fun cz =>
  if cz ≠ 'Z' then some false
  else (peek wid (widTimestampLen unit + 1 + W.toNat + 1)).bind fun cd =>
  if cd ≠ '-' then some false
  else (allAtM wid widIsDigit (widTimestampLen unit + 1) W.toNat).bind fun dig =>
  if !dig then some false
  else hlcValidNodeSuffixM wid (widTimestampLen unit + 1 + W.toNat + 1 + 1) Z

/-! ## 読み取り -/

/-- `wid_parse_ex`。 -/
def widParseExM (wid : List Char) (W Z : Int) (unit : WidTimeUnit) : Option (Bool × ParsedWid) :=
  (widValidateExM wid W Z unit).bind fun ok =>
  if !ok then some (false, ParsedWid.zero)
  else (widParseTimestampM wid unit).bind fun
    | none => some (false, ParsedWid.zero)
    | some ts => (parseDigitsM wid (widTimestampLen unit + 1) 0 W.toNat).bind fun sq =>
      let out : ParsedWid := { ParsedWid.zero with
        year := ts.year, month := ts.month, day := ts.day, hour := ts.hour, minute := ts.minute,
        second := ts.second, millisecond := ts.millisecond, sequence := sq }
      if sq < 0 then some (false, out)
      else
        let out := { out with raw := some wid, hasPadding := false, padding := [] }
        let q := widTimestampLen unit + 1 + W.toNat + 1
        (peek wid q).bind fun c =>
        if c = '\x00' then some (true, out)
        else (cStrlenFrom wid (q + 1)).bind fun padLen =>
          if (padLen : Int) > widMaxZ then some (false, out)
          else (peekN wid (q + 1) padLen).bind fun src =>
            (copyTo (widMaxZ.toNat + 1) src).map fun pad =>
              (true, { out with padding := pad, hasPadding := true })

/-- `hlc_wid_parse_ex` の後半：`node_start`（`p`）から `strchr` で `-` を探し、ノードを
`out->node[64]` に、接尾辞を `out->padding` に写す。 -/
def hlcParseNodeM (wid : List Char) (p : Nat) (out : ParsedHlcWid) : Option (Bool × ParsedHlcWid) :=
  (cStrchrScan '-' ((wid ++ ['\x00']).drop p)).bind fun dash =>
  (match dash with
    | some k => some k
    | none => cStrlenFrom wid p).bind fun nodeLen =>
  if nodeLen = 0 ∨ nodeLen ≥ widNodeSize then some (false, out)
  else (peekN wid p nodeLen).bind fun src => (copyTo widNodeSize src).bind fun node =>
    let out := { out with node := node, raw := some wid, hasPadding := false, padding := [] }
    match dash with
    | none => some (true, out)
    | some k => (cStrlenFrom wid (p + k + 1)).bind fun padLen =>
      if (padLen : Int) > widMaxZ then some (false, out)
      else (peekN wid (p + k + 1) padLen).bind fun src =>
        (copyTo (widMaxZ.toNat + 1) src).map fun pad =>
          (true, { out with padding := pad, hasPadding := true })

/-- `hlc_wid_parse_ex`。 -/
def hlcWidParseExM (wid : List Char) (W Z : Int) (unit : WidTimeUnit) :
    Option (Bool × ParsedHlcWid) :=
  (hlcWidValidateExM wid W Z unit).bind fun ok =>
  if !ok then some (false, ParsedHlcWid.zero)
  else (widParseTimestampM wid unit).bind fun
    | none => some (false, ParsedHlcWid.zero)
    | some ts => (parseDigitsM wid (widTimestampLen unit + 1) 0 W.toNat).bind fun lc =>
      let out : ParsedHlcWid := { ParsedHlcWid.zero with
        year := ts.year, month := ts.month, day := ts.day, hour := ts.hour, minute := ts.minute,
        second := ts.second, millisecond := ts.millisecond, logicalCounter := lc }
      if lc < 0 then some (false, out)
      else hlcParseNodeM wid (widTimestampLen unit + 1 + W.toNat + 1 + 1) out

/-! ## 領域の中の読み出し -/

/-- 検査の連なりの一段：条件が成り立てば両辺とも同じ値で返り、成り立たなければ続きを比べる。 -/
theorem ite_some_eq {β : Type} {c : Prop} [Decidable c] {a y : β} {x : Option β}
    (h : ¬c → x = some y) : (if c then some a else x) = some (if c then a else y) := by
  split_ifs with hc
  · rfl
  · exact h hc

/-- `if (c) return false;` を通って `true` を返したなら、`c` は成り立たなかった。 -/
theorem ite_false_eq_true {c : Prop} [Decidable c] {b : Bool}
    (h : (if c then false else b) = true) : ¬c ∧ b = true := by
  by_cases hc : c
  · rw [if_pos hc] at h; exact absurd h Bool.false_ne_true
  · rw [if_neg hc] at h; exact ⟨hc, h⟩

/-- 領域の中では、読み出しは値の層の `cAt` と同じ文字を返す。 -/
theorem peek_of_le {s : List Char} {i : Nat} (h : i ≤ s.length) : peek s i = some (cAt s i) := by
  rcases Nat.lt_or_eq_of_le h with h | rfl
  · rw [peek, List.getElem?_append_left h, cAt, List.getD_eq_getElem?_getD, List.getElem?_eq_getElem h]
    rfl
  · rw [peek, List.getElem?_append_right le_rfl, cAt_of_length_le le_rfl]; simp

theorem drop_append_nul {s : List Char} {p : Nat} (h : p ≤ s.length) :
    (s ++ ['\x00']).drop p = s.drop p ++ ['\x00'] :=
  List.drop_append_of_le_length h

theorem scanNul_append {l : List Char} (h : '\x00' ∉ l) : scanNul (l ++ ['\x00']) = some l.length := by
  induction l with
  | nil => rfl
  | cons c l ih =>
    have hc : c ≠ '\x00' := fun e => h (e ▸ List.mem_cons_self c l)
    simp [scanNul, hc, ih (fun hm => h (List.mem_cons_of_mem c hm))]

/-- NUL を含まない文字列では、`strlen(s + p)` は残りの長さ。 -/
theorem cStrlenFrom_eq {s : List Char} {p : Nat} (hs : '\x00' ∉ s) (hp : p ≤ s.length) :
    cStrlenFrom s p = some (s.length - p) := by
  rw [cStrlenFrom, drop_append_nul hp, scanNul_append (fun h => hs (List.mem_of_mem_drop h)),
    List.length_drop]

theorem cStrchrScan_append {c : Char} {l : List Char} (hc : c ≠ '\x00') (h : '\x00' ∉ l) :
    cStrchrScan c (l ++ ['\x00']) = some (cStrchr c l) := by
  induction l with
  | nil => simp [cStrchrScan, cStrchr, Ne.symm hc]
  | cons d l ih =>
    have hd : d ≠ '\x00' := fun e => h (e ▸ List.mem_cons_self d l)
    by_cases hdc : d = c
    · simp [cStrchrScan, cStrchr, hdc]
    · simp [cStrchrScan, cStrchr, hdc, hd, ih (fun hm => h (List.mem_cons_of_mem d hm))]

theorem peekN_eq {s : List Char} {q : Nat} : ∀ {len : Nat}, q + len ≤ s.length →
    peekN s q len = some ((s.drop q).take len)
  | 0, _ => by simp [peekN]
  | len + 1, h => by
    rw [peekN, peek_of_le (by omega), Option.some_bind, peekN_eq (by omega), Option.map_some',
      List.drop_eq_getElem_cons (show q < s.length by omega), List.take_succ_cons,
      cAt_eq_getElem (by omega)]

/-- NUL を通さない述語のループは、領域の中から読み始めれば領域の外に出ない。 -/
theorem allAtM_eq {s : List Char} {p : Char → Bool} (hp : p '\x00' = false) :
    ∀ {a n : Nat}, a ≤ s.length →
      allAtM s p a n = some ((List.range' a n).all fun i => p (cAt s i))
  | _, 0, _ => rfl
  | a, n + 1, ha => by
    rw [allAtM, peek_of_le ha, Option.some_bind, List.range'_succ, List.all_cons]
    by_cases hc : p (cAt s a) = true
    · have : a < s.length := by
        by_contra hn; rw [cAt_of_length_le (by omega), hp] at hc; cases hc
      rw [if_pos hc, allAtM_eq hp (by omega), hc, Bool.true_and]
    · rw [if_neg hc, Bool.eq_false_iff.mpr hc, Bool.false_and]

theorem parseDigitsM_eq {s : List Char} : ∀ {p : Nat} {v : Int} {n : Nat}, p ≤ s.length →
    parseDigitsM s p v n = some (widParseDigitsI64.go v (s.drop p) n)
  | _, _, 0, _ => by simp [parseDigitsM, widParseDigitsI64.go]
  | p, v, n + 1, hp => by
    rw [parseDigitsM, peek_of_le hp, Option.some_bind]
    rcases Nat.lt_or_eq_of_le hp with hp | rfl
    · rw [List.drop_eq_getElem_cons hp, widParseDigitsI64.go, ← cAt_eq_getElem hp]
      split_ifs
      · exact parseDigitsM_eq (by omega)
      · rfl
    · rw [List.drop_length, cAt_of_length_le le_rfl]; rfl

theorem all_range'_cAt_drop {p : Char → Bool} {s : List Char} {k a n : Nat} :
    (List.range' (k + a) n).all (fun i => p (cAt s i)) =
      (List.range' a n).all (fun i => p (cAt (s.drop k) i)) :=
  Bool.eq_iff_iff.mpr (by rw [all_range'_cAt, all_range'_cAt]; simp only [cAt_drop, Nat.add_assoc])

theorem toInt32_le_self (n : Nat) : toInt32 n ≤ n := by
  unfold toInt32; split <;> omega

/-! ## 時刻の欄は領域の中を読む -/

theorem widTimestampLen_ge (u : WidTimeUnit) : 15 ≤ widTimestampLen u := by
  unfold widTimestampLen; split <;> omega

theorem widParseMillisM_eq {s : List Char} {u : WidTimeUnit} (h : widTimestampLen u ≤ s.length) :
    widParseMillisM s u = some (widParseMillis s u) := by
  cases u with
  | sec => rfl
  | ms =>
    simp only [widTimestampLen, if_pos] at h
    simp only [widParseMillisM, widParseMillis, if_pos, allAtM_eq widIsDigit_nul (by omega : 15 ≤ s.length),
      parseDigitsM_eq (by omega : 15 ≤ s.length), Option.some_bind, widParseDigitsI64]
    split_ifs <;> rfl

theorem parseYmdhmsM_eq {s : List Char} (h : 15 ≤ s.length) :
    parseYmdhmsM s = some (widParseDigitsI64 s 4, widParseDigitsI64 (s.drop 4) 2,
      widParseDigitsI64 (s.drop 6) 2, widParseDigitsI64 (s.drop 9) 2,
      widParseDigitsI64 (s.drop 11) 2, widParseDigitsI64 (s.drop 13) 2) := by
  simp only [parseYmdhmsM, parseDigitsM_eq (s := s) (p := 0) (by omega),
    parseDigitsM_eq (s := s) (p := 4) (by omega), parseDigitsM_eq (s := s) (p := 6) (by omega),
    parseDigitsM_eq (s := s) (p := 9) (by omega), parseDigitsM_eq (s := s) (p := 11) (by omega),
    parseDigitsM_eq (s := s) (p := 13) (by omega), Option.some_bind, Option.map_some', List.drop_zero]
  rfl

/-- `wid_parse_timestamp` が読むのは位置 `ts_len` までで、そこまでが領域にあれば値の層と同じ。 -/
theorem widParseTimestampM_eq {s : List Char} {u : WidTimeUnit} (h : widTimestampLen u ≤ s.length) :
    widParseTimestampM s u = some (widParseTimestamp s u) := by
  have h15 := le_trans (widTimestampLen_ge u) h
  rw [widParseTimestampM, widParseTimestamp, peek_of_le (by omega : 8 ≤ s.length), Option.some_bind]
  refine ite_some_eq fun _ => ?_
  rw [allAtM_eq widIsDigit_nul (Nat.zero_le _), Option.some_bind]
  refine ite_some_eq fun _ => ?_
  rw [allAtM_eq widIsDigit_nul (by omega : 9 ≤ s.length), Option.some_bind]
  refine ite_some_eq fun _ => ?_
  rw [parseYmdhmsM_eq h15, Option.some_bind]
  refine ite_some_eq fun _ => ?_
  rw [widParseMillisM_eq h, Option.some_bind]
  cases widParseMillis s u with
  | none => rfl
  | some ms => rw [peek_of_le h, Option.some_bind]; exact ite_some_eq fun _ => rfl

/-! ## 検査器は領域の中を読む -/

/-- `wid_valid_suffix` は、接尾辞の頭が領域にあれば領域の外を読まない。 -/
theorem widValidSuffixM_eq {s : List Char} {p : Nat} {Z : Int} (hs : '\x00' ∉ s)
    (hp : p ≤ s.length) : widValidSuffixM s p Z = some (widValidSuffix (s.drop p) Z) := by
  rcases Nat.lt_or_eq_of_le hp with hp | rfl
  · have hc : cAt s p ≠ '\x00' := fun e => hs (e ▸ cAt_mem hp)
    rw [widValidSuffixM, peek_of_le hp.le, Option.some_bind, if_neg hc, List.drop_eq_getElem_cons hp,
      ← cAt_eq_getElem hp, widValidSuffix, cStrlenFrom_eq hs (by omega : p + 1 ≤ s.length),
      List.length_drop, Option.some_bind]
    split_ifs <;> try rfl
    rw [allAtM_eq widIsLowerHex_nul (by omega), ← all_range'_cAt_drop, Nat.add_zero]
  · rw [widValidSuffixM, peek_of_le le_rfl, cAt_of_length_le le_rfl, List.drop_length]; rfl

theorem hlcScanNodeM_append {l : List Char} (h : '\x00' ∉ l) :
    hlcScanNodeM (l ++ ['\x00']) = some (hlcScanNode l) := by
  induction l with
  | nil => rfl
  | cons c l ih =>
    have hc : c ≠ '\x00' := fun e => h (e ▸ List.mem_cons_self c l)
    rw [List.cons_append, hlcScanNodeM, if_neg hc, ih (fun hm => h (List.mem_cons_of_mem c hm)),
      hlcScanNode]
    split_ifs <;> rfl

/-- ノードの走査と `-` の後ろの検査は、ノードの頭が領域にあれば領域の外を読まない。 -/
theorem hlcValidNodeSuffixM_eq {s : List Char} {p : Nat} {Z : Int} (hs : '\x00' ∉ s)
    (hp : p ≤ s.length) : hlcValidNodeSuffixM s p Z = some (hlcValidNodeSuffix (s.drop p) Z) := by
  have hd : '\x00' ∉ s.drop p := fun h => hs (List.mem_of_mem_drop h)
  rw [hlcValidNodeSuffixM, drop_append_nul hp, hlcScanNodeM_append hd, Option.some_bind,
    hlcValidNodeSuffix]
  cases hscan : hlcScanNode (s.drop p) with
  | none => rfl
  | some d =>
    cases d with
    | none => rw [cStrlenFrom_eq hs hp, Option.map_some', List.length_drop]
    | some k =>
      obtain ⟨node, suf, hsplit, -, hk⟩ := hlcScanNode_eq_some.mp hscan
      obtain ⟨rest, rfl, hk'⟩ := hk.resolve_left (by simp)
      obtain rfl : k = node.length := Option.some.inj hk'
      have hlen : p + node.length ≤ s.length := by
        have := congrArg List.length hsplit; simp at this; omega
      dsimp only
      split_ifs <;> try rfl
      rw [widValidSuffixM_eq hs hlen, List.drop_drop, Nat.add_comm]

/-- `wid_validate_ex` は長さを確かめてから決まった位置を読むので、領域の外を読まない。 -/
theorem widValidateExM_eq {wid : List Char} {W Z : Int} {u : WidTimeUnit} (hs : '\x00' ∉ wid) :
    widValidateExM wid W Z u = some (widValidateEx wid W Z u) := by
  rw [widValidateExM, widValidateEx]
  refine ite_some_eq fun _ => ite_some_eq fun _ => ?_
  rw [cStrlenFrom_eq hs (Nat.zero_le _), Nat.sub_zero, Option.some_bind]
  refine ite_some_eq fun hn => ?_
  have hlen : widTimestampLen u + 1 + W.toNat + 1 ≤ wid.length := by
    have := toInt32_le_self wid.length; omega
  rw [widParseTimestampM_eq (by omega), Option.some_bind]
  refine ite_some_eq fun _ => ?_
  rw [peek_of_le (by omega), Option.some_bind]
  refine ite_some_eq fun _ => ?_
  rw [allAtM_eq widIsDigit_nul (by omega), Option.some_bind]
  exact ite_some_eq fun _ => widValidSuffixM_eq hs hlen

/-- `hlc_wid_validate_ex` も同じ。ノードの走査は `node_start` から NUL か `-` までを読む。 -/
theorem hlcWidValidateExM_eq {wid : List Char} {W Z : Int} {u : WidTimeUnit} (hs : '\x00' ∉ wid) :
    hlcWidValidateExM wid W Z u = some (hlcWidValidateEx wid W Z u) := by
  rw [hlcWidValidateExM, hlcWidValidateEx]
  refine ite_some_eq fun _ => ite_some_eq fun _ => ?_
  rw [cStrlenFrom_eq hs (Nat.zero_le _), Nat.sub_zero, Option.some_bind]
  refine ite_some_eq fun hn => ?_
  have hlen : widTimestampLen u + 1 + W.toNat + 1 + 1 ≤ wid.length := by
    have := toInt32_le_self wid.length; omega
  rw [widParseTimestampM_eq (by omega), Option.some_bind]
  refine ite_some_eq fun _ => ?_
  rw [peek_of_le (by omega), Option.some_bind]
  refine ite_some_eq fun _ => ?_
  rw [peek_of_le (by omega : widTimestampLen u + 1 + W.toNat + 1 ≤ wid.length), Option.some_bind]
  refine ite_some_eq fun _ => ?_
  rw [allAtM_eq widIsDigit_nul (by omega), Option.some_bind]
  exact ite_some_eq fun _ => hlcValidNodeSuffixM_eq hs hlen

/-! ## 読み取りは領域の中を読み、配列の中に書く -/

/-- `wid_validate_ex` が受け入れた文字列は、少なくとも `ts + . + seq + Z` の長さがある。 -/
theorem widValidateEx_length {wid : List Char} {W Z : Int} {u : WidTimeUnit}
    (h : widValidateEx wid W Z u = true) :
    1 ≤ W ∧ W ≤ 18 ∧ widTimestampLen u + 1 + W.toNat + 1 ≤ wid.length := by
  obtain ⟨h1, h⟩ := ite_false_eq_true h
  obtain ⟨h2, h⟩ := ite_false_eq_true h
  obtain ⟨h3, -⟩ := ite_false_eq_true h
  have := toInt32_le_self wid.length
  simp only [widMaxW] at h2; omega

theorem hlcWidValidateEx_length {wid : List Char} {W Z : Int} {u : WidTimeUnit}
    (h : hlcWidValidateEx wid W Z u = true) :
    1 ≤ W ∧ W ≤ 18 ∧ widTimestampLen u + 1 + W.toNat + 1 + 2 ≤ wid.length := by
  obtain ⟨h1, h⟩ := ite_false_eq_true h
  obtain ⟨h2, h⟩ := ite_false_eq_true h
  obtain ⟨h3, -⟩ := ite_false_eq_true h
  have := toInt32_le_self wid.length
  simp only [widMaxW] at h2; omega

/-- 接尾辞を `padding` に写す部分：位置 `r` から先を `strlen` で数え、`WID_MAX_Z` 文字以下なら
読んで `padding[WID_MAX_Z + 1]` に写す。領域の外を読まず、配列の外に書かない。 -/
theorem copyPadding_eq {β : Type} {wid : List Char} {r : Nat} (hs : '\x00' ∉ wid)
    (hr : r ≤ wid.length) (o : β) (f : List Char → β) :
    ((cStrlenFrom wid r).bind fun padLen =>
      if (padLen : Int) > widMaxZ then some o
      else (peekN wid r padLen).bind fun src => (copyTo (widMaxZ.toNat + 1) src).map f) =
    some (if ((wid.drop r).length : Int) > widMaxZ then o else f (wid.drop r)) := by
  rw [cStrlenFrom_eq hs hr, Option.some_bind, List.length_drop]
  split_ifs with h
  · rfl
  · rw [peekN_eq (by omega), Option.some_bind, List.take_of_length_le (by simp), copyTo,
      if_pos (by simp only [widMaxZ] at h ⊢; simp; omega), Option.map_some']

theorem cStrchr_lt {c : Char} : ∀ {l : List Char} {k : Nat}, cStrchr c l = some k → k < l.length
  | [], _, h => by cases h
  | d :: l, k, h => by
    unfold cStrchr at h
    split_ifs at h
    · cases h; simp
    · obtain ⟨k', hk', rfl⟩ := Option.map_eq_some'.mp h
      have := cStrchr_lt hk'; simp; omega

/-- `wid_parse_ex` は、検査を通った文字列だけを読み進めるので、領域の外を読まず、`padding` の
外に書かない。 -/
theorem widParseExM_eq {wid : List Char} {W Z : Int} {u : WidTimeUnit} (hs : '\x00' ∉ wid) :
    widParseExM wid W Z u = some (widParseEx wid W Z u) := by
  rw [widParseExM, widParseEx, widValidateExM_eq hs, Option.some_bind]
  cases hv : widValidateEx wid W Z u
  · rfl
  obtain ⟨hW1, hW2, hlen⟩ := widValidateEx_length hv
  simp only [Bool.not_true, Bool.false_eq_true, if_false]
  rw [widParseTimestampM_eq (by omega), Option.some_bind]
  cases widParseTimestamp wid u with
  | none => rfl
  | some ts =>
    simp only [parseDigitsM_eq (by omega : widTimestampLen u + 1 ≤ wid.length), Option.some_bind,
      widParseDigitsI64]
    split_ifs with hsq
    · rfl
    rcases Nat.lt_or_eq_of_le hlen with hq | hq
    · have hc : cAt wid (widTimestampLen u + 1 + W.toNat + 1) ≠ '\x00' := fun e => hs (e ▸ cAt_mem hq)
      rw [peek_of_le hq.le, Option.some_bind, if_neg hc, copyPadding_eq hs hq,
        List.drop_eq_getElem_cons hq]
    · rw [peek_of_le hq.le, cAt_of_length_le hq.ge, List.drop_of_length_le hq.ge]; rfl

/-- ノードの頭 `p` が領域にあれば、`strchr` の走査・`node[64]` への写し・接尾辞の写しは
領域の中を読み、配列の中に書く。 -/
theorem hlcParseNodeM_eq {wid : List Char} {p : Nat} {out : ParsedHlcWid} (hs : '\x00' ∉ wid)
    (hp : p ≤ wid.length) :
    hlcParseNodeM wid p out = some (
      let nodeLen := (cStrchr '-' (wid.drop p)).getD (wid.drop p).length
      if nodeLen = 0 ∨ nodeLen ≥ widNodeSize then (false, out)
      else
        let out := { out with
          node := (wid.drop p).take nodeLen, raw := some wid, hasPadding := false, padding := [] }
        match cStrchr '-' (wid.drop p) with
        | none => (true, out)
        | some k =>
          if (((wid.drop p).drop (k + 1)).length : Int) > widMaxZ then (false, out)
          else (true, { out with padding := (wid.drop p).drop (k + 1), hasPadding := true })) := by
  have hd : '\x00' ∉ wid.drop p := fun h => hs (List.mem_of_mem_drop h)
  have hnode : ∀ len, len ≤ (wid.drop p).length → ¬(len = 0 ∨ len ≥ widNodeSize) →
      ∀ k : List Char → Option (Bool × ParsedHlcWid),
      ((peekN wid p len).bind fun src => (copyTo widNodeSize src).bind k) =
        k ((wid.drop p).take len) := by
    intro len hl h0 k
    rw [List.length_drop] at hl
    rw [peekN_eq (by omega), Option.some_bind, copyTo, if_pos (by simp; omega), Option.some_bind]
  rw [hlcParseNodeM, drop_append_nul hp, cStrchrScan_append (by decide) hd, Option.some_bind]
  cases hk : cStrchr '-' (wid.drop p) with
  | none =>
    rw [cStrlenFrom_eq hs hp, Option.some_bind]
    simp only [Option.getD_none, List.length_drop]
    split_ifs with h0
    · rfl
    · rw [hnode _ (by simp) h0]
  | some k =>
    have hkl := cStrchr_lt hk
    simp only [Option.getD_some, Option.some_bind, List.drop_drop]
    by_cases h0 : k = 0 ∨ k ≥ widNodeSize
    · simp only [if_pos h0]
    · simp only [if_neg h0]
      rw [hnode _ hkl.le h0]
      rw [List.length_drop] at hkl
      rw [copyPadding_eq hs (by omega), Nat.add_assoc]

/-- `hlc_wid_parse_ex` は、検査を通った文字列だけを読み進めるので、領域の外を読まず、`node`・
`padding` の外に書かない。 -/
theorem hlcWidParseExM_eq {wid : List Char} {W Z : Int} {u : WidTimeUnit} (hs : '\x00' ∉ wid) :
    hlcWidParseExM wid W Z u = some (hlcWidParseEx wid W Z u) := by
  rw [hlcWidParseExM, hlcWidParseEx, hlcWidValidateExM_eq hs, Option.some_bind]
  cases hv : hlcWidValidateEx wid W Z u
  · rfl
  obtain ⟨hW1, hW2, hlen⟩ := hlcWidValidateEx_length hv
  simp only [Bool.not_true, Bool.false_eq_true, if_false]
  rw [widParseTimestampM_eq (by omega), Option.some_bind]
  cases widParseTimestamp wid u with
  | none => rfl
  | some ts =>
    simp only [parseDigitsM_eq (by omega : widTimestampLen u + 1 ≤ wid.length), Option.some_bind,
      widParseDigitsI64]
    by_cases hlc : widParseDigitsI64.go 0 (wid.drop (widTimestampLen u + 1)) W.toNat < 0
    · simp only [if_pos hlc]
    · simp only [if_neg hlc]
      exact hlcParseNodeM_eq hs (by omega)

/-- **四つの関数は、NUL で終わるどの入力でも領域の外を読まず、出力の配列の外に書かない。**
`W`・`Z`・`unit` はどれでもよい。どの関数も値の層の結果を返す。 -/
theorem codecM_inBounds (s : CStr) (W Z : Int) (u : WidTimeUnit) :
    widValidateExM s.chars W Z u = some (widValidateEx s.chars W Z u) ∧
    hlcWidValidateExM s.chars W Z u = some (hlcWidValidateEx s.chars W Z u) ∧
    widParseExM s.chars W Z u = some (widParseEx s.chars W Z u) ∧
    hlcWidParseExM s.chars W Z u = some (hlcWidParseEx s.chars W Z u) :=
  ⟨widValidateExM_eq s.nul_not_mem, hlcWidValidateExM_eq s.nul_not_mem,
    widParseExM_eq s.nul_not_mem, hlcWidParseExM_eq s.nul_not_mem⟩

end Wid
