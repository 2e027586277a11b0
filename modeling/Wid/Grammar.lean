import Wid.Codec

/-!
# 検査器と ID の文法

`wid.h` の冒頭に書かれた二つの形

    YYYYMMDDTHHMMSS[mmm].<seqW>Z[-<padZ>]
    YYYYMMDDTHHMMSS[mmm].<lcW>Z-<node>[-<padZ>]

を、数字の列の連結と、その十進の値への暦の条件として書き（`WidGrammar`・`HlcWidGrammar`）、
`wid_validate_ex`・`hlc_wid_validate_ex` と比べる。

* 2^31 文字に満たない文字列では、検査器は文法そのものである
  （`widValidateEx_iff_grammar`・`hlcWidValidateEx_iff_grammar`）。
* それより長い文字列では `(int)strlen` が長さを 2^32 を法として読むので、食い違う。
  接尾辞が `2^32 + 6` 文字なら 6 文字と読まれ、`Z = 6` の検査を通る（`longPadWid`）。
-/

namespace Wid

/-! ## 文法 -/

/-- `D^n`：数字がちょうど `n` 個。 -/
def DigitRun (n : Nat) (l : List Char) : Prop := l.length = n ∧ ∀ c ∈ l, widIsDigit c = true

/-- 時刻部 `D^8 'T' D^6 [D^3]`。欄の十進の値は暦として正しい（Gregorian の閏年で）。 -/
def TimestampGrammar (u : WidTimeUnit) (ts : List Char) : Prop :=
  ∃ yyyy mo dd hh mi ss fff : List Char,
    ts = yyyy ++ mo ++ dd ++ 'T' :: (hh ++ mi ++ ss ++ fff) ∧
    DigitRun 4 yyyy ∧ DigitRun 2 mo ∧ DigitRun 2 dd ∧ DigitRun 2 hh ∧ DigitRun 2 mi ∧
    DigitRun 2 ss ∧ DigitRun (if u = .ms then 3 else 0) fff ∧
    1 ≤ decValue mo ∧ decValue mo ≤ 12 ∧
    1 ≤ decValue dd ∧ decValue dd ≤ gregorianDaysInMonth (decValue yyyy) (decValue mo) ∧
    decValue hh ≤ 23 ∧ decValue mi ≤ 59 ∧ decValue ss ≤ 59

/-- 接尾辞 `S`：空か、`Z > 0` のとき `-` とちょうど `Z` 個の `[0-9a-f]`。 -/
def SuffixGrammar (Z : Int) (suf : List Char) : Prop :=
  suf = [] ∨ (0 < Z ∧ ∃ pad, suf = '-' :: pad ∧ (pad.length : Int) = Z ∧
    ∀ c ∈ pad, widIsLowerHex c = true)

/-- WID の文法 `TS(u) '.' D^W 'Z' S`。 -/
def WidGrammar (W Z : Int) (u : WidTimeUnit) (s : List Char) : Prop :=
  1 ≤ W ∧ W ≤ 18 ∧ 0 ≤ Z ∧ Z ≤ 64 ∧ ∃ ts seq suf, s = ts ++ '.' :: (seq ++ 'Z' :: suf) ∧
    TimestampGrammar u ts ∧ DigitRun W.toNat seq ∧ SuffixGrammar Z suf

/-- HLC-WID の文法 `TS(u) '.' D^W 'Z' '-' N^+ S`。 -/
def HlcWidGrammar (W Z : Int) (u : WidTimeUnit) (s : List Char) : Prop :=
  1 ≤ W ∧ W ≤ 18 ∧ 0 ≤ Z ∧ Z ≤ 64 ∧
    ∃ ts seq node suf, s = ts ++ '.' :: (seq ++ 'Z' :: '-' :: (node ++ suf)) ∧
      TimestampGrammar u ts ∧ DigitRun W.toNat seq ∧ node ≠ [] ∧
      (∀ c ∈ node, widIsNodeChar c = true) ∧ SuffixGrammar Z suf

/-! ## 数字の列 -/

theorem digitRun_iff {n : Nat} {l : List Char} : DigitRun n l ↔ ∃ v < 10 ^ n, l = fixedDigits n v := by
  constructor
  · rintro ⟨rfl, h⟩; exact ⟨decValue l, decValue_lt h, digits_eq_fixedDigits h⟩
  · rintro ⟨v, -, rfl⟩; exact ⟨length_fixedDigits n v, fun c hc => widIsDigit_of_mem_fixedDigits hc⟩

theorem decValue_fixedDigits_of_lt {n v : Nat} (h : v < 10 ^ n) : decValue (fixedDigits n v) = v := by
  rw [decValue_fixedDigits, Nat.mod_eq_of_lt h]

/-- **時刻部の文法は、正しい欄を `renderTimestamp` で書いた列そのもの。** -/
theorem timestampGrammar_iff {u : WidTimeUnit} {ts : List Char} :
    TimestampGrammar u ts ↔ ∃ r, r.Valid u ∧ ts = renderTimestamp u r := by
  constructor
  · rintro ⟨yyyy, mo, dd, hh, mi, ss, fff, rfl, hy, hmo, hd, hh', hmi, hs, hf, c1, c2, c3, c4, c5, c6, c7⟩
    obtain ⟨y, hy0, rfl⟩ := digitRun_iff.mp hy
    obtain ⟨m, hm0, rfl⟩ := digitRun_iff.mp hmo
    obtain ⟨d, hd0, rfl⟩ := digitRun_iff.mp hd
    obtain ⟨h, hh0, rfl⟩ := digitRun_iff.mp hh'
    obtain ⟨n, hn0, rfl⟩ := digitRun_iff.mp hmi
    obtain ⟨x, hx0, rfl⟩ := digitRun_iff.mp hs
    obtain ⟨f, hf1, hf2, rfl⟩ : ∃ f : Nat, f ≤ 999 ∧ (u = .sec → f = 0) ∧
        fff = if u = .ms then fixedDigits 3 f else [] := by
      cases u with
      | sec => exact ⟨0, by omega, fun _ => rfl, by simpa [DigitRun] using hf.1⟩
      | ms =>
        obtain ⟨f, hf0, rfl⟩ := digitRun_iff.mp (by simpa using hf)
        exact ⟨f, by omega, nofun, by simp⟩
    simp only [decValue_fixedDigits_of_lt, hy0, hm0, hd0, hh0, hn0, hx0] at c1 c2 c3 c4 c5 c6 c7
    have hr : WidTimestamp.Valid u ⟨y, m, d, h, n, x, f⟩ := by
      constructor <;> dsimp only <;> first | omega | simpa using c4 | exact fun h => by simp [hf2 h]
    refine ⟨_, hr, ?_⟩
    rw [renderTimestamp_of_valid hr]
    cases u <;> simp
  · rintro ⟨r, hr, rfl⟩
    have := hr.year_nonneg; have := hr.year_lt; have := hr.month_pos; have := hr.month_le
    have := hr.day_pos; have := hr.day_le; have := hr.hour_nonneg; have := hr.hour_le
    have := hr.minute_nonneg; have := hr.minute_le; have := hr.second_nonneg; have := hr.second_le
    have := hr.ms_nonneg; have := hr.ms_le
    have hd := gregorianDaysInMonth_le r.year r.month.toNat
    rw [renderTimestamp_of_valid hr]
    refine ⟨_, _, _, _, _, _, if u = .ms then fixedDigits 3 r.millisecond.toNat else [], rfl,
      digitRun_iff.mpr ⟨_, by omega, rfl⟩, digitRun_iff.mpr ⟨_, by omega, rfl⟩,
      digitRun_iff.mpr ⟨_, by omega, rfl⟩, digitRun_iff.mpr ⟨_, by omega, rfl⟩,
      digitRun_iff.mpr ⟨_, by omega, rfl⟩, digitRun_iff.mpr ⟨_, by omega, rfl⟩, ?_, ?_⟩
    · cases u with
      | sec => simp [DigitRun]
      | ms => simpa using digitRun_iff.mpr ⟨_, (by omega : r.millisecond.toNat < 10 ^ 3), rfl⟩
    · simp only [decValue_fixedDigits_of_lt (by omega : r.year.toNat < 10 ^ 4),
        decValue_fixedDigits_of_lt (by omega : r.month.toNat < 10 ^ 2),
        decValue_fixedDigits_of_lt (by omega : r.day.toNat < 10 ^ 2),
        decValue_fixedDigits_of_lt (by omega : r.hour.toNat < 10 ^ 2),
        decValue_fixedDigits_of_lt (by omega : r.minute.toNat < 10 ^ 2),
        decValue_fixedDigits_of_lt (by omega : r.second.toNat < 10 ^ 2), Int.toNat_of_nonneg hr.year_nonneg]
      omega

/-! ## 2^31 文字に満たない文字列 -/

/-- **2^31 文字に満たない接尾辞では、`wid_valid_suffix` は文法 `S` の検査そのもの。** -/
theorem widValidSuffix_iff {suffix : List Char} {Z : Int} (hlen : suffix.length < 2 ^ 31) :
    widValidSuffix suffix Z = true ↔ SuffixGrammar Z suffix := by
  rw [widValidSuffix_eq_true, SuffixGrammar]
  refine or_congr Iff.rfl ⟨?_, ?_⟩
  · rintro ⟨pad, rfl, hZ, hn, hx⟩
    rw [toInt32_of_lt (by simp at hlen; omega)] at hn
    obtain ⟨l, t, rfl, hl, hc⟩ := (forall_cAt_iff widIsLowerHex_nul).mp hx
    have ht : t = [] := by simp at hn; apply List.eq_nil_of_length_eq_zero; omega
    exact ⟨hZ, _, rfl, by simpa [ht] using hn, by simpa [ht] using hc⟩
  · rintro ⟨hZ, pad, rfl, hn, hx⟩
    refine ⟨pad, rfl, hZ, by rw [toInt32_of_lt (by simp at hlen; omega), hn], ?_⟩
    exact (forall_cAt_iff widIsLowerHex_nul).mpr ⟨pad, [], by simp, by omega, hx⟩

/-- **2^31 文字に満たない文字列では、`wid_validate_ex` は WID の文法の検査そのもの。** -/
theorem widValidateEx_iff_grammar {s : List Char} {W Z : Int} {u : WidTimeUnit}
    (hs : s.length < 2 ^ 31) : widValidateEx s W Z u = true ↔ WidGrammar W Z u s := by
  rw [widValidateEx_eq_true, toInt32_of_lt hs]
  constructor
  · rintro ⟨⟨hW, hZ⟩, ⟨hW', hZ'⟩, -, r, seq, suf, hr, hseq, hdig, rfl, hsuf⟩
    simp only [List.length_append, List.length_cons] at hs
    exact ⟨by omega, hW', hZ, hZ', _, seq, suf, rfl, timestampGrammar_iff.mpr ⟨r, hr, rfl⟩,
      ⟨hseq, hdig⟩, (widValidSuffix_iff (by omega)).mp hsuf⟩
  · rintro ⟨hW, hW', hZ, hZ', ts, seq, suf, rfl, hts, ⟨hseq, hdig⟩, hsuf⟩
    obtain ⟨r, hr, rfl⟩ := timestampGrammar_iff.mp hts
    simp only [List.length_append, List.length_cons] at hs
    refine ⟨⟨by omega, hZ⟩, ⟨hW', hZ'⟩, ?_, r, seq, suf, hr, hseq, hdig, rfl,
      (widValidSuffix_iff (by omega)).mpr hsuf⟩
    simp [length_renderTimestamp hr, hseq]; omega

theorem widValidateEx_iff_grammar_sample :
    "20260212T091530.0000Z-a1".toList.length < 2 ^ 31 ∧
      (widValidateEx "20260212T091530.0000Z-a1".toList 4 2 .sec = true ↔
        WidGrammar 4 2 .sec "20260212T091530.0000Z-a1".toList) :=
  ⟨by decide, widValidateEx_iff_grammar (by decide)⟩

/-- **2^31 文字に満たない文字列では、`hlc_wid_validate_ex` は HLC-WID の文法の検査そのもの。**
ノードは `Z-` のあとのノード文字の最長の列で、その後ろの `-` は正しい接尾辞を始める。 -/
theorem hlcWidValidateEx_iff_grammar {s : List Char} {W Z : Int} {u : WidTimeUnit}
    (hs : s.length < 2 ^ 31) : hlcWidValidateEx s W Z u = true ↔ HlcWidGrammar W Z u s := by
  rw [hlcWidValidateEx_eq_true, toInt32_of_lt hs]
  constructor
  · rintro ⟨⟨hW, hZ⟩, ⟨hW', hZ'⟩, -, r, seq, node, suf, hr, hseq, hdig, rfl, hn, hpos, hsuf⟩
    simp only [List.length_append, List.length_cons] at hs
    rw [toInt32_of_lt (by omega)] at hpos
    exact ⟨by omega, hW', hZ, hZ', _, seq, node, suf, rfl, timestampGrammar_iff.mpr ⟨r, hr, rfl⟩,
      ⟨hseq, hdig⟩, List.ne_nil_of_length_pos (by omega), hn, (widValidSuffix_iff (by omega)).mp hsuf⟩
  · rintro ⟨hW, hW', hZ, hZ', ts, seq, node, suf, rfl, hts, ⟨hseq, hdig⟩, hne, hn, hsuf⟩
    obtain ⟨r, hr, rfl⟩ := timestampGrammar_iff.mp hts
    simp only [List.length_append, List.length_cons] at hs
    have hnode := List.length_pos.mpr hne
    refine ⟨⟨by omega, hZ⟩, ⟨hW', hZ'⟩, ?_, r, seq, node, suf, hr, hseq, hdig, rfl, hn,
      by rw [toInt32_of_lt (by omega)]; omega, (widValidSuffix_iff (by omega)).mpr hsuf⟩
    simp [length_renderTimestamp hr, hseq]; omega

theorem hlcWidValidateEx_iff_grammar_sample :
    "20260212T091530.0000Z-node01".toList.length < 2 ^ 31 ∧
      (hlcWidValidateEx "20260212T091530.0000Z-node01".toList 4 0 .sec = true ↔
        HlcWidGrammar 4 0 .sec "20260212T091530.0000Z-node01".toList) :=
  ⟨by decide, hlcWidValidateEx_iff_grammar (by decide)⟩

/-! ## 2^32 文字を超える接尾辞 -/

theorem cAt_replicate {n i : Nat} {c : Char} (h : i < n) : cAt (List.replicate n c) i = c := by
  rw [cAt_eq_getElem (by simpa using h)]; simp

/-- 1970-01-01 00:00:00 の欄。 -/
theorem epoch_valid : WidTimestamp.Valid .sec ⟨1970, 1, 1, 0, 0, 0, 0⟩ := by
  constructor <;> decide

/-- 接尾辞が `2^32 + 6` 文字の WID。 -/
def longPadWid : List Char := "19700101T000000.0000Z-".toList ++ List.replicate (2 ^ 32 + 6) 'a'

/-- `(int)strlen` は `2^32 + 6` を 6 と読む。 -/
theorem toInt32_long : toInt32 (2 ^ 32 + 6) = 6 := by decide

/-- `-` と、長さを `(int)` で 6 と読まれる列は、先頭 6 文字が小文字 16 進なら `Z = 6` の接尾辞として
通る。 -/
theorem widValidSuffix_of_toInt32 {R : List Char} (hlen : toInt32 R.length = 6)
    (hcs : ∀ i < 6, cAt R i = 'a') : widValidSuffix ('-' :: R) 6 = true :=
  widValidSuffix_eq_true.mpr (.inr ⟨_, rfl, by decide, hlen,
    fun i hi => by rw [hcs i (by omega)]; rfl⟩)

/-- `(int)` で 6 と読まれる長さの `a` の列を接尾辞に持つ WID は、検査を通り、文法には合わない。 -/
theorem widValidateEx_of_wrapped_pad {R : List Char} (hlen : R.length = 2 ^ 32 + 6)
    (hcs : ∀ i < 6, cAt R i = 'a') :
    widValidateEx ("19700101T000000.0000Z-".toList ++ R) 4 6 .sec = true ∧
      ¬ WidGrammar 4 6 .sec ("19700101T000000.0000Z-".toList ++ R) := by
  have hs : "19700101T000000.0000Z-".toList ++ R = renderTimestamp .sec ⟨1970, 1, 1, 0, 0, 0, 0⟩ ++
      '.' :: ("0000".toList ++ 'Z' :: '-' :: R) := by
    rw [show "19700101T000000.0000Z-".toList = renderTimestamp .sec ⟨1970, 1, 1, 0, 0, 0, 0⟩ ++
      '.' :: ("0000".toList ++ ['Z', '-']) by decide]
    simp
  refine ⟨widValidateEx_eq_true.mpr ⟨by decide, by decide, ?_, _, "0000".toList, '-' :: R, epoch_valid,
    rfl, by decide, hs, widValidSuffix_of_toInt32 (by rw [hlen, toInt32_long]) hcs⟩, ?_⟩
  · rw [hs]
    simp only [List.length_append, List.length_cons, length_renderTimestamp epoch_valid, hlen]
    decide
  · rintro ⟨-, -, -, -, ts, seq, suf, he, hts, ⟨hseq, -⟩, hsuf⟩
    obtain ⟨r, hr, rfl⟩ := timestampGrammar_iff.mp hts
    have hl := congrArg List.length (hs.symm.trans he)
    simp only [List.length_append, List.length_cons, length_renderTimestamp epoch_valid,
      length_renderTimestamp hr, hseq, hlen] at hl
    rcases hsuf with rfl | ⟨-, pad, rfl, hpad, -⟩
    · simp at hl
    · simp at hl; omega

/-- **`wid_validate_ex(s, 4, 6, WID_TIME_SEC)` は、接尾辞が `2^32 + 6` 文字の `longPadWid` を
受け入れる。** 文法はこれを受け入れない。 -/
theorem widValidateEx_longPadWid :
    widValidateEx longPadWid 4 6 .sec = true ∧ ¬ WidGrammar 4 6 .sec longPadWid :=
  widValidateEx_of_wrapped_pad (List.length_replicate _ _) (fun _ hi => cAt_replicate (by omega))

/-- 接尾辞が `2^32 + 6` 文字の HLC-WID。 -/
def longPadHlcWid : List Char :=
  "19700101T000000.0000Z-node-".toList ++ List.replicate (2 ^ 32 + 6) 'a'

/-- HLC-WID でも同じ：`(int)` で 6 と読まれる長さの接尾辞は検査を通り、文法には合わない。 -/
theorem hlcWidValidateEx_of_wrapped_pad {R : List Char} (hlen : R.length = 2 ^ 32 + 6)
    (hcs : ∀ i < 6, cAt R i = 'a') :
    hlcWidValidateEx ("19700101T000000.0000Z-node-".toList ++ R) 4 6 .sec = true ∧
      ¬ HlcWidGrammar 4 6 .sec ("19700101T000000.0000Z-node-".toList ++ R) := by
  have hs : "19700101T000000.0000Z-node-".toList ++ R = renderTimestamp .sec ⟨1970, 1, 1, 0, 0, 0, 0⟩ ++
      '.' :: ("0000".toList ++ 'Z' :: '-' :: ("node".toList ++ '-' :: R)) := by
    rw [show "19700101T000000.0000Z-node-".toList = renderTimestamp .sec ⟨1970, 1, 1, 0, 0, 0, 0⟩ ++
      '.' :: ("0000".toList ++ 'Z' :: '-' :: ("node".toList ++ ['-'])) by decide]
    simp
  refine ⟨hlcWidValidateEx_eq_true.mpr ⟨by decide, by decide, ?_, _, "0000".toList, "node".toList,
    '-' :: R, epoch_valid, rfl, by decide, hs, by decide, by decide,
    widValidSuffix_of_toInt32 (by rw [hlen, toInt32_long]) hcs⟩, ?_⟩
  · rw [hs]
    simp only [List.length_append, List.length_cons, length_renderTimestamp epoch_valid, hlen]
    decide
  · rintro ⟨-, -, -, -, ts, seq, node, suf, he, hts, ⟨hseq, -⟩, -, hn, hsuf⟩
    obtain ⟨r, hr, rfl⟩ := timestampGrammar_iff.mp hts
    have e1 := drop_idHead epoch_valid "0000".toList 'Z' ('-' :: ("node".toList ++ '-' :: R))
    have e2 := drop_idHead hr seq 'Z' ('-' :: (node ++ suf))
    rw [hseq] at e2
    have key := List.cons.inj ((e1.symm.trans (congrArg (List.drop _) (hs.symm.trans he))).trans e2)
    have hl := congrArg List.length key.2
    simp only [List.length_append, List.length_cons, hlen] at hl
    have h5 : 5 ≤ node.length := by
      rcases hsuf with rfl | ⟨-, pad, rfl, hpad, -⟩ <;> simp at hl <;> omega
    have htake := congrArg (List.take 5) key.2
    rw [List.take_append_of_le_length h5] at htake
    have hdash : '-' ∈ node.take 5 := by rw [← htake]; simp
    exact absurd (hn '-' (List.mem_of_mem_take hdash)) (by decide)

/-- **`hlc_wid_validate_ex(s, 4, 6, WID_TIME_SEC)` は、接尾辞が `2^32 + 6` 文字の `longPadHlcWid` を
受け入れる。** 文法はこれを受け入れない。 -/
theorem hlcWidValidateEx_longPadHlcWid :
    hlcWidValidateEx longPadHlcWid 4 6 .sec = true ∧ ¬ HlcWidGrammar 4 6 .sec longPadHlcWid :=
  hlcWidValidateEx_of_wrapped_pad (List.length_replicate _ _) (fun _ hi => cAt_replicate (by omega))

end Wid
