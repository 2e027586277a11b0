import Wid.Grammar

/-!
# 読み取りと書き戻し

`wid_parse_ex`・`hlc_wid_parse_ex` が読んだ欄を ID の形に書き戻すと元の文字列に戻り、
正しい欄を書いた ID を読むとその欄が返ることを示す。

* WID（`widParseEx_roundtrip`）：2^31 文字に満たない文字列では、読み取りは検査と同じ答えを返す。
  失敗すれば `*out` は零のまま、成功すれば書き戻しが元の文字列になる。`W`・`Z` が検査の範囲に
  あれば、正しい欄の書き戻しはその欄として読める。範囲の外では検査が拒む
  （`widParseEx_renderWid_W_zero`）。
* HLC-WID（`hlcWidParseEx_roundtrip`）：読み取りが成功するのは、検査が通り、ノードが
  `node[64]` に入るときに限る。検査を通ってもノードが 64 文字以上なら失敗し、時刻の欄と
  `logical_counter` は書かれたまま残る（`hlcWidParseEx_long_node`）。

どちらも 2^32 文字を超える接尾辞では `(int)strlen` のために検査と食い違う（`Wid.Grammar`）。
-/

namespace Wid

/-! ## 書き戻し -/

/-- 読んだ WID の欄を書き戻す：時刻部、`.`、`sequence` を `W` 桁、`Z`、`has_padding` なら `-` と
`padding`。 -/
def renderWid (W : Int) (u : WidTimeUnit) (p : ParsedWid) : List Char :=
  renderTimestamp u p.timestamp ++ '.' :: (fmtZeroPad W.toNat p.sequence ++
    'Z' :: if p.hasPadding then '-' :: p.padding else [])

/-- 書き戻して読み直せる欄：正しい時刻、`W` 桁に入る `sequence`、接尾辞は無いか `Z` 個の小文字 16 進。 -/
structure ParsedWid.Valid (W Z : Int) (u : WidTimeUnit) (p : ParsedWid) : Prop where
  timestamp : p.timestamp.Valid u
  sequence_nonneg : 0 ≤ p.sequence
  sequence_lt : p.sequence < 10 ^ W.toNat
  padding : (p.hasPadding = false ∧ p.padding = []) ∨
    (p.hasPadding = true ∧ 0 < Z ∧ (p.padding.length : Int) = Z ∧ ∀ c ∈ p.padding, widIsLowerHex c = true)

/-- 読んだ HLC-WID の欄を書き戻す。 -/
def renderHlcWid (W : Int) (u : WidTimeUnit) (p : ParsedHlcWid) : List Char :=
  renderTimestamp u p.timestamp ++ '.' :: (fmtZeroPad W.toNat p.logicalCounter ++
    'Z' :: '-' :: (p.node ++ if p.hasPadding then '-' :: p.padding else []))

/-- `Z-` のあと、次の `-` までの列。 -/
def nodeRun (W : Int) (u : WidTimeUnit) (s : List Char) : List Char :=
  (s.drop (widTimestampLen u + 1 + W.toNat + 2)).takeWhile (· != '-')

theorem fmtZeroPad_decValue {seq : List Char} (hdig : ∀ c ∈ seq, widIsDigit c = true)
    (hpos : 0 < seq.length) : fmtZeroPad seq.length (decValue seq) = seq := by
  rw [fmtZeroPad_of_lt hpos (by omega) (by exact_mod_cast decValue_lt hdig), Int.toNat_ofNat,
    ← digits_eq_fixedDigits hdig]

theorem timestamp_eta (r : WidTimestamp) :
    (⟨r.year, r.month, r.day, r.hour, r.minute, r.second, r.millisecond⟩ : WidTimestamp) = r := rfl

/-! ## WID -/

theorem widParseEx_of_not_valid {s : List Char} {W Z : Int} {u : WidTimeUnit}
    (h : widValidateEx s W Z u = false) : widParseEx s W Z u = (false, ParsedWid.zero) := by
  simp [widParseEx, h]

/-- 2^31 文字に満たない文字列を検査が受け入れれば、読み取りは成功し、書き戻すと元に戻る。 -/
theorem widParseEx_of_valid {s : List Char} {W Z : Int} {u : WidTimeUnit} (hs : s.length < 2 ^ 31)
    (hv : widValidateEx s W Z u = true) :
    (widParseEx s W Z u).1 = true ∧ renderWid W u (widParseEx s W Z u).2 = s := by
  obtain ⟨⟨hW, -⟩, ⟨-, hZ⟩, -, r, seq, suf, hr, hseq, hdig, hs', hsuf⟩ := widValidateEx_eq_true.mp hv
  have hlen : suf.length < 2 ^ 31 := by rw [hs'] at hs; simp at hs; omega
  have hseq' : fmtZeroPad W.toNat (decValue seq) = seq := hseq ▸ fmtZeroPad_decValue hdig (by omega)
  rw [widParseEx_of_shape hv hr hseq hdig hs']
  rcases (widValidSuffix_iff hlen).mp hsuf with rfl | ⟨-, pad, rfl, hpad, -⟩
  · simp [renderWid, ParsedWid.timestamp, timestamp_eta, hseq', hs']
  · have : ¬ ((pad.length : Int) > widMaxZ) := by simp only [widMaxZ]; omega
    simp [this, renderWid, ParsedWid.timestamp, timestamp_eta, hseq', hs']

/-- 正しい欄を書き戻した ID は、`W`・`Z` が検査の範囲にあれば、その欄として読める。 -/
theorem widParseEx_renderWid {W Z : Int} {u : WidTimeUnit} {p : ParsedWid} (hW1 : 1 ≤ W)
    (hW2 : W ≤ 18) (hZ1 : 0 ≤ Z) (hZ2 : Z ≤ 64) (hp : p.Valid W Z u) :
    widParseEx (renderWid W u p) W Z u = (true, { p with raw := some (renderWid W u p) }) := by
  have hq0 := hp.sequence_nonneg
  have hq1 : p.sequence.toNat < 10 ^ W.toNat := by
    have := hp.sequence_lt
    have h10 : ((10 ^ W.toNat : Nat) : Int) = 10 ^ W.toNat := by push_cast; rfl
    omega
  have hsufG : SuffixGrammar Z (if p.hasPadding then '-' :: p.padding else []) := by
    rcases hp.padding with ⟨hf, -⟩ | ⟨ht, hZ0, hl, hx⟩
    · simp [hf, SuffixGrammar]
    · exact .inr ⟨hZ0, p.padding, by simp [ht], hl, hx⟩
  have hsufL : (if p.hasPadding then '-' :: p.padding else []).length ≤ 65 := by
    rcases hp.padding with ⟨hf, -⟩ | ⟨ht, -, hl, -⟩
    · simp [hf]
    · simp [ht]; omega
  have hs' : renderWid W u p = renderTimestamp u p.timestamp ++ '.' ::
      (fixedDigits W.toNat p.sequence.toNat ++ 'Z' :: if p.hasPadding then '-' :: p.padding else []) := by
    rw [renderWid, fmtZeroPad_of_lt (by omega) hq0 hp.sequence_lt]
  have hdig : ∀ c ∈ fixedDigits W.toNat p.sequence.toNat, widIsDigit c = true :=
    fun c hc => widIsDigit_of_mem_fixedDigits hc
  have hlen : (renderWid W u p).length ≤ 18 + 1 + 18 + 1 + 65 := by
    rw [hs']; have := length_renderTimestamp_le hp.timestamp; simp; omega
  have hv : widValidateEx (renderWid W u p) W Z u = true := by
    refine widValidateEx_eq_true.mpr ⟨⟨by omega, hZ1⟩, ⟨hW2, hZ2⟩, ?_, _, _, _, hp.timestamp,
      length_fixedDigits _ _, hdig, hs', (widValidSuffix_iff (by omega)).mpr hsufG⟩
    rw [toInt32_of_lt (by omega), hs']
    simp [length_renderTimestamp hp.timestamp]; omega
  rw [widParseEx_of_shape hv hp.timestamp (length_fixedDigits _ _) hdig hs',
    decValue_fixedDigits_of_lt hq1, Int.toNat_of_nonneg hq0]
  obtain ⟨raw, y, mo, d, h, mi, se, ms, q, hpad, pad⟩ := p
  rcases hp.padding with ⟨hf, hnil⟩ | ⟨ht, -, hl, -⟩
  · simp only at hf hnil; subst hf hnil; rfl
  · simp only at ht hl; subst ht
    have : ¬ ((pad.length : Int) > widMaxZ) := by simp only [widMaxZ]; omega
    simp [this, ParsedWid.timestamp]

/-- **WID の読み取りと書き戻し。** 2^31 文字に満たない文字列では、`wid_parse_ex` は
`wid_validate_ex` と同じ答えを返し、失敗すれば `*out` は零、成功すれば欄の書き戻しが元の文字列に
なる。`W`・`Z` が検査の範囲にあれば、正しい欄の書き戻しはその欄として読める。 -/
theorem widParseEx_roundtrip (W Z : Int) (u : WidTimeUnit) :
    (∀ s : List Char, s.length < 2 ^ 31 →
      (widParseEx s W Z u).1 = widValidateEx s W Z u ∧
      ((widParseEx s W Z u).1 = false → (widParseEx s W Z u).2 = ParsedWid.zero) ∧
      ((widParseEx s W Z u).1 = true → renderWid W u (widParseEx s W Z u).2 = s)) ∧
    (1 ≤ W → W ≤ 18 → 0 ≤ Z → Z ≤ 64 → ∀ p : ParsedWid, p.Valid W Z u →
      widParseEx (renderWid W u p) W Z u = (true, { p with raw := some (renderWid W u p) })) := by
  refine ⟨fun s hs => ?_, fun hW1 hW2 hZ1 hZ2 p hp => widParseEx_renderWid hW1 hW2 hZ1 hZ2 hp⟩
  cases hv : widValidateEx s W Z u with
  | false => simp [widParseEx_of_not_valid hv]
  | true => obtain ⟨h1, h2⟩ := widParseEx_of_valid hs hv; simp [h1, h2]

/-- 1970-01-01 00:00:00、`sequence` 0、接尾辞なしの欄。 -/
def epochParsed : ParsedWid := ⟨none, 1970, 1, 1, 0, 0, 0, 0, 0, false, []⟩

theorem epochParsed_valid (W Z : Int) : epochParsed.Valid W Z .sec :=
  ⟨by constructor <;> decide, le_rfl, by
    show (0 : Int) < 10 ^ W.toNat; exact_mod_cast Nat.pos_pow_of_pos W.toNat (by decide : 0 < 10),
    .inl ⟨rfl, rfl⟩⟩

/-- 例：`20260212T091530.0042Z-0a1b2c` と、1970 年の欄の書き戻し。 -/
def sampleWid : List Char := "20260212T091530.0042Z-0a1b2c".toList

theorem widParseEx_roundtrip_sample :
    ((widParseEx sampleWid 4 6 .sec).1 = widValidateEx sampleWid 4 6 .sec ∧
      ((widParseEx sampleWid 4 6 .sec).1 = false → (widParseEx sampleWid 4 6 .sec).2 = ParsedWid.zero) ∧
      ((widParseEx sampleWid 4 6 .sec).1 = true →
        renderWid 4 .sec (widParseEx sampleWid 4 6 .sec).2 = sampleWid)) ∧
    widParseEx (renderWid 4 .sec epochParsed) 4 6 .sec =
      (true, { epochParsed with raw := some (renderWid 4 .sec epochParsed) }) :=
  ⟨(widParseEx_roundtrip 4 6 .sec).1 sampleWid (by decide),
    (widParseEx_roundtrip 4 6 .sec).2 (by decide) (by decide) (by decide) (by decide) epochParsed
      (epochParsed_valid 4 6)⟩

/-- `W = 0` では、`sequence` が `[0, 10^0 - 1]` にある正しい欄の書き戻しも、検査に拒まれて
読めない。 -/
theorem widParseEx_renderWid_W_zero :
    epochParsed.Valid 0 0 .sec ∧ widParseEx (renderWid 0 .sec epochParsed) 0 0 .sec ≠
      (true, { epochParsed with raw := some (renderWid 0 .sec epochParsed) }) := by
  refine ⟨epochParsed_valid 0 0, fun h => ?_⟩
  have := congrArg Prod.fst h
  rw [widParseEx_of_not_valid (by simp [widValidateEx])] at this
  cases this

/-! ## HLC-WID -/

theorem hlcWidParseEx_of_not_valid {s : List Char} {W Z : Int} {u : WidTimeUnit}
    (h : hlcWidValidateEx s W Z u = false) : hlcWidParseEx s W Z u = (false, ParsedHlcWid.zero) := by
  simp [hlcWidParseEx, h]

/-- ノード文字の列の後ろが終わりか `-` なら、`-` までの列はそのノードである。 -/
theorem takeWhile_node {node suf : List Char} (hn : ∀ c ∈ node, widIsNodeChar c = true)
    (hsuf : ∀ c rest, suf = c :: rest → c = '-') : (node ++ suf).takeWhile (· != '-') = node := by
  induction node with
  | nil => cases suf with
    | nil => rfl
    | cons c rest => simp [hsuf c rest rfl]
  | cons c node ih =>
    have hc : c ≠ '-' := fun h => absurd (hn c (by simp)) (by simp [h])
    simp [List.takeWhile_cons, hc, ih (fun x hx => hn x (by simp [hx]))]

theorem drop_hlcHead {u : WidTimeUnit} {r : WidTimestamp} (hr : r.Valid u) (seq t : List Char) :
    (renderTimestamp u r ++ '.' :: (seq ++ 'Z' :: '-' :: t)).drop
      (widTimestampLen u + 1 + seq.length + 2) = t := by
  rw [show widTimestampLen u + 1 + seq.length + 2 = widTimestampLen u + 1 + seq.length + 1 + 1 by omega,
    ← List.drop_drop, drop_idHead hr]
  rfl

/-- 2^31 文字に満たない文字列を検査が受け入れれば、読み取りはノードが `node[64]` に入るときに限り
成功し、そのときノードは `Z-` のあとの `-` までの列、接尾辞はその `-` の後ろで、書き戻すと元に戻る。 -/
theorem hlcWidParseEx_of_valid {s : List Char} {W Z : Int} {u : WidTimeUnit} (hs : s.length < 2 ^ 31)
    (hv : hlcWidValidateEx s W Z u = true) :
    ((hlcWidParseEx s W Z u).1 = true ↔ (nodeRun W u s).length < widNodeSize) ∧
    ((hlcWidParseEx s W Z u).1 = true →
      (hlcWidParseEx s W Z u).2.node = nodeRun W u s ∧
      ((hlcWidParseEx s W Z u).2.hasPadding = true → (hlcWidParseEx s W Z u).2.padding =
        s.drop (widTimestampLen u + 1 + W.toNat + 2 + (nodeRun W u s).length + 1)) ∧
      renderHlcWid W u (hlcWidParseEx s W Z u).2 = s) := by
  obtain ⟨⟨hW, -⟩, ⟨-, hZ⟩, -, r, seq, node, suf, hr, hseq, hdig, hs', hn, hpos, hsuf⟩ :=
    hlcWidValidateEx_eq_true.mp hv
  have hdrop : s.drop (widTimestampLen u + 1 + W.toNat + 2) = node ++ suf := by
    rw [hs', ← hseq, drop_hlcHead hr]
  have hnode : nodeRun W u s = node := by
    rw [nodeRun, hdrop, takeWhile_node hn (widValidSuffix_head hsuf)]
  have hlen : node.length + suf.length < 2 ^ 31 := by rw [hs'] at hs; simp at hs; omega
  rw [toInt32_of_lt (by omega)] at hpos
  have hseq' : fmtZeroPad W.toNat (decValue seq) = seq := hseq ▸ fmtZeroPad_decValue hdig (by omega)
  rw [hnode, hlcWidParseEx_of_shape hv hr hseq hdig hn hsuf hs']
  by_cases hbig : node.length < widNodeSize
  · have hne : ¬ (node = [] ∨ widNodeSize ≤ node.length) := by
      rw [← List.length_eq_zero]; omega
    rcases (widValidSuffix_iff (by omega)).mp hsuf with rfl | ⟨-, pad, rfl, hpad, -⟩
    · simp [hne, hbig, renderHlcWid, ParsedHlcWid.timestamp, timestamp_eta, hseq', hs']
    · have : ¬ ((pad.length : Int) > widMaxZ) := by simp only [widMaxZ]; omega
      have hd : s.drop (widTimestampLen u + 1 + W.toNat + 2 + node.length + 1) = pad := by
        rw [← List.drop_drop, ← List.drop_drop, hdrop]; simp
      rw [hd]
      simp [hne, hbig, this, renderHlcWid, ParsedHlcWid.timestamp, timestamp_eta, hseq', hs']
  · have hne : node = [] ∨ widNodeSize ≤ node.length := .inr (by omega)
    simp [hne, hbig]

/-- **HLC-WID の読み取りと書き戻し。** 2^31 文字に満たない文字列では、`hlc_wid_parse_ex` が成功する
のは、`hlc_wid_validate_ex` が受け入れ、`Z-` のあとのノードが `node[64]` に入る（64 文字未満の）
ときに限る。検査が拒めば `*out` は零。成功すれば、ノードは `Z-` のあとの次の `-` までの列、
接尾辞はその `-` の後ろで、欄を書き戻すと元の文字列になる。 -/
theorem hlcWidParseEx_roundtrip (s : List Char) (W Z : Int) (u : WidTimeUnit) (hs : s.length < 2 ^ 31) :
    ((hlcWidParseEx s W Z u).1 = true ↔
      hlcWidValidateEx s W Z u = true ∧ (nodeRun W u s).length < widNodeSize) ∧
    (hlcWidValidateEx s W Z u = false → (hlcWidParseEx s W Z u).2 = ParsedHlcWid.zero) ∧
    ((hlcWidParseEx s W Z u).1 = true →
      (hlcWidParseEx s W Z u).2.node = nodeRun W u s ∧
      ((hlcWidParseEx s W Z u).2.hasPadding = true → (hlcWidParseEx s W Z u).2.padding =
        s.drop (widTimestampLen u + 1 + W.toNat + 2 + (nodeRun W u s).length + 1)) ∧
      renderHlcWid W u (hlcWidParseEx s W Z u).2 = s) := by
  cases hv : hlcWidValidateEx s W Z u with
  | false => simp [hlcWidParseEx_of_not_valid hv]
  | true =>
    obtain ⟨h1, h2⟩ := hlcWidParseEx_of_valid hs hv
    exact ⟨by simpa using h1, nofun, h2⟩

/-- 例：`20260212T091530.0042Z-node01-0a1b2c`。 -/
def sampleHlcWid : List Char := "20260212T091530.0042Z-node01-0a1b2c".toList

theorem hlcWidParseEx_roundtrip_sample :
    ((hlcWidParseEx sampleHlcWid 4 6 .sec).1 = true ↔
      hlcWidValidateEx sampleHlcWid 4 6 .sec = true ∧ (nodeRun 4 .sec sampleHlcWid).length < widNodeSize) ∧
    (hlcWidValidateEx sampleHlcWid 4 6 .sec = false →
      (hlcWidParseEx sampleHlcWid 4 6 .sec).2 = ParsedHlcWid.zero) ∧
    ((hlcWidParseEx sampleHlcWid 4 6 .sec).1 = true →
      (hlcWidParseEx sampleHlcWid 4 6 .sec).2.node = nodeRun 4 .sec sampleHlcWid ∧
      ((hlcWidParseEx sampleHlcWid 4 6 .sec).2.hasPadding = true →
        (hlcWidParseEx sampleHlcWid 4 6 .sec).2.padding = sampleHlcWid.drop
          (widTimestampLen .sec + 1 + (4 : Int).toNat + 2 + (nodeRun 4 .sec sampleHlcWid).length + 1)) ∧
      renderHlcWid 4 .sec (hlcWidParseEx sampleHlcWid 4 6 .sec).2 = sampleHlcWid) :=
  hlcWidParseEx_roundtrip sampleHlcWid 4 6 .sec (by decide)

/-- 64 文字のノードを持つ HLC-WID。 -/
def longNodeHlcWid : List Char := "20260212T091530.0042Z-".toList ++ List.replicate 64 'a'

/-- **検査は 64 文字のノードを受け入れるが、`hlc_wid_parse_ex` は `node[64]` に入らないので失敗し、
`*out` には時刻の欄と `logical_counter` が残る。** -/
theorem hlcWidParseEx_long_node :
    hlcWidValidateEx longNodeHlcWid 4 0 .sec = true ∧ (hlcWidParseEx longNodeHlcWid 4 0 .sec).1 = false ∧
      (hlcWidParseEx longNodeHlcWid 4 0 .sec).2 ≠ ParsedHlcWid.zero := by
  decide

end Wid
