import Wid.Order
import Wid.Roundtrip

/-!
# 書いた ID を読み直す

`wid_gen_next` と `hlc_wid_gen_next` が書いた ID を、`wid_validate_ex`・`wid_parse_ex`
（`hlc_wid_validate_ex`・`hlc_wid_parse_ex`）で読み直す。

tick が 9999 年に収まり `Z ≤ 33` なら、書いた ID は受け入れられ、読んだ欄は状態の `(tick, counter)`
の暦の欄と番号で、埋め草は `Z` 文字の小文字 16 進である（`widGenNext_parse`、`hlcWidGenNext_parse`）。

それを超えるところでは二つのことが起こる。

* `Z > 33` では `wid_random_hex` が `raw[(WID_MAX_Z / 2) + 1]` の外に書く（`widGenNext_max_Z`）。
* HLC のノードは `strncpy` で 63 文字に切られるので、64 文字以上のノードは読み直すと短い
  （`hlcWidGen_long_node`）。
-/

namespace Wid

/-! ## 埋め草 -/

theorem widIsLowerHex_hexChar : ∀ n : Nat, widIsLowerHex (widHexChars.getD n '0') = true
  | 0 | 1 | 2 | 3 | 4 | 5 | 6 | 7 | 8 | 9 | 10 | 11 | 12 | 13 | 14 | 15 => by decide
  | n + 16 => by
    have : widHexChars.length = 16 := by decide
    rw [List.getD_eq_getElem?_getD, List.getElem?_eq_none (by omega)]; decide

/-- `wid_random_hex` が書くのは小文字 16 進。 -/
theorem widRandomHex_lowerHex {rnd : Nat → UInt8} {len : Int} {pad : List Char}
    (h : widRandomHex rnd len = some pad) : ∀ c ∈ pad, widIsLowerHex c = true := by
  unfold widRandomHex at h
  split_ifs at h
  cases h
  simp only [List.mem_map]
  rintro c ⟨i, -, rfl⟩
  exact widIsLowerHex_hexChar _

/-- `wid_random_hex` が書くのは `len` 文字の小文字 16 進。`len ≤ 33` なら必ず書ける。 -/
theorem widRandomHex_spec (rnd : Nat → UInt8) {len : Int} (h0 : 0 ≤ len) (h1 : len ≤ 33) :
    ∃ pad, widRandomHex rnd len = some pad ∧ (pad.length : Int) = len ∧
      ∀ c ∈ pad, widIsLowerHex c = true := by
  have h : widRandomHex rnd len = some _ := if_neg (by simp only [widMaxZ]; omega)
  exact ⟨_, h, by have := (widRandomHex_length h).1; omega, widRandomHex_lowerHex h⟩

/-- 長さが `Z` の小文字 16 進の列は、`-` を前に付けて `wid_valid_suffix` を通る。 -/
theorem widValidSuffix_pad {pad : List Char} {Z : Int} (hZ : 0 < Z) (hl : (pad.length : Int) = Z)
    (hz : Z ≤ 64) (hx : ∀ c ∈ pad, widIsLowerHex c = true) : widValidSuffix ('-' :: pad) Z = true := by
  have hi : toInt32 pad.length = Z := by rw [toInt32_of_lt (by omega), hl]
  refine widValidSuffix_eq_true.mpr (.inr ⟨pad, rfl, hZ, hi, fun i hi' => ?_⟩)
  exact hx _ (cAt_mem (by omega))

/-! ## WID -/

/-- 状態と埋め草から、書いた ID を `wid_parse_ex` が読むはずの欄。 -/
def WidGen.parsed (g : WidGen) (pad : List Char) : ParsedWid :=
  let r := tickFields g.timeUnit g.lastTick
  ⟨none, r.year, r.month, r.day, r.hour, r.minute, r.second, r.millisecond, g.lastSeq,
    decide (0 < g.Z), pad⟩

/-- 範囲の中の状態から `wid_gen_next` が書く ID は、`WidGen.parsed` を書き戻したもの。 -/
theorem widGenEmit_eq_renderWid {g : WidGen} {rnd : Nat → UInt8} {s : List Char} (hg : g.Inv)
    (hs0 : 0 ≤ g.lastSeq) (ht : g.lastTick ≤ widMaxTick g.timeUnit)
    (h : widGenEmit g rnd widMaxLen = some s) :
    ∃ pad, (g.parsed pad).Valid g.W g.Z g.timeUnit ∧ s = renderWid g.W g.timeUnit (g.parsed pad) := by
  have hv := tickFields_valid hg.lastTick_nonneg ht
  have hs1 : g.lastSeq < 10 ^ g.W.toNat := by have := hg.lastSeq_le; rw [hg.maxSeq_eq] at this; omega
  have hseq : cSnprintf 64 (fmtZeroPad g.W.toNat g.lastSeq) = fmtZeroPad g.W.toNat g.lastSeq := by
    rw [fmtZeroPad_of_lt (by have := hg.W_pos; omega) hs0 hs1, cSnprintf_of_lt (by simp; have := hg.W_le; omega)]
  have hts := widFmtTick_eq hg.lastTick_nonneg ht
  have hflen : (fmtZeroPad g.W.toNat g.lastSeq).length = g.W.toNat := by
    rw [fmtZeroPad_of_lt (by have := hg.W_pos; omega) hs0 hs1]; simp
  have hfit : ∀ suf : List Char, suf.length ≤ 34 →
      (renderTimestamp g.timeUnit (tickFields g.timeUnit g.lastTick) ++
        '.' :: (fmtZeroPad g.W.toNat g.lastSeq ++ 'Z' :: suf)).length < widMaxLen := by
    intro suf hs; have := length_renderTimestamp_le hv; have := hg.W_le
    simp [widMaxLen, hflen]; omega
  have hT : (g.parsed []).timestamp = tickFields g.timeUnit g.lastTick := rfl
  unfold widGenEmit at h
  simp only [hts, hseq] at h
  split_ifs at h with hZ
  · obtain ⟨pad, hpad, rfl⟩ := Option.map_eq_some'.mp h
    have hp := widRandomHex_length hpad
    refine ⟨pad, ⟨hT ▸ hv, hs0, hs1, .inr ⟨by simp [WidGen.parsed, hZ], hZ, by simp [WidGen.parsed]; omega,
      widRandomHex_lowerHex hpad⟩⟩, ?_⟩
    rw [cSnprintf_of_lt (hfit ('-' :: pad) (by simp; omega))]
    simp [renderWid, WidGen.parsed, hZ, ParsedWid.timestamp]
  · cases h
    refine ⟨[], ⟨hT ▸ hv, hs0, hs1, .inl ⟨by simp [WidGen.parsed, hZ], rfl⟩⟩, ?_⟩
    rw [cSnprintf_of_lt (hfit [] (by simp))]
    simp [renderWid, WidGen.parsed, hZ, ParsedWid.timestamp]

/-- `wid_gen_next` の呼び出しは、前半の一歩と後半の書き出しに分かれる。 -/
theorem widGenNext_eq_some {g g' : WidGen} {now : Int} {rnd : Nat → UInt8} {outLen : Nat}
    {out : List Char} (h : widGenNext g now rnd outLen = some (g', out)) :
    widGenAdvance g now = some g' ∧ widGenEmit g' rnd outLen = some out := by
  obtain ⟨g1, ha, he⟩ := Option.bind_eq_some.mp h
  obtain ⟨out', he', hr⟩ := Option.map_eq_some'.mp he
  cases hr
  exact ⟨ha, he'⟩

/-- **`Z ≤ 33` の WID の生成器が書いた ID は受け入れられ、読むと状態の欄になる。**
`wid_gen_next` の一回の呼び出しについて、新しい tick が 9999 年に収まる限り。 -/
theorem widGenNext_parse {g g' : WidGen} {now : Int} {rnd : Nat → UInt8} {s : List Char}
    (hg : g.Inv) (h : widGenNext g now rnd widMaxLen = some (g', s))
    (ht : g'.lastTick ≤ widMaxTick g.timeUnit) :
    widValidateEx s g.W g.Z g.timeUnit = true ∧ ∃ pad,
      widParseEx s g.W g.Z g.timeUnit = (true, { g'.parsed pad with raw := some s }) ∧
      (g'.parsed pad).Valid g.W g.Z g.timeUnit := by
  obtain ⟨ha, he'⟩ := widGenNext_eq_some h
  obtain ⟨hi, hfr, h0, -, -⟩ := widGenAdvance_spec hg ha
  have hW : g'.W = g.W := by rw [hfr]
  have hZ : g'.Z = g.Z := by rw [hfr]
  have hu : g'.timeUnit = g.timeUnit := by rw [hfr]
  obtain ⟨pad, hv, rfl⟩ := widGenEmit_eq_renderWid hi h0 (hu ▸ ht) he'
  simp only [hW, hZ, hu] at hv ⊢
  have hp := widParseEx_renderWid hg.W_pos hg.W_le hg.Z_nonneg hg.Z_le hv
  have hok : (widParseEx (renderWid g.W g.timeUnit (g'.parsed pad)) g.W g.Z g.timeUnit).1 = true := by
    rw [hp]
  refine ⟨?_, pad, hp, hv⟩
  by_contra hn
  rw [widParseEx_of_not_valid (by simpa using hn)] at hok
  cases hok

/-- `Z ≤ 33` で、時刻が `INT64_MAX` より小さければ、`wid_gen_next` は必ず ID を書く。 -/
theorem widGenNext_isSome {g : WidGen} {now : Int} (hg : g.Inv) (hZ : g.Z ≤ 33)
    (hnow : max now g.lastTick < int64Max) (rnd : Nat → UInt8) :
    ∃ r, widGenNext g now rnd widMaxLen = some r := by
  obtain ⟨g1, ha⟩ := widGenAdvance_isSome hg hnow
  obtain ⟨-, hfr, -⟩ := widGenAdvance_spec hg ha
  have hZ1 : g1.Z = g.Z := by rw [hfr]
  obtain ⟨pad, hpad, -⟩ := widRandomHex_spec rnd (hZ1 ▸ hg.Z_nonneg) (hZ1 ▸ hZ)
  by_cases hz : g1.Z > 0 <;> simp [widGenNext, widGenEmit, ha, hpad, hz]

/-- `Z = 64`（`WID_MAX_Z`）の生成器では、`wid_gen_next` はどの時刻と乱数でも
`wid_random_hex(pad, 64)` で `raw[33]` の外に書く。 -/
theorem widGenNext_max_Z (now : Int) (rnd : Nat → UInt8) :
    widGenNext (widGenInitEx 4 64 .sec) now rnd widMaxLen = none := by
  unfold widGenNext
  cases ha : widGenAdvance (widGenInitEx 4 64 .sec) now with
  | none => rfl
  | some g1 =>
    obtain ⟨-, hfr, -⟩ := widGenAdvance_spec (widGenInitEx_inv 4 64 .sec) ha
    have hZ : g1.Z = 64 := by rw [hfr]; rfl
    simp [widGenEmit, widRandomHex, hZ, widMaxZ]

/-! ## HLC-WID -/

/-- 範囲の中の HLC の状態から `hlc_wid_gen_next` が書く ID の形：時刻、`.`、`W` 桁の `lc`、`Z-`、
ノード、接尾辞（無いか `-` と `Z` 文字の小文字 16 進）。 -/
theorem hlcWidGenEmit_shape {g : HlcWidGen} {rnd : Nat → UInt8} {s : List Char} (hg : g.Inv)
    (hn : g.node.length ≤ 63) (ht : g.pt ≤ widMaxTick g.timeUnit)
    (h : hlcWidGenEmit g rnd widMaxLen = some s) :
    ∃ suf, widValidSuffix suf g.Z = true ∧ suf.length ≤ 34 ∧
      s = renderTimestamp g.timeUnit (tickFields g.timeUnit g.pt) ++
        '.' :: (fixedDigits g.W.toNat g.lc.toNat ++ 'Z' :: '-' :: (g.node ++ suf)) := by
  have hv := tickFields_valid hg.pt_nonneg ht
  have hl : g.lc < 10 ^ g.W.toNat := by have := hg.lc_le; rw [hg.maxLc_eq] at this; omega
  have hseq : cSnprintf 64 (fmtZeroPad g.W.toNat g.lc) = fixedDigits g.W.toNat g.lc.toNat := by
    rw [fmtZeroPad_of_lt (by have := hg.W_pos; omega) hg.lc_nonneg hl,
      cSnprintf_of_lt (by simp; have := hg.W_le; omega)]
  have hlen := length_renderTimestamp_le hv
  have hW := hg.W_le
  unfold hlcWidGenEmit at h
  simp only [widFmtTick_eq hg.pt_nonneg ht, hseq] at h
  split_ifs at h with hZ
  · obtain ⟨pad, hpad, rfl⟩ := Option.map_eq_some'.mp h
    have hp := widRandomHex_length hpad
    refine ⟨'-' :: pad, widValidSuffix_pad hZ (by omega) hg.Z_le (widRandomHex_lowerHex hpad),
      by simp; omega, ?_⟩
    rw [cSnprintf_of_lt (by have := hg.W_pos; simp [widMaxLen]; omega)]
  · cases h
    refine ⟨[], rfl, by simp, ?_⟩
    rw [cSnprintf_of_lt (by have := hg.W_pos; simp [widMaxLen]; omega)]
    simp

/-- **HLC の状態から書いた ID は受け入れられ、読むとノード、`lc`、`pt` の暦の欄になる。**
ノードが 63 文字以下の正しいノードで、`pt` が 9999 年に収まる限り。 -/
theorem hlcWidGenEmit_parse {g : HlcWidGen} {rnd : Nat → UInt8} {s : List Char} (hg : g.Inv)
    (hn0 : g.node ≠ []) (hn : g.node.length ≤ 63) (hnc : ∀ c ∈ g.node, widIsNodeChar c = true)
    (ht : g.pt ≤ widMaxTick g.timeUnit) (h : hlcWidGenEmit g rnd widMaxLen = some s) :
    hlcWidValidateEx s g.W g.Z g.timeUnit = true ∧ (hlcWidParseEx s g.W g.Z g.timeUnit).1 = true ∧
      (hlcWidParseEx s g.W g.Z g.timeUnit).2.node = g.node ∧
      (hlcWidParseEx s g.W g.Z g.timeUnit).2.logicalCounter = g.lc ∧
      (hlcWidParseEx s g.W g.Z g.timeUnit).2.timestamp = tickFields g.timeUnit g.pt := by
  obtain ⟨suf, hsuf, hsl, hs⟩ := hlcWidGenEmit_shape hg hn ht h
  have hv := tickFields_valid hg.pt_nonneg ht
  have hl : g.lc.toNat < 10 ^ g.W.toNat := by
    have := hg.lc_le; rw [hg.maxLc_eq] at this
    have : ((10 ^ g.W.toNat : Nat) : Int) = 10 ^ g.W.toNat := by push_cast; rfl
    have := hg.lc_nonneg; omega
  have hpos : 0 < g.node.length := List.length_pos.mpr hn0
  have hslen : s.length < 2 ^ 31 := by
    rw [hs]; have := length_renderTimestamp_le hv; have := hg.W_le; simp; omega
  have hval : hlcWidValidateEx s g.W g.Z g.timeUnit = true := by
    refine hlcWidValidateEx_eq_true.mpr ⟨⟨hg.W_pos, hg.Z_nonneg⟩, ⟨hg.W_le, hg.Z_le⟩, ?_,
      _, _, g.node, suf, hv, by simp, fun c hc => widIsDigit_of_mem_fixedDigits hc, hs, hnc,
      by rw [toInt32_of_lt (by omega)]; omega, hsuf⟩
    rw [toInt32_of_lt hslen, hs, List.length_append, length_renderTimestamp hv]
    simp; omega
  refine ⟨hval, ?_⟩
  rw [hlcWidParseEx_of_shape hval hv (by simp) (fun c hc => widIsDigit_of_mem_fixedDigits hc) hnc
    hsuf hs, if_neg (by unfold widNodeSize; omega), decValue_fixedDigits_of_lt hl,
    Int.toNat_of_nonneg hg.lc_nonneg]
  cases suf with
  | nil => simp [ParsedHlcWid.timestamp]
  | cons c pad =>
    have : ¬ (pad.length : Int) > widMaxZ := by simp at hsl; unfold widMaxZ; omega
    simp [this, ParsedHlcWid.timestamp]

theorem widValidNode_eq_true {node : List Char} :
    widValidNode node = true ↔ node ≠ [] ∧ ∀ c ∈ node, widIsNodeChar c = true := by
  unfold widValidNode; split <;> simp_all

theorem hlcWidGenInitEx_W_Z {node : List Char} {W Z : Int} {u : WidTimeUnit} {g : HlcWidGen}
    (h : hlcWidGenInitEx node W Z u = some g) (hW1 : 1 ≤ W) (hW2 : W ≤ 18) (hZ0 : 0 ≤ Z)
    (hZ1 : Z ≤ 64) : g.W = W ∧ g.Z = Z := by
  unfold hlcWidGenInitEx at h
  by_cases hv : widValidNode node = true
  · simp only [hv, Bool.not_true, Bool.false_eq_true, if_false, Option.some.injEq] at h
    subst h
    simp only [widDefaultW, widMaxW, widMaxZ]
    constructor <;> split_ifs <;> omega
  · simp [hv] at h

/-- HLC の生成器が書いた ID は受け入れられ、読むと `hlc_wid_gen_init_ex` に渡したノードの
先頭 63 文字、生成器の `lc`、`pt` の暦の欄になる。 -/
theorem hlcWidGen_parse (W Z : Int) (u : WidTimeUnit) (node : List Char) (hW1 : 1 ≤ W)
    (hW2 : W ≤ 18) (hZ0 : 0 ≤ Z) (hZ1 : Z ≤ 33) :
    ∀ g calls rs, hlcWidGenInitEx node W Z u = some g → hlcCallRun g calls = some rs →
      ∀ r ∈ rs, ∀ s, r.2 = some s → r.1.pt ≤ widMaxTick u →
        hlcWidValidateEx s W Z u = true ∧ (hlcWidParseEx s W Z u).1 = true ∧
        (hlcWidParseEx s W Z u).2.node = node.take 63 ∧
        (hlcWidParseEx s W Z u).2.logicalCounter = r.1.lc ∧
        (hlcWidParseEx s W Z u).2.timestamp = tickFields u r.1.pt := by
  intro g calls rs hi h r hr s hs ht
  obtain ⟨hvn, hn, hu, -, -, hg⟩ := hlcWidGenInitEx_eq_some hi
  obtain ⟨hW, hZ⟩ := hlcWidGenInitEx_W_Z hi hW1 hW2 hZ0 (by omega)
  obtain ⟨ia, wa, za, ua, na, -, ka⟩ := (hlcCallRun_spec hg h).1 r hr
  obtain ⟨-, rnd, he⟩ := ka s hs
  obtain ⟨hne, hnc⟩ := widValidNode_eq_true.mp hvn
  have hnode : r.1.node = node.take 63 := na.trans hn
  have := hlcWidGenEmit_parse ia (by rw [hnode]; cases node <;> simp_all)
    (by rw [hnode]; simp) (by rw [hnode]; exact fun c hc => hnc c (List.mem_of_mem_take hc))
    (by rw [ua, hu]; exact ht) he
  rwa [wa, za, ua, hW, hZ, hu, hnode] at this

/-- 例に使うノード。 -/
def sampleNode : List Char := "node01".toList

/-- `hlc_wid_gen_init_ex(gen, "node01", 4, 6, WID_TIME_SEC)` のあとの状態。 -/
def sampleHlcGen : HlcWidGen := ⟨4, 6, .sec, sampleNode, 0, 0, 9999⟩

/-- その生成器が時刻 0 で書く最初の ID（乱数のバイトはすべて 0）。 -/
def sampleHlcId : List Char := "19700101T000000.0001Z-node01-000000".toList

/-- `node01`、`W = 4`、`Z = 6`、秒の生成器が時刻 0 で書く最初の ID。 -/
theorem hlcWidGen_parse_node01 :
    hlcWidValidateEx sampleHlcId 4 6 .sec = true ∧ (hlcWidParseEx sampleHlcId 4 6 .sec).1 = true ∧
      (hlcWidParseEx sampleHlcId 4 6 .sec).2.node = sampleNode.take 63 ∧
      (hlcWidParseEx sampleHlcId 4 6 .sec).2.logicalCounter = 1 ∧
      (hlcWidParseEx sampleHlcId 4 6 .sec).2.timestamp = tickFields .sec 0 :=
  hlcWidGen_parse 4 6 .sec sampleNode (by decide) (by decide) (by decide) (by decide) sampleHlcGen
    [.next 0 fun _ => 0] [({ sampleHlcGen with lc := 1 }, some sampleHlcId)] (by decide) (by decide) _
    (List.mem_singleton_self _) _ rfl (by decide)

/-- 64 文字のノード。`hlc_wid_gen_init_ex` は受け入れ、`strncpy` で先頭 63 文字を写す。 -/
def longNode : List Char := List.replicate 64 'a'

/-- 64 文字のノードで作った生成器が書いた ID を読むと、ノードは渡したものより短い。 -/
theorem hlcWidGen_long_node :
    ∃ g g' s, hlcWidGenInitEx longNode 4 0 .sec = some g ∧
      hlcWidGenNext g 0 (fun _ => 0) widMaxLen = some (g', s) ∧
      (hlcWidParseEx s 4 0 .sec).1 = true ∧ (hlcWidParseEx s 4 0 .sec).2.node ≠ longNode :=
  ⟨⟨4, 0, .sec, List.replicate 63 'a', 0, 0, 9999⟩, ⟨4, 0, .sec, List.replicate 63 'a', 0, 1, 9999⟩,
    "19700101T000000.0001Z-".toList ++ List.replicate 63 'a', by decide, by decide, by decide,
    by decide⟩

end Wid
