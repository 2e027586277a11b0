import Wid.Emit

/-!
# 生成器の局所の配列

`wid_gen_next`・`hlc_wid_gen_next` は、時刻を `ts[24]` に、番号を `seq_str[64]` に、埋め草を
`pad[WID_MAX_Z + 1]` に書き、`wid_random_hex` は乱数のバイトを `raw[(WID_MAX_Z / 2) + 1]`
（33 バイト）に読む。最後に `snprintf(out, WID_MAX_LEN, ...)` で ID を書く。

* `widGenEmit_full`・`hlcWidGenEmit_full` — `Z ≤ 33` の範囲の中の状態では、どの tick でも
  `snprintf` は切り詰めず、ID は `WID_MAX_LEN` より短く、最後の `-` の後ろは `Z` 文字の
  小文字 16 進になる。
* `genIds_full` — `Z ≤ 33` を渡した生成器の実行で書いたどの ID もそうなる。
* `genNext_raw_overflow` — `Z ∈ [34, 64]` を渡した生成器では、`wid_random_hex(pad, Z)` が
  `raw[33]` の外に書くので、どの時刻と乱数でも ID を書く呼び出しは未定義動作になる。

`int64_t` の溢れ（tick が `INT64_MAX` に届く呼び出し）はここでは扱わない。
-/

namespace Wid

/-! ## 書式の長さ -/

/-- `snprintf(seq_str, 64, "%0*lld", W, seq)` は、`0 ≤ seq < 10^W` なら `W` 桁をそのまま書く。 -/
theorem cSnprintf_seqField {W seq : Int} (hW1 : 1 ≤ W) (hW2 : W ≤ 18) (h0 : 0 ≤ seq)
    (h1 : seq < 10 ^ W.toNat) : cSnprintf 64 (fmtZeroPad W.toNat seq) = fixedDigits W.toNat seq.toNat := by
  rw [fmtZeroPad_of_lt (by omega) h0 h1, cSnprintf_of_lt (by simp; omega)]

/-! ## 一回の書き出し -/

/-- `"%s.%sZ-%s"`（`Z = 0` なら `"%s.%sZ"`）を切り詰めずに書いた文字列。 -/
def WidGen.idText (g : WidGen) (pad : List Char) : List Char :=
  widFmtTick g.timeUnit g.lastTick ++ '.' ::
    (fixedDigits g.W.toNat g.lastSeq.toNat ++ 'Z' :: if 0 < g.Z then '-' :: pad else [])

/-- `"%s.%sZ-%s-%s"`（`Z = 0` なら `"%s.%sZ-%s"`）を切り詰めずに書いた文字列。 -/
def HlcWidGen.idText (g : HlcWidGen) (pad : List Char) : List Char :=
  widFmtTick g.timeUnit g.pt ++ '.' ::
    (fixedDigits g.W.toNat g.lc.toNat ++ 'Z' :: '-' :: (g.node ++ if 0 < g.Z then '-' :: pad else []))

theorem WidGen.idText_length_lt {g : WidGen} {pad : List Char} (hW : g.W ≤ 18) (hp : pad.length ≤ 33) :
    (g.idText pad).length < widMaxLen := by
  have := length_widFmtTick_le g.timeUnit g.lastTick
  unfold WidGen.idText
  split_ifs <;>
    simp only [widMaxLen, List.length_append, List.length_cons, List.length_nil, length_fixedDigits] <;>
    omega

theorem HlcWidGen.idText_length_lt {g : HlcWidGen} {pad : List Char} (hW : g.W ≤ 18)
    (hn : g.node.length ≤ 63) (hp : pad.length ≤ 33) : (g.idText pad).length < widMaxLen := by
  have := length_widFmtTick_le g.timeUnit g.pt
  unfold HlcWidGen.idText
  split_ifs <;>
    simp only [widMaxLen, List.length_append, List.length_cons, List.length_nil, length_fixedDigits] <;>
    omega

/-- 埋め草：`Z > 0` なら `wid_random_hex` の `Z` 文字、`Z = 0` なら空。 -/
theorem widRandomHex_or_empty (rnd : Nat → UInt8) {Z : Int} (h0 : 0 ≤ Z) (h1 : Z ≤ 33) :
    ∃ pad, (0 < Z → widRandomHex rnd Z = some pad) ∧ (pad.length : Int) = Z ∧
      ∀ c ∈ pad, widIsLowerHex c = true := by
  by_cases hz : 0 < Z
  · obtain ⟨pad, hpad, hl, hx⟩ := widRandomHex_spec rnd h0 h1
    exact ⟨pad, fun _ => hpad, hl, hx⟩
  · exact ⟨[], fun h => absurd h hz, by simp; omega, by simp⟩

/-- **`Z ≤ 33` の WID の状態からの書き出しは、配列の中に収まる。** `raw[33]` に `Z` バイトを
読み、`seq_str` には `W` 桁、`out` には `WID_MAX_LEN` より短い ID を切り詰めずに書く。 -/
theorem widGenEmit_full {g : WidGen} (hg : g.Inv) (hs0 : 0 ≤ g.lastSeq) (hZ : g.Z ≤ 33)
    (rnd : Nat → UInt8) :
    ∃ pad, widGenEmit g rnd widMaxLen = some (g.idText pad) ∧ (pad.length : Int) = g.Z ∧
      (∀ c ∈ pad, widIsLowerHex c = true) ∧ (g.idText pad).length < widMaxLen := by
  have hs1 : g.lastSeq < 10 ^ g.W.toNat := by have := hg.lastSeq_le; rw [hg.maxSeq_eq] at this; omega
  obtain ⟨pad, hpad, hl, hx⟩ := widRandomHex_or_empty rnd hg.Z_nonneg hZ
  have hlen : (g.idText pad).length < widMaxLen := WidGen.idText_length_lt hg.W_le (by omega)
  refine ⟨pad, ?_, hl, hx, hlen⟩
  unfold widGenEmit
  rw [cSnprintf_seqField hg.W_pos hg.W_le hs0 hs1]
  by_cases hz : 0 < g.Z
  · rw [if_pos hz, hpad hz, Option.map_some', ← cSnprintf_of_lt hlen, WidGen.idText, if_pos hz]
  · rw [if_neg hz, ← cSnprintf_of_lt hlen, WidGen.idText, if_neg hz]

/-- HLC も同じ。ノードは `strncpy` で 63 文字までしか持たない。 -/
theorem hlcWidGenEmit_full {g : HlcWidGen} (hg : g.Inv) (hn : g.node.length ≤ 63) (hZ : g.Z ≤ 33)
    (rnd : Nat → UInt8) :
    ∃ pad, hlcWidGenEmit g rnd widMaxLen = some (g.idText pad) ∧ (pad.length : Int) = g.Z ∧
      (∀ c ∈ pad, widIsLowerHex c = true) ∧ (g.idText pad).length < widMaxLen := by
  have hs1 : g.lc < 10 ^ g.W.toNat := by have := hg.lc_le; rw [hg.maxLc_eq] at this; omega
  obtain ⟨pad, hpad, hl, hx⟩ := widRandomHex_or_empty rnd hg.Z_nonneg hZ
  have hlen : (g.idText pad).length < widMaxLen := HlcWidGen.idText_length_lt hg.W_le hn (by omega)
  refine ⟨pad, ?_, hl, hx, hlen⟩
  unfold hlcWidGenEmit
  rw [cSnprintf_seqField hg.W_pos hg.W_le hg.lc_nonneg hs1]
  by_cases hz : 0 < g.Z
  · rw [if_pos hz, hpad hz, Option.map_some', ← cSnprintf_of_lt hlen, HlcWidGen.idText, if_pos hz]
  · rw [if_neg hz, ← cSnprintf_of_lt hlen, HlcWidGen.idText, if_neg hz, List.append_nil]

/-- `Z > 33` の状態では、`wid_random_hex(pad, Z)` が `raw[33]` の外に書く。 -/
theorem widGenEmit_of_Z_gt {g : WidGen} (hZ : 33 < g.Z) (rnd : Nat → UInt8) (outLen : Nat) :
    widGenEmit g rnd outLen = none := by
  simp only [widGenEmit, widRandomHex, widMaxZ]
  rw [if_pos (by omega), if_pos (by omega)]; rfl

theorem hlcWidGenEmit_of_Z_gt {g : HlcWidGen} (hZ : 33 < g.Z) (rnd : Nat → UInt8) (outLen : Nat) :
    hlcWidGenEmit g rnd outLen = none := by
  simp only [hlcWidGenEmit, widRandomHex, widMaxZ]
  rw [if_pos (by omega), if_pos (by omega)]; rfl

/-! ## 初期化で決まる `Z` -/

theorem widGenInitEx_Z (W Z : Int) (u : WidTimeUnit) :
    (widGenInitEx W Z u).Z = if Z < 0 then widDefaultZ else min Z widMaxZ := by
  simp only [widGenInitEx, widDefaultZ, widMaxZ]; split_ifs <;> omega

theorem hlcWidGenInitEx_Z {node : List Char} {W Z : Int} {u : WidTimeUnit} {g : HlcWidGen}
    (h : hlcWidGenInitEx node W Z u = some g) : g.Z = max 0 (min Z widMaxZ) := by
  unfold hlcWidGenInitEx at h
  by_cases hv : widValidNode node = true
  · simp only [hv, Bool.not_true, Bool.false_eq_true, if_false, Option.some.injEq] at h
    subst h
    simp only [widMaxZ]; split_ifs <;> omega
  · simp [hv] at h

/-! ## 実行 -/

/-- `wid_gen_next` の実行の各呼び出しのあとの状態は不変条件を満たし、`Z` は変わらず、
書いた ID はその状態からの書き出し。 -/
theorem widGenNextRun_emit {g : WidGen} {calls : List (Int × (Nat → UInt8))}
    {rs : List (WidGen × List Char)} (hg : g.Inv) (h : widGenNextRun g calls = some rs) :
    ∀ r ∈ rs, r.1.Inv ∧ r.1.Z = g.Z ∧ 0 ≤ r.1.lastSeq ∧
      ∃ rnd, widGenEmit r.1 rnd widMaxLen = some r.2 := by
  induction calls generalizing g rs with
  | nil => cases h; simp
  | cons c calls ih =>
    obtain ⟨⟨g1, out⟩, hn, hr⟩ := Option.bind_eq_some.mp h
    obtain ⟨rs, hr', rfl⟩ := Option.map_eq_some'.mp hr
    obtain ⟨ha, he⟩ := widGenNext_eq_some hn
    obtain ⟨hi, hfr, h0, -⟩ := widGenAdvance_spec hg ha
    have hZ : g1.Z = g.Z := by rw [hfr]
    intro r hr
    rcases List.mem_cons.mp hr with rfl | hr
    · exact ⟨hi, hZ, h0, c.2, he⟩
    · obtain ⟨a, b, d, e⟩ := ih hi hr' r hr
      exact ⟨a, b.trans hZ, d, e⟩

/-- **`Z ≤ 33` を渡した生成器は、配列の外を使わない。** `wid_gen_init_ex` か
`hlc_wid_gen_init_ex` のあとのどの実行でも、書いたどの ID も切り詰められず、
`WID_MAX_LEN` より短く、最後の `-` の後ろ（`Z > 0` のとき）は状態の `Z` 文字の小文字 16 進。 -/
theorem genIds_full (W Z : Int) (u : WidTimeUnit) (node : List Char) (hZ : Z ≤ 33) :
    (∀ calls rs, widGenNextRun (widGenInitEx W Z u) calls = some rs → ∀ r ∈ rs,
      ∃ pad, r.2 = r.1.idText pad ∧ (pad.length : Int) = r.1.Z ∧
        (∀ c ∈ pad, widIsLowerHex c = true) ∧ r.2.length < widMaxLen) ∧
    (∀ g calls rs, hlcWidGenInitEx node W Z u = some g → hlcCallRun g calls = some rs →
      ∀ r ∈ rs, ∀ s, r.2 = some s →
        ∃ pad, s = r.1.idText pad ∧ (pad.length : Int) = r.1.Z ∧
          (∀ c ∈ pad, widIsLowerHex c = true) ∧ s.length < widMaxLen) := by
  constructor
  · intro calls rs h r hr
    obtain ⟨hi, hZr, h0, rnd, he⟩ := widGenNextRun_emit (widGenInitEx_inv W Z u) h r hr
    have hZ1 : r.1.Z ≤ 33 := by
      rw [hZr, widGenInitEx_Z]; simp only [widDefaultZ, widMaxZ]; split_ifs <;> omega
    obtain ⟨pad, hp, hl, hx, hlen⟩ := widGenEmit_full hi h0 hZ1 rnd
    have hs : r.2 = r.1.idText pad := Option.some.inj (he.symm.trans hp)
    exact ⟨pad, hs, hl, hx, hs ▸ hlen⟩
  · intro g calls rs hi h r hr s hs
    obtain ⟨-, hn, -, -, -, hg⟩ := hlcWidGenInitEx_eq_some hi
    obtain ⟨ia, -, za, -, na, -, ka⟩ := (hlcCallRun_spec hg h).1 r hr
    obtain ⟨-, rnd, he⟩ := ka s hs
    have hZ1 : r.1.Z ≤ 33 := by rw [za, hlcWidGenInitEx_Z hi]; simp only [widMaxZ]; omega
    have hn1 : r.1.node.length ≤ 63 := by rw [na, hn]; simp
    obtain ⟨pad, hp, hl, hx, hlen⟩ := hlcWidGenEmit_full ia hn1 hZ1 rnd
    obtain rfl : s = r.1.idText pad := Option.some.inj (he.symm.trans hp)
    exact ⟨pad, rfl, hl, hx, hlen⟩

theorem genIds_full_Z6 :
    (6 : Int) ≤ 33 ∧
    (∀ calls rs, widGenNextRun (widGenInitEx 4 6 .sec) calls = some rs → ∀ r ∈ rs,
      ∃ pad, r.2 = r.1.idText pad ∧ (pad.length : Int) = r.1.Z ∧
        (∀ c ∈ pad, widIsLowerHex c = true) ∧ r.2.length < widMaxLen) ∧
    (∀ g calls rs, hlcWidGenInitEx sampleNode 4 6 .sec = some g → hlcCallRun g calls = some rs →
      ∀ r ∈ rs, ∀ s, r.2 = some s →
        ∃ pad, s = r.1.idText pad ∧ (pad.length : Int) = r.1.Z ∧
          (∀ c ∈ pad, widIsLowerHex c = true) ∧ s.length < widMaxLen) :=
  ⟨by decide, genIds_full 4 6 .sec sampleNode (by decide)⟩

/-- **`Z ∈ [34, 64]` を渡した生成器は、ID を一つも書けない。** `wid_gen_init_ex` のあとの
`wid_gen_next` の実行は最初の呼び出しで、`hlc_wid_gen_init_ex` のあとの実行では
`hlc_wid_gen_next` のどの呼び出しも、`wid_random_hex(pad, Z)` で `raw[33]` の外に書く
（未定義動作）。溢れずに終わる HLC の実行は、ID を書かない実行（`observe` だけ）に限られる。 -/
theorem genNext_raw_overflow (W Z : Int) (u : WidTimeUnit) (node : List Char) (hZ : 34 ≤ Z) :
    (∀ calls, calls ≠ [] → widGenNextRun (widGenInitEx W Z u) calls = none) ∧
    (∀ g calls rs, hlcWidGenInitEx node W Z u = some g → hlcCallRun g calls = some rs →
      ∀ r ∈ rs, r.2 = none) := by
  constructor
  · rintro (_ | ⟨⟨now, rnd⟩, calls⟩) hne
    · exact absurd rfl hne
    have hZ1 : 33 < (widGenInitEx W Z u).Z := by
      rw [widGenInitEx_Z]; simp only [widMaxZ]; split_ifs <;> omega
    simp only [widGenNextRun, widGenNext]
    cases ha : widGenAdvance (widGenInitEx W Z u) now with
    | none => rfl
    | some g1 =>
      obtain ⟨-, hfr, -⟩ := widGenAdvance_spec (widGenInitEx_inv W Z u) ha
      have hZ2 : 33 < g1.Z := by rw [hfr]; exact hZ1
      simp [widGenEmit_of_Z_gt hZ2]
  · intro g calls rs hi h r hr
    obtain ⟨-, -, -, -, -, hg⟩ := hlcWidGenInitEx_eq_some hi
    obtain ⟨-, -, za, -, -, -, ka⟩ := (hlcCallRun_spec hg h).1 r hr
    have hZ1 : 33 < r.1.Z := by rw [za, hlcWidGenInitEx_Z hi]; simp only [widMaxZ]; omega
    cases hs : r.2 with
    | none => rfl
    | some s =>
      obtain ⟨-, rnd, he⟩ := ka s hs
      rw [hlcWidGenEmit_of_Z_gt hZ1] at he
      cases he

/-- `wid_gen_init_ex(gen, 4, 34, WID_TIME_SEC)` のあと、時刻 0 で `wid_gen_next` を一回呼ぶ。 -/
theorem genNext_raw_overflow_Z34 :
    (34 : Int) ≤ 34 ∧ widGenNextRun (widGenInitEx 4 34 .sec) [(0, fun _ => 0)] = none :=
  ⟨le_rfl, (genNext_raw_overflow 4 34 .sec sampleNode le_rfl).1 _ (List.cons_ne_nil _ _)⟩

end Wid
