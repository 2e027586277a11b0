import Wid.Codec

/-!
# 生成器

`wid_gen_t` と `hlc_wid_gen_t` の状態と、それを進める `wid_gen_next`・`hlc_wid_gen_next`・
`hlc_wid_observe` を写す。

時計の値 `now`（`wid_now_tick`）と乱数のバイト（`/dev/urandom` か `rand()`）は引数で与える。
符号付きの桁あふれ（`tick += 1` など）と、`wid_random_hex` の `raw[33]` の外への書き込みは
未定義動作で、そのとき呼び出しの値は `none` とする。

`wid_gen_next` は前半（536–546 行）で状態を進め、後半（548–560 行）でその状態を書き出すだけ
なので、二つに分けて `widGenAdvance`・`widGenEmit` とする。`hlc_wid_gen_next` も同じ。
-/

namespace Wid

/-- `WID_DEFAULT_W`。 -/
def widDefaultW : Int := 4

/-- `WID_DEFAULT_Z`。 -/
def widDefaultZ : Int := 6

/-- `WID_MAX_LEN`：呼び出し側が渡す出力の大きさ。 -/
def widMaxLen : Nat := 256

/-- `wid_pow10_i64`。`v > INT64_MAX / 10` になれば `INT64_MAX` で止める。 -/
def widPow10I64 (n : Int) : Int := go 1 n.toNat
where
  /-- 残り `k` 回かける。 -/
  go (v : Int) : Nat → Int
    | 0 => v
    | k + 1 => if v > int64Max / 10 then int64Max else go (v * 10) k

theorem widPow10I64_go {j k : Nat} (h : j + k ≤ 18) :
    widPow10I64.go (10 ^ j) k = 10 ^ (j + k) := by
  induction k generalizing j with
  | zero => rfl
  | succ k ih =>
    have hj : (10 : Int) ^ j ≤ 10 ^ 17 := pow_le_pow_right₀ (by decide) (by omega)
    have hmax : (10 : Int) ^ 17 ≤ int64Max / 10 := by decide
    rw [widPow10I64.go, if_neg (by omega), ← pow_succ, ih (by omega)]
    congr 1; omega

/-- 18 桁までは本当の 10 の冪。 -/
theorem widPow10I64_eq {n : Int} (h0 : 0 ≤ n) (h1 : n ≤ 18) : widPow10I64 n = 10 ^ n.toNat := by
  simpa using widPow10I64_go (j := 0) (k := n.toNat) (by omega)

/-! ## WID の生成器 -/

/-- `wid_gen_t`。 -/
structure WidGen where
  W : Int
  Z : Int
  timeUnit : WidTimeUnit
  lastTick : Int
  lastSeq : Int
  maxSeq : Int
  deriving DecidableEq, Repr

/-- `wid_gen_init_ex`。`W` と `Z` は既定値で埋めてから上限で切る。 -/
def widGenInitEx (W Z : Int) (unit : WidTimeUnit) : WidGen :=
  let W := if W > 0 then W else widDefaultW
  let Z := if Z ≥ 0 then Z else widDefaultZ
  let W := if W > widMaxW then widMaxW else W
  let Z := if Z > widMaxZ then widMaxZ else Z
  ⟨W, Z, unit, 0, -1, widPow10I64 W - 1⟩

/-- `wid_gen_next` の前半：`tick = max(now, last_tick)`、同じ tick なら `last_seq + 1`、
上限を超えたら次の tick の 0。 -/
def widGenAdvance (g : WidGen) (now : Int) : Option WidGen :=
  let tick := if now > g.lastTick then now else g.lastTick
  let seq := if tick = g.lastTick then add64 g.lastSeq 1 else some 0
  seq.bind fun seq =>
    if seq > g.maxSeq then (add64 tick 1).map fun tick => { g with lastTick := tick, lastSeq := 0 }
    else some { g with lastTick := tick, lastSeq := seq }

/-- `wid_random_hex` の表 `"0123456789abcdef"`。 -/
def widHexChars : List Char := "0123456789abcdef".toList

/-- `wid_random_hex(buf, len)`。`raw[(WID_MAX_Z / 2) + 1]` に `len` バイトを読み、各バイトの下位
4 ビットを表で文字にする。`len` が `raw` の大きさを超えれば `raw` の外に書く（`none`）。
読まれるバイトは `rnd`。 -/
def widRandomHex (rnd : Nat → UInt8) (len : Int) : Option (List Char) :=
  if len > widMaxZ / 2 + 1 then none
  else some ((List.range len.toNat).map fun i => widHexChars.getD (rnd i &&& 0x0f).toNat '0')

/-- `wid_gen_next` の後半：`"%s.%sZ-%s"` か `"%s.%sZ"` で `out_len` に書く。 -/
def widGenEmit (g : WidGen) (rnd : Nat → UInt8) (outLen : Nat) : Option (List Char) :=
  let ts := widFmtTick g.timeUnit g.lastTick
  let seqStr := cSnprintf 64 (fmtZeroPad g.W.toNat g.lastSeq)
  if g.Z > 0 then
    (widRandomHex rnd g.Z).map fun pad => cSnprintf outLen (ts ++ '.' :: (seqStr ++ 'Z' :: '-' :: pad))
  else some (cSnprintf outLen (ts ++ '.' :: (seqStr ++ ['Z'])))

/-- `wid_gen_next`：新しい状態と、書いた ID。 -/
def widGenNext (g : WidGen) (now : Int) (rnd : Nat → UInt8) (outLen : Nat) :
    Option (WidGen × List Char) :=
  (widGenAdvance g now).bind fun g' => (widGenEmit g' rnd outLen).map fun out => (g', out)

/-! ## HLC-WID の生成器 -/

/-- `hlc_wid_gen_t`。`node` は `char node[64]` の中身。 -/
structure HlcWidGen where
  W : Int
  Z : Int
  timeUnit : WidTimeUnit
  node : List Char
  pt : Int
  lc : Int
  maxLc : Int
  deriving DecidableEq, Repr

/-- `hlc_wid_gen_init_ex`。ノードが正しくなければ失敗（`none`）。ノードは `strncpy` で 63 文字まで
写す。 -/
def hlcWidGenInitEx (node : List Char) (W Z : Int) (unit : WidTimeUnit) : Option HlcWidGen :=
  if !widValidNode node then none
  else
    let W := if W > 0 then W else widDefaultW
    let Z := if Z ≥ 0 then Z else 0
    let W := if W > widMaxW then widMaxW else W
    let Z := if Z > widMaxZ then widMaxZ else Z
    some ⟨W, Z, unit, node.take (widNodeSize - 1), 0, 0, widPow10I64 W - 1⟩

/-- `hlc_wid_rollover_if_needed`。 -/
def hlcWidRolloverIfNeeded (g : HlcWidGen) : Option HlcWidGen :=
  if g.lc > g.maxLc then (add64 g.pt 1).map fun pt => { g with pt := pt, lc := 0 } else some g

/-- `hlc_wid_observe`：戻り値と、呼び出しのあとの状態。 -/
def hlcWidObserve (g : HlcWidGen) (now remotePt remoteLc : Int) : Option (Bool × HlcWidGen) :=
  if remotePt < 0 ∨ remoteLc < 0 then some (false, g)
  else
    let newPt := if g.pt > now then g.pt else now
    let newPt := if remotePt > newPt then remotePt else newPt
    let lc :=
      if newPt = g.pt ∧ newPt = remotePt then add64 (if g.lc > remoteLc then g.lc else remoteLc) 1
      else if newPt = g.pt then add64 g.lc 1
      else if newPt = remotePt then add64 remoteLc 1
      else some 0
    lc.bind fun lc => (hlcWidRolloverIfNeeded { g with lc := lc, pt := newPt }).map fun g => (true, g)

/-- `hlc_wid_gen_next` の前半（624–632 行）。 -/
def hlcWidGenAdvance (g : HlcWidGen) (now : Int) : Option HlcWidGen :=
  (if now > g.pt then some { g with pt := now, lc := 0 }
    else (add64 g.lc 1).map fun lc => { g with lc := lc }).bind hlcWidRolloverIfNeeded

/-- `hlc_wid_gen_next` の後半：`"%s.%sZ-%s-%s"` か `"%s.%sZ-%s"`。 -/
def hlcWidGenEmit (g : HlcWidGen) (rnd : Nat → UInt8) (outLen : Nat) : Option (List Char) :=
  let ts := widFmtTick g.timeUnit g.pt
  let lcStr := cSnprintf 64 (fmtZeroPad g.W.toNat g.lc)
  if g.Z > 0 then
    (widRandomHex rnd g.Z).map fun pad =>
      cSnprintf outLen (ts ++ '.' :: (lcStr ++ 'Z' :: '-' :: (g.node ++ '-' :: pad)))
  else some (cSnprintf outLen (ts ++ '.' :: (lcStr ++ 'Z' :: '-' :: g.node)))

/-- `hlc_wid_gen_next`。 -/
def hlcWidGenNext (g : HlcWidGen) (now : Int) (rnd : Nat → UInt8) (outLen : Nat) :
    Option (HlcWidGen × List Char) :=
  (hlcWidGenAdvance g now).bind fun g' => (hlcWidGenEmit g' rnd outLen).map fun out => (g', out)

/-! ## 不変条件と一歩の仕様 -/

/-- `(tick, seq)`・`(pt, lc)` の辞書式の順序。 -/
def LexLt (a b : Int × Int) : Prop := a.1 < b.1 ∨ (a.1 = b.1 ∧ a.2 < b.2)

instance : DecidableRel LexLt := fun _ _ => inferInstanceAs (Decidable (_ ∨ _))

theorem LexLt.trans {a b c : Int × Int} (h₁ : LexLt a b) (h₂ : LexLt b c) : LexLt a c := by
  unfold LexLt at *; omega

theorem LexLt.irrefl (a : Int × Int) : ¬ LexLt a a := by unfold LexLt; omega

/-- WID の生成器の不変条件。`wid_gen_init_ex` のあとで成り立ち、`wid_gen_next` が保つ。 -/
structure WidGen.Inv (g : WidGen) : Prop where
  W_pos : 1 ≤ g.W
  W_le : g.W ≤ 18
  Z_nonneg : 0 ≤ g.Z
  Z_le : g.Z ≤ 64
  maxSeq_eq : g.maxSeq = 10 ^ g.W.toNat - 1
  lastSeq_ge : -1 ≤ g.lastSeq
  lastSeq_le : g.lastSeq ≤ g.maxSeq
  lastTick_nonneg : 0 ≤ g.lastTick

/-- `10^W - 1` は `int64_t` に入り、0 以上。 -/
theorem pow10_bounds {W : Int} (h1 : 1 ≤ W) (h2 : W ≤ 18) :
    9 ≤ (10 : Int) ^ W.toNat - 1 ∧ (10 : Int) ^ W.toNat - 1 < int64Max := by
  have a : (10 : Int) ^ 1 ≤ 10 ^ W.toNat := pow_le_pow_right₀ (by decide) (by omega)
  have b : (10 : Int) ^ W.toNat ≤ 10 ^ 18 := pow_le_pow_right₀ (by decide) (by omega)
  have c : (10 : Int) ^ 18 < int64Max := by decide
  constructor <;> omega

theorem WidGen.Inv.maxSeq_bounds {g : WidGen} (h : g.Inv) : 9 ≤ g.maxSeq ∧ g.maxSeq < int64Max :=
  h.maxSeq_eq ▸ pow10_bounds h.W_pos h.W_le

theorem widGenInitEx_inv (W Z : Int) (u : WidTimeUnit) : (widGenInitEx W Z u).Inv := by
  have hW : 1 ≤ (if (if W > 0 then W else widDefaultW) > widMaxW then widMaxW
      else if W > 0 then W else widDefaultW) ∧ (if (if W > 0 then W else widDefaultW) > widMaxW
      then widMaxW else if W > 0 then W else widDefaultW) ≤ 18 := by
    simp only [widDefaultW, widMaxW]; split_ifs <;> omega
  refine ⟨hW.1, hW.2, ?_, ?_, widPow10I64_eq (by omega) hW.2 ▸ rfl, le_rfl, ?_, le_rfl⟩
  · simp only [widGenInitEx, widDefaultZ, widMaxZ]; split_ifs <;> omega
  · simp only [widGenInitEx, widDefaultZ, widMaxZ]; split_ifs <;> omega
  · have := (pow10_bounds hW.1 hW.2).1
    simp only [widGenInitEx, widPow10I64_eq (by omega) hW.2]; omega

/-- **`wid_gen_next` の状態の進め方。** 不変条件のもとでは三つの場合しかない：時計が進んでいれば
その時刻の 0、そうでなければ同じ tick の次の番号、番号が尽きていれば次の tick の 0。 -/
theorem widGenAdvance_eq {g : WidGen} (h0 : 0 ≤ g.maxSeq) (h1 : g.maxSeq < int64Max)
    (h2 : -1 ≤ g.lastSeq) (h3 : g.lastSeq ≤ g.maxSeq) (now : Int) :
    widGenAdvance g now =
      if g.lastTick < now then some { g with lastTick := now, lastSeq := 0 }
      else if g.lastSeq < g.maxSeq then some { g with lastSeq := g.lastSeq + 1 }
      else (add64 g.lastTick 1).map fun t => { g with lastTick := t, lastSeq := 0 } := by
  unfold widGenAdvance
  by_cases hn : g.lastTick < now
  · simp [hn, show now ≠ g.lastTick by omega, show ¬ (0 : Int) > g.maxSeq by omega]
  · have hs : add64 g.lastSeq 1 = some (g.lastSeq + 1) :=
      add64_of_le (by simp only [int64Min]; omega) (by omega)
    by_cases hq : g.lastSeq < g.maxSeq
    · simp [hn, hs, hq, show ¬ g.lastSeq + 1 > g.maxSeq by omega]
    · simp [hn, hs, hq, show g.lastSeq + 1 > g.maxSeq by omega]

/-- HLC の生成器の不変条件。 -/
structure HlcWidGen.Inv (g : HlcWidGen) : Prop where
  W_pos : 1 ≤ g.W
  W_le : g.W ≤ 18
  Z_nonneg : 0 ≤ g.Z
  Z_le : g.Z ≤ 64
  maxLc_eq : g.maxLc = 10 ^ g.W.toNat - 1
  lc_nonneg : 0 ≤ g.lc
  lc_le : g.lc ≤ g.maxLc
  pt_nonneg : 0 ≤ g.pt

theorem HlcWidGen.Inv.maxLc_bounds {g : HlcWidGen} (h : g.Inv) : 9 ≤ g.maxLc ∧ g.maxLc < int64Max :=
  h.maxLc_eq ▸ pow10_bounds h.W_pos h.W_le

/-- `hlc_wid_gen_init_ex` が成功すれば、ノードはもとのノードの先頭 63 文字で、不変条件が成り立つ。 -/
theorem hlcWidGenInitEx_eq_some {node : List Char} {W Z : Int} {u : WidTimeUnit} {g : HlcWidGen}
    (h : hlcWidGenInitEx node W Z u = some g) :
    widValidNode node = true ∧ g.node = node.take 63 ∧ g.timeUnit = u ∧ g.pt = 0 ∧ g.lc = 0 ∧
      g.Inv := by
  unfold hlcWidGenInitEx at h
  by_cases hv : widValidNode node = true
  · simp only [hv, Bool.not_true, Bool.false_eq_true, if_false, Option.some.injEq] at h
    subst h
    have hW : 1 ≤ (if (if W > 0 then W else widDefaultW) > widMaxW then widMaxW
        else if W > 0 then W else widDefaultW) ∧ (if (if W > 0 then W else widDefaultW) > widMaxW
        then widMaxW else if W > 0 then W else widDefaultW) ≤ 18 := by
      simp only [widDefaultW, widMaxW]; split_ifs <;> omega
    refine ⟨hv, rfl, rfl, rfl, rfl, hW.1, hW.2, ?_, ?_, widPow10I64_eq (by omega) hW.2 ▸ rfl, le_rfl,
      ?_, le_rfl⟩
    · simp only [widMaxZ]; split_ifs <;> omega
    · simp only [widMaxZ]; split_ifs <;> omega
    · have := (pow10_bounds hW.1 hW.2).1
      simp only [widPow10I64_eq (by omega) hW.2]; omega
  · simp [hv] at h

/-- **`hlc_wid_gen_next` の状態の進め方**（`hlc_wid_rollover_if_needed` を含む）。
`widGenAdvance_eq` と同じ三つの場合になる。 -/
theorem hlcWidGenAdvance_eq {g : HlcWidGen} (h0 : 0 ≤ g.maxLc) (h1 : g.maxLc < int64Max)
    (h2 : 0 ≤ g.lc) (h3 : g.lc ≤ g.maxLc) (now : Int) :
    hlcWidGenAdvance g now =
      if g.pt < now then some { g with pt := now, lc := 0 }
      else if g.lc < g.maxLc then some { g with lc := g.lc + 1 }
      else (add64 g.pt 1).map fun t => { g with pt := t, lc := 0 } := by
  unfold hlcWidGenAdvance hlcWidRolloverIfNeeded
  by_cases hn : g.pt < now
  · simp [hn, show ¬ (0 : Int) > g.maxLc by omega]
  · have hs : add64 g.lc 1 = some (g.lc + 1) := add64_of_le (by simp only [int64Min]; omega) (by omega)
    by_cases hq : g.lc < g.maxLc
    · simp [hn, hs, hq, show ¬ g.lc + 1 > g.maxLc by omega]
    · simp [hn, hs, hq, show g.lc + 1 > g.maxLc by omega]

theorem hlcWidRolloverIfNeeded_eq_some {g g' : HlcWidGen} (h : hlcWidRolloverIfNeeded g = some g') :
    (g.lc ≤ g.maxLc ∧ g' = g) ∨
      (g.maxLc < g.lc ∧ g.pt + 1 ≤ int64Max ∧ g' = { g with pt := g.pt + 1, lc := 0 }) := by
  unfold hlcWidRolloverIfNeeded at h
  split_ifs at h with hl
  · obtain ⟨t, ht, rfl⟩ := Option.map_eq_some'.mp h
    obtain ⟨rfl, -, h2⟩ := add64_eq_some.mp ht
    exact .inr ⟨hl, h2, rfl⟩
  · exact .inl ⟨by omega, (Option.some.inj h).symm⟩

/-- `hlc_wid_observe` が偽を返すのは負の値を受け取ったときだけで、状態は変わらない。 -/
theorem hlcWidObserve_false {g g' : HlcWidGen} {now rpt rlc : Int} :
    hlcWidObserve g now rpt rlc = some (false, g') ↔ (rpt < 0 ∨ rlc < 0) ∧ g' = g := by
  unfold hlcWidObserve
  by_cases hneg : rpt < 0 ∨ rlc < 0
  · rw [if_pos hneg]; simp [hneg, eq_comm]
  · rw [if_neg hneg]
    simp only [hneg, false_and, iff_false]
    intro h
    obtain ⟨lc, -, hr⟩ := Option.bind_eq_some.mp h
    obtain ⟨_, -, h'⟩ := Option.map_eq_some'.mp hr
    cases h'

/-- **`hlc_wid_observe` が受け入れたあとの状態。** 不変条件が保たれ、`(pt, lc)` は前の値と
受け取った `(remote_pt, remote_lc)` のどちらよりも大きく、`pt` は `now` 以上になる。 -/
theorem hlcWidObserve_true {g g' : HlcWidGen} {now rpt rlc : Int} (hg : g.Inv)
    (h : hlcWidObserve g now rpt rlc = some (true, g')) :
    g'.Inv ∧ LexLt (g.pt, g.lc) (g'.pt, g'.lc) ∧ LexLt (rpt, rlc) (g'.pt, g'.lc) ∧ now ≤ g'.pt ∧
      g' = { g with pt := g'.pt, lc := g'.lc } := by
  unfold hlcWidObserve at h
  by_cases hneg : rpt < 0 ∨ rlc < 0
  · rw [if_pos hneg] at h; cases h
  rw [if_neg hneg] at h
  obtain ⟨lc, hlc, hr⟩ := Option.bind_eq_some.mp h
  obtain ⟨g1, hr1, hg1⟩ := Option.map_eq_some'.mp hr
  cases hg1
  have hpt := hg.pt_nonneg; have hlc0 := hg.lc_nonneg
  obtain ⟨h9, -⟩ := hg.maxLc_bounds
  set newPt := if rpt > (if g.pt > now then g.pt else now) then rpt else if g.pt > now then g.pt else now
    with hnew
  have hge : g.pt ≤ newPt ∧ now ≤ newPt ∧ rpt ≤ newPt ∧ (newPt = g.pt ∨ newPt = now ∨ newPt = rpt) := by
    simp only [hnew]; split_ifs <;> omega
  have key : 0 ≤ lc ∧ (newPt = g.pt → g.lc < lc) ∧ (newPt = rpt → rlc < lc) := by
    split_ifs at hlc <;>
      first
      | (obtain ⟨rfl, -, -⟩ := add64_eq_some.mp hlc; omega)
      | (cases hlc; omega)
  rcases hlcWidRolloverIfNeeded_eq_some hr1 with ⟨hle, rfl⟩ | ⟨hgt, -, rfl⟩
  · exact ⟨{ hg with lc_nonneg := key.1, lc_le := hle, pt_nonneg := by simp; omega },
      by simp only [LexLt]; omega, by simp only [LexLt]; omega, by simp; omega, rfl⟩
  · exact ⟨{ hg with lc_nonneg := le_rfl, lc_le := by simp; omega, pt_nonneg := by simp; omega },
      by simp only [LexLt]; omega, by simp only [LexLt]; omega, by simp; omega, rfl⟩

end Wid
