import Wid.Gen

/-!
# 生成器の一歩と実行

`wid_gen_next` の状態の進め方を、仕様の言葉で言い直す：新しい `(last_tick, last_seq)` は、
`0 ≤ s ≤ max_seq`・`t ≥ now`・前の組より大きい、という三つを満たす組のうち辞書式で最小のもの。
`hlc_wid_gen_next` は `(pt, lc)` の上で同じ関数になる（`hlcWidGenAdvance_eq_map`）。

そこから、時刻の列をどう与えても（止まっても戻っても）、実行の各状態で番号は範囲に収まり、
tick は減らず読んだ時刻以上で、組は呼ぶたびに真に増える（`widGenRun_spec`）。

HLC の側は `hlc_wid_gen_next` と `hlc_wid_observe` の一回ずつの仕様（`hlcOpStep_ok`）を示し、
それを混ぜた実行（`hlcCallRun`）で使う。溢れる呼び出しは `none` になる：`remote_lc = INT64_MAX` を
受け取ると `max(lc, remote_lc) + 1` が溢れる。
-/

namespace Wid

theorem LexLt.fst_le {a b : Int × Int} (h : LexLt a b) : a.1 ≤ b.1 := by
  unfold LexLt at h; omega

/-! ## 一歩の仕様 -/

/-- 仕様が `wid_gen_next` に許す次の組：`0 ≤ s ≤ maxSeq`、`t ≥ now`、前の組 `old` より大きい。 -/
def Admissible (maxSeq : Int) (old : Int × Int) (now : Int) (p : Int × Int) : Prop :=
  0 ≤ p.2 ∧ p.2 ≤ maxSeq ∧ now ≤ p.1 ∧ LexLt old p

/-- 許される組のうち辞書式で最小のもの。 -/
def IsLeastAdmissible (maxSeq : Int) (old : Int × Int) (now : Int) (p : Int × Int) : Prop :=
  Admissible maxSeq old now p ∧ ∀ q, Admissible maxSeq old now q → ¬ LexLt q p

theorem WidGen.Inv.update {g : WidGen} (hg : g.Inv) {t s : Int} (h0 : 0 ≤ t) (h1 : -1 ≤ s)
    (h2 : s ≤ g.maxSeq) : ({ g with lastTick := t, lastSeq := s } : WidGen).Inv :=
  { hg with lastSeq_ge := h1, lastSeq_le := h2, lastTick_nonneg := h0 }

/-- `wid_gen_next` の前半が成功したときの三つの場合：時計が進んだ、同じ tick の次の番号、
番号が尽きて次の tick。 -/
theorem widGenAdvance_cases {g g' : WidGen} {now : Int} (hg : g.Inv)
    (h : widGenAdvance g now = some g') :
    (g.lastTick < now ∧ g' = { g with lastTick := now, lastSeq := 0 }) ∨
      (now ≤ g.lastTick ∧ g.lastSeq < g.maxSeq ∧ g' = { g with lastSeq := g.lastSeq + 1 }) ∨
      (now ≤ g.lastTick ∧ g.lastSeq = g.maxSeq ∧
        g' = { g with lastTick := g.lastTick + 1, lastSeq := 0 }) := by
  obtain ⟨h9, hlt⟩ := hg.maxSeq_bounds
  have hs' := hg.lastSeq_le
  rw [widGenAdvance_eq (by omega) hlt hg.lastSeq_ge hs'] at h
  split_ifs at h with hn hq
  · exact .inl ⟨hn, (Option.some.inj h).symm⟩
  · exact .inr (.inl ⟨by omega, hq, (Option.some.inj h).symm⟩)
  · obtain ⟨t, ht, rfl⟩ := Option.map_eq_some'.mp h
    obtain ⟨rfl, -, -⟩ := add64_eq_some.mp ht
    exact .inr (.inr ⟨by omega, by omega, rfl⟩)

/-- **`wid_gen_next` は最小の許される組を選ぶ。** ほかの欄は変えない。 -/
theorem widGenAdvance_isLeast {g g' : WidGen} {now : Int} (hg : g.Inv)
    (h : widGenAdvance g now = some g') :
    IsLeastAdmissible g.maxSeq (g.lastTick, g.lastSeq) now (g'.lastTick, g'.lastSeq) ∧
      g' = { g with lastTick := g'.lastTick, lastSeq := g'.lastSeq } := by
  have := hg.maxSeq_bounds; have := hg.lastSeq_ge; have := hg.lastSeq_le
  rcases widGenAdvance_cases hg h with ⟨hn, rfl⟩ | ⟨hn, hq, rfl⟩ | ⟨hn, hq, rfl⟩ <;>
    refine ⟨⟨?_, fun q hq => ?_⟩, rfl⟩ <;> simp only [Admissible, LexLt, true_and] at * <;> omega

/-- 時刻が `INT64_MAX` より小さければ、`wid_gen_next` は溢れない。 -/
theorem widGenAdvance_isSome {g : WidGen} {now : Int} (hg : g.Inv)
    (hnow : max now g.lastTick < int64Max) : ∃ g', widGenAdvance g now = some g' := by
  obtain ⟨h9, hlt⟩ := hg.maxSeq_bounds
  have ht := hg.lastTick_nonneg
  rw [widGenAdvance_eq (by omega) hlt hg.lastSeq_ge hg.lastSeq_le,
    add64_of_le (by simp only [int64Min]; omega) (by omega)]
  split_ifs <;> exact ⟨_, rfl⟩

/-- 一歩で分かること：不変条件、ほかの欄は変わらない、番号は 0 以上、tick は `now` 以上、
組は真に増える。 -/
theorem widGenAdvance_spec {g g' : WidGen} {now : Int} (hg : g.Inv)
    (h : widGenAdvance g now = some g') :
    g'.Inv ∧ g' = { g with lastTick := g'.lastTick, lastSeq := g'.lastSeq } ∧ 0 ≤ g'.lastSeq ∧
      now ≤ g'.lastTick ∧ LexLt (g.lastTick, g.lastSeq) (g'.lastTick, g'.lastSeq) := by
  obtain ⟨⟨⟨h0, h1, h2, h3⟩, -⟩, hfr⟩ := widGenAdvance_isLeast hg h
  have := h3.fst_le; have := hg.lastTick_nonneg
  refine ⟨?_, hfr, h0, h2, h3⟩
  rw [hfr]
  exact hg.update (by simp only at *; omega) (by simp only at *; omega) h1

/-! ## `wid_gen_init_ex` から届く状態 -/

/-- `wid_gen_init_ex(W, Z, u)` のあと、`wid_gen_next` の前半を何回か進めて届く状態。 -/
inductive WidGenReachable (W Z : Int) (u : WidTimeUnit) : WidGen → Prop
  | init : WidGenReachable W Z u (widGenInitEx W Z u)
  | next {g g' : WidGen} {now : Int} : WidGenReachable W Z u g → widGenAdvance g now = some g' →
      WidGenReachable W Z u g'

theorem widGenInitEx_W {W Z : Int} {u : WidTimeUnit} (h1 : 1 ≤ W) (h2 : W ≤ 18) :
    (widGenInitEx W Z u).W = W := by
  simp only [widGenInitEx, widDefaultW, widMaxW]; split_ifs <;> omega

theorem WidGenReachable.inv {W Z : Int} {u : WidTimeUnit} {g : WidGen}
    (h : WidGenReachable W Z u g) : g.Inv ∧ g.W = (widGenInitEx W Z u).W ∧ g.timeUnit = u := by
  induction h with
  | init => exact ⟨widGenInitEx_inv W Z u, rfl, rfl⟩
  | next _ hs ih =>
    obtain ⟨hi, hfr, -⟩ := widGenAdvance_spec ih.1 hs
    exact ⟨hi, by rw [hfr]; exact ih.2.1, by rw [hfr]; exact ih.2.2⟩

/-- `W ∈ [1, 18]` なら、届く状態の `max_seq` は `10^W - 1`。 -/
theorem WidGenReachable.maxSeq_eq {W Z : Int} {u : WidTimeUnit} {g : WidGen}
    (h : WidGenReachable W Z u g) (h1 : 1 ≤ W) (h2 : W ≤ 18) : g.maxSeq = 10 ^ W.toNat - 1 := by
  rw [h.inv.1.maxSeq_eq, h.inv.2.1, widGenInitEx_W h1 h2]

/-! ## HLC の `(pt, lc)` も同じ関数で進む -/

/-- HLC の状態のうち `(pt, lc)` を `(last_tick, last_seq)` と読んだ WID の状態。 -/
def HlcWidGen.toWidGen (g : HlcWidGen) : WidGen := ⟨g.W, g.Z, g.timeUnit, g.pt, g.lc, g.maxLc⟩

/-- **`hlc_wid_gen_next` の状態の進め方は `wid_gen_next` のもの。** `lc ∈ [0, max_lc]` なら、
`(pt, lc)` を `wid_gen_next` と同じように進め、ほかの欄は変えない。 -/
theorem hlcWidGenAdvance_eq_map {g : HlcWidGen} (h0 : 0 ≤ g.maxLc) (h1 : g.maxLc < int64Max)
    (h2 : 0 ≤ g.lc) (h3 : g.lc ≤ g.maxLc) (now : Int) :
    hlcWidGenAdvance g now =
      (widGenAdvance g.toWidGen now).map fun w => { g with pt := w.lastTick, lc := w.lastSeq } := by
  rw [hlcWidGenAdvance_eq h0 h1 h2 h3,
    widGenAdvance_eq (g := g.toWidGen) h0 h1 (by simp only [HlcWidGen.toWidGen]; omega) h3]
  simp only [HlcWidGen.toWidGen]
  split_ifs <;> cases add64 g.pt 1 <;> rfl

theorem HlcWidGen.Inv.toWidGen {g : HlcWidGen} (hg : g.Inv) : g.toWidGen.Inv :=
  ⟨hg.W_pos, hg.W_le, hg.Z_nonneg, hg.Z_le, hg.maxLc_eq, le_trans (by decide) hg.lc_nonneg,
    hg.lc_le, hg.pt_nonneg⟩

/-- `hlc_wid_gen_next` の一歩：不変条件、ほかの欄は変わらない、`pt ≥ now`、`(pt, lc)` は真に増える。 -/
theorem hlcWidGenAdvance_spec {g g' : HlcWidGen} {now : Int} (hg : g.Inv)
    (h : hlcWidGenAdvance g now = some g') :
    g'.Inv ∧ g' = { g with pt := g'.pt, lc := g'.lc } ∧ now ≤ g'.pt ∧
      LexLt (g.pt, g.lc) (g'.pt, g'.lc) := by
  obtain ⟨h9, hlt⟩ := hg.maxLc_bounds
  rw [hlcWidGenAdvance_eq_map (by omega) hlt hg.lc_nonneg hg.lc_le] at h
  obtain ⟨w, hw, rfl⟩ := Option.map_eq_some'.mp h
  obtain ⟨hi, hfr, h0, hn, hl⟩ := widGenAdvance_spec hg.toWidGen hw
  have hm : w.maxSeq = g.maxLc := by rw [hfr]; rfl
  exact ⟨{ hg with lc_nonneg := h0, lc_le := hm ▸ hi.lastSeq_le, pt_nonneg := hi.lastTick_nonneg },
    rfl, hn, hl⟩

/-! ## 実行 -/

/-- `wid_gen_next` を時刻の列 `nows` で続けて呼んだときの、各呼び出しのあとの状態の列。
どこかで溢れれば `none`。 -/
def widGenRun (g : WidGen) : List Int → Option (List WidGen)
  | [] => some []
  | now :: nows => (widGenAdvance g now).bind fun g' => (widGenRun g' nows).map (g' :: ·)

/-- 実行の隣り合う二つの状態の関係：tick は減らず、`(last_tick, last_seq)` は真に増える。 -/
def WidGenStepUp (a b : WidGen) : Prop :=
  a.lastTick ≤ b.lastTick ∧ LexLt (a.lastTick, a.lastSeq) (b.lastTick, b.lastSeq)

/-- **実行の不変条件。** 不変条件を満たす状態から始めた実行では、どの状態も不変条件を満たし、
番号は 0 以上で `max_seq` は変わらず、tick ははじめの tick 以上；隣り合う状態で組は真に増え；
`i` 番目の呼び出しのあとの tick は、それまでに読んだどの時刻以上。 -/
theorem widGenRun_spec {g : WidGen} {nows : List Int} {gs : List WidGen} (hg : g.Inv)
    (h : widGenRun g nows = some gs) :
    (∀ g' ∈ gs, g'.Inv ∧ 0 ≤ g'.lastSeq ∧ g'.maxSeq = g.maxSeq ∧ g.lastTick ≤ g'.lastTick) ∧
      List.Chain' WidGenStepUp (g :: gs) ∧
      ∀ i (hi : i < gs.length), ∀ now ∈ nows.take (i + 1), now ≤ (gs.get ⟨i, hi⟩).lastTick := by
  induction nows generalizing g gs with
  | nil => cases h; simp
  | cons now nows ih =>
    obtain ⟨g', hs, hr⟩ := Option.bind_eq_some.mp h
    obtain ⟨gs, hr', rfl⟩ := Option.map_eq_some'.mp hr
    obtain ⟨hi, hfr, h0, hn, hl⟩ := widGenAdvance_spec hg hs
    obtain ⟨ih1, ih2, ih3⟩ := ih hi hr'
    have hm : g'.maxSeq = g.maxSeq := by rw [hfr]
    refine ⟨?_, .cons ⟨hl.fst_le, hl⟩ ih2, ?_⟩
    · intro g'' h''
      rcases List.mem_cons.mp h'' with rfl | h''
      · exact ⟨hi, h0, hm, hl.fst_le⟩
      · obtain ⟨a, b, c, d⟩ := ih1 g'' h''
        exact ⟨a, b, c.trans hm, hl.fst_le.trans d⟩
    · rintro (_ | i) hi' t ht
      · simp only [List.take_succ_cons, List.take_zero, List.mem_singleton] at ht
        exact ht ▸ hn
      · simp only [List.take_succ_cons, List.mem_cons] at ht
        rcases ht with rfl | ht
        · exact hn.trans (ih1 _ (List.get_mem _ _ _)).2.2.2
        · exact ih3 i _ t ht

/-- `wid_gen_next` の一歩の法則と、その実行への帰結。`hlc_wid_gen_next` は `(pt, lc)` の上で同じ。 -/
theorem widGen_step_law (W Z : Int) (u : WidTimeUnit) (hW1 : 1 ≤ W) (hW2 : W ≤ 18) :
    (∀ g, WidGenReachable W Z u g → -1 ≤ g.lastSeq ∧ g.lastSeq ≤ g.maxSeq ∧
      g.maxSeq = 10 ^ W.toNat - 1 ∧ ∀ now, max now g.lastTick < int64Max →
        ∃ g', widGenAdvance g now = some g' ∧
          IsLeastAdmissible (10 ^ W.toNat - 1) (g.lastTick, g.lastSeq) now (g'.lastTick, g'.lastSeq) ∧
          g' = { g with lastTick := g'.lastTick, lastSeq := g'.lastSeq }) ∧
    (∀ h : HlcWidGen, h.maxLc = 10 ^ W.toNat - 1 → 0 ≤ h.lc → h.lc ≤ h.maxLc → ∀ now,
      hlcWidGenAdvance h now =
        (widGenAdvance h.toWidGen now).map fun w => { h with pt := w.lastTick, lc := w.lastSeq }) ∧
    (∀ g, WidGenReachable W Z u g → ∀ nows gs, widGenRun g nows = some gs →
      (∀ g' ∈ gs, 0 ≤ g'.lastSeq ∧ g'.lastSeq ≤ 10 ^ W.toNat - 1) ∧
      List.Chain' WidGenStepUp (g :: gs) ∧
      ∀ i (hi : i < gs.length), ∀ now ∈ nows.take (i + 1), now ≤ (gs.get ⟨i, hi⟩).lastTick) := by
  have hb := pow10_bounds hW1 hW2
  refine ⟨fun g hr => ?_, fun h hm h2 h3 now => ?_, fun g hr nows gs hrun => ?_⟩
  · have hi := hr.inv.1
    have hm := hr.maxSeq_eq hW1 hW2
    refine ⟨hi.lastSeq_ge, hi.lastSeq_le, hm, fun now hnow => ?_⟩
    obtain ⟨g', hs⟩ := widGenAdvance_isSome hi hnow
    exact ⟨g', hs, hm ▸ widGenAdvance_isLeast hi hs⟩
  · exact hlcWidGenAdvance_eq_map (by omega) (by omega) h2 h3 now
  · have hm := hr.maxSeq_eq hW1 hW2
    obtain ⟨h1, h2, h3⟩ := widGenRun_spec hr.inv.1 hrun
    refine ⟨fun g' hg' => ?_, h2, h3⟩
    obtain ⟨hi', h0, hm', -⟩ := h1 g' hg'
    exact ⟨h0, hm ▸ hm' ▸ hi'.lastSeq_le⟩

/-- `W = 4` の場合。 -/
theorem widGen_step_law_four :
    (∀ g, WidGenReachable 4 6 .sec g → -1 ≤ g.lastSeq ∧ g.lastSeq ≤ g.maxSeq ∧
      g.maxSeq = 10 ^ (4 : Int).toNat - 1 ∧ ∀ now, max now g.lastTick < int64Max →
        ∃ g', widGenAdvance g now = some g' ∧
          IsLeastAdmissible (10 ^ (4 : Int).toNat - 1) (g.lastTick, g.lastSeq) now
            (g'.lastTick, g'.lastSeq) ∧
          g' = { g with lastTick := g'.lastTick, lastSeq := g'.lastSeq }) ∧
    (∀ h : HlcWidGen, h.maxLc = 10 ^ (4 : Int).toNat - 1 → 0 ≤ h.lc → h.lc ≤ h.maxLc → ∀ now,
      hlcWidGenAdvance h now =
        (widGenAdvance h.toWidGen now).map fun w => { h with pt := w.lastTick, lc := w.lastSeq }) ∧
    (∀ g, WidGenReachable 4 6 .sec g → ∀ nows gs, widGenRun g nows = some gs →
      (∀ g' ∈ gs, 0 ≤ g'.lastSeq ∧ g'.lastSeq ≤ 10 ^ (4 : Int).toNat - 1) ∧
      List.Chain' WidGenStepUp (g :: gs) ∧
      ∀ i (hi : i < gs.length), ∀ now ∈ nows.take (i + 1), now ≤ (gs.get ⟨i, hi⟩).lastTick) :=
  widGen_step_law 4 6 .sec (by decide) (by decide)

/-! ## HLC の実行 -/

/-- HLC の生成器への呼び出し：`hlc_wid_gen_next(now)` の状態の部分か、
`hlc_wid_observe(now, remote_pt, remote_lc)`。 -/
inductive HlcOp where
  | next (now : Int)
  | observe (now remotePt remoteLc : Int)
  deriving DecidableEq, Repr

/-- 一回の呼び出しの戻り値と、あとの状態。`hlc_wid_gen_next` は戻り値を持たないので真とする。 -/
def hlcOpStep (g : HlcWidGen) : HlcOp → Option (Bool × HlcWidGen)
  | .next now => (hlcWidGenAdvance g now).map fun g' => (true, g')
  | .observe now rpt rlc => hlcWidObserve g now rpt rlc

/-- 一回の呼び出しで成り立つべきこと：不変条件、`pt`・`lc` のほかは変わらない、`pt` は減らない、
偽を返すのは負の値を受け取った `observe` だけでそのとき状態は変わらない、成功すれば `(pt, lc)` は
真に増え、`observe` ならば受け取った組より大きい。 -/
def HlcCallOk (g : HlcWidGen) (op : HlcOp) (b : Bool) (g' : HlcWidGen) : Prop :=
  g'.Inv ∧ g' = { g with pt := g'.pt, lc := g'.lc } ∧ g.pt ≤ g'.pt ∧
    (b = false ↔ ∃ now rpt rlc, op = .observe now rpt rlc ∧ (rpt < 0 ∨ rlc < 0)) ∧
    (b = false → g' = g) ∧ (b = true → LexLt (g.pt, g.lc) (g'.pt, g'.lc)) ∧
    ∀ now rpt rlc, op = .observe now rpt rlc → b = true → LexLt (rpt, rlc) (g'.pt, g'.lc)

theorem hlcWidObserve_nonneg {g g' : HlcWidGen} {now rpt rlc : Int}
    (h : hlcWidObserve g now rpt rlc = some (true, g')) : ¬ (rpt < 0 ∨ rlc < 0) := by
  intro hn
  rw [hlcWidObserve, if_pos hn] at h
  cases h

/-- **一回の呼び出しの仕様。** 溢れずに終わった呼び出しは `HlcCallOk` を満たす。 -/
theorem hlcOpStep_ok {g g' : HlcWidGen} {op : HlcOp} {b : Bool} (hg : g.Inv)
    (h : hlcOpStep g op = some (b, g')) : HlcCallOk g op b g' := by
  cases op with
  | next now =>
    obtain ⟨g'', hs, he⟩ := Option.map_eq_some'.mp h
    cases he
    obtain ⟨hi, hfr, -, hl⟩ := hlcWidGenAdvance_spec hg hs
    exact ⟨hi, hfr, hl.fst_le, by simp, by simp, fun _ => hl, by simp⟩
  | observe now rpt rlc =>
    cases b with
    | false =>
      obtain ⟨hn, rfl⟩ := hlcWidObserve_false.mp h
      exact ⟨hg, rfl, le_rfl, iff_of_true rfl ⟨_, _, _, rfl, hn⟩, fun _ => rfl, by simp, by simp⟩
    | true =>
      obtain ⟨hi, hl, hr, -, hfr⟩ := hlcWidObserve_true hg h
      have hn := hlcWidObserve_nonneg h
      refine ⟨hi, hfr, hl.fst_le, by simpa using hn, by simp, fun _ => hl, ?_⟩
      rintro _ _ _ ⟨⟩ -
      exact hr

/-! ## 書き出しを含む実行 -/

/-- `wid_gen_next` を続けて呼んだときの、各呼び出しのあとの状態と書いた ID の列。
呼び出しごとに時刻と乱数のバイトを読み、`WID_MAX_LEN` の出力に書く。 -/
def widGenNextRun (g : WidGen) : List (Int × (Nat → UInt8)) → Option (List (WidGen × List Char))
  | [] => some []
  | (now, rnd) :: calls =>
    (widGenNext g now rnd widMaxLen).bind fun r => (widGenNextRun r.1 calls).map (r :: ·)

/-- HLC の生成器への呼び出し。`hlc_wid_gen_next` は時刻と乱数のバイトを読む。 -/
inductive HlcCall where
  | next (now : Int) (rnd : Nat → UInt8)
  | observe (now remotePt remoteLc : Int)

/-- 呼び出しのうち状態にかかわる部分。 -/
def HlcCall.op : HlcCall → HlcOp
  | .next now _ => .next now
  | .observe now rpt rlc => .observe now rpt rlc

/-- 一回の呼び出しのあとの状態と、`hlc_wid_gen_next` なら `WID_MAX_LEN` の出力に書いた ID。 -/
def hlcCallStep (g : HlcWidGen) : HlcCall → Option (HlcWidGen × Option (List Char))
  | .next now rnd => (hlcWidGenNext g now rnd widMaxLen).map fun r => (r.1, some r.2)
  | .observe now rpt rlc => (hlcWidObserve g now rpt rlc).map fun r => (r.2, none)

/-- 呼び出しの列を続けて行ったときの、各呼び出しのあとの状態と書いた ID の列。 -/
def hlcCallRun (g : HlcWidGen) : List HlcCall → Option (List (HlcWidGen × Option (List Char)))
  | [] => some []
  | c :: cs => (hlcCallStep g c).bind fun r => (hlcCallRun r.1 cs).map (r :: ·)

/-- 書き出しを含む呼び出しの状態は `hlcOpStep` のもの。ID を書くのは成功した `hlc_wid_gen_next`。 -/
theorem hlcCallStep_op {g g' : HlcWidGen} {c : HlcCall} {o : Option (List Char)}
    (h : hlcCallStep g c = some (g', o)) :
    ∃ b, hlcOpStep g c.op = some (b, g') ∧
      ∀ out, o = some out → b = true ∧ ∃ rnd, hlcWidGenEmit g' rnd widMaxLen = some out := by
  cases c with
  | next now rnd =>
    obtain ⟨⟨g1, out⟩, hn, he⟩ := Option.map_eq_some'.mp h
    obtain ⟨g2, ha, hr⟩ := Option.bind_eq_some.mp hn
    obtain ⟨out', he', hr'⟩ := Option.map_eq_some'.mp hr
    cases hr'; cases he
    exact ⟨true, by simp [hlcOpStep, HlcCall.op, ha], fun out h => ⟨rfl, rnd, by cases h; exact he'⟩⟩
  | observe now rpt rlc =>
    obtain ⟨⟨b, g1⟩, ho, he⟩ := Option.map_eq_some'.mp h
    cases he
    exact ⟨b, ho, fun _ h => by cases h⟩

/-- `hlc_wid_gen_init_ex(gen, "c", 4, 0, WID_TIME_SEC)` のあとの状態（`"c"` は `HLC_DEFAULT_NODE`）。 -/
def hlcInitC : HlcWidGen := ⟨4, 0, .sec, ['c'], 0, 0, 9999⟩

/-- 初期状態で `hlc_wid_observe(gen, 0, 0, INT64_MAX)` を呼ぶと、`max(lc, remote_lc) + 1` が
`int64_t` で溢れる（未定義動作）。 -/
theorem hlcWidObserve_remoteLc_max :
    hlcWidGenInitEx ['c'] 4 0 .sec = some hlcInitC ∧ hlcWidObserve hlcInitC 0 0 int64Max = none := by
  decide

end Wid
