import Wid.Generator
import Mathlib.Logic.Relation

/-!
# HLC の因果律

いくつかの HLC の生成器が、それぞれ自分の時計で `hlc_wid_gen_next` を呼び（ここでは状態の部分だけを
見る）、あるノードの `hlc_wid_gen_next` の直後の `(pt, lc)` を通知として別のノードが受け取り、
`hlc_wid_observe(receiver, msg.pt, msg.lc)` を呼ぶ。そうした事象の列を `hlcNetRun` で実行し、
各事象のあとのそのノードの状態を記録に残す。

happens-before は、同じノードで先に起きた事象と、受け取った通知を送った事象とからなる直接の関係の
推移閉包である（`HappensBefore`）。e が e' より前に起きていれば、e のあとの `(pt, lc)` は
e' のあとの `(pt, lc)` より辞書式で小さい（`hlcNet_causality`）。

証明は一つの不変条件 `HlcNet.Inv` による：記録のどの状態も、そのノードのいまの状態を超えず、
直接の関係にある二つの事象では `(pt, lc)` が増えている。
-/

namespace Wid

/-! ## 事象と実行 -/

/-- ノード `i` が時刻 `now` で `hlc_wid_gen_next` を呼ぶか、`k` 番目の事象の直後に送られた
`(pt, lc)` を受け取って `hlc_wid_observe` を呼ぶ。 -/
inductive HlcEvent (n : Nat) where
  | tick (i : Fin n) (now : Int)
  | recv (i : Fin n) (now : Int) (k : Nat)
  deriving DecidableEq, Repr

/-- 事象の起きるノード。 -/
def HlcEvent.node {n : Nat} : HlcEvent n → Fin n
  | .tick i _ => i
  | .recv i _ _ => i

/-- 生成器たちの状態と、これまでの事象とその直後のそのノードの状態の記録。 -/
structure HlcNet (n : Nat) where
  gens : Fin n → HlcWidGen
  log : List (HlcEvent n × HlcWidGen)

/-- 一つの事象を行う。受け取る通知は、記録にある `hlc_wid_gen_next` の直後の状態でなければならない。 -/
def hlcNetStep {n : Nat} (s : HlcNet n) : HlcEvent n → Option (HlcNet n)
  | .tick i now => (hlcWidGenAdvance (s.gens i) now).map fun g =>
      ⟨Function.update s.gens i g, s.log ++ [(.tick i now, g)]⟩
  | .recv i now k =>
    match s.log[k]? with
    | some (.tick _ _, m) => (hlcWidObserve (s.gens i) now m.pt m.lc).map fun r =>
        ⟨Function.update s.gens i r.2, s.log ++ [(.recv i now k, r.2)]⟩
    | _ => none

/-- 事象の列を順に行う。どこかで `int64_t` が溢れれば `none`。 -/
def hlcNetRun {n : Nat} (s : HlcNet n) : List (HlcEvent n) → Option (HlcNet n)
  | [] => some s
  | e :: es => (hlcNetStep s e).bind fun s' => hlcNetRun s' es

/-! ## happens-before -/

/-- 直接の先行：`a` は `b` より前の事象で、同じノードで起きたか、`b` が `a` の直後の通知を受け取った。 -/
def HlcDirect {n : Nat} (log : List (HlcEvent n × HlcWidGen)) (a b : Nat) : Prop :=
  a < b ∧ ∃ ea ga eb gb, log[a]? = some (ea, ga) ∧ log[b]? = some (eb, gb) ∧
    (ea.node = eb.node ∨ ∃ i now, eb = .recv i now a)

/-- happens-before：直接の先行の推移閉包。 -/
def HappensBefore {n : Nat} (log : List (HlcEvent n × HlcWidGen)) : Nat → Nat → Prop :=
  Relation.TransGen (HlcDirect log)

/-- 記録の `a` 番目の事象のあとの `(pt, lc)`。 -/
def pairAt {n : Nat} (log : List (HlcEvent n × HlcWidGen)) (a : Nat) : Option (Int × Int) :=
  log[a]?.map fun e => (e.2.pt, e.2.lc)

theorem getElem?_concat_eq_some {α : Type} {l : List α} {x y : α} {a : Nat} :
    (l ++ [x])[a]? = some y ↔ (a < l.length ∧ l[a]? = some y) ∨ (a = l.length ∧ x = y) := by
  rcases Nat.lt_trichotomy a l.length with h | rfl | h
  · simp [List.getElem?_append_left h, h, h.ne]
  · simp
  · simp [List.getElem?_eq_none (by simp; omega : (l ++ [x]).length ≤ a), h.ne', Nat.not_lt.mpr h.le]

/-! ## 一つの事象 -/

variable {n : Nat}

/-- 一つの事象は、そのノードの状態を `g` にし、記録に `(e, g)` を足す。`g` は不変条件を満たし、
`(pt, lc)` は前の状態より大きく、通知を受け取ったならその `(pt, lc)` よりも大きい。 -/
theorem hlcNetStep_spec {s s' : HlcNet n} {e : HlcEvent n} (hg : (s.gens e.node).Inv)
    (hm : ∀ (k : Nat) (e' : HlcEvent n) (m : HlcWidGen), s.log[k]? = some (e', m) → m.Inv) (h : hlcNetStep s e = some s') :
    ∃ g, s' = ⟨Function.update s.gens e.node g, s.log ++ [(e, g)]⟩ ∧ g.Inv ∧
      LexLt ((s.gens e.node).pt, (s.gens e.node).lc) (g.pt, g.lc) ∧
      ∀ i now k, e = .recv i now k → ∃ e' m, s.log[k]? = some (e', m) ∧ LexLt (m.pt, m.lc) (g.pt, g.lc) := by
  cases e with
  | tick i now =>
    obtain ⟨g, ha, rfl⟩ := Option.map_eq_some'.mp h
    obtain ⟨hi, -, -, hl⟩ := hlcWidGenAdvance_spec hg ha
    exact ⟨g, rfl, hi, hl, fun _ _ _ h => by cases h⟩
  | recv i now k =>
    cases hk : s.log[k]? with
    | none => simp [hlcNetStep, hk] at h
    | some x =>
      obtain ⟨e', m⟩ := x
      cases e' with
      | recv => simp [hlcNetStep, hk] at h
      | tick j t =>
        simp only [hlcNetStep, hk] at h
        obtain ⟨⟨b, g⟩, hob, rfl⟩ := Option.map_eq_some'.mp h
        have hmi := hm k _ m hk
        cases b with
        | false =>
          have := (hlcWidObserve_false.mp hob).1
          have := hmi.pt_nonneg; have := hmi.lc_nonneg; omega
        | true =>
          obtain ⟨hi, hl, hr, -, -⟩ := hlcWidObserve_true hg hob
          exact ⟨g, rfl, hi, hl, fun _ _ _ he => by cases he; exact ⟨_, m, hk, hr⟩⟩

/-! ## 不変条件 -/

/-- 生成器たちの不変条件：どの生成器も、記録のどの状態も不変条件を満たし、記録の状態はそのノードの
いまの状態を超えず、直接の先行にある二つの事象では `(pt, lc)` が増えている。 -/
structure HlcNet.Inv (s : HlcNet n) : Prop where
  gens_inv : ∀ i, (s.gens i).Inv
  log_inv : ∀ (a : Nat) (e : HlcEvent n) (g : HlcWidGen), s.log[a]? = some (e, g) → g.Inv
  log_le : ∀ (a : Nat) (e : HlcEvent n) (g : HlcWidGen), s.log[a]? = some (e, g) →
    ¬ LexLt ((s.gens e.node).pt, (s.gens e.node).lc) (g.pt, g.lc)
  direct : ∀ a b, HlcDirect s.log a b →
    ∃ pa pb, pairAt s.log a = some pa ∧ pairAt s.log b = some pb ∧ LexLt pa pb

theorem pairAt_concat {log : List (HlcEvent n × HlcWidGen)} {x : HlcEvent n × HlcWidGen} {a : Nat}
    (h : a < log.length) : pairAt (log ++ [x]) a = pairAt log a := by
  simp [pairAt, List.getElem?_append_left h]

/-- 新しい事象の直接の先行は、記録にある前の事象。 -/
theorem hlcDirect_concat {log : List (HlcEvent n × HlcWidGen)} {x : HlcEvent n × HlcWidGen}
    {a b : Nat} (h : HlcDirect (log ++ [x]) a b) :
    (b < log.length ∧ HlcDirect log a b) ∨ (b = log.length ∧ ∃ ea ga, log[a]? = some (ea, ga) ∧
      (ea.node = x.1.node ∨ ∃ i now, x.1 = .recv i now a)) := by
  obtain ⟨hab, ea, ga, eb, gb, ha, hb, hd⟩ := h
  rcases getElem?_concat_eq_some.mp hb with ⟨hb', hb⟩ | ⟨rfl, rfl⟩
  · have ha' : log[a]? = some (ea, ga) := by rwa [List.getElem?_append_left (by omega)] at ha
    exact .inl ⟨hb', hab, ea, ga, eb, gb, ha', hb, hd⟩
  · rw [List.getElem?_append_left hab] at ha
    exact .inr ⟨rfl, ea, ga, ha, hd⟩

/-- **一つの事象は不変条件を保つ。** -/
theorem HlcNet.Inv.step {s s' : HlcNet n} {e : HlcEvent n} (hs : s.Inv) (h : hlcNetStep s e = some s') :
    s'.Inv := by
  obtain ⟨g, rfl, hgi, hlt, hrecv⟩ := hlcNetStep_spec (hs.gens_inv _) hs.log_inv h
  refine ⟨fun j => ?_, fun a e' g' ha => ?_, fun a e' g' ha => ?_, fun a b hab => ?_⟩
  · dsimp only
    by_cases hje : j = e.node
    · subst hje; simpa using hgi
    · rw [Function.update_noteq hje]; exact hs.gens_inv j
  · rcases getElem?_concat_eq_some.mp ha with ⟨-, ha⟩ | ⟨-, he⟩
    · exact hs.log_inv a e' g' ha
    · cases he; exact hgi
  · dsimp only
    rcases getElem?_concat_eq_some.mp ha with ⟨-, ha⟩ | ⟨-, he⟩
    · have hle := hs.log_le a e' g' ha
      by_cases hje : e'.node = e.node
      · rw [hje, Function.update_same]; rw [hje] at hle; unfold LexLt at *; omega
      · rw [Function.update_noteq hje]; exact hle
    · cases he; simpa using LexLt.irrefl _
  · dsimp only
    rcases hlcDirect_concat hab with ⟨hb, hd⟩ | ⟨rfl, ea, ga, ha, hd⟩
    · obtain ⟨pa, pb, h1, h2, h3⟩ := hs.direct a b hd
      exact ⟨pa, pb, by rwa [pairAt_concat (by have := hd.1; omega)], by rwa [pairAt_concat hb], h3⟩
    · have hal : a < s.log.length := (List.getElem?_eq_some_iff.mp ha).1
      refine ⟨(ga.pt, ga.lc), (g.pt, g.lc), by simp [pairAt, List.getElem?_append_left hal, ha],
        by simp [pairAt], ?_⟩
      dsimp only at hd
      rcases hd with hn | ⟨i, now, he⟩
      · have hle := hs.log_le a ea ga ha
        rw [hn] at hle; unfold LexLt at *; omega
      · obtain ⟨e', m, hk, hm⟩ := hrecv i now a he
        rw [ha] at hk; cases hk; exact hm

/-- 実行の終わりでも不変条件は成り立つ。 -/
theorem HlcNet.Inv.run {s s' : HlcNet n} {es : List (HlcEvent n)} (hs : s.Inv)
    (h : hlcNetRun s es = some s') : s'.Inv := by
  induction es generalizing s with
  | nil => cases h; exact hs
  | cons e es ih =>
    obtain ⟨s1, h1, h2⟩ := Option.bind_eq_some.mp h
    exact ih (hs.step h1) h2

/-! ## 因果律 -/

/-- `hlc_wid_gen_init_ex` で作ったばかりの生成器たちは、記録が空で不変条件を満たす。 -/
theorem HlcNet.Inv.init {gens : Fin n → HlcWidGen}
    (h : ∀ i, ∃ node W Z u, hlcWidGenInitEx node W Z u = some (gens i)) :
    (⟨gens, []⟩ : HlcNet n).Inv where
  gens_inv i := by
    obtain ⟨node, W, Z, u, hi⟩ := h i
    exact (hlcWidGenInitEx_eq_some hi).2.2.2.2.2
  log_inv _ _ _ ha := by simp at ha
  log_le _ _ _ ha := by simp at ha
  direct _ _ hd := by obtain ⟨-, _, _, _, _, ha, -⟩ := hd; simp at ha

/-- **happens-before は `(pt, lc)` を増やす。** -/
theorem HlcNet.Inv.happensBefore {s : HlcNet n} (hs : s.Inv) {a b : Nat} (h : HappensBefore s.log a b) :
    ∃ pa pb, pairAt s.log a = some pa ∧ pairAt s.log b = some pb ∧ LexLt pa pb := by
  induction h with
  | single h => exact hs.direct _ _ h
  | tail _ h ih =>
    obtain ⟨pa, pb, ha, hb, hab⟩ := ih
    obtain ⟨pb', pc, hb', hc, hbc⟩ := hs.direct _ _ h
    rw [hb] at hb'; cases hb'
    exact ⟨pa, pc, ha, hc, hab.trans hbc⟩

/-- 同じ単位で `hlc_wid_gen_init_ex` が作った生成器たちの、`int64_t` が溢れないどの実行でも、
先に起きた事象のあとの `(pt, lc)` は後に起きた事象のあとの `(pt, lc)` より辞書式で小さい。 -/
theorem hlcNet_causality (u : WidTimeUnit) (gens : Fin n → HlcWidGen)
    (hinit : ∀ i, ∃ node W Z, hlcWidGenInitEx node W Z u = some (gens i))
    (es : List (HlcEvent n)) (s : HlcNet n) (hrun : hlcNetRun ⟨gens, []⟩ es = some s) :
    ∀ a b, HappensBefore s.log a b →
      ∃ pa pb, pairAt s.log a = some pa ∧ pairAt s.log b = some pb ∧ LexLt pa pb := by
  have h0 : (⟨gens, []⟩ : HlcNet n).Inv := .init fun i => by
    obtain ⟨node, W, Z, hi⟩ := hinit i
    exact ⟨node, W, Z, u, hi⟩
  exact fun _ _ h => (h0.run hrun).happensBefore h

/-- 二つのノードの例：ノード 0 が時刻 5 で `hlc_wid_gen_next` を呼び、ノード 1 が時刻 3 でその通知を
受け取り、時刻 3 で `hlc_wid_gen_next` を呼ぶ。 -/
def demoEvents : List (HlcEvent 2) := [.tick 0 5, .recv 1 3 0, .tick 1 3]

/-- `demoEvents` を `hlcInitC` の二つの生成器で行ったあと。 -/
def demoNet : HlcNet 2 :=
  (hlcNetRun ⟨fun _ => hlcInitC, []⟩ demoEvents).getD ⟨fun _ => hlcInitC, []⟩

/-- `demoEvents` では、ノード 0 の事象がノード 1 の二つ目の事象より前に起きている。 -/
theorem demoNet_happensBefore : HappensBefore demoNet.log 0 2 :=
  .tail (.single (show HlcDirect demoNet.log 0 1 from ⟨by decide, _, _, _, _, rfl, rfl, .inr ⟨1, 3, rfl⟩⟩))
    ⟨by decide, _, _, _, _, rfl, rfl, .inl rfl⟩

theorem hlcNet_causality_demo :
    ∃ pa pb, pairAt demoNet.log 0 = some pa ∧ pairAt demoNet.log 2 = some pb ∧ LexLt pa pb :=
  hlcNet_causality .sec (fun _ => hlcInitC)
    (fun _ => ⟨['c'], 4, 0, (by decide : hlcWidGenInitEx ['c'] 4 0 .sec = some hlcInitC)⟩) demoEvents
    demoNet rfl 0 2 demoNet_happensBefore

end Wid
