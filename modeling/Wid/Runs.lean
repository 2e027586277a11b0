import Wid.Buffers

/-!
# 生成器の実行

`wid_gen_next`・`hlc_wid_gen_next` を続けて呼ぶ実行と、`main.c` の二つの繰り返し（`cmd_stream` の
`for (int i = 0; ...; i++)` と `run_service_loop` の `while` と `int64_t iter`）が共有する形を書く。

* `genRun_bounded` — 一歩の仕様から実行の仕様へ。一歩が不変条件を保ち、時刻を `max now t + 1`
  までしか進めず、書いた ID が `Q` を満たすなら、時計の読みに回数を足しても上限を超えない実行は
  最後まで進む。
* `widRun_ids`・`hlcRun_ids` — `Z ≤ 33` の生成器の実行は未定義動作にならず、ID は `strcmp` で狭義に
  増え、どれも生成器の `W`・`Z`・単位での検査を通る。
* `genLoop_eq` — 数え上げの変数を持つ繰り返しは回る回数だけの実行で、数え上げが上限を超えれば
  （符号付き整数のあふれ）未定義動作になる。
* `widPrefix_order` — 先頭部分 `P(t, c)` の順序は `(tick, counter)` の辞書式順序と一致し、`Z ≤ 33`
  の生成器が書く ID は書いた順に真に増える。`Z ∈ [34, 64]` では最初の `*_gen_next` が `raw[33]` の
  外に書き、ID は一つも書かれない。
-/

namespace Wid

theorem widMaxTick_lt (u : WidTimeUnit) : 0 ≤ widMaxTick u ∧ widMaxTick u < int64Max := by
  cases u <;> decide

/-! ## 一歩から実行へ -/

/-- 生成器を呼び出しの列で続けて進めたときの、各呼び出しのあとの状態と書いた ID。 -/
def genRun {G : Type} (next : G → Int → (Nat → UInt8) → Option (G × List Char)) (g : G) :
    List (Int × (Nat → UInt8)) → Option (List (G × List Char))
  | [] => some []
  | c :: cs => (next g c.1 c.2).bind fun r => (genRun next r.1 cs).map (r :: ·)

/-- **一歩から実行へ。** 生成器の一歩が、不変条件 `P` を保ち、時刻 `t` を `max now t + 1`
までしか進めず、書いた ID が `Q` を満たすなら、時刻が `M` を超えない呼び出しの列では実行は
最後まで進み、どの ID も `Q` を満たし、時刻は `M` を超えない。 -/
theorem genRun_bounded {G : Type} {next : G → Int → (Nat → UInt8) → Option (G × List Char)}
    {P : G → Prop} {t : G → Int} {Q : List Char → Prop} {M : Int}
    (hstep : ∀ g now rnd, P g → max now (t g) + 1 ≤ M →
      ∃ g' s, next g now rnd = some (g', s) ∧ P g' ∧ t g' ≤ max now (t g) + 1 ∧ Q s) :
    ∀ calls g, P g → t g + calls.length ≤ M → (∀ c ∈ calls, c.1 + calls.length ≤ M) →
      ∃ rs, genRun next g calls = some rs ∧ rs.length = calls.length ∧
        ∀ r ∈ rs, P r.1 ∧ t r.1 ≤ M ∧ Q r.2
  | [], _, _, _, _ => ⟨[], rfl, rfl, by simp⟩
  | c :: cs, g, hg, ht, hc => by
    have hc0 := hc c (List.mem_cons_self _ _)
    simp only [List.length_cons, Nat.cast_add, Nat.cast_one] at ht hc hc0
    obtain ⟨g', s, hn, hg', ht', hs⟩ := hstep g c.1 c.2 hg (by omega)
    obtain ⟨rs, hr, hl, hall⟩ := genRun_bounded hstep cs g' hg' (by omega)
      (fun c' h' => by have := hc c' (List.mem_cons_of_mem _ h'); omega)
    refine ⟨(g', s) :: rs, by simp [genRun, hn, hr], by simp [hl], ?_⟩
    rintro r (_ | ⟨_, hr'⟩)
    · exact ⟨hg', by dsimp only; omega, hs⟩
    · exact hall r hr'

/-! ## 一歩の仕様 -/

theorem widGenAdvance_tick_le {g g' : WidGen} {now : Int} (hg : g.Inv) (h : widGenAdvance g now = some g') :
    g'.lastTick ≤ max now g.lastTick + 1 := by
  rcases widGenAdvance_cases hg h with ⟨_, rfl⟩ | ⟨_, _, rfl⟩ | ⟨_, _, rfl⟩ <;> simp only <;> omega

/-- `wid_gen_next` の一歩（`Z ≤ 33`、新しい時刻が 9999 年に収まるとき）：必ず書き、不変条件と
`W`・`Z`・単位を保ち、時刻は `max now last_tick + 1` まで、書いた ID は検査を通る。 -/
theorem widGenNext_step {g : WidGen} {now : Int} (rnd : Nat → UInt8) (hg : g.Inv) (hZ : g.Z ≤ 33)
    (hM : max now g.lastTick + 1 ≤ widMaxTick g.timeUnit) :
    ∃ g' s, widGenNext g now rnd widMaxLen = some (g', s) ∧
      (g'.Inv ∧ g'.W = g.W ∧ g'.Z = g.Z ∧ g'.timeUnit = g.timeUnit) ∧
      g'.lastTick ≤ max now g.lastTick + 1 ∧ widValidateEx s g.W g.Z g.timeUnit = true := by
  have := (widMaxTick_lt g.timeUnit).2
  obtain ⟨⟨g', s⟩, hn⟩ := @widGenNext_isSome g now hg hZ (by omega) rnd
  obtain ⟨ha, -⟩ := widGenNext_eq_some hn
  obtain ⟨hi, hfr, -⟩ := widGenAdvance_spec hg ha
  have ht := widGenAdvance_tick_le hg ha
  refine ⟨g', s, hn, ⟨hi, by rw [hfr], by rw [hfr], by rw [hfr]⟩, ht,
    (widGenNext_parse hg hn (by omega)).1⟩

/-- `hlc_wid_gen_next` の一歩：`wid_gen_next` と同じく必ず書き、不変条件と `W`・`Z`・単位・ノードを
保ち、`pt` は `max now pt + 1` まで、書いた ID は検査を通る。 -/
theorem hlcWidGenNext_step {g : HlcWidGen} {now : Int} (rnd : Nat → UInt8) (hg : g.Inv) (hZ : g.Z ≤ 33)
    (hn0 : g.node ≠ []) (hn : g.node.length ≤ 63) (hnc : ∀ c ∈ g.node, widIsNodeChar c = true)
    (hM : max now g.pt + 1 ≤ widMaxTick g.timeUnit) :
    ∃ g' s, hlcWidGenNext g now rnd widMaxLen = some (g', s) ∧
      (g'.Inv ∧ g'.W = g.W ∧ g'.Z = g.Z ∧ g'.timeUnit = g.timeUnit ∧ g'.node = g.node) ∧
      g'.pt ≤ max now g.pt + 1 ∧ hlcWidValidateEx s g.W g.Z g.timeUnit = true := by
  have := (widMaxTick_lt g.timeUnit).2
  obtain ⟨h9, hlt⟩ := hg.maxLc_bounds
  obtain ⟨w, hw⟩ := @widGenAdvance_isSome g.toWidGen now hg.toWidGen (by simp only [HlcWidGen.toWidGen]; omega)
  have htw := widGenAdvance_tick_le hg.toWidGen hw
  have ha := hlcWidGenAdvance_eq_map (by omega) hlt hg.lc_nonneg hg.lc_le now
  rw [hw, Option.map_some'] at ha
  obtain ⟨hi, -⟩ := hlcWidGenAdvance_spec hg ha
  obtain ⟨pad, he, -⟩ := hlcWidGenEmit_full hi hn hZ rnd
  refine ⟨_, _, by rw [hlcWidGenNext, ha, Option.some_bind, he, Option.map_some'],
    ⟨hi, rfl, rfl, rfl, rfl⟩, htw, ?_⟩
  exact (hlcWidGenEmit_parse hi hn0 hn hnc (by simp only [HlcWidGen.toWidGen] at htw ⊢; omega) he).1

/-- `Z > 33` の状態からの `wid_gen_next` は、どの時刻と乱数でも `raw[33]` の外に書く。 -/
theorem widGenNext_of_Z_gt {g : WidGen} (hg : g.Inv) (hZ : 33 < g.Z) (now : Int) (rnd : Nat → UInt8)
    (outLen : Nat) : widGenNext g now rnd outLen = none := by
  unfold widGenNext
  cases ha : widGenAdvance g now with
  | none => rfl
  | some g1 =>
    obtain ⟨-, hfr, -⟩ := widGenAdvance_spec hg ha
    rw [Option.some_bind, widGenEmit_of_Z_gt (by rw [hfr]; exact hZ), Option.map_none']

/-- `Z > 33` の状態からの `hlc_wid_gen_next` も同じ。 -/
theorem hlcWidGenNext_of_Z_gt {g : HlcWidGen} (hg : g.Inv) (hZ : 33 < g.Z) (now : Int) (rnd : Nat → UInt8)
    (outLen : Nat) : hlcWidGenNext g now rnd outLen = none := by
  unfold hlcWidGenNext
  cases ha : hlcWidGenAdvance g now with
  | none => rfl
  | some g1 =>
    obtain ⟨-, hfr, -⟩ := hlcWidGenAdvance_spec hg ha
    rw [Option.some_bind, hlcWidGenEmit_of_Z_gt (by rw [hfr]; exact hZ), Option.map_none']

/-! ## 二つの生成器の実行 -/

theorem genRun_widGenNext (g : WidGen) (calls : List (Int × (Nat → UInt8))) :
    genRun (fun g now rnd => widGenNext g now rnd widMaxLen) g calls = widGenNextRun g calls := by
  induction calls generalizing g with
  | nil => rfl
  | cons c cs ih => simp only [genRun, widGenNextRun, ih]

theorem hlcCallRun_next (g : HlcWidGen) (calls : List (Int × (Nat → UInt8))) :
    hlcCallRun g (calls.map fun c => .next c.1 c.2) =
      (genRun (fun g now rnd => hlcWidGenNext g now rnd widMaxLen) g calls).map
        (List.map fun r => (r.1, some r.2)) := by
  induction calls generalizing g with
  | nil => rfl
  | cons c cs ih =>
    simp only [List.map_cons, hlcCallRun, hlcCallStep, genRun, ih]
    cases hlcWidGenNext g c.1 c.2 widMaxLen with
    | none => rfl
    | some r =>
      simp only [Option.map_some', Option.some_bind]
      cases genRun (fun g now rnd => hlcWidGenNext g now rnd widMaxLen) r.1 cs <;> rfl

/-- WID の生成器の実行：`Z ≤ 33` で、時計が `M - 回数` を超えなければ最後まで進み、ID は増え、
生成器の `W`・`Z`・単位での検査を通る。 -/
theorem widRun_ids {g : WidGen} (hg : g.Inv) (hZ : g.Z ≤ 33) {calls : List (Int × (Nat → UInt8))}
    (h0 : g.lastTick + calls.length ≤ widMaxTick g.timeUnit)
    (hc : ∀ c ∈ calls, c.1 + calls.length ≤ widMaxTick g.timeUnit) :
    ∃ rs, genRun (fun g now rnd => widGenNext g now rnd widMaxLen) g calls = some rs ∧
      rs.length = calls.length ∧ (rs.map Prod.snd).Pairwise strLt ∧
      ∀ r ∈ rs, widValidateEx r.2 g.W g.Z g.timeUnit = true := by
  obtain ⟨rs, hr, hl, hall⟩ := genRun_bounded
    (P := fun g' : WidGen => g'.Inv ∧ g'.W = g.W ∧ g'.Z = g.Z ∧ g'.timeUnit = g.timeUnit) (t := WidGen.lastTick)
    (Q := fun s => widValidateEx s g.W g.Z g.timeUnit = true)
    (fun g1 now rnd ⟨hi, hw, hz, hu⟩ hm => by
      obtain ⟨g', s, hn, ⟨hi', hw', hz', hu'⟩, ht, hs⟩ := widGenNext_step rnd hi (hz ▸ hZ) (hu ▸ hm)
      exact ⟨g', s, hn, ⟨hi', hw'.trans hw, hz'.trans hz, hu'.trans hu⟩, ht, hw ▸ hz ▸ hu ▸ hs⟩)
    calls g ⟨hg, rfl, rfl, rfl⟩ h0 hc
  refine ⟨rs, hr, hl, ?_, fun r hr' => (hall r hr').2.2⟩
  rw [genRun_widGenNext] at hr
  exact List.pairwise_map.mpr (widGenNextRun_ids hg hr fun r hr' => (hall r hr').2.1)

/-- `hlc_wid_gen_next` だけの呼び出しの列では、書いた ID は各呼び出しの ID そのもの。 -/
theorem filterMap_snd_some {α β : Type} (rs : List (α × β)) :
    (rs.map fun r => (r.1, some r.2)).filterMap Prod.snd = rs.map Prod.snd := by
  rw [List.filterMap_map]; exact congrFun (List.filterMap_eq_map Prod.snd) rs

/-- HLC の生成器の実行：`hlc_wid_gen_init_ex` が作った `Z ≤ 33` の生成器から、時計が `M - 回数` を
超えなければ最後まで進み、ID は増え、生成器の `W`・`Z`・単位での検査を通る。 -/
theorem hlcRun_ids {node : List Char} {W Z : Int} {u : WidTimeUnit} {g : HlcWidGen}
    (hi : hlcWidGenInitEx node W Z u = some g) (hZ : g.Z ≤ 33) {calls : List (Int × (Nat → UInt8))}
    (h0 : (calls.length : Int) ≤ widMaxTick u) (hc : ∀ c ∈ calls, c.1 + calls.length ≤ widMaxTick u) :
    ∃ rs, genRun (fun g now rnd => hlcWidGenNext g now rnd widMaxLen) g calls = some rs ∧
      rs.length = calls.length ∧ (rs.map Prod.snd).Pairwise strLt ∧
      ∀ r ∈ rs, hlcWidValidateEx r.2 g.W g.Z u = true := by
  obtain ⟨hvn, hnd, hu, hp, -, hg⟩ := hlcWidGenInitEx_eq_some hi
  obtain ⟨hne, hnc⟩ := widValidNode_eq_true.mp hvn
  have hn0 : g.node ≠ [] := by
    obtain ⟨c, cs, he⟩ := List.exists_cons_of_ne_nil hne
    rw [hnd, he]; simp
  have hn : g.node.length ≤ 63 := by rw [hnd]; simp
  have hnc' : ∀ c ∈ g.node, widIsNodeChar c = true := fun c h => hnc c (List.mem_of_mem_take (hnd ▸ h))
  obtain ⟨rs, hr, hl, hall⟩ := genRun_bounded
    (P := fun g' : HlcWidGen => g'.Inv ∧ g'.W = g.W ∧ g'.Z = g.Z ∧ g'.timeUnit = u ∧ g'.node = g.node)
    (t := HlcWidGen.pt) (Q := fun s => hlcWidValidateEx s g.W g.Z u = true)
    (fun g1 now rnd ⟨hi1, hw, hz, hu1, hn1⟩ hm => by
      obtain ⟨g', s, hnx, ⟨hi', hw', hz', hu', hn'⟩, ht, hs⟩ :=
        hlcWidGenNext_step rnd hi1 (hz ▸ hZ) (hn1 ▸ hn0) (hn1 ▸ hn) (hn1 ▸ hnc') (hu1 ▸ hm)
      exact ⟨g', s, hnx, ⟨hi', hw'.trans hw, hz'.trans hz, hu'.trans hu1, hn'.trans hn1⟩, ht,
        hw ▸ hz ▸ hu1 ▸ hs⟩)
    calls g ⟨hg, rfl, rfl, hu, rfl⟩ (by rw [hp]; omega) hc
  refine ⟨rs, hr, hl, ?_, fun r hr' => (hall r hr').2.2⟩
  have hrun := hlcCallRun_next g calls
  rw [hr, Option.map_some'] at hrun
  have := hlcCallRun_ids hg hn hrun fun r hr' => by
    obtain ⟨r0, h0', rfl⟩ := List.mem_map.mp hr'
    exact hu ▸ (hall r0 h0').2.1
  rwa [filterMap_snd_some] at this

/-! ## 数え上げの変数を持つ繰り返し -/

section Loop

variable {G : Type} (next : G → Int → (Nat → UInt8) → Option (G × List Char)) (go : Nat → Bool)
  (line : Nat → List Char → List Char) (lim : Nat) (call : Nat → Int × (Nat → UInt8))

/-- 数え上げの変数 `i` を持つ繰り返し：`go i` の間、`i` を `i + 1` に進め（`lim` を超えれば符号付き
整数のあふれで未定義動作）、生成器を `call i` の時計と乱数で一歩進めて `line i s` を書く。`go i` が
偽なら 0 で終わる。`fuel` は見る回数で、尽きたときの終了コードは `none`（まだ続いている）。
あふれが一歩の前か後かは、どちらも実行全体が未定義動作になるので区別しない。 -/
def genLoop : Nat → Nat → G → Option (Option Nat × List Char)
  | 0, _, _ => some (none, [])
  | fuel + 1, i, g =>
    if go i then
      if lim < i + 1 then none
      else (next g (call i).1 (call i).2).bind fun r =>
        (genLoop fuel (i + 1) r.1).map fun p => (p.1, line i r.2 ++ p.2)
    else some (some 0, [])

/-- `i` 回目からの ID の列 `ws` を書いた出力。 -/
def loopText : Nat → List (List Char) → List Char
  | _, [] => []
  | i, w :: ws => line i w ++ loopText (i + 1) ws

end Loop

/-- **繰り返しは実行。** `lim` までの `j` で `go j` が `j < K` と同じなら、`i` 回目からの繰り返しは
`n = min fuel (K - i)` 回の呼び出しの実行で、出力はその ID の行。数え上げが `lim` を超える
（`lim < i + n`）なら未定義動作、`K` 回で止まれば終了コードは 0。 -/
theorem genLoop_eq {G : Type} {next : G → Int → (Nat → UInt8) → Option (G × List Char)} {go : Nat → Bool}
    {line : Nat → List Char → List Char} {lim K : Nat} {call : Nat → Int × (Nat → UInt8)}
    (hgo : ∀ j, j ≤ lim → (go j = true ↔ j < K)) :
    ∀ fuel i g, i ≤ lim → genLoop next go line lim call fuel i g =
      (genRun next g ((List.range' i (min fuel (K - i))).map call)).bind fun rs =>
        if lim < i + min fuel (K - i) then none
        else some (if K - i < fuel then some 0 else none, loopText line i (rs.map Prod.snd))
  | 0, i, g, hi => by simp [genLoop, genRun, Nat.not_lt.mpr hi, loopText]
  | fuel + 1, i, g, hi => by
    by_cases hc : i < K
    · have hn : min (fuel + 1) (K - i) = min fuel (K - (i + 1)) + 1 := by omega
      rw [genLoop, if_pos ((hgo i hi).mpr hc), hn, List.range'_succ, List.map_cons, genRun]
      by_cases hl : lim < i + 1
      · simp only [if_pos hl, if_pos (show lim < i + (min fuel (K - (i + 1)) + 1) by omega), Option.bind_none]
      · rw [if_neg hl]
        cases next g (call i).1 (call i).2 with
        | none => rfl
        | some r =>
          simp only [Option.some_bind, genLoop_eq hgo fuel (i + 1) r.1 (by omega)]
          cases genRun next r.1 ((List.range' (i + 1) (min fuel (K - (i + 1)))).map call) with
          | none => rfl
          | some rs =>
            simp only [Option.some_bind, Option.map_some', List.map_cons, loopText]
            by_cases ho : lim < i + 1 + min fuel (K - (i + 1))
            · rw [if_pos ho, if_pos (show lim < i + (min fuel (K - (i + 1)) + 1) by omega)]; rfl
            · have hex : K - (i + 1) < fuel ↔ K - i < fuel + 1 := by omega
              rw [if_neg ho, if_neg (show ¬ lim < i + (min fuel (K - (i + 1)) + 1) by omega), Option.map_some',
                if_congr hex rfl rfl]
    · have hn : min (fuel + 1) (K - i) = 0 := by omega
      rw [genLoop, if_neg (by rw [hgo i hi]; exact hc), hn]
      simp [genRun, loopText, Nat.not_lt.mpr hi, show K - i < fuel + 1 by omega]

/-! ## 順序のまとめ -/

/-- 時計の読みに回数を足しても `M` を超えない呼び出しの列は、回数も `M` を超えない。 -/
theorem calls_bound {calls : List (Int × (Nat → UInt8))} {M : Int} (hM : 0 ≤ M)
    (hc : ∀ c ∈ calls, max c.1 0 + calls.length ≤ M) :
    (calls.length : Int) ≤ M ∧ ∀ c ∈ calls, c.1 + calls.length ≤ M := by
  refine ⟨?_, fun c h => by have := hc c h; have := le_max_left c.1 0; omega⟩
  rcases calls with _ | ⟨c, cs⟩
  · simpa using hM
  · have := hc c (List.mem_cons_self _ _); have := le_max_right c.1 0; omega

/-- 0 回目から `n ≤ fuel` 回の呼び出し：どの読みに `fuel` を足しても `M` を超えなければ、列も
`calls_bound` の前提を満たす。 -/
theorem rangeCalls_bound {call : Nat → Int × (Nat → UInt8)} {fuel n : Nat} {M : Int}
    (hT : ∀ i, max (call i).1 0 + fuel ≤ M) (hn : n ≤ fuel) :
    ∀ c ∈ (List.range' 0 n).map call, max c.1 0 + ((List.range' 0 n).map call).length ≤ M := by
  intro c hc
  obtain ⟨i, -, rfl⟩ := List.mem_map.mp hc
  have := hT i
  simp only [List.length_map, List.length_range']; omega

/-- `wid_gen_init_ex` に `Z ≤ 33` を渡した生成器の実行は最後まで進み、ID は増える。 -/
theorem widInitRun_ids {W Z : Int} {u : WidTimeUnit} (hZ : Z ≤ 33) {calls : List (Int × (Nat → UInt8))}
    (hc : ∀ c ∈ calls, max c.1 0 + calls.length ≤ widMaxTick u) :
    ∃ rs, widGenNextRun (widGenInitEx W Z u) calls = some rs ∧ rs.length = calls.length ∧
      List.Pairwise (fun a b => strLt a.2 b.2) rs := by
  obtain ⟨h0, hc'⟩ := calls_bound (widMaxTick_lt u).1 hc
  have hZg : (widGenInitEx W Z u).Z ≤ 33 := by
    rw [widGenInitEx_Z]; unfold widDefaultZ widMaxZ; split_ifs <;> omega
  obtain ⟨rs, hr, hl, hord, -⟩ := @widRun_ids _ (widGenInitEx_inv W Z u) hZg calls
    (by simp only [widGenInitEx]; omega) hc'
  rw [genRun_widGenNext] at hr
  exact ⟨rs, hr, hl, List.pairwise_map.mp hord⟩

/-- `hlc_wid_gen_init_ex` に `Z ≤ 33` を渡した生成器の `hlc_wid_gen_next` の実行も同じ。 -/
theorem hlcInitRun_ids {node : List Char} {W Z : Int} {u : WidTimeUnit} {g : HlcWidGen} (hZ : Z ≤ 33)
    (hi : hlcWidGenInitEx node W Z u = some g) {calls : List (Int × (Nat → UInt8))}
    (hc : ∀ c ∈ calls, max c.1 0 + calls.length ≤ widMaxTick u) :
    ∃ rs, hlcCallRun g (calls.map fun c => .next c.1 c.2) = some rs ∧ rs.length = calls.length ∧
      List.Pairwise strLt (rs.filterMap Prod.snd) := by
  obtain ⟨h0, hc'⟩ := calls_bound (widMaxTick_lt u).1 hc
  have hZg : g.Z ≤ 33 := by rw [hlcWidGenInitEx_Z hi]; unfold widMaxZ; omega
  obtain ⟨rs, hr, hl, hord, -⟩ := hlcRun_ids hi hZg h0 hc'
  refine ⟨rs.map fun r => (r.1, some r.2), by rw [hlcCallRun_next, hr, Option.map_some'], by simp [hl], ?_⟩
  rwa [filterMap_snd_some]

/-- **先頭部分の順序と、一つの生成器が書く ID の順序。** 先頭部分 `P(t, c)` の `strcmp` の順序は、
9999 年までの tick と `[0, 10^W - 1]` の番号の上で `(tick, counter)` の辞書式順序と一致する。
`Z ≤ 33` なら、時計の読みに回数を足しても 9999 年に収まるどの呼び出しの列でも、`wid_gen_next` の
実行と `hlc_wid_gen_next` の実行は未定義動作なしに進み、ID は書いた順に真に増える。
`hlc_wid_observe` を混ぜた実行も、溢れずに終わって `pt` が範囲の中なら同じ。しかし `Z ≥ 34`
（`wid_gen_init_ex` は 64 まで受け入れる）では、どちらの生成器も最初の `*_gen_next` で
`wid_random_hex` が `raw[33]` の外に書き（未定義動作）、ID を一つも書かない。 -/
theorem widPrefix_order (W : Int) (u : WidTimeUnit) (hW1 : 1 ≤ W) (hW2 : W ≤ 18) :
    (∀ t₁ t₂ c₁ c₂ : Int, 0 ≤ t₁ → t₁ ≤ widMaxTick u → 0 ≤ t₂ → t₂ ≤ widMaxTick u →
      0 ≤ c₁ → c₁ ≤ 10 ^ W.toNat - 1 → 0 ≤ c₂ → c₂ ≤ 10 ^ W.toNat - 1 →
      (strLt (widPrefix W u t₁ c₁) (widPrefix W u t₂ c₂) ↔ LexLt (t₁, c₁) (t₂, c₂))) ∧
    (∀ Z calls, Z ≤ 33 → (∀ c ∈ calls, max c.1 0 + calls.length ≤ widMaxTick u) →
      ∃ rs, widGenNextRun (widGenInitEx W Z u) calls = some rs ∧ rs.length = calls.length ∧
        List.Pairwise (fun a b => strLt a.2 b.2) rs) ∧
    (∀ node Z g (calls : List (Int × (Nat → UInt8))), Z ≤ 33 → hlcWidGenInitEx node W Z u = some g →
      (∀ c ∈ calls, max c.1 0 + calls.length ≤ widMaxTick u) →
      ∃ rs, hlcCallRun g (calls.map fun c => .next c.1 c.2) = some rs ∧ rs.length = calls.length ∧
        List.Pairwise strLt (rs.filterMap Prod.snd)) ∧
    (∀ node Z g calls rs, hlcWidGenInitEx node W Z u = some g → hlcCallRun g calls = some rs →
      (∀ r ∈ rs, r.1.pt ≤ widMaxTick u) → List.Pairwise strLt (rs.filterMap Prod.snd)) ∧
    (∀ Z, 34 ≤ Z → ∀ now rnd, widGenNext (widGenInitEx W Z u) now rnd widMaxLen = none ∧
      ∀ node g, hlcWidGenInitEx node W Z u = some g → hlcWidGenNext g now rnd widMaxLen = none) := by
  refine ⟨fun t₁ t₂ c₁ c₂ h0 h1 h0' h1' hc0 hc1 hc0' hc1' =>
    strLt_widPrefix_iff hW1 hW2 h0 h1 h0' h1' hc0 hc1 hc0' hc1', fun Z calls hZ hc => widInitRun_ids hZ hc,
    fun node Z g calls hZ hi hc => hlcInitRun_ids hZ hi hc, fun node Z g calls rs hi h ht => ?_,
    fun Z hZ now rnd => ⟨widGenNext_of_Z_gt (widGenInitEx_inv W Z u) ?_ now rnd widMaxLen,
      fun node g hi => hlcWidGenNext_of_Z_gt (hlcWidGenInitEx_eq_some hi).2.2.2.2.2 ?_ now rnd widMaxLen⟩⟩
  · obtain ⟨-, hn, hu, -, -, hg⟩ := hlcWidGenInitEx_eq_some hi
    exact hlcCallRun_ids hg (by rw [hn]; simp) h (hu ▸ ht)
  · rw [widGenInitEx_Z]; unfold widMaxZ; split_ifs <;> omega
  · rw [hlcWidGenInitEx_Z hi]; unfold widMaxZ; omega

/-- `W = 4`、秒の場合。 -/
theorem widPrefix_order_four :
    (∀ t₁ t₂ c₁ c₂ : Int, 0 ≤ t₁ → t₁ ≤ widMaxTick .sec → 0 ≤ t₂ → t₂ ≤ widMaxTick .sec →
      0 ≤ c₁ → c₁ ≤ 10 ^ (4 : Int).toNat - 1 → 0 ≤ c₂ → c₂ ≤ 10 ^ (4 : Int).toNat - 1 →
      (strLt (widPrefix 4 .sec t₁ c₁) (widPrefix 4 .sec t₂ c₂) ↔ LexLt (t₁, c₁) (t₂, c₂))) ∧
    (∀ Z calls, Z ≤ 33 → (∀ c ∈ calls, max c.1 0 + calls.length ≤ widMaxTick .sec) →
      ∃ rs, widGenNextRun (widGenInitEx 4 Z .sec) calls = some rs ∧ rs.length = calls.length ∧
        List.Pairwise (fun a b => strLt a.2 b.2) rs) ∧
    (∀ node Z g (calls : List (Int × (Nat → UInt8))), Z ≤ 33 → hlcWidGenInitEx node 4 Z .sec = some g →
      (∀ c ∈ calls, max c.1 0 + calls.length ≤ widMaxTick .sec) →
      ∃ rs, hlcCallRun g (calls.map fun c => .next c.1 c.2) = some rs ∧ rs.length = calls.length ∧
        List.Pairwise strLt (rs.filterMap Prod.snd)) ∧
    (∀ node Z g calls rs, hlcWidGenInitEx node 4 Z .sec = some g → hlcCallRun g calls = some rs →
      (∀ r ∈ rs, r.1.pt ≤ widMaxTick .sec) → List.Pairwise strLt (rs.filterMap Prod.snd)) ∧
    (∀ Z, 34 ≤ Z → ∀ now rnd, widGenNext (widGenInitEx 4 Z .sec) now rnd widMaxLen = none ∧
      ∀ node g, hlcWidGenInitEx node 4 Z .sec = some g → hlcWidGenNext g now rnd widMaxLen = none) :=
  widPrefix_order 4 .sec (by decide) (by decide)

end Wid
