import Wid.Emit

/-!
# 状態ファイルを共有するプロセスの割り当て

`main.c` の `sql_allocate_next_wid` を、同じデータディレクトリと同じ `W`・`Z`・`T`
（つまり同じキー `wid:c:W:Z:T`）で何本ものプロセスが繰り返し呼ぶ系として写す。

* 共有するのはそのキーの `wid_state` の行 `(last_tick, last_seq)` だけで、sqlite の文
  （`sql_ensure_state`・`sql_load_state`・`sql_compare_and_swap_state`）は一つずつ不可分に走る。
* プロセスは文と文のあいだでいつでも止まりうる。どのプロセスを進めるかは事象の列が決め、
  `wid_gen_next` が読む時計と乱数も事象が持つ。事象の列の一つが割り込み方の一つである。
* 示すこと（`sqlRun_allocations`）：行の値は一歩で変わらないか、いまの値の
  `wid_gen_next` の後継に変わる。比較交換が確定した割り当ての `(tick, seq)` は確定の順に
  狭義に増え、返した ID はその組から `wid_gen_next` が書いたものである。

証明は一歩の場合分け `sqlStep_cases` と、それが保つ不変条件 `SqlSys.Inv` による。
`wid_gen_next` の中で int64 が溢れる一歩は未定義動作で、系の一歩は `none` になる
（`sqlAllocateNextWid_tick_overflow`）。
-/

namespace Wid

/-! ## sqlite の文と読んだ行からの生成器 -/

/-- `sql_ensure_state`：`CREATE TABLE IF NOT EXISTS` と、行が無ければ `(0, -1)` を入れる
`INSERT OR IGNORE`。 -/
def sqlEnsureState : Option (Int × Int) → Option (Int × Int)
  | none => some (0, -1)
  | some r => some r

/-- `sql_compare_and_swap_state`：行が `old` のときだけ `new` に書き換える `UPDATE ... WHERE` と、
`SELECT changes()` が `1` かどうか。 -/
def sqlCompareAndSwapState (row : Option (Int × Int)) (old new : Int × Int) :
    Bool × Option (Int × Int) :=
  if row = some old then (true, some new) else (false, row)

/-- 読んだ行から作る生成器：`wid_gen_init_ex(&g, W, Z, unit)` のあとで `last_tick`・`last_seq`
を読んだ値にする。 -/
def sqlGen (W Z : Int) (u : WidTimeUnit) (r : Int × Int) : WidGen :=
  { widGenInitEx W Z u with lastTick := r.1, lastSeq := r.2 }

/-- 割り当ての試行の回数の上限（`attempt < 64`）。 -/
def sqlMaxAttempts : Nat := 64

/-! ## 系 -/

/-- プロセスが `sql_allocate_next_wid` のどこにいるか。 -/
inductive SqlPc where
  /-- 割り当ての外。次の一歩で呼び出し、`sql_ensure_state` を走らせる。 -/
  | idle
  /-- `attempt` 回目の `sql_load_state` の前。 -/
  | ready (attempt : Nat)
  /-- 読んだ `(last_tick, last_seq)` を持って、`wid_gen_next` の前。 -/
  | loaded (attempt : Nat) (old : Int × Int)
  /-- `wid_gen_next` が進めた組と書いた ID を持って、比較交換の前。 -/
  | computed (attempt : Nat) (old new : Int × Int) (out : List Char)
  deriving DecidableEq, Repr

/-- プロセス `n` 本の系：共有の行、各プロセスの位置、比較交換が確定した割り当ての記録
（プロセス、書いた `(tick, seq)`、返した ID を確定の順に）。 -/
structure SqlSys (n : Nat) where
  row : Option (Int × Int)
  pcs : Fin n → SqlPc
  log : List (Fin n × (Int × Int) × List Char)

/-- 空のデータディレクトリと、割り当ての外にいるプロセスたち。 -/
def sqlInit (n : Nat) : SqlSys n := ⟨none, fun _ => .idle, []⟩

/-- 一歩：プロセス `i` が次の文を走らせる（`wid_gen_next` なら時計の読み `now` と乱数 `rnd`
を使う）。`fail` は sqlite の文の失敗（`sqlite_exec_capture` が `-1`）で、割り当ては `-1` を返す。 -/
inductive SqlEv (n : Nat) where
  | step (i : Fin n) (now : Int) (rnd : Nat → UInt8)
  | fail (i : Fin n)

variable {n : Nat} {W Z : Int} {u : WidTimeUnit}

/-- 系の一歩。`none` は未定義動作（`wid_gen_next` の中の int64 の溢れか `raw` の外）。 -/
def sqlStep (W Z : Int) (u : WidTimeUnit) (s : SqlSys n) : SqlEv n → Option (SqlSys n)
  | .fail i => some { s with pcs := Function.update s.pcs i .idle }
  | .step i now rnd =>
    match s.pcs i with
    | .idle => some { s with row := sqlEnsureState s.row, pcs := Function.update s.pcs i (.ready 0) }
    | .ready k =>
      -- `sql_load_state`：行が無ければ `sscanf` が失敗して `-1`
      match s.row with
      | none => some { s with pcs := Function.update s.pcs i .idle }
      | some r => some { s with pcs := Function.update s.pcs i (.loaded k r) }
    | .loaded k r =>
      (widGenNext (sqlGen W Z u r) now rnd widMaxLen).map fun go =>
        { s with pcs := Function.update s.pcs i (.computed k r (go.1.lastTick, go.1.lastSeq) go.2) }
    | .computed k old new out =>
      match sqlCompareAndSwapState s.row old new with
      | (true, row) => some ⟨row, Function.update s.pcs i .idle, s.log ++ [(i, new, out)]⟩
      | (false, row) =>
        some ⟨row, Function.update s.pcs i (if k + 1 < sqlMaxAttempts then .ready (k + 1) else .idle),
          s.log⟩

/-- 事象の列を順に走らせる。 -/
def sqlRun (W Z : Int) (u : WidTimeUnit) (s : SqlSys n) : List (SqlEv n) → Option (SqlSys n)
  | [] => some s
  | e :: es => (sqlStep W Z u s e).bind fun s' => sqlRun W Z u s' es

/-! ## 一歩の場合分け -/

/-- データを持たない位置（割り当ての外か、読み込みの前）。 -/
def SqlPc.Plain : SqlPc → Prop
  | .idle | .ready _ => True
  | _ => False

/-- **一歩で起こりうること。** 位置だけが変わる、行を作る、行を読む、`wid_gen_next` を呼ぶ、
比較交換が確定する。 -/
theorem sqlStep_cases {s s' : SqlSys n} {e : SqlEv n} (h : sqlStep W Z u s e = some s') :
    (∃ i p, p.Plain ∧ s' = { s with pcs := Function.update s.pcs i p }) ∨
    (∃ i, s' = { s with row := sqlEnsureState s.row, pcs := Function.update s.pcs i (.ready 0) }) ∨
    (∃ i k r, s.row = some r ∧ s' = { s with pcs := Function.update s.pcs i (.loaded k r) }) ∨
    (∃ i k r now rnd g' out, s.pcs i = .loaded k r ∧
      widGenNext (sqlGen W Z u r) now rnd widMaxLen = some (g', out) ∧
      s' = { s with pcs := Function.update s.pcs i (.computed k r (g'.lastTick, g'.lastSeq) out) }) ∨
    (∃ i k old new out, s.pcs i = .computed k old new out ∧ s.row = some old ∧
      s' = ⟨some new, Function.update s.pcs i .idle, s.log ++ [(i, new, out)]⟩) := by
  cases e with
  | fail i => cases h; exact .inl ⟨i, .idle, trivial, rfl⟩
  | step i now rnd =>
    simp only [sqlStep] at h
    split at h
    · cases h; exact .inr (.inl ⟨i, rfl⟩)
    · split at h <;> cases h
      · exact .inl ⟨i, .idle, trivial, rfl⟩
      · exact .inr (.inr (.inl ⟨i, _, _, ‹_›, rfl⟩))
    · obtain ⟨⟨g', out⟩, hg, rfl⟩ := Option.map_eq_some'.mp h
      exact .inr (.inr (.inr (.inl ⟨i, _, _, now, rnd, g', out, ‹_›, hg, rfl⟩)))
    · rename_i k old new out hpc
      by_cases hrow : s.row = some old
      · simp only [sqlCompareAndSwapState, hrow, if_true, Option.some.injEq] at h
        exact .inr (.inr (.inr (.inr ⟨i, k, old, new, out, hpc, hrow, h.symm⟩)))
      · simp only [sqlCompareAndSwapState, hrow, if_false, Option.some.injEq] at h
        exact .inl ⟨i, _, by split <;> trivial, h.symm⟩

/-! ## 不変条件 -/

/-- 組 `new` は、`old` を読んだ生成器を `wid_gen_next` がある時計の読みで進めた組。 -/
def SqlSucc (W Z : Int) (u : WidTimeUnit) (old new : Int × Int) : Prop :=
  ∃ now g', widGenAdvance (sqlGen W Z u old) now = some g' ∧ new = (g'.lastTick, g'.lastSeq)

/-- 行の値の一歩での変わり方：変わらない、行ができる、いまの値の後継になる。 -/
def SqlRowStep (W Z : Int) (u : WidTimeUnit) (r r' : Option (Int × Int)) : Prop :=
  r' = r ∨ (r = none ∧ r' = some (0, -1)) ∨
    ∃ old new, r = some old ∧ r' = some new ∧ SqlSucc W Z u old new

/-- 位置が持つデータの性質：読んだ組は生成器の不変条件を満たし、進めた組はその後継で、
ID はその組から書いたもの。 -/
def SqlPc.Inv (W Z : Int) (u : WidTimeUnit) : SqlPc → Prop
  | .idle | .ready _ => True
  | .loaded _ r => (sqlGen W Z u r).Inv
  | .computed _ old new out => (sqlGen W Z u old).Inv ∧ SqlSucc W Z u old new ∧
      ∃ rnd, widGenEmit (sqlGen W Z u new) rnd widMaxLen = some out

/-- 系の不変条件。記録の組はどれも行の値以下で、確定の順に狭義に増える。 -/
structure SqlSys.Inv (W Z : Int) (u : WidTimeUnit) (s : SqlSys n) : Prop where
  row_inv : ∀ r, s.row = some r → (sqlGen W Z u r).Inv
  pcs_inv : ∀ i, (s.pcs i).Inv W Z u
  log_le : ∀ a ∈ s.log, ∃ r, s.row = some r ∧ ¬ LexLt r a.2.1
  log_emit : ∀ a ∈ s.log, ∃ rnd, widGenEmit (sqlGen W Z u a.2.1) rnd widMaxLen = some a.2.2
  log_sorted : (s.log.map fun a => a.2.1).Pairwise LexLt

theorem LexLt.of_not_lt_of_lt {a b c : Int × Int} (h₁ : ¬ LexLt b a) (h₂ : LexLt b c) : LexLt a c := by
  unfold LexLt at *; omega

theorem LexLt.ne {a b : Int × Int} (h : LexLt a b) : a ≠ b := fun e => LexLt.irrefl _ (e ▸ h)

theorem sqlGen_init : sqlGen W Z u (0, -1) = widGenInitEx W Z u := rfl

/-- 後継の組も生成器の不変条件を満たし、辞書式で大きい。 -/
theorem SqlSucc.spec {old new : Int × Int} (hg : (sqlGen W Z u old).Inv) (h : SqlSucc W Z u old new) :
    (sqlGen W Z u new).Inv ∧ LexLt old new := by
  obtain ⟨now, g', ha, rfl⟩ := h
  obtain ⟨hi, hfr, -, -, hlt⟩ := widGenAdvance_spec hg ha
  exact ⟨hfr ▸ hi, hlt⟩

/-- 後継は、読んだ組より大きく番号が範囲に入る組のうち、その時計の読みで辞書式に最小のもの
（`wid_gen_next` の一歩の仕様 `IsLeastAdmissible`）。 -/
theorem SqlSucc.isLeast {old new : Int × Int} (hg : (sqlGen W Z u old).Inv)
    (h : SqlSucc W Z u old new) :
    ∃ now, IsLeastAdmissible (widGenInitEx W Z u).maxSeq old now new := by
  obtain ⟨now, g', ha, rfl⟩ := h
  exact ⟨now, (widGenAdvance_isLeast hg ha).1⟩

theorem SqlSys.Inv.pcs_update {s : SqlSys n} (hs : s.Inv W Z u) {i : Fin n} {p : SqlPc}
    (hp : p.Inv W Z u) : ∀ j, (Function.update s.pcs i p j).Inv W Z u :=
  (Function.forall_update_iff _ fun _ (q : SqlPc) => q.Inv W Z u).mpr ⟨hp, fun j _ => hs.pcs_inv j⟩

theorem SqlSys.Inv.pc {s : SqlSys n} (hs : s.Inv W Z u) {i : Fin n} {p : SqlPc}
    (h : s.pcs i = p) : p.Inv W Z u :=
  h ▸ hs.pcs_inv i

theorem SqlSys.Inv.init : (sqlInit n).Inv W Z u :=
  ⟨nofun, fun _ => trivial, nofun, nofun, List.Pairwise.nil⟩

/-- **一歩は不変条件を保つ。** -/
theorem SqlSys.Inv.step {s s' : SqlSys n} {e : SqlEv n} (hs : s.Inv W Z u)
    (h : sqlStep W Z u s e = some s') : s'.Inv W Z u := by
  rcases sqlStep_cases h with ⟨i, p, hp, rfl⟩ | ⟨i, rfl⟩ | ⟨i, k, r, hr, rfl⟩ |
    ⟨i, k, r, now, rnd, g', out, hpc, hgo, rfl⟩ | ⟨i, k, old, new, out, hpc, hrow, rfl⟩
  · -- 位置だけが変わる
    have : p.Inv W Z u := by cases p <;> trivial
    exact { hs with pcs_inv := hs.pcs_update this }
  · -- `sql_ensure_state`
    have hkeep : ∀ r, s.row = some r → sqlEnsureState s.row = some r := fun r h => by rw [h]; rfl
    refine { hs with
      row_inv := ?_
      pcs_inv := hs.pcs_update trivial
      log_le := fun a ha => ?_ }
    · cases hr : s.row with
      | none => intro r h; cases h; exact sqlGen_init ▸ widGenInitEx_inv W Z u
      | some r => intro r' h; cases h; exact hs.row_inv r hr
    · obtain ⟨r, hr, hle⟩ := hs.log_le a ha
      exact ⟨r, hkeep r hr, hle⟩
  · -- `sql_load_state`
    exact { hs with pcs_inv := hs.pcs_update (hs.row_inv r hr) }
  · -- `wid_gen_next`
    have hg := hs.pc hpc
    obtain ⟨ha, he⟩ := widGenNext_eq_some hgo
    have hfr := (widGenAdvance_spec hg ha).2.1
    exact { hs with pcs_inv := hs.pcs_update ⟨hg, ⟨now, g', ha, rfl⟩, rnd, hfr ▸ he⟩ }
  · -- 比較交換が確定する
    obtain ⟨hg, hsucc, hemit⟩ := hs.pc hpc
    obtain ⟨hnew, hlt⟩ := hsucc.spec hg
    have hprev : ∀ a ∈ s.log, ¬ LexLt old a.2.1 := fun a ha => by
      obtain ⟨r, hr, hle⟩ := hs.log_le a ha
      rw [hrow] at hr; cases hr; exact hle
    refine ⟨fun r h => by cases h; exact hnew, hs.pcs_update trivial, fun a ha => ?_,
      fun a ha => ?_, ?_⟩
    · rcases List.mem_append.mp ha with ha | ha
      · exact ⟨new, rfl, fun h => hprev a ha (hlt.trans h)⟩
      · rw [List.mem_singleton.mp ha]; exact ⟨new, rfl, LexLt.irrefl _⟩
    · rcases List.mem_append.mp ha with ha | ha
      · exact hs.log_emit a ha
      · rw [List.mem_singleton.mp ha]; exact hemit
    · rw [List.map_append, List.pairwise_append]
      refine ⟨hs.log_sorted, List.pairwise_singleton _ _, fun a ha b hb => ?_⟩
      obtain ⟨a', ha', rfl⟩ := List.mem_map.mp ha
      simp only [List.map_cons, List.map_nil, List.mem_singleton] at hb
      exact hb ▸ LexLt.of_not_lt_of_lt (hprev a' ha') hlt

theorem SqlSys.Inv.run {s s' : SqlSys n} {es : List (SqlEv n)} (hs : s.Inv W Z u)
    (h : sqlRun W Z u s es = some s') : s'.Inv W Z u := by
  induction es generalizing s with
  | nil => cases h; exact hs
  | cons e es ih =>
    obtain ⟨s1, h1, h2⟩ := Option.bind_eq_some.mp h
    exact ih (hs.step h1) h2

/-- **行の値は一歩で変わらないか、行ができるか、いまの値の後継に変わる。** -/
theorem sqlStep_row {s s' : SqlSys n} {e : SqlEv n} (hs : s.Inv W Z u)
    (h : sqlStep W Z u s e = some s') : SqlRowStep W Z u s.row s'.row := by
  rcases sqlStep_cases h with ⟨i, p, -, rfl⟩ | ⟨i, rfl⟩ | ⟨i, k, r, -, rfl⟩ |
    ⟨i, k, r, now, rnd, g', out, -, -, rfl⟩ | ⟨i, k, old, new, out, hpc, hrow, rfl⟩
  · exact .inl rfl
  · cases hr : s.row <;> simp [SqlRowStep, sqlEnsureState, hr]
  · exact .inl rfl
  · exact .inl rfl
  · exact .inr (.inr ⟨old, new, hrow, rfl, (hs.pc hpc).2.1⟩)

/-- **どの割り込みでも割り当ては重ならない。** 空のデータディレクトリから、何本のプロセスが
どう割り込み、どの時計の読みで進んでも、届いた状態では：そこからの一歩で行の値は変わらないか
後継に変わる。確定した割り当ての `(tick, seq)` は確定の順に狭義に増え、どれも異なる。
返した ID はその組から `wid_gen_next` が書いたものである。 -/
theorem sqlRun_allocations (W Z : Int) (u : WidTimeUnit) (es : List (SqlEv n)) (s : SqlSys n)
    (h : sqlRun W Z u (sqlInit n) es = some s) :
    (∀ e s', sqlStep W Z u s e = some s' → SqlRowStep W Z u s.row s'.row) ∧
    (∀ a ∈ s.log, ∃ rnd, widGenEmit (sqlGen W Z u a.2.1) rnd widMaxLen = some a.2.2) ∧
    (s.log.map fun a => a.2.1).Pairwise LexLt ∧ (s.log.map fun a => a.2.1).Nodup := by
  have hs := SqlSys.Inv.init.run h
  exact ⟨fun _ _ he => sqlStep_row hs he, hs.log_emit, hs.log_sorted,
    hs.log_sorted.imp LexLt.ne⟩

/-- 使わない乱数。 -/
def zeroRnd : Nat → UInt8 := fun _ => 0

/-- 二つのプロセスが同じ行 `(0, -1)` を読み、先に比較交換したプロセス 0 が確定し、
プロセス 1 は比較交換に負けて読み直してから確定する割り込み（時計はずっと 5）。 -/
def sqlDemoEvs : List (SqlEv 2) :=
  [.step 0 5 zeroRnd, .step 1 5 zeroRnd, .step 0 5 zeroRnd, .step 1 5 zeroRnd,
    .step 0 5 zeroRnd, .step 1 5 zeroRnd, .step 0 5 zeroRnd, .step 1 5 zeroRnd,
    .step 1 5 zeroRnd, .step 1 5 zeroRnd, .step 1 5 zeroRnd]

/-- その割り込みで届く状態。 -/
def sqlDemo : SqlSys 2 := (sqlRun 4 0 .sec (sqlInit 2) sqlDemoEvs).getD (sqlInit 2)

example : sqlDemo.log.map (fun a => a.2.1) = [(5, 0), (5, 1)] := by decide

/-- 上の割り込みは最後まで進み、二つの割り当ては `(5, 0)` と `(5, 1)` で重ならない。 -/
theorem sqlRun_allocations_demo :
    ∃ s, sqlRun 4 0 .sec (sqlInit 2) sqlDemoEvs = some s ∧
      (∀ e s', sqlStep 4 0 .sec s e = some s' → SqlRowStep 4 0 .sec s.row s'.row) ∧
      (∀ a ∈ s.log, ∃ rnd, widGenEmit (sqlGen 4 0 .sec a.2.1) rnd widMaxLen = some a.2.2) ∧
      (s.log.map fun a => a.2.1).Pairwise LexLt ∧ (s.log.map fun a => a.2.1).Nodup :=
  ⟨sqlDemo, rfl, sqlRun_allocations 4 0 .sec sqlDemoEvs sqlDemo rfl⟩

/-! ## `INT64_MAX` の時計 -/

/-- 一回の割り当てを邪魔されずに走らせる事象：呼び出しと `sql_ensure_state`、`sql_load_state`、
`wid_gen_next`、比較交換。 -/
def sqlAllocate (i : Fin n) (now : Int) (rnd : Nat → UInt8) : List (SqlEv n) :=
  List.replicate 4 (.step i now rnd)

/-- 一回の割り当てを `k` 回続ける。 -/
def sqlAllocateTimes (i : Fin n) (now : Int) (rnd : Nat → UInt8) (k : Nat) : List (SqlEv n) :=
  (List.replicate k (sqlAllocate i now rnd)).flatten

/-- `W = 1`（`max_seq = 9`）で時計が `INT64_MAX` を読み続けると、10 回の割り当てで行は
`(INT64_MAX, 9)` になり、11 回目の `wid_gen_next` は `tick += 1` で int64 を溢れさせる。 -/
theorem sqlAllocateNextWid_tick_overflow :
    (sqlRun 1 0 .sec (sqlInit 1) (sqlAllocateTimes 0 int64Max zeroRnd 10)).map SqlSys.row =
      some (some (int64Max, 9)) ∧
    sqlRun 1 0 .sec (sqlInit 1) (sqlAllocateTimes 0 int64Max zeroRnd 11) = none :=
  ⟨by decide, by rfl⟩

end Wid
