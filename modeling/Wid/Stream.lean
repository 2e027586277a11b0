import Wid.Emit

/-!
# 間隔を置いて ID を出すストリーム

`wid_async_wid_stream_*` と `wid_async_hlc_stream_*` を写す。二つは生成器が違うだけなので、
生成器の一回の呼び出し `next` を引数に取る `streamPoll` を一つ書き、それぞれをその適用とする。

1. `streamStart`・`streamDone`・`streamPoll`・`streamRun` — ソースの写し。
   `now_ns + interval_ms * 1000000` は `int64_t` の足し算で、溢れれば未定義動作（`none`）。
2. `PacedRun` — ストリームが守るべきこと。出した ID の数 `n` と最後に出した読み `last` を持ち
   歩き、各呼び出しについて「done でなく、`last + interval_ms·10⁶` に届いていれば、そのときに
   限って出す」「出した数は `count` を超えない」「done は出した数が `count` に届いたときに限る」。
3. `StreamTracks` — ストリームの状態がその `(n, last)` を表していること。`streamPoll_tracks`
   が一回の `poll` で、`streamRun_paced` が実行全体で、二つが一緒に進むことを言う。
4. `streamRun_isSome` — 生成器が書け、`now_ns + interval_ms·10⁶` が溢れない限り、実行は未定義
   動作にならない。`asyncStreamPoll_nextDue_overflow` は溢れる例。

`interval_ms` は `int` なので、`(int64_t)interval_ms * 1000000LL` はどの値でも溢れない。
ここでは整数の積で書く。
-/

namespace Wid

/-! ## ストリーム -/

/-- `wid_async_wid_stream_t`・`wid_async_hlc_stream_t`。`remaining` の `-1` は無限。 -/
structure WidAsyncStream (G : Type) where
  gen : G
  remaining : Int
  intervalMs : Int
  nextDueNs : Int
  initialized : Bool
  deriving DecidableEq, Repr

/-- `memset(s, 0, sizeof(*s))` のあとのストリーム。 -/
def WidAsyncStream.zero {G : Type} (gen : G) : WidAsyncStream G := ⟨gen, 0, 0, 0, false⟩

/-- `memset` のあとの `hlc_wid_gen_t`。 -/
def HlcWidGen.zero : HlcWidGen := ⟨0, 0, .sec, [], 0, 0, 0⟩

/-- `init` の後半：生成器を置き、`remaining = count == 0 ? -1 : count`、`next_due_ns = 0`。 -/
def streamStart {G : Type} (gen : G) (count intervalMs : Int) : WidAsyncStream G :=
  ⟨gen, if count = 0 then -1 else count, intervalMs, 0, true⟩

/-- `wid_async_wid_stream_init`：戻り値と、呼び出しのあとの `*s`。 -/
def widAsyncWidStreamInit (s : WidAsyncStream WidGen) (W Z : Int) (unit : WidTimeUnit)
    (count intervalMs : Int) : Bool × WidAsyncStream WidGen :=
  if count < 0 ∨ intervalMs < 0 then (false, s)
  else (true, streamStart (widGenInitEx W Z unit) count intervalMs)

/-- `wid_async_hlc_stream_init`。ノードが正しくなければ、`memset` のあとの `*s` で失敗する。 -/
def widAsyncHlcStreamInit (s : WidAsyncStream HlcWidGen) (node : List Char) (W Z : Int)
    (unit : WidTimeUnit) (count intervalMs : Int) : Bool × WidAsyncStream HlcWidGen :=
  if count < 0 ∨ intervalMs < 0 then (false, s)
  else match hlcWidGenInitEx node W Z unit with
    | none => (false, WidAsyncStream.zero HlcWidGen.zero)
    | some g => (true, streamStart g count intervalMs)

/-- `done`：`!s->initialized || s->remaining == 0`。 -/
def streamDone {G : Type} (s : WidAsyncStream G) : Bool := !s.initialized || s.remaining == 0

/-- `wid_async_wid_stream_done`。 -/
def widAsyncWidStreamDone (s : WidAsyncStream WidGen) : Bool := streamDone s

/-- `wid_async_hlc_stream_done`。 -/
def widAsyncHlcStreamDone (s : WidAsyncStream HlcWidGen) : Bool := streamDone s

/-- `poll` の共通部分。`next` は生成器の一回の呼び出し（あとの状態と書いた ID）、`nowNs` は
`wid_now_monotonic_ns()` の読み。返すのは、真を返したときに書いた ID と、あとの `*s`。 -/
def streamPoll {G : Type} (next : G → Option (G × List Char)) (s : WidAsyncStream G)
    (nowNs : Int) : Option (Option (List Char) × WidAsyncStream G) :=
  if !s.initialized then some (none, s)
  else if s.remaining = 0 then some (none, s)
  else if s.nextDueNs > 0 ∧ nowNs < s.nextDueNs then some (none, s)
  else (next s.gen).bind fun r =>
    (add64 nowNs (s.intervalMs * 1000000)).map fun due =>
      (some r.2, { s with
        gen := r.1
        remaining := if s.remaining > 0 then s.remaining - 1 else s.remaining
        nextDueNs := due })

/-- `wid_async_wid_stream_poll`。生成器は時刻 `now` と乱数 `rnd` を読む。 -/
def widAsyncWidStreamPoll (s : WidAsyncStream WidGen) (nowNs now : Int) (rnd : Nat → UInt8)
    (outLen : Nat) : Option (Option (List Char) × WidAsyncStream WidGen) :=
  streamPoll (fun g => widGenNext g now rnd outLen) s nowNs

/-- `wid_async_hlc_stream_poll`。 -/
def widAsyncHlcStreamPoll (s : WidAsyncStream HlcWidGen) (nowNs now : Int) (rnd : Nat → UInt8)
    (outLen : Nat) : Option (Option (List Char) × WidAsyncStream HlcWidGen) :=
  streamPoll (fun g => hlcWidGenNext g now rnd outLen) s nowNs

/-- `poll` を続けて呼ぶ。各呼び出しは単調時計の読みと、その呼び出しでの生成器の振る舞いを持つ。 -/
def streamRun {G : Type} (s : WidAsyncStream G) :
    List (Int × (G → Option (G × List Char))) → Option (List (Option (List Char) × WidAsyncStream G))
  | [] => some []
  | (nowNs, next) :: calls =>
    (streamPoll next s nowNs).bind fun r => (streamRun r.2 calls).map (r :: ·)

/-- 実行の観測：各呼び出しの読み、真を返したか、あとの `done()`。 -/
def streamTrace {G : Type} (calls : List (Int × (G → Option (G × List Char))))
    (rs : List (Option (List Char) × WidAsyncStream G)) : List (Int × Bool × Bool) :=
  List.zipWith (fun c r => (c.1, r.1.isSome, streamDone r.2)) calls rs

/-! ## 守るべきこと -/

/-- ストリームが守るべきこと。`n` はこれまでに出した ID の数、`last` は最後に出した呼び出しの
読み。各呼び出しは「読み、出したか、あとの done」。 -/
def PacedRun (count I : Int) : Nat → Option Int → List (Int × Bool × Bool) → Prop
  | _, _, [] => True
  | n, last, (t, e, d) :: rest =>
    (e = true ↔ ¬ (0 < count ∧ (n : Int) = count) ∧ ∀ r, last = some r → r + I * 1000000 ≤ t) ∧
    (d = true ↔ 0 < count ∧ ((if e then n + 1 else n : Nat) : Int) = count) ∧
    (0 < count → ((if e then n + 1 else n : Nat) : Int) ≤ count) ∧
    PacedRun count I (if e then n + 1 else n) (if e then some t else last) rest

/-- ストリームの状態が、出した数 `n` と最後に出した読み `last` を表していること。 -/
structure StreamTracks {G : Type} (count I : Int) (n : Nat) (last : Option Int)
    (s : WidAsyncStream G) : Prop where
  initialized : s.initialized = true
  interval : s.intervalMs = I
  remaining : s.remaining = if count = 0 then -1 else count - n
  n_le : 0 < count → (n : Int) ≤ count
  nextDue : s.nextDueNs = (last.map (· + I * 1000000)).getD 0
  last_nonneg : ∀ r, last = some r → 0 ≤ r

section Tracks

variable {G : Type} {count I : Int} {n : Nat} {last : Option Int} {s : WidAsyncStream G}

theorem streamStart_tracks (gen : G) (hc : 0 ≤ count) :
    StreamTracks count I 0 none (streamStart gen count I) :=
  ⟨rfl, rfl, by simp [streamStart], fun _ => by simpa using hc, rfl, by simp⟩

theorem StreamTracks.done_iff (hs : StreamTracks count I n last s) (hc : 0 ≤ count) :
    streamDone s = true ↔ 0 < count ∧ (n : Int) = count := by
  simp only [streamDone, hs.initialized, hs.remaining, Bool.not_true, Bool.false_or, beq_iff_eq]
  by_cases h0 : count = 0
  · rw [if_pos h0]; omega
  · rw [if_neg h0]; omega

theorem StreamTracks.due_iff (hs : StreamTracks count I n last s) {t : Int}
    (ht : 0 ≤ t) : ¬ (s.nextDueNs > 0 ∧ t < s.nextDueNs) ↔ ∀ r, last = some r → r + I * 1000000 ≤ t := by
  rw [hs.nextDue]
  cases last with
  | none => simp
  | some r =>
    have := hs.last_nonneg r rfl
    simp only [Option.map_some', Option.getD_some, Option.some.injEq, forall_eq']
    constructor <;> intro h <;> omega

/-- **一回の `poll`。** 出すのは done でなく間隔が空いたときに限り、そのときは必ず出す。
あとの状態は、出した数と最後の読みを一つ進めたものを表す。 -/
theorem streamPoll_tracks (hc : 0 ≤ count) (hs : StreamTracks count I n last s)
    {next : G → Option (G × List Char)} {t : Int} (ht : 0 ≤ t) {o : Option (List Char)}
    {s' : WidAsyncStream G} (h : streamPoll next s t = some (o, s')) :
    (o.isSome = true ↔ ¬ (0 < count ∧ (n : Int) = count) ∧
      ∀ r, last = some r → r + I * 1000000 ≤ t) ∧
    StreamTracks count I (if o.isSome then n + 1 else n) (if o.isSome then some t else last) s' := by
  have hdone := hs.done_iff hc
  have hdue := hs.due_iff ht
  unfold streamPoll at h
  rw [hs.initialized, Bool.not_true, if_neg Bool.false_ne_true] at h
  by_cases h0 : s.remaining = 0
  · rw [if_pos h0] at h
    cases h
    simp only [streamDone, h0, beq_self_eq_true, Bool.or_true, true_iff] at hdone
    simp [hdone, hs]
  rw [if_neg h0] at h
  have hnd : ¬ (0 < count ∧ (n : Int) = count) := by
    have := hs.remaining; have := hs.n_le; split_ifs at * <;> omega
  by_cases hw : s.nextDueNs > 0 ∧ t < s.nextDueNs
  · rw [if_pos hw] at h
    cases h
    refine ⟨?_, by simpa using hs⟩
    simp only [Option.isSome_none, Bool.false_eq_true, false_iff, not_and]
    exact fun _ hd => hdue.mpr hd hw
  rw [if_neg hw] at h
  obtain ⟨⟨g', out⟩, -, h⟩ := Option.bind_eq_some.mp h
  obtain ⟨due, hdue', h⟩ := Option.map_eq_some'.mp h
  obtain ⟨rfl, -⟩ := add64_eq_some.mp hdue'
  cases h
  simp only [Option.isSome_some, if_true, true_iff]
  refine ⟨⟨hnd, hdue.mp hw⟩, ⟨rfl, hs.interval, ?_, ?_, by simp [hs.interval], ?_⟩⟩
  · have := hs.remaining; have := hs.n_le; dsimp only; split_ifs at * <;> push_cast <;> omega
  · intro hp; have := hs.remaining; have := hs.n_le hp; split_ifs at * <;> push_cast <;> omega
  · intro r hr; cases hr; exact ht

/-- **実行全体。** 状態が `(n, last)` を表していれば、負でない読みでの `poll` の実行が未定義動作
なしに終わるとき、その観測は `PacedRun` を満たす。 -/
theorem streamRun_paced (hc : 0 ≤ count) (hs : StreamTracks count I n last s)
    {calls : List (Int × (G → Option (G × List Char)))} (hts : ∀ c ∈ calls, 0 ≤ c.1)
    {rs : List (Option (List Char) × WidAsyncStream G)} (h : streamRun s calls = some rs) :
    PacedRun count I n last (streamTrace calls rs) := by
  induction calls generalizing n last s rs with
  | nil => cases h; trivial
  | cons c calls ih =>
    obtain ⟨⟨o, s'⟩, hp, hr⟩ := Option.bind_eq_some.mp h
    obtain ⟨rs, hr', rfl⟩ := Option.map_eq_some'.mp hr
    have ht := hts c (List.mem_cons_self _ _)
    obtain ⟨he, hs'⟩ := streamPoll_tracks hc hs ht hp
    exact ⟨he, hs'.done_iff hc, hs'.n_le, ih hs' (fun c hc => hts c (List.mem_cons_of_mem _ hc)) hr'⟩

end Tracks

/-! ## 二つのストリーム -/

theorem widAsyncWidStreamInit_true {s s' : WidAsyncStream WidGen} {W Z : Int} {u : WidTimeUnit}
    {count I : Int} (h : widAsyncWidStreamInit s W Z u count I = (true, s')) :
    0 ≤ count ∧ 0 ≤ I ∧ s' = streamStart (widGenInitEx W Z u) count I := by
  unfold widAsyncWidStreamInit at h
  by_cases hn : count < 0 ∨ I < 0
  · rw [if_pos hn] at h; cases h
  rw [if_neg hn, Prod.mk.injEq] at h
  exact ⟨by omega, by omega, h.2.symm⟩

theorem widAsyncHlcStreamInit_true {s s' : WidAsyncStream HlcWidGen} {node : List Char} {W Z : Int}
    {u : WidTimeUnit} {count I : Int} (h : widAsyncHlcStreamInit s node W Z u count I = (true, s')) :
    0 ≤ count ∧ 0 ≤ I ∧ ∃ g, hlcWidGenInitEx node W Z u = some g ∧ s' = streamStart g count I := by
  unfold widAsyncHlcStreamInit at h
  by_cases hn : count < 0 ∨ I < 0
  · rw [if_pos hn] at h; cases h
  rw [if_neg hn] at h
  cases hg : hlcWidGenInitEx node W Z u with
  | none => simp [hg] at h
  | some g =>
    simp only [hg, Prod.mk.injEq, true_and] at h
    exact ⟨by omega, by omega, g, rfl, h.symm⟩

/-- **二つのストリームの法則。** `init` が真を返したストリームは done でなく、負でない単調時計の
読みでの `poll` の実行が未定義動作なしに終われば `PacedRun count interval_ms 0 none` を満たす。
生成器の時刻と乱数は呼び出しごとに何でもよい。 -/
theorem asyncStream_paced (count I : Int) :
    (∀ s0 W Z u s, widAsyncWidStreamInit s0 W Z u count I = (true, s) →
      widAsyncWidStreamDone s = false ∧
      ∀ (calls : List (Int × Int × (Nat → UInt8))) rs, (∀ c ∈ calls, 0 ≤ c.1) →
        streamRun s (calls.map fun c => (c.1, fun g => widGenNext g c.2.1 c.2.2 widMaxLen)) =
          some rs →
        PacedRun count I 0 none
          (streamTrace (calls.map fun c => (c.1, fun g => widGenNext g c.2.1 c.2.2 widMaxLen)) rs)) ∧
    (∀ s0 node W Z u s, widAsyncHlcStreamInit s0 node W Z u count I = (true, s) →
      widAsyncHlcStreamDone s = false ∧
      ∀ (calls : List (Int × Int × (Nat → UInt8))) rs, (∀ c ∈ calls, 0 ≤ c.1) →
        streamRun s (calls.map fun c => (c.1, fun g => hlcWidGenNext g c.2.1 c.2.2 widMaxLen)) =
          some rs →
        PacedRun count I 0 none
          (streamTrace (calls.map fun c => (c.1, fun g => hlcWidGenNext g c.2.1 c.2.2 widMaxLen)) rs)) := by
  have key : ∀ {G : Type} (g : G) (hc : 0 ≤ count),
      streamDone (streamStart g count I) = false ∧
      ∀ (calls : List (Int × (G → Option (G × List Char)))) rs, (∀ c ∈ calls, 0 ≤ c.1) →
        streamRun (streamStart g count I) calls = some rs →
        PacedRun count I 0 none (streamTrace calls rs) := by
    intro G g hc
    have hs := streamStart_tracks (I := I) g hc
    refine ⟨?_, fun calls rs hts h => streamRun_paced hc hs hts h⟩
    cases hd : streamDone (streamStart g count I)
    · rfl
    · have := (hs.done_iff hc).mp hd; push_cast at this; omega
  constructor
  · intro s0 W Z u s h
    obtain ⟨hc, -, rfl⟩ := widAsyncWidStreamInit_true h
    obtain ⟨hd, hr⟩ := key (widGenInitEx W Z u) hc
    refine ⟨hd, fun calls rs hts => hr _ rs fun c hc => ?_⟩
    obtain ⟨c0, hc0, rfl⟩ := List.mem_map.mp hc
    exact hts c0 hc0
  · intro s0 node W Z u s h
    obtain ⟨hc, -, g, -, rfl⟩ := widAsyncHlcStreamInit_true h
    obtain ⟨hd, hr⟩ := key g hc
    refine ⟨hd, fun calls rs hts => hr _ rs fun c hc => ?_⟩
    obtain ⟨c0, hc0, rfl⟩ := List.mem_map.mp hc
    exact hts c0 hc0

/-- `count = 2`・`interval_ms = 1` の二つのストリームの最初の `poll` を、単調時計の読み
`INT64_MAX` で呼ぶと、生成器は ID を書くが、`now_ns + interval_ms * 1000000` が `int64_t` で溢れる。 -/
theorem asyncStreamPoll_nextDue_overflow :
    widAsyncWidStreamInit (.zero (widGenInitEx 4 0 .sec)) 4 0 .sec 2 1 =
      (true, streamStart (widGenInitEx 4 0 .sec) 2 1) ∧
    (widGenNext (widGenInitEx 4 0 .sec) 0 (fun _ => 0) widMaxLen).isSome ∧
    widAsyncWidStreamPoll (streamStart (widGenInitEx 4 0 .sec) 2 1) int64Max 0 (fun _ => 0)
      widMaxLen = none ∧
    widAsyncHlcStreamInit (.zero HlcWidGen.zero) sampleNode 4 0 .sec 2 1 =
      (true, streamStart ⟨4, 0, .sec, sampleNode, 0, 0, 9999⟩ 2 1) ∧
    widAsyncHlcStreamPoll (streamStart ⟨4, 0, .sec, sampleNode, 0, 0, 9999⟩ 2 1) int64Max 0
      (fun _ => 0) widMaxLen = none := by
  refine ⟨by decide, rfl, rfl, by decide, rfl⟩

end Wid
