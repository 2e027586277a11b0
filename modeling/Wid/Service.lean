import Wid.Cli
import Wid.Shell

/-!
# サービスの繰り返し

`main.c` の `run_native_orchestration` と `run_service_loop` を写す。`A=saf-wid` などの正準の形の
命令は `run_canonical` から `run_native_orchestration` を通って `run_service_loop` に入り、生成器を
`N` 回（`N = 0` なら `INT64_MAX` 回）進めて、回ごとに JSON を一行書く。

* `runServiceLoop_ids` — 受け入れた引数のサービスの命令は `run_service_loop` に入る。運び方の検査と
  `data_dir` の作成を通れば、`Z ≤ 33` なら最初の `fuel` 回は未定義動作にならず、回ごとに `tick` が
  1, 2, … の行を書く。その回の ID は `strcmp` で狭義に増え、18 桁に切り詰めた `W` での検査を通る
  （行の `"W"` は切り詰める前の値）。`Z ≥ 34` なら最初の回で `raw[33]` の外に書く。ID を書かない
  命令（`run`・`saf`・`wir`・`duplex`）も生成器を進めるので、これはどの命令でも同じである。

`getenv("LOG_LEVEL")` と `mkdir_p` の成否は引数にとる。`sleep` は時計の読みに現れるだけなので、
回ごとの時計と乱数 `call` を引数にとり、`cmd_stream` と同じく見る回数 `fuel` で繰り返しを区切る。
繰り返しは `cmd_stream` と同じ `genLoop` で、数え上げは `int64_t iter`。
-/

namespace Wid

/-! ## `run_native_orchestration` -/

/-- `is_local_service_transport`（main.c 137–140）。 -/
def isLocalServiceTransport (s : List Char) : Bool :=
  s = "mqtt".toList || s = "ws".toList || s = "redis".toList || s = "null".toList || s = "stdout".toList

/-- `run_native_orchestration` の行き先（main.c 708–726）。`service a` は `run_service_loop(c, a)`、
`unknown` は `stderr` に書いて 1 で終わること。 -/
inductive NativeRoute where
  | discover
  | scaffold
  | service (action : List Char)
  | start
  | stop
  | status
  | logs
  | checkUpdate
  | unknown (err : List Char)
  deriving DecidableEq, Repr

/-- `run_service_loop` を呼ぶ `A` のうち、`run` のあとに並ぶ七つ（main.c 717–723）。 -/
def serviceActions : List (List Char) :=
  ["saf", "saf-wid", "wir", "wism", "wihp", "wipr", "duplex"].map String.toList

/-- `run_native_orchestration`（main.c 708–726）の振り分け。`run_service_loop` に渡す名前は、
どの枝でも `A` と等しい文字列。 -/
def runNativeOrchestration (c : CanonOpts) : NativeRoute :=
  if c.A = "discover".toList then .discover
  else if c.A = "scaffold".toList then .scaffold
  else if c.A = "run".toList then .service c.A
  else if c.A = "start".toList then .start
  else if c.A = "stop".toList then .stop
  else if c.A = "status".toList then .status
  else if c.A = "logs".toList then .logs
  else if c.A = "self.check-update".toList then .checkUpdate
  else if c.A ∈ serviceActions then .service c.A
  else .unknown ("error: unknown A=".toList ++ c.A ++ ['\n'])

/-- `run_canonical` が自分で扱う `A`（main.c 1047–1066）。 -/
def canonicalActions : List (List Char) :=
  ["help-actions", "sign", "verify", "w-otp", "next", "stream", "healthcheck"].map String.toList

/-- `T` が読め、`A` が `run_canonical` の扱う名前でなければ、`run_native_orchestration` に進む。 -/
theorem runCanonicalRoute_native {c : CanonOpts} {u : WidTimeUnit} (hu : widTimeUnitFromStr c.T = some u)
    (hA : c.A ∉ canonicalActions) : runCanonicalRoute c = .native := by
  simp only [canonicalActions, List.map_cons, List.map_nil, List.mem_cons, List.not_mem_nil, or_false,
    not_or] at hA
  obtain ⟨h1, h2, h3, h4, h5, h6, h7⟩ := hA
  simp only [runCanonicalRoute, hu, if_neg h1, if_neg h2, if_neg h3, if_neg h4, h5, h6, h7, and_false,
    if_false]

/-- サービスの命令の名前は、ほかの行き先のどの名前とも違う。 -/
theorem serviceLoopActions_spec : ∀ a ∈ "run".toList :: serviceActions, a ∉ canonicalActions ∧
    a ≠ "discover".toList ∧ a ≠ "scaffold".toList ∧ a ≠ "start".toList ∧ a ≠ "stop".toList ∧
    a ≠ "status".toList ∧ a ≠ "logs".toList ∧ a ≠ "self.check-update".toList := by
  decide

theorem runNativeOrchestration_service {c : CanonOpts} (hA : c.A ∈ "run".toList :: serviceActions) :
    runNativeOrchestration c = .service c.A := by
  obtain ⟨-, h1, h2, h3, h4, h5, h6, h7⟩ := serviceLoopActions_spec c.A hA
  unfold runNativeOrchestration
  rw [if_neg h1, if_neg h2]
  rcases List.mem_cons.mp hA with hr | hs
  · rw [if_pos hr]
  · rw [if_neg (fun hr => absurd (hr ▸ hs) (by decide)), if_neg h3, if_neg h4, if_neg h5, if_neg h6, if_neg h7, if_pos hs]

/-! ## `run_service_loop` -/

/-- 運び方の検査を受ける命令（main.c 518–519）。 -/
def transportCheckedActions : List (List Char) :=
  ["saf-wid", "wir", "wism", "wihp", "wipr", "duplex"].map String.toList

/-- ID を行に書く命令（main.c 546–547）。 -/
def widLineActions : List (List Char) := ["saf-wid", "wism", "wihp", "wipr"].map String.toList

/-- `run_service_loop` の運び方（main.c 514–517）：`parse_state_transport` の運び方で、`auto` は
`mqtt` に読み替える。 -/
def serviceTransport (c : CanonOpts) : List Char :=
  if (parseStateTransport c).2 = "auto".toList then "mqtt".toList else (parseStateTransport c).2

/-- `LOG_LEVEL` の値（main.c 534–535）：なければ、または空なら `INFO`。 -/
def logLevelOf : Option (List Char) → List Char
  | some l => if l = [] then "INFO".toList else l
  | none => "INFO".toList

/-- `max_iter`（main.c 537）：`N = 0` なら `INT64_MAX`。 -/
def serviceMaxIter (c : CanonOpts) : Nat := if c.N = 0 then int64Max.toNat else c.N.toNat

/-- `wid_gen_init_ex` に渡す単位（main.c 540）：`T` が `ms` でなければ秒。 -/
def serviceUnit (c : CanonOpts) : WidTimeUnit := if c.T = "ms".toList then .ms else .sec

section Line

variable (c : CanonOpts) (action transport logLevel dataDir : List Char)

/-- 一回の行（main.c 546–575）。`iter` は `tick` の欄、`wid` はその回に作った ID。`W`・`Z`・`T`・`L`
は `canon_opts_t` の値をそのまま書く。 -/
def serviceLine (iter : Nat) (wid : List Char) : List Char :=
  if action ∈ widLineActions then
    "\x7b\"impl\":\"c\",\"action\":\"".toList ++ action ++ "\",\"tick\":".toList ++ fmtZeroPad 0 iter ++
      ",\"transport\":\"".toList ++ transport ++ "\",\"W\":".toList ++ fmtZeroPad 0 c.W ++ ",\"Z\":".toList ++
      fmtZeroPad 0 c.Z ++ ",\"time_unit\":\"".toList ++ c.T ++ "\",\"wid\":\"".toList ++ wid ++
      "\",\"interval\":".toList ++ fmtZeroPad 0 c.L ++ ",\"log_level\":\"".toList ++ logLevel ++
      "\",\"data_dir\":\"".toList ++ dataDir ++ "\"\x7d\n".toList
  else if action = "duplex".toList then
    let bTransport := if isLocalServiceTransport c.I ∧ c.I ≠ "auto".toList then c.I else "ws".toList
    "\x7b\"impl\":\"c\",\"action\":\"duplex\",\"tick\":".toList ++ fmtZeroPad 0 iter ++
      ",\"a_transport\":\"".toList ++ transport ++ "\",\"b_transport\":\"".toList ++ bTransport ++
      "\",\"interval\":".toList ++ fmtZeroPad 0 c.L ++ ",\"data_dir\":\"".toList ++ dataDir ++ "\"\x7d\n".toList
  else
    "\x7b\"impl\":\"c\",\"action\":\"".toList ++ action ++ "\",\"tick\":".toList ++ fmtZeroPad 0 iter ++
      ",\"transport\":\"".toList ++ transport ++ "\",\"interval\":".toList ++ fmtZeroPad 0 c.L ++
      ",\"log_level\":\"".toList ++ logLevel ++ "\",\"data_dir\":\"".toList ++ dataDir ++ "\"\x7d\n".toList

/-- 一回に書くもの：運び方が `null` なら何も書かない（main.c 545）。 -/
def serviceOut (iter : Nat) (wid : List Char) : List Char :=
  if transport = "null".toList then [] else serviceLine c action transport logLevel dataDir iter wid

/-- `iter` 回のあとに作った ID の列 `wids` を順に書いた出力。`tick` は `iter + 1` から。 -/
def serviceText : Nat → List (List Char) → List Char
  | _, [] => []
  | iter, w :: ws => serviceOut c action transport logLevel dataDir (iter + 1) w ++ serviceText (iter + 1) ws

/-- `run_service_loop` の `while`（main.c 539–579）：`iter < max_iter` の間、`int64_t iter` を一つ進め、
生成器を `call iter` の時計と乱数で一歩進めて、`tick` が `iter + 1` の行を書く。`fuel` は見る回数で、
尽きたときの終了コードは `none`（まだ続いている）。 -/
def serviceLoop (maxIter : Nat) (call : Nat → Int × (Nat → UInt8)) : Nat → Nat → WidGen →
    Option (Option Nat × List Char) :=
  genLoop (fun g now rnd => widGenNext g now rnd widMaxLen) (fun iter => decide (iter < maxIter))
    (fun iter w => serviceOut c action transport logLevel dataDir (iter + 1) w) int64Max.toNat call

theorem loopText_service (ws : List (List Char)) : ∀ iter,
    loopText (fun iter w => serviceOut c action transport logLevel dataDir (iter + 1) w) iter ws =
      serviceText c action transport logLevel dataDir iter ws := by
  induction ws with
  | nil => intro; rfl
  | cons w ws ih => intro iter; simp only [loopText, serviceText, ih]

/-- 繰り返しは、回る回数 `min fuel maxIter` だけの呼び出しの実行で、出力はその ID の行。
`max_iter ≤ INT64_MAX` なので `iter++` はあふれない。 -/
theorem serviceLoop_eq (maxIter : Nat) (hm : maxIter ≤ int64Max.toNat) (call : Nat → Int × (Nat → UInt8))
    (fuel : Nat) (g : WidGen) :
    serviceLoop c action transport logLevel dataDir maxIter call fuel 0 g =
      (genRun (fun g now rnd => widGenNext g now rnd widMaxLen) g
        ((List.range' 0 (min fuel maxIter)).map call)).map fun rs =>
          (if maxIter < fuel then some 0 else none,
            serviceText c action transport logLevel dataDir 0 (rs.map Prod.snd)) := by
  rw [serviceLoop, genLoop_eq (fun j _ => decide_eq_true_iff) fuel 0 g (Nat.zero_le _)]
  simp only [Nat.sub_zero, Nat.zero_add, loopText_service,
    if_neg (show ¬ int64Max.toNat < min fuel maxIter by omega)]
  exact Option.map_eq_bind.symm

end Line

/-- `run_service_loop`（main.c 512–583）。`logLevelEnv` は `getenv("LOG_LEVEL")`、`mkdirOk` は
`mkdir_p(data_dir)` が 0 を返したか。`.error e` は `stderr` に `e` を書いて 1 で終わること、
未定義動作は `none`。 -/
def runServiceLoop (c : CanonOpts) (action : List Char) (logLevelEnv : Option (List Char)) (mkdirOk : Bool)
    (call : Nat → Int × (Nat → UInt8)) (fuel : Nat) : Option (Except (List Char) (Option Nat × List Char)) :=
  if action ∈ transportCheckedActions ∧ isLocalServiceTransport (serviceTransport c) = false then
    some (.error ("error: invalid transport for A=".toList ++ action ++ ": ".toList ++ serviceTransport c ++
      ['\n']))
  else if mkdirOk = false then
    some (.error ("error: failed to create data dir: ".toList ++ getDataDir c ++ ['\n']))
  else
    (serviceLoop c action (serviceTransport c) (logLevelOf logLevelEnv) (getDataDir c) (serviceMaxIter c) call
      fuel 0 (widGenInitEx c.W c.Z (serviceUnit c))).map .ok

/-! ## 繰り返しの実行 -/

theorem widGenInitEx_W_min {W Z : Int} (u : WidTimeUnit) (hW : 0 < W) :
    (widGenInitEx W Z u).W = min W widMaxW := by
  simp only [widGenInitEx, widMaxW]; split_ifs <;> omega

theorem serviceUnit_eq {c : CanonOpts} {u : WidTimeUnit} (hu : widTimeUnitFromStr c.T = some u) :
    serviceUnit c = u := by
  unfold serviceUnit
  rw [widTimeUnitFromStr_eq_some.mp hu]
  cases u <;> rfl

/-- 作ったばかりの生成器から、時計が `M - fuel` を超えない `n ≤ fuel` 回の呼び出しは最後まで
進み、ID は増え、切り詰めた `W` で検査を通る。 -/
theorem serviceRun_ids {W Z : Int} {u : WidTimeUnit} (hW : 0 < W) (hZ0 : 0 ≤ Z) (hZ : Z ≤ 33)
    {call : Nat → Int × (Nat → UInt8)} {fuel n : Nat} (hT : ∀ i, max (call i).1 0 + fuel ≤ widMaxTick u)
    (hn : n ≤ fuel) :
    ∃ rs, genRun (fun g now rnd => widGenNext g now rnd widMaxLen) (widGenInitEx W Z u)
        ((List.range' 0 n).map call) = some rs ∧ rs.length = n ∧ (rs.map Prod.snd).Pairwise strLt ∧
      ∀ r ∈ rs, widValidateEx r.2 (min W widMaxW) Z u = true := by
  have hZ' : (widGenInitEx W Z u).Z = Z := by
    rw [widGenInitEx_Z]; unfold widMaxZ; split_ifs <;> omega
  obtain ⟨h0, hc⟩ := calls_bound (widMaxTick_lt u).1 (rangeCalls_bound hT hn)
  obtain ⟨rs, hr, hl, hord, hval⟩ := widRun_ids (widGenInitEx_inv W Z u) (by rw [hZ']; exact hZ)
    (by simp only [widGenInitEx]; omega) hc
  refine ⟨rs, hr, by simpa using hl, hord, fun r h => ?_⟩
  simpa only [widGenInitEx_W_min u hW, hZ'] using hval r h

/-- **サービスの命令の繰り返し。** 受け入れた正準の形の引数で `A` がサービスの命令
（`run`・`saf`・`saf-wid`・`wir`・`wism`・`wihp`・`wipr`・`duplex`）、`T` が `sec` か `ms` なら、
`main` は `run_canonical`、`run_native_orchestration` を通って `run_service_loop` に入る。運び方の
検査と `data_dir` の作成を通り、どの時計の読みも回数を足して 9999 年に収まるなら：
`Z ≤ 33` では最初の `fuel` 回は未定義動作にならず、`tick` が 1, 2, … の行を書く。その ID は
`strcmp` で狭義に増え、18 までに切り詰めた `W` で検査を通る。`N` が正でそれより多く回れば
終了コードは 0、`N = 0` ならどの `fuel` のあとも続いている。`Z ≥ 34` では最初の回が未定義動作。 -/
theorem runServiceLoop_ids {args : List (List Char)} {c : CanonOpts} (h : parseCanonical args = .ok c)
    (hne : args ≠ []) (hA : c.A ∈ "run".toList :: serviceActions) {u : WidTimeUnit}
    (hu : widTimeUnitFromStr c.T = some u) (env : Option (List Char)) {mkdirOk : Bool}
    {call : Nat → Int × (Nat → UInt8)} {fuel : Nat} (hT : ∀ i, max (call i).1 0 + fuel ≤ widMaxTick u)
    (hok : c.A ∈ transportCheckedActions → isLocalServiceTransport (serviceTransport c) = true)
    (hmk : mkdirOk = true) :
    widMain args = .canonical c ∧ runCanonicalRoute c = .native ∧
      runNativeOrchestration c = .service c.A ∧
      (c.Z ≤ 33 → ∃ wids : List (List Char),
        runServiceLoop c c.A env mkdirOk call fuel = some (.ok (if c.N ≠ 0 ∧ c.N.toNat < fuel then some 0 else none,
          serviceText c c.A (serviceTransport c) (logLevelOf env) (getDataDir c) 0 wids)) ∧
        wids.length = (if c.N = 0 then fuel else min fuel c.N.toNat) ∧ wids.Pairwise strLt ∧
        ∀ w ∈ wids, widValidateEx w (min c.W widMaxW) c.Z u = true) ∧
      (34 ≤ c.Z → 0 < fuel → runServiceLoop c c.A env mkdirOk call fuel = none) := by
  have hv := parseCanonical_valid h
  have hW := hv.W_pos
  have hZ0 := hv.nonneg.1
  have hN := hv.nonneg.2.1
  obtain ⟨hM0, hM⟩ := widMaxTick_lt u
  have hf : (fuel : Int) ≤ widMaxTick u := by have := hT 0; omega
  have hI : ((int64Max.toNat : Nat) : Int) = int64Max := Int.toNat_of_nonneg (by decide)
  have hmax : min fuel (serviceMaxIter c) = (if c.N = 0 then fuel else min fuel c.N.toNat) ∧
      (serviceMaxIter c < fuel ↔ c.N ≠ 0 ∧ c.N.toNat < fuel) ∧ serviceMaxIter c ≤ int64Max.toNat := by
    have := hv.N.2
    have : (2147483647 : Int) < int64Max := by decide
    unfold serviceMaxIter; split_ifs <;> omega
  have hrun : runServiceLoop c c.A env mkdirOk call fuel =
      (serviceLoop c c.A (serviceTransport c) (logLevelOf env) (getDataDir c) (serviceMaxIter c) call fuel 0
        (widGenInitEx c.W c.Z u)).map .ok := by
    rw [runServiceLoop, if_neg (fun ⟨hm, hl⟩ => by rw [hok hm] at hl; cases hl), if_neg (by rw [hmk]; decide),
      serviceUnit_eq hu]
  refine ⟨widMain_canonical h hne, runCanonicalRoute_native hu (serviceLoopActions_spec c.A hA).1,
    runNativeOrchestration_service hA, fun hZ => ?_, fun hZ hfuel => ?_⟩
  · obtain ⟨rs, hr, hl, hord, hval⟩ := serviceRun_ids (n := min fuel (serviceMaxIter c)) hW hZ0 hZ hT
      (Nat.min_le_left _ _)
    refine ⟨rs.map Prod.snd, ?_, ?_, hord, fun w hw => ?_⟩
    · rw [hrun, serviceLoop_eq _ _ _ _ _ _ hmax.2.2, hr, Option.map_some', Option.map_some',
        if_congr hmax.2.1 rfl rfl]
    · rw [List.length_map, hl, hmax.1]
    · obtain ⟨r, hr', rfl⟩ := List.mem_map.mp hw
      exact hval r hr'
  · obtain ⟨f, rfl⟩ := Nat.exists_eq_add_of_lt hfuel
    have hub := (widGenNext_init (W := c.W) hZ0 (by have := hT 0; omega : (call 0).1 ≤ widMaxTick u)
      (call 0).2).2 hZ
    have hpos : 0 < serviceMaxIter c := by unfold serviceMaxIter; split_ifs <;> omega
    rw [hrun, serviceLoop_eq _ _ _ _ _ _ hmax.2.2, Nat.zero_add,
      show min (f + 1) (serviceMaxIter c) = min f (serviceMaxIter c - 1) + 1 by omega, List.range'_succ,
      List.map_cons, genRun, hub]
    rfl

theorem runServiceLoop_ids_safWid :
    parseCanonical ["A=saf-wid".toList, "Z=0".toList, "N=2".toList] =
        .ok { CanonOpts.default with A := "saf-wid".toList, Z := 0, N := 2 } ∧
      ∃ wids : List (List Char), runServiceLoop { CanonOpts.default with A := "saf-wid".toList, Z := 0, N := 2 }
          "saf-wid".toList none true (fun _ => (0, fun _ => 0)) 3 = some (.ok (some 0,
            serviceText { CanonOpts.default with A := "saf-wid".toList, Z := 0, N := 2 } "saf-wid".toList
              "mqtt".toList "INFO".toList ".local/services".toList 0 wids)) ∧
        wids.length = 2 ∧ wids.Pairwise strLt ∧ ∀ w ∈ wids, widValidateEx w 4 0 .sec = true := by
  obtain ⟨-, -, -, hrun, -⟩ := @runServiceLoop_ids ["A=saf-wid".toList, "Z=0".toList, "N=2".toList]
    { CanonOpts.default with A := "saf-wid".toList, Z := 0, N := 2 } rfl (List.cons_ne_nil _ _) (by decide) .sec
    rfl none true (fun _ => (0, fun _ => 0)) 3 (fun _ => by dsimp only; decide) (fun _ => rfl) rfl
  exact ⟨rfl, hrun (by decide)⟩

end Wid
