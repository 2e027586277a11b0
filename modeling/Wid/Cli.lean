import Wid.Canonical

/-!
# コマンドラインの命令

`main.c` の `cmd_stream`・`cmd_parse`・`run_selftest` と、`main` の振り分けを写す。

* `cmdStream_ids` — `wid stream` は `strcmp` で狭義に増えていく ID を一行ずつ書き、どの行も同じ旗の
  `wid validate` を通る。`--count n` なら `n` 行書いて 0 で終わる。`count = 0` なら終わらず、
  数え上げの `int i` が `INT_MAX` を超える `2^31` 回目の `i++` で未定義動作になる。
* `cmdParse_validate` — `wid parse` が 0 で終わるのは、`wid validate` が受け入れ、しかも WID か、
  HLC-WID のノードが 64 文字に満たないときに限る。そのとき出力は入力そのものと、入力の先頭の
  時刻の欄を `YYYY-MM-DDTHH:MM:SS+00:00` に並べ替えたもので始まる。
* `runSelftest_passes` — `wid selftest` は 9999 年までのどの時計の読みでも 0 で終わる。
* `widMain_canonical_stream` — `KEY=value` の形の `A=stream` と旗の形の `stream` は、同じ値で
  `cmd_stream` を呼ぶ。

`cmd_stream` の繰り返しは `count = 0` なら終わらないので、見る回数 `fuel` を引数にとり、`fuel` 回の
あとも続いていれば終了コードを `none` とする。繰り返しの形（`genLoop`）と生成器の実行の仕様
（`widRun_ids`・`hlcRun_ids`）は `Wid.Runs` にあり、`run_service_loop` と共有する。
-/

namespace Wid

/-! ## `cmd_stream` -/

/-- `INT_MAX`。 -/
def cIntMax : Nat := 2147483647

/-- `cmd_stream` の繰り返し（main.c 1165–1169、1173–1177）：`for (int i = 0; count == 0 || i < count; i++)`
の中で生成器を `call i` の時計と乱数で一歩進め、ID を一行書く（`puts`）。`i` は `int` なので、
`INT_MAX` を超える `i++` は未定義動作。 -/
def streamLoop {G : Type} (next : G → Int → (Nat → UInt8) → Option (G × List Char)) (count : Int)
    (call : Nat → Int × (Nat → UInt8)) : Nat → Nat → G → Option (Option Nat × List Char) :=
  genLoop next (fun i => decide (count = 0 ∨ (i : Int) < count)) (fun _ s => s ++ ['\n']) cIntMax call

/-- `cmd_stream`（main.c 1161–1180）：`call i` は `i` 回目の呼び出しが読む時計と乱数、`fuel` は
見る回数。終了コードが `none` なら、`fuel` 回のあとも書き続けている。未定義動作は `none`。 -/
def cmdStream (o : CliOpts) (call : Nat → Int × (Nat → UInt8)) (fuel : Nat) :
    Option (Option Nat × List Char) :=
  if o.kind = "wid".toList then
    streamLoop (fun g now rnd => widGenNext g now rnd widMaxLen) o.count call fuel 0
      (widGenInitEx o.W o.Z o.timeUnit)
  else match hlcWidGenInitEx o.node o.W o.Z o.timeUnit with
    | none => some (some 1, [])
    | some g => streamLoop (fun g now rnd => hlcWidGenNext g now rnd widMaxLen) o.count call fuel 0 g

/-- `cmd_stream` が回る回数：`count` が正ならその回数、`count = 0` なら `i` が `INT_MAX` に届いた
`2^31` 回目の `i++` まで。 -/
def streamRounds (count : Int) : Nat := if count = 0 then cIntMax + 1 else count.toNat

theorem loopText_lines (ws : List (List Char)) :
    ∀ i, loopText (fun _ s => s ++ ['\n']) i ws = (ws.map (· ++ ['\n'])).flatten := by
  induction ws with
  | nil => intro; rfl
  | cons w ws ih => intro i; simp [loopText, ih]

/-- **`cmd_stream` の繰り返しは実行。** `fuel` 回のうち回るのは `n = min fuel (streamRounds count)`
回で、その実行の ID を一行ずつ書く。`n` が `INT_MAX` を超えれば `i++` があふれて未定義動作。 -/
theorem streamLoop_eq {G : Type} (next : G → Int → (Nat → UInt8) → Option (G × List Char))
    (count : Int) (call : Nat → Int × (Nat → UInt8)) (fuel : Nat) (g : G) :
    streamLoop next count call fuel 0 g =
      (genRun next g ((List.range' 0 (min fuel (streamRounds count))).map call)).bind fun rs =>
        if cIntMax < min fuel (streamRounds count) then none
        else some (if streamRounds count < fuel then some 0 else none,
          ((rs.map Prod.snd).map (· ++ ['\n'])).flatten) := by
  have hgo : ∀ j, j ≤ cIntMax →
      (decide (count = 0 ∨ (j : Int) < count) = true ↔ j < streamRounds count) := by
    intro j hj
    rw [decide_eq_true_iff]
    unfold streamRounds
    split_ifs with h0 <;> omega
  rw [streamLoop, genLoop_eq hgo fuel 0 g (Nat.zero_le _)]
  simp only [Nat.sub_zero, Nat.zero_add, loopText_lines]

/-- 受け入れた旗の `count` で、0 回目からの実行が最後まで進み、ID が `strcmp` で狭義に増え、どれも
検査を通るなら、繰り返しの出力はそれらを一行ずつ並べたもの。`count = 0` なら `2^31` 回目の `i++` で
未定義動作。 -/
theorem streamLoop_prints {G : Type} {next : G → Int → (Nat → UInt8) → Option (G × List Char)}
    {o : CliOpts} {call : Nat → Int × (Nat → UInt8)} {fuel : Nat} {g : G} {rs : List (G × List Char)}
    (hv : o.Valid true) (hF : o.count = 0 → fuel < 2 ^ 31)
    (h : genRun next g ((List.range' 0 (min fuel (streamRounds o.count))).map call) = some rs)
    (hl : rs.length = ((List.range' 0 (min fuel (streamRounds o.count))).map call).length)
    (hord : (rs.map Prod.snd).Pairwise strLt) (hval : ∀ r ∈ rs, cmdValidate r.2 o = (0, "true\n".toList)) :
    (∃ lines : List (List Char),
      streamLoop next o.count call fuel 0 g = some (if o.count ≠ 0 ∧ o.count.toNat < fuel then some 0 else none,
        (lines.map (· ++ ['\n'])).flatten) ∧
      lines.length = (if o.count = 0 then fuel else min fuel o.count.toNat) ∧
      lines.Pairwise strLt ∧ ∀ l ∈ lines, cmdValidate l o = (0, "true\n".toList)) ∧
    (o.count = 0 → ∀ fuel', 2 ^ 31 ≤ fuel' → streamLoop next o.count call fuel' 0 g = none) := by
  have := hv.count_le
  obtain ⟨hmin, hle, hexit⟩ : min fuel (streamRounds o.count) = (if o.count = 0 then fuel else
      min fuel o.count.toNat) ∧ min fuel (streamRounds o.count) ≤ cIntMax ∧
      (streamRounds o.count < fuel ↔ o.count ≠ 0 ∧ o.count.toNat < fuel) := by
    unfold streamRounds cIntMax
    by_cases h0 : o.count = 0
    · have := hF h0
      simp only [if_pos h0]
      exact ⟨by omega, by omega, iff_of_false (by omega) fun h => h.1 h0⟩
    · simp only [if_neg h0]
      exact ⟨trivial, by omega, fun h => ⟨h0, h⟩, And.right⟩
  refine ⟨⟨rs.map Prod.snd, ?_, by simpa [hmin] using hl, hord, fun l hl => ?_⟩, fun h0 fuel' hf' => ?_⟩
  · rw [streamLoop_eq, h, Option.some_bind, if_neg (Nat.not_lt.mpr hle), if_congr hexit rfl rfl]
  · obtain ⟨r, hr, rfl⟩ := List.mem_map.mp hl
    exact hval r hr
  · have hub : cIntMax < min fuel' (streamRounds o.count) := by
      unfold streamRounds cIntMax; rw [if_pos h0]; omega
    simp only [streamLoop_eq, if_pos hub, Option.bind_none]

theorem cmdValidate_wid {o : CliOpts} (hk : o.kind = "wid".toList) {s : List Char}
    (h : widValidateEx s o.W o.Z o.timeUnit = true) : cmdValidate s o = (0, "true\n".toList) := by
  simp [cmdValidate, hk, h]

theorem cmdValidate_hlc {o : CliOpts} (hk : o.kind = "hlc".toList) {s : List Char}
    (h : hlcWidValidateEx s o.W o.Z o.timeUnit = true) : cmdValidate s o = (0, "true\n".toList) := by
  simp [cmdValidate, hk, h]

/-- WID の `cmd_stream` の実行：時計が `M - 回数` を超えなければ最後まで進み、ID は増え、検査を通る。 -/
theorem streamRun_wid {o : CliOpts} (hv : o.Valid true) (hZ : o.Z ≤ 33) {calls : List (Int × (Nat → UInt8))}
    (hc : ∀ c ∈ calls, max c.1 0 + calls.length ≤ widMaxTick o.timeUnit) :
    ∃ rs, genRun (fun g now rnd => widGenNext g now rnd widMaxLen) (widGenInitEx o.W o.Z o.timeUnit) calls =
      some rs ∧ rs.length = calls.length ∧ (rs.map Prod.snd).Pairwise strLt ∧
      ∀ r ∈ rs, widValidateEx r.2 o.W o.Z o.timeUnit = true := by
  obtain ⟨h0, hc'⟩ := calls_bound (widMaxTick_lt o.timeUnit).1 hc
  have hW : (widGenInitEx o.W o.Z o.timeUnit).W = o.W := widGenInitEx_W hv.W_pos hv.W_le
  have hZ' : (widGenInitEx o.W o.Z o.timeUnit).Z = o.Z := by
    have := hv.Z_nonneg; rw [widGenInitEx_Z]; unfold widMaxZ; split_ifs <;> omega
  obtain ⟨rs, hr, hl, hord, hval⟩ := widRun_ids (widGenInitEx_inv o.W o.Z o.timeUnit) (by rw [hZ']; exact hZ)
    (by simp only [widGenInitEx]; omega) hc'
  exact ⟨rs, hr, hl, hord, fun r h => by simpa only [hW, hZ'] using hval r h⟩

/-- HLC の `cmd_stream` の実行。 -/
theorem streamRun_hlc {o : CliOpts} (hv : o.Valid true) (hZ : o.Z ≤ 33) {g : HlcWidGen}
    (hi : hlcWidGenInitEx o.node o.W o.Z o.timeUnit = some g) {calls : List (Int × (Nat → UInt8))}
    (hc : ∀ c ∈ calls, max c.1 0 + calls.length ≤ widMaxTick o.timeUnit) :
    ∃ rs, genRun (fun g now rnd => hlcWidGenNext g now rnd widMaxLen) g calls = some rs ∧
      rs.length = calls.length ∧ (rs.map Prod.snd).Pairwise strLt ∧
      ∀ r ∈ rs, hlcWidValidateEx r.2 o.W o.Z o.timeUnit = true := by
  obtain ⟨h0, hc'⟩ := calls_bound (widMaxTick_lt o.timeUnit).1 hc
  obtain ⟨hW, hZ'⟩ := hlcWidGenInitEx_W_Z hi hv.W_pos hv.W_le hv.Z_nonneg hv.Z_le
  obtain ⟨rs, hr, hl, hord, hval⟩ := hlcRun_ids hi (by rw [hZ']; exact hZ) h0 hc'
  exact ⟨rs, hr, hl, hord, fun r h => by simpa only [hW, hZ'] using hval r h⟩

/-- **`wid stream` は増えていく正しい ID を一行ずつ書き、`--count n` なら `n` 行書いて 0 で終わる。**
`parse_opts` が受け入れた旗で `Z ≤ 33` なら、どの時計の読みと乱数でも（読みに回数を足しても
9999 年に収まる限り）、最初の `fuel` 回は未定義動作にならない。ただし `count = 0` では `int i` が
あふれる前の `2^31 - 1` 回までに限る。行の数は `count`（0 なら `fuel`）と `fuel` の小さいほうで、
行は `strcmp` で狭義に増え、どれも同じ旗の `wid validate` を通る。`count` が正でそれより多く回れば
終了コードは 0、`count = 0` なら書き続け、`2^31` 回目の `i++` で未定義動作になる。 -/
theorem cmdStream_ids {args : List (List Char)} {o : CliOpts} (h : parseOpts args true = some o)
    (hZ : o.Z ≤ 33) {call : Nat → Int × (Nat → UInt8)} {fuel : Nat}
    (hT : ∀ i, max (call i).1 0 + fuel ≤ widMaxTick o.timeUnit) (hF : o.count = 0 → fuel < 2 ^ 31) :
    (∃ lines : List (List Char),
      cmdStream o call fuel = some (if o.count ≠ 0 ∧ o.count.toNat < fuel then some 0 else none,
        (lines.map (· ++ ['\n'])).flatten) ∧
      lines.length = (if o.count = 0 then fuel else min fuel o.count.toNat) ∧
      lines.Pairwise strLt ∧ ∀ l ∈ lines, cmdValidate l o = (0, "true\n".toList)) ∧
    (o.count = 0 → ∀ fuel', 2 ^ 31 ≤ fuel' → cmdStream o call fuel' = none) := by
  have hv := parseOpts_valid h
  have hc := rangeCalls_bound hT (Nat.min_le_left fuel (streamRounds o.count))
  unfold cmdStream
  rcases hv.kind with hk | hk
  · obtain ⟨rs, hr, hl, hord, hval⟩ := streamRun_wid hv hZ hc
    simpa only [if_pos hk] using streamLoop_prints hv hF hr hl hord fun r hr' => cmdValidate_wid hk (hval r hr')
  · obtain ⟨g, hi⟩ := hlcWidGenInitEx_of_valid (hv.node hk) o.W o.Z o.timeUnit
    obtain ⟨rs, hr, hl, hord, hval⟩ := streamRun_hlc hv hZ hi hc
    simpa only [if_neg (show ¬ o.kind = "wid".toList by rw [hk]; decide), hi] using
      streamLoop_prints hv hF hr hl hord fun r hr' => cmdValidate_hlc hk (hval r hr')

theorem cmdStream_count_two :
    parseOpts ["--Z".toList, "0".toList, "--count".toList, "2".toList] true =
        some ⟨"wid".toList, "c".toList, 4, 0, .sec, 2, false⟩ ∧
      ((∃ lines : List (List Char),
        cmdStream ⟨"wid".toList, "c".toList, 4, 0, .sec, 2, false⟩ (fun _ => (0, fun _ => 0)) 3 =
          some (some 0, (lines.map (· ++ ['\n'])).flatten) ∧ lines.length = 2 ∧ lines.Pairwise strLt ∧
        ∀ l ∈ lines, cmdValidate l ⟨"wid".toList, "c".toList, 4, 0, .sec, 2, false⟩ = (0, "true\n".toList)) ∧
      ((2 : Int) = 0 → ∀ fuel', 2 ^ 31 ≤ fuel' →
        cmdStream ⟨"wid".toList, "c".toList, 4, 0, .sec, 2, false⟩ (fun _ => (0, fun _ => 0)) fuel' = none)) :=
  ⟨by decide, @cmdStream_ids ["--Z".toList, "0".toList, "--count".toList, "2".toList] _ (by decide) (by decide) _ 3
    (fun _ => by decide) (fun h => absurd h (by decide))⟩

/-! ## `cmd_parse` -/

/-- `cmd_parse` の `ts`（main.c 1199–1200、1214–1215）：`"%04d-%02d-%02dT%02d:%02d:%02d+00:00"` を
`char ts[32]` に書く。 -/
def parseTs (t : WidTimestamp) : List Char :=
  cSnprintf 32 (fmtZeroPad 4 t.year ++ '-' :: fmtZeroPad 2 t.month ++ '-' :: fmtZeroPad 2 t.day ++ 'T' ::
    fmtZeroPad 2 t.hour ++ ':' :: fmtZeroPad 2 t.minute ++ ':' :: fmtZeroPad 2 t.second ++ "+00:00".toList)

/-- ID の先頭の時刻の欄を、文字のまま `YYYY-MM-DDTHH:MM:SS+00:00` に並べ替えたもの。 -/
def isoOfId (s : List Char) : List Char :=
  s.take 4 ++ '-' :: (s.drop 4).take 2 ++ '-' :: (s.drop 6).take 2 ++ 'T' :: (s.drop 9).take 2 ++ ':' ::
    (s.drop 11).take 2 ++ ':' :: (s.drop 13).take 2 ++ "+00:00".toList

theorem isoOfId_fields {a b c d e f : List Char} (ha : a.length = 4) (hb : b.length = 2) (hc : c.length = 2)
    (hd : d.length = 2) (he : e.length = 2) (hf : f.length = 2) (t : List Char) :
    isoOfId (a ++ (b ++ (c ++ 'T' :: (d ++ (e ++ (f ++ t)))))) =
      a ++ '-' :: b ++ '-' :: c ++ 'T' :: d ++ ':' :: e ++ ':' :: f ++ "+00:00".toList := by
  obtain ⟨b1, b2, rfl⟩ := List.length_eq_two.mp hb
  obtain ⟨c1, c2, rfl⟩ := List.length_eq_two.mp hc
  obtain ⟨d1, d2, rfl⟩ := List.length_eq_two.mp hd
  obtain ⟨e1, e2, rfl⟩ := List.length_eq_two.mp he
  obtain ⟨f1, f2, rfl⟩ := List.length_eq_two.mp hf
  rcases a with _ | ⟨a1, _ | ⟨a2, _ | ⟨a3, _ | ⟨a4, _ | ⟨a5, a⟩⟩⟩⟩⟩ <;> simp at ha
  rfl

/-- 正しい時刻の欄では、`cmd_parse` の `ts` は ID の先頭の文字を並べ替えたもの。 -/
theorem parseTs_render {u : WidTimeUnit} {r : WidTimestamp} (hr : r.Valid u) (rest : List Char) :
    parseTs r = isoOfId (renderTimestamp u r ++ rest) := by
  have := hr.year_nonneg; have := hr.year_lt; have := hr.month_le; have := hr.day_le
  have := hr.hour_le; have := hr.minute_le; have := hr.second_le; have := hr.month_pos; have := hr.day_pos
  have := hr.hour_nonneg; have := hr.minute_nonneg; have := hr.second_nonneg
  have hd := gregorianDaysInMonth_le r.year r.month.toNat
  have hy : fmtZeroPad 4 r.year = fixedDigits 4 r.year.toNat := fmtZeroPad_of_lt (by omega) (by omega) (by omega)
  have h2 : ∀ v : Int, 0 ≤ v → v < 100 → fmtZeroPad 2 v = fixedDigits 2 v.toNat :=
    fun v h0 h1 => fmtZeroPad_of_lt (by omega) h0 (by omega)
  rw [renderTimestamp_of_valid hr]
  simp only [List.append_assoc, List.cons_append]
  rw [isoOfId_fields (length_fixedDigits _ _) (length_fixedDigits _ _) (length_fixedDigits _ _)
      (length_fixedDigits _ _) (length_fixedDigits _ _) (length_fixedDigits _ _),
    parseTs, hy, h2 _ (by omega) (by omega), h2 _ (by omega) (by omega), h2 _ (by omega) (by omega),
    h2 _ (by omega) (by omega), h2 _ (by omega) (by omega), cSnprintf_of_lt]
  simp [length_fixedDigits]

/-- `padding` の JSON：`"%s"` か `null`（main.c 1203、1218）。 -/
def paddingJson (has : Bool) (pad : List Char) : List Char :=
  if has then '\x22' :: pad ++ ['\x22'] else "null".toList

/-- `cmd_parse`（main.c 1190–1229）：終了コードと標準出力。読めなければ `null` と 1。 -/
def cmdParse (id : List Char) (o : CliOpts) : Nat × List Char :=
  if o.kind = "wid".toList then
    match widParseEx id o.W o.Z o.timeUnit with
    | (false, _) => (1, "null\n".toList)
    | (true, p) =>
      (0, if o.json then
          "\x7b\"raw\":\"".toList ++ p.raw.getD [] ++ "\",\"timestamp\":\"".toList ++ parseTs p.timestamp ++
            "\",\"sequence\":".toList ++ fmtZeroPad 0 p.sequence ++ ",\"padding\":".toList ++
            paddingJson p.hasPadding p.padding ++ "\x7d\n".toList
        else "raw=".toList ++ p.raw.getD [] ++ "\ntimestamp=".toList ++ parseTs p.timestamp ++
            "\nsequence=".toList ++ fmtZeroPad 0 p.sequence ++ "\npadding=".toList ++
            (if p.hasPadding then p.padding else []) ++ ['\n'])
  else
    match hlcWidParseEx id o.W o.Z o.timeUnit with
    | (false, _) => (1, "null\n".toList)
    | (true, p) =>
      (0, if o.json then
          "\x7b\"raw\":\"".toList ++ p.raw.getD [] ++ "\",\"timestamp\":\"".toList ++ parseTs p.timestamp ++
            "\",\"logical_counter\":".toList ++ fmtZeroPad 0 p.logicalCounter ++ ",\"node\":\"".toList ++
            p.node ++ "\",\"padding\":".toList ++ paddingJson p.hasPadding p.padding ++ "\x7d\n".toList
        else "raw=".toList ++ p.raw.getD [] ++ "\ntimestamp=".toList ++ parseTs p.timestamp ++
            "\nlogical_counter=".toList ++ fmtZeroPad 0 p.logicalCounter ++ "\nnode=".toList ++ p.node ++
            "\npadding=".toList ++ (if p.hasPadding then p.padding else []) ++ ['\n'])

/-- 受け入れた WID の読み取りは成功し、`raw` は入力、時刻の欄は入力の先頭の欄。 -/
theorem widParseEx_ok {s : List Char} {W Z : Int} {u : WidTimeUnit} (hs : s.length < 2 ^ 31)
    (hv : widValidateEx s W Z u = true) :
    (widParseEx s W Z u).1 = true ∧ (widParseEx s W Z u).2.raw = some s ∧
      ∃ r rest, r.Valid u ∧ s = renderTimestamp u r ++ rest ∧ (widParseEx s W Z u).2.timestamp = r := by
  have hok := (widParseEx_of_valid hs hv).1
  obtain ⟨-, -, -, r, seq, suf, hr, hseq, hdig, hs', -⟩ := widValidateEx_eq_true.mp hv
  refine ⟨hok, ?_, r, _, hr, hs', ?_⟩ <;> rw [widParseEx_of_shape hv hr hseq hdig hs'] at hok ⊢ <;>
    rcases suf with _ | ⟨c, pad⟩ <;> simp only at hok ⊢ <;> (try split_ifs at hok ⊢) <;> rfl

/-- 読み取りに成功した HLC-WID でも、`raw` は入力、時刻の欄は入力の先頭の欄。 -/
theorem hlcWidParseEx_ok {s : List Char} {W Z : Int} {u : WidTimeUnit}
    (hv : hlcWidValidateEx s W Z u = true) (hok : (hlcWidParseEx s W Z u).1 = true) :
    (hlcWidParseEx s W Z u).2.raw = some s ∧
      ∃ r rest, r.Valid u ∧ s = renderTimestamp u r ++ rest ∧ (hlcWidParseEx s W Z u).2.timestamp = r := by
  obtain ⟨-, -, -, r, seq, node, suf, hr, hseq, hdig, hs', hn, -, hsuf⟩ := hlcWidValidateEx_eq_true.mp hv
  refine ⟨?_, r, _, hr, hs', ?_⟩ <;> rw [hlcWidParseEx_of_shape hv hr hseq hdig hn hsuf hs'] at hok ⊢ <;>
    simp only at hok ⊢ <;> split_ifs at hok ⊢ <;> rcases suf with _ | ⟨c, pad⟩ <;> simp only at hok ⊢ <;>
    (try split_ifs at hok ⊢) <;> rfl

/-- 読み取りに成功したときの `cmd_parse` の出力の頭：`raw` と、時刻の欄を並べ替えたもの。 -/
def parseHead (json : Bool) (id : List Char) : List Char :=
  if json then "\x7b\"raw\":\"".toList ++ id ++ "\",\"timestamp\":\"".toList ++ isoOfId id
  else "raw=".toList ++ id ++ "\ntimestamp=".toList ++ isoOfId id

theorem cmdParse_wid_ok {id : List Char} {o : CliOpts} (hk : o.kind = "wid".toList) (hs : id.length < 2 ^ 31)
    (hv : widValidateEx id o.W o.Z o.timeUnit = true) :
    ∃ rest, cmdParse id o = (0, parseHead o.json id ++ rest) := by
  obtain ⟨hok, hraw, r, rest, hr, hsr, hts⟩ := widParseEx_ok hs hv
  unfold cmdParse
  rw [if_pos hk, show widParseEx id o.W o.Z o.timeUnit = (true, (widParseEx id o.W o.Z o.timeUnit).2) from
    Prod.ext hok rfl]
  simp only [hraw, hts, Option.getD_some]
  rw [parseTs_render hr rest, ← hsr]
  cases o.json <;> simp only [parseHead, if_true, Bool.false_eq_true, if_false, List.append_assoc] <;>
    exact ⟨_, rfl⟩

theorem cmdParse_hlc_ok {id : List Char} {o : CliOpts} (hk : o.kind ≠ "wid".toList)
    (hv : hlcWidValidateEx id o.W o.Z o.timeUnit = true) (hok : (hlcWidParseEx id o.W o.Z o.timeUnit).1 = true) :
    ∃ rest, cmdParse id o = (0, parseHead o.json id ++ rest) := by
  obtain ⟨hraw, r, rest, hr, hsr, hts⟩ := hlcWidParseEx_ok hv hok
  unfold cmdParse
  rw [if_neg hk, show hlcWidParseEx id o.W o.Z o.timeUnit = (true, (hlcWidParseEx id o.W o.Z o.timeUnit).2) from
    Prod.ext hok rfl]
  simp only [hraw, hts, Option.getD_some]
  rw [parseTs_render hr rest, ← hsr]
  cases o.json <;> simp only [parseHead, if_true, Bool.false_eq_true, if_false, List.append_assoc] <;>
    exact ⟨_, rfl⟩

/-- **`wid parse` は `wid validate` が受け入れる ID を読み、その時刻の欄を並べ替えて書く。**
2^31 文字に満たないどの ID とどの旗でも、`wid parse` が 0 で終わるのは `wid validate` が 0 で
終わり、しかも WID か、HLC-WID のノードが 64 文字に満たないときに限る（ノードが長い HLC-WID は
`validate` が `true` でも `parse` は `null`）。失敗すれば `null` と 1。成功すれば出力は、`raw` の
入力そのものと、入力の先頭の欄を `YYYY-MM-DDTHH:MM:SS+00:00` に並べ替えた時刻で始まる。 -/
theorem cmdParse_validate (id : List Char) (o : CliOpts) (hs : id.length < 2 ^ 31) :
    ((cmdParse id o).1 = 0 ↔ (cmdValidate id o).1 = 0 ∧
      (o.kind = "wid".toList ∨ (nodeRun o.W o.timeUnit id).length < widNodeSize)) ∧
    ((cmdParse id o).1 ≠ 0 → cmdParse id o = (1, "null\n".toList)) ∧
    ((cmdParse id o).1 = 0 → ∃ rest, (cmdParse id o).2 = parseHead o.json id ++ rest) := by
  have hne : (1 : Nat) ≠ 0 := by decide
  by_cases hk : o.kind = "wid".toList
  · by_cases hv : widValidateEx id o.W o.Z o.timeUnit = true
    · obtain ⟨rest, h⟩ := cmdParse_wid_ok hk hs hv
      have hval : cmdValidate id o = (0, "true\n".toList) := by simp only [cmdValidate, if_pos hk, hv]; rfl
      rw [h, hval]
      exact ⟨⟨fun _ => ⟨rfl, .inl hk⟩, fun _ => rfl⟩, fun h' => absurd rfl h', fun _ => ⟨rest, rfl⟩⟩
    · rw [Bool.not_eq_true] at hv
      have h : cmdParse id o = (1, "null\n".toList) := by simp only [cmdParse, if_pos hk, widParseEx_of_not_valid hv]
      have hval : cmdValidate id o = (1, "false\n".toList) := by simp only [cmdValidate, if_pos hk, hv]; rfl
      rw [h, hval]
      exact ⟨⟨fun h' => absurd h' hne, fun ⟨h', _⟩ => absurd h' hne⟩, fun _ => rfl, fun h' => absurd h' hne⟩
  · by_cases hv : hlcWidValidateEx id o.W o.Z o.timeUnit = true
    · have hiff := (hlcWidParseEx_of_valid hs hv).1
      have hval : cmdValidate id o = (0, "true\n".toList) := by simp only [cmdValidate, if_neg hk, hv]; rfl
      by_cases hok : (hlcWidParseEx id o.W o.Z o.timeUnit).1 = true
      · obtain ⟨rest, h⟩ := cmdParse_hlc_ok hk hv hok
        rw [h, hval]
        exact ⟨⟨fun _ => ⟨rfl, .inr (hiff.mp hok)⟩, fun _ => rfl⟩, fun h' => absurd rfl h', fun _ => ⟨rest, rfl⟩⟩
      · rw [Bool.not_eq_true] at hok
        have h : cmdParse id o = (1, "null\n".toList) := by
          unfold cmdParse
          rw [if_neg hk, show hlcWidParseEx id o.W o.Z o.timeUnit = (false, (hlcWidParseEx id o.W o.Z o.timeUnit).2)
            from Prod.ext hok rfl]
        have hn : ¬ (nodeRun o.W o.timeUnit id).length < widNodeSize := fun hl => by
          rw [← hiff, hok] at hl; cases hl
        rw [h, hval]
        exact ⟨⟨fun h' => absurd h' hne, fun ⟨_, h'⟩ => absurd (h'.resolve_left hk) hn⟩, fun _ => rfl,
          fun h' => absurd h' hne⟩
    · rw [Bool.not_eq_true] at hv
      have h : cmdParse id o = (1, "null\n".toList) := by
        simp only [cmdParse, if_neg hk, hlcWidParseEx_of_not_valid hv]
      have hval : cmdValidate id o = (1, "false\n".toList) := by simp only [cmdValidate, if_neg hk, hv]; rfl
      rw [h, hval]
      exact ⟨⟨fun h' => absurd h' hne, fun ⟨h', _⟩ => absurd h' hne⟩, fun _ => rfl, fun h' => absurd h' hne⟩

theorem cmdParse_sample :
    ∃ rest, (cmdParse "20260212T091530.0000Z".toList ⟨"wid".toList, "c".toList, 4, 0, .sec, 0, true⟩).2 =
      "\x7b\"raw\":\"20260212T091530.0000Z\",\"timestamp\":\"2026-02-12T09:15:30+00:00".toList ++ rest :=
  (cmdParse_validate _ _ (by decide)).2.2 (by decide)

/-! ## 秒の単位の入口と `run_selftest` -/

/-- `wid_gen_init`（wid.h 531–533）。 -/
def widGenInit (W Z : Int) : WidGen := widGenInitEx W Z .sec

/-- `hlc_wid_gen_init`（wid.h 588–590）。 -/
def hlcWidGenInit (node : List Char) (W Z : Int) : Option HlcWidGen := hlcWidGenInitEx node W Z .sec

/-- `wid_validate`（wid.h 315–317）。 -/
def widValidate (wid : List Char) (W Z : Int) : Bool := widValidateEx wid W Z .sec

/-- `hlc_wid_validate`（wid.h 319–321）。 -/
def hlcWidValidate (wid : List Char) (W Z : Int) : Bool := hlcWidValidateEx wid W Z .sec

/-- `strcmp(a, b) < 0` は判定できる。 -/
instance : DecidableRel strLt := fun a b =>
  inferInstanceAs (Decidable (List.Lex (fun x y : Char => x.toNat < y.toNat) a b))

/-- `run_selftest`（main.c 1308–1330）。三回の `*_gen_next` はそれぞれ時計 `now₁`・`now₂`・`now₃` を
読む（`Z = 0` なので乱数は読まない）。 -/
def runSelftest (now₁ now₂ now₃ : Int) (rnd : Nat → UInt8) : Option Nat :=
  (widGenNext (widGenInit 4 0) now₁ rnd widMaxLen).bind fun ra =>
  (widGenNext ra.1 now₂ rnd widMaxLen).bind fun rb =>
  if ¬ strLt ra.2 rb.2 then some 1
  else if !widValidate ra.2 4 0 then some 1
  else match hlcWidGenInit "node01".toList 4 0 with
    | none => some 1
    | some hg => (hlcWidGenNext hg now₃ rnd widMaxLen).map fun rh =>
      if !hlcWidValidate rh.2 4 0 then 1
      else if widValidate "20260212T091530.0000Z-node01".toList 4 0 then 1
      else if hlcWidValidate "20260212T091530.0000Z".toList 4 0 then 1
      else if !widValidateEx "20260212T091530123.0000Z".toList 4 0 .ms then 1
      else if !hlcWidValidateEx "20260212T091530123.0000Z-node01".toList 4 0 .ms then 1
      else 0

/-- **`wid selftest` は、どの時計の読みでも 0 で終わる。** 三つの読みが 9999 年の終わりの 2 秒前
（三つめは 1 秒前）までなら、二つの WID は `strcmp` で増え、どの ID も検査を通り、決まった四つの
検査も期待どおりになる。 -/
theorem runSelftest_passes {now₁ now₂ now₃ : Int} (h₁ : now₁ + 2 ≤ widMaxTick .sec)
    (h₂ : now₂ + 1 ≤ widMaxTick .sec) (h₃ : now₃ + 1 ≤ widMaxTick .sec) (rnd : Nat → UInt8) :
    runSelftest now₁ now₂ now₃ rnd = some 0 := by
  have hM : (2 : Int) ≤ widMaxTick .sec := by decide
  have hg := widGenInitEx_inv 4 0 .sec
  have hu0 : (widGenInitEx 4 0 .sec).timeUnit = .sec := rfl
  have ht0 : (widGenInitEx 4 0 .sec).lastTick = 0 := rfl
  obtain ⟨g₁, a, ha, ⟨hi₁, hw₁, hz₁, hu₁⟩, ht₁, hva⟩ := @widGenNext_step _ now₁ rnd hg (by decide)
    (by rw [hu0, ht0]; omega)
  rw [ht0] at ht₁
  obtain ⟨g₂, b, hb, -, ht₂, -⟩ := @widGenNext_step _ now₂ rnd hi₁ (by rw [hz₁]; decide)
    (by rw [hu₁, hu0]; omega)
  have hab : strLt a b := by
    have hrun : widGenNextRun (widGenInitEx 4 0 .sec) [(now₁, rnd), (now₂, rnd)] = some [(g₁, a), (g₂, b)] := by
      simp only [widGenNextRun, ha, hb, Option.some_bind, Option.map_some']
    have := widGenNextRun_ids hg hrun fun r hr => by
      simp only [List.mem_cons, List.mem_singleton, List.not_mem_nil, or_false] at hr
      rw [hu0]
      rcases hr with rfl | rfl
      · show g₁.lastTick ≤ _; omega
      · show g₂.lastTick ≤ _; omega
    simpa using this
  have hn0 : hlcWidGenInit "node01".toList 4 0 = some ⟨4, 0, .sec, "node01".toList, 0, 0, 9999⟩ := by decide
  obtain ⟨-, -, -, -, -, hgi⟩ := hlcWidGenInitEx_eq_some hn0
  obtain ⟨g₃, h, hh, -, -, hvh⟩ := @hlcWidGenNext_step _ now₃ rnd hgi (by decide) (by decide) (by decide)
    (by decide) (by simp only; omega)
  -- 決まった四つの検査：`-node01` のついた WID とノードのない HLC-WID は断られ、ミリ秒の二つは通る
  have f₁ : widValidate "20260212T091530.0000Z-node01".toList 4 0 = false := by decide
  have f₂ : hlcWidValidate "20260212T091530.0000Z".toList 4 0 = false := by decide
  have f₃ : widValidateEx "20260212T091530123.0000Z".toList 4 0 .ms = true := by decide
  have f₄ : hlcWidValidateEx "20260212T091530123.0000Z-node01".toList 4 0 .ms = true := by decide
  have hva' : widValidate a 4 0 = true := hva
  have hvh' : hlcWidValidate h 4 0 = true := hvh
  simp only [runSelftest, widGenInit, ha, hb, Option.some_bind, hab, not_true_eq_false, if_false, hva',
    Bool.not_true, Bool.false_eq_true, hn0, hh, Option.map_some', hvh', f₁, f₂, f₃, f₄]

theorem runSelftest_epoch : runSelftest 0 0 0 (fun _ => 0) = some 0 :=
  runSelftest_passes (by decide) (by decide) (by decide) _

/-! ## `main` -/

/-- `main` の行き先（main.c 1408–1500）。`exit` は命令を呼ばずに終わるときの終了コードと `stderr`。 -/
inductive MainRoute where
  | canonical (c : CanonOpts)
  | help (code : Nat)
  | helpActions
  | selftest
  | completion (shell : List Char)
  | next (o : CliOpts)
  | stream (o : CliOpts)
  | validate (id : List Char) (o : CliOpts)
  | parse (id : List Char) (o : CliOpts)
  | healthcheck (o : CliOpts)
  | bench (o : CliOpts)
  | exit (code : Nat) (err : List Char)
  deriving DecidableEq, Repr

/-- `parse_opts` で旗を読み、読めなければ `error: invalid arguments` と 1。 -/
def optsRoute (args : List (List Char)) (allowCount : Bool) (k : CliOpts → MainRoute) : MainRoute :=
  match parseOpts args allowCount with
  | none => .exit 1 "error: invalid arguments\n".toList
  | some o => k o

/-- `validate`・`parse`：ID がなければ `error: <命令> requires an id` と 1。 -/
def idRoute (cmd : List Char) (args : List (List Char)) (k : List Char → CliOpts → MainRoute) : MainRoute :=
  match args with
  | [] => .exit 1 ("error: ".toList ++ cmd ++ " requires an id\n".toList)
  | id :: rest => optsRoute rest false (k id)

/-- `main` の振り分け。`args` は `argv[1..]`。最初の引数に `=` があれば正準の形
（`is_kv_arg`）。 -/
def widMain : List (List Char) → MainRoute
  | [] => .help 2
  | a :: rest =>
    if (cStrchr '=' a).isSome then
      match parseCanonical (a :: rest) with
      | .error e => .exit 2 e
      | .ok c => .canonical c
    else if a = "help".toList ∨ a = "-h".toList ∨ a = "--help".toList then .help 0
    else if a = "help-actions".toList then .helpActions
    else if a = "selftest".toList then .selftest
    else if a = "completion".toList then
      match rest with
      | [] => .exit 1 "usage: wid completion bash|zsh|fish\n".toList
      | sh :: _ => .completion sh
    else if a = "next".toList then optsRoute rest false .next
    else if a = "stream".toList then optsRoute rest true .stream
    else if a = "validate".toList then idRoute a rest .validate
    else if a = "parse".toList then idRoute a rest .parse
    else if a = "healthcheck".toList then optsRoute rest false .healthcheck
    else if a = "bench".toList then optsRoute rest true .bench
    else .exit 2 ("error: unknown command: ".toList ++ a ++ ['\n'])

theorem widMain_stream (rest : List (List Char)) :
    widMain ("stream".toList :: rest) = optsRoute rest true .stream := rfl

/-- 受け入れた正準の形の引数の最初には `=` がある。 -/
theorem cStrchr_eq_of_parseCanonical {a : List Char} {rest : List (List Char)} {c : CanonOpts}
    (h : parseCanonical (a :: rest) = .ok c) : (cStrchr '=' a).isSome = true := by
  cases he : cStrchr '=' a with
  | some p => rfl
  | none => simp [parseCanonical, canonLoop, he] at h

/-- 受け入れた正準の形の引数が一つでもあれば、`main` は `run_canonical` に入る（引数がなければ
`parse_canonical` は既定値を受け入れるが、`main` は使い方を書いて 2 で終わる）。 -/
theorem widMain_canonical {args : List (List Char)} {c : CanonOpts} (h : parseCanonical args = .ok c)
    (hne : args ≠ []) : widMain args = .canonical c := by
  obtain ⟨a, rest, rfl⟩ := List.exists_cons_of_ne_nil hne
  simp only [widMain, if_pos (cStrchr_eq_of_parseCanonical h), h]

/-- **二つの書き方の `stream` は同じ生成を走らせる。** 受け入れた `KEY=value` の引数で `A=stream`
（状態の方式が `sql` でなく、`W ≤ 18`）なら、`main` は `run_canonical` に入って `cmd_stream` を
ある旗の値で呼び、旗の形 `wid stream --kind wid --node c --W .. --Z .. --time-unit .. --count N --json`
も同じ値で `cmd_stream` を呼ぶ。 -/
theorem widMain_canonical_stream {args : List (List Char)} {c : CanonOpts} (h : parseCanonical args = .ok c)
    (hne : args ≠ []) (hA : c.A = "stream".toList) (hE : (parseStateTransport c).1 ≠ "sql".toList)
    (hW : c.W ≤ 18) (hZ : c.Z ≤ 64) :
    ∃ o, widMain args = .canonical c ∧ runCanonicalRoute c = .stream o ∧
      widMain ("stream".toList :: renderOpts true o) = .stream o := by
  have hv := parseCanonical_valid h
  obtain ⟨u, hu⟩ : ∃ u, widTimeUnitFromStr c.T = some u := by
    rcases hv.T_core (by rw [hA]; rfl) with e | e <;> rw [e]
    exacts [⟨.sec, rfl⟩, ⟨.ms, rfl⟩]
  refine ⟨canonCliOpts c u, widMain_canonical h hne, ?_, ?_⟩
  · have hE' : ¬(parseStateTransport c).1 = ['s', 'q', 'l'] := hE
    simp [runCanonicalRoute, hu, hA, hE']
  · have hov : (canonCliOpts c u).Valid true :=
      ⟨.inl rfl, by have := hv.W_pos; simp only [canonCliOpts]; omega, hW, hv.nonneg.1, hZ, hv.nonneg.2.1,
        hv.N.2, nofun, nofun⟩
    rw [widMain_stream, optsRoute, parseOpts_renderOpts hov]

theorem widMain_canonical_stream_sample :
    ∃ o, widMain ["A=stream".toList, "Z=0".toList, "N=3".toList] =
        .canonical { CanonOpts.default with A := "stream".toList, Z := 0, N := 3 } ∧
      runCanonicalRoute { CanonOpts.default with A := "stream".toList, Z := 0, N := 3 } = .stream o ∧
      widMain ("stream".toList :: renderOpts true o) = .stream o :=
  widMain_canonical_stream rfl (List.cons_ne_nil _ _) rfl (by decide) (by decide) (by decide)

end Wid
