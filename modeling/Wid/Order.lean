import Wid.Generator

/-!
# ID の順序

`wid_gen_next` と `hlc_wid_gen_next` は、状態の `(tick, counter)` から
`wid_fmt_tick(u, tick) ++ "." ++ counter を W 桁 ++ "Z"` を書き、その後ろに乱数やノードを続ける。
この先頭部分の文字列の順序（`strcmp`）が、9999 年までの tick と `[0, 10^W - 1]` の番号の上で
`(tick, counter)` の辞書式順序と一致することを示す（`strLt_widPrefix_iff`）。

証明は三段である。

* 同じ長さの列を前に持つ文字列の比較は、前の列の比較に帰着する（`strLt_append_of_length_eq`）。
* `w` 桁の十進の列の比較は、値の比較である（`strLt_fixedDigits`）。
* 時刻の欄を書いた列の比較は、欄を上から並べた数の比較で、それは tick の比較である
  （`strLt_renderTimestamp`、`tickFields_key_lt_iff`）。
-/

namespace Wid

/-! ## 文字列の辞書式順序 -/

theorem strLt_cons_cons {x y : Char} {a b : List Char} :
    strLt (x :: a) (y :: b) ↔ x.toNat < y.toNat ∨ (x = y ∧ strLt a b) := by
  constructor
  · intro h
    cases h with
    | cons h => exact .inr ⟨rfl, h⟩
    | rel h => exact .inl h
  · rintro (h | ⟨rfl, h⟩)
    · exact .rel h
    · exact .cons h

theorem strLt_irrefl (a : List Char) : ¬ strLt a a := by
  induction a with
  | nil => exact List.Lex.not_nil_right _ _
  | cons x a ih =>
    rw [strLt_cons_cons]
    rintro (h | ⟨-, h⟩)
    exacts [Nat.lt_irrefl _ h, ih h]

/-- 前の列の長さが等しければ、まず前の列で比べ、等しければ後ろで比べる。 -/
theorem strLt_append_of_length_eq {a b c d : List Char} (h : a.length = c.length) :
    strLt (a ++ b) (c ++ d) ↔ strLt a c ∨ (a = c ∧ strLt b d) := by
  induction a generalizing c with
  | nil =>
    cases c with
    | nil => simp [strLt]
    | cons => simp at h
  | cons x a ih =>
    cases c with
    | nil => simp at h
    | cons y c =>
      simp only [List.cons_append, strLt_cons_cons, ih (Nat.succ.inj h), List.cons.injEq]
      tauto

theorem strLt_append_of_strLt {a b c d : List Char} (h : a.length = c.length) (hlt : strLt a c) :
    strLt (a ++ b) (c ++ d) :=
  (strLt_append_of_length_eq h).mpr (.inl hlt)

/-! ## 十進の列の順序 -/

theorem digitChar_inj {d e : Nat} (hd : d < 10) (he : e < 10) : digitChar d = digitChar e ↔ d = e := by
  refine ⟨fun h => ?_, congrArg _⟩
  have := congrArg Char.toNat h
  rw [toNat_digitChar hd, toNat_digitChar he] at this
  omega

/-- 上の桁と下の桁に分けた数の比較。 -/
theorem add_mul_lt_add_mul_iff {P x y a b : Nat} (hx : x < P) (hy : y < P) :
    x + P * a < y + P * b ↔ a < b ∨ (a = b ∧ x < y) := by
  have key : ∀ {a b : Nat}, a < b → P * a + P ≤ P * b := fun h => by
    simpa [Nat.mul_succ] using Nat.mul_le_mul_left P h
  constructor
  · intro h
    rcases Nat.lt_trichotomy a b with hab | rfl | hab
    · exact .inl hab
    · exact .inr ⟨rfl, by omega⟩
    · have := key hab; omega
  · rintro (hab | ⟨rfl, h⟩)
    · have := key hab; omega
    · omega

/-- **`w` 桁の十進の列の比較は、下 `w` 桁の値の比較である。** -/
theorem strLt_fixedDigits (w m n : Nat) :
    strLt (fixedDigits w m) (fixedDigits w n) ↔ m % 10 ^ w < n % 10 ^ w := by
  induction w with
  | zero => simp [fixedDigits, strLt, Nat.mod_one]
  | succ w ih =>
    have hm := Nat.mod_lt (m / 10 ^ w) (by omega : 10 > 0)
    have hn := Nat.mod_lt (n / 10 ^ w) (by omega : 10 > 0)
    have hP : 0 < 10 ^ w := Nat.pos_pow_of_pos w (by omega)
    rw [fixedDigits, fixedDigits, strLt_cons_cons, toNat_digitChar hm, toNat_digitChar hn,
      digitChar_inj hm hn, ih, Nat.mod_pow_succ, Nat.mod_pow_succ,
      add_mul_lt_add_mul_iff (Nat.mod_lt _ hP) (Nat.mod_lt _ hP)]
    omega

theorem fixedDigits_eq_iff {w m n : Nat} : fixedDigits w m = fixedDigits w n ↔ m % 10 ^ w = n % 10 ^ w := by
  refine ⟨fun h => ?_, fun h => ?_⟩
  · simpa only [decValue_fixedDigits] using congrArg decValue h
  · rw [← fixedDigits_mod w m, h, fixedDigits_mod]

/-- 二つの欄を並べた列は、二つを並べた数の列。 -/
theorem fixedDigits_append {a b x y : Nat} (hy : y < 10 ^ b) :
    fixedDigits a x ++ fixedDigits b y = fixedDigits (a + b) (x * 10 ^ b + y) := by
  have hP : 0 < 10 ^ b := Nat.pos_pow_of_pos b (by omega)
  rw [fixedDigits_add, Nat.mul_comm, Nat.mul_add_div hP, Nat.div_eq_of_lt hy, Nat.add_zero,
    ← fixedDigits_mod b (10 ^ b * x + y), Nat.mul_add_mod, Nat.mod_eq_of_lt hy]

/-! ## 時刻の欄の順序 -/

/-- 時刻の欄を上から並べた数 `YYYYMMDDhhmmssmmm`。 -/
def WidTimestamp.key (r : WidTimestamp) : Int :=
  (((((r.year * 100 + r.month) * 100 + r.day) * 100 + r.hour) * 100 + r.minute) * 100 + r.second)
    * 1000 + r.millisecond

/-- 日付の欄を並べた数 `YYYYMMDD`。 -/
def WidTimestamp.dateNum (r : WidTimestamp) : Nat :=
  (r.year.toNat * 100 + r.month.toNat) * 100 + r.day.toNat

/-- 時刻の欄を並べた数 `hhmmss`。 -/
def WidTimestamp.timeNum (r : WidTimestamp) : Nat :=
  (r.hour.toNat * 100 + r.minute.toNat) * 100 + r.second.toNat

theorem WidTimestamp.Valid.nums {u : WidTimeUnit} {r : WidTimestamp} (hr : r.Valid u) :
    r.dateNum < 10 ^ 8 ∧ r.timeNum < 10 ^ 6 ∧ r.millisecond.toNat < 1000 ∧
      (u = .sec → r.millisecond.toNat = 0) ∧
      r.key = ((r.timeNum * 1000 + r.millisecond.toNat + 10 ^ 9 * r.dateNum : Nat) : Int) := by
  have := hr.day_le; have := gregorianDaysInMonth_le r.year r.month.toNat
  have := hr.month_pos; have := hr.month_le; have := hr.day_pos; have := hr.year_nonneg
  have := hr.year_lt; have := hr.hour_nonneg; have := hr.hour_le; have := hr.minute_nonneg
  have := hr.minute_le; have := hr.second_nonneg; have := hr.second_le; have := hr.ms_nonneg
  have := hr.ms_le
  refine ⟨by unfold WidTimestamp.dateNum; omega, by unfold WidTimestamp.timeNum; omega, by omega,
    fun h => by rw [hr.ms_of_sec h]; rfl, ?_⟩
  simp only [WidTimestamp.key, WidTimestamp.dateNum, WidTimestamp.timeNum]
  push_cast
  rw [Int.toNat_of_nonneg (by omega), Int.toNat_of_nonneg (by omega), Int.toNat_of_nonneg (by omega),
    Int.toNat_of_nonneg (by omega), Int.toNat_of_nonneg (by omega), Int.toNat_of_nonneg (by omega),
    Int.toNat_of_nonneg (by omega)]
  ring

/-- 正しい欄を書いた列は、日付の 8 桁、`T`、時刻の 6 桁（`ms` なら 9 桁）。 -/
theorem renderTimestamp_digits {u : WidTimeUnit} {r : WidTimestamp} (hr : r.Valid u) :
    renderTimestamp u r = fixedDigits 8 r.dateNum ++ 'T' ::
      if u = .ms then fixedDigits 9 (r.timeNum * 1000 + r.millisecond.toNat)
      else fixedDigits 6 r.timeNum := by
  have := hr.day_le; have := gregorianDaysInMonth_le r.year r.month.toNat
  have := hr.month_le; have := hr.hour_le; have := hr.minute_le; have := hr.second_le
  have := hr.ms_le
  rw [renderTimestamp_of_valid hr, fixedDigits_append (b := 2) (by omega),
    fixedDigits_append (b := 2) (by omega), fixedDigits_append (a := 2) (b := 2) (by omega),
    fixedDigits_append (a := 2 + 2) (b := 2) (by omega)]
  cases u with
  | sec => simp only [Nat.reducePow, Nat.reduceAdd, if_neg (by decide : WidTimeUnit.sec ≠ .ms),
      List.append_nil, WidTimestamp.dateNum, WidTimestamp.timeNum]
  | ms => simp only [Nat.reducePow, Nat.reduceAdd, if_pos,
      fixedDigits_append (b := 3) (by omega : r.millisecond.toNat < 10 ^ 3), WidTimestamp.dateNum,
      WidTimestamp.timeNum]

/-- **時刻の欄を書いた列の比較は、欄を並べた数の比較である。** -/
theorem strLt_renderTimestamp {u : WidTimeUnit} {r r' : WidTimestamp} (hr : r.Valid u)
    (hr' : r'.Valid u) : strLt (renderTimestamp u r) (renderTimestamp u r') ↔ r.key < r'.key := by
  obtain ⟨hd, ht, hm, hs, hk⟩ := hr.nums
  obtain ⟨hd', ht', hm', hs', hk'⟩ := hr'.nums
  rw [renderTimestamp_digits hr, renderTimestamp_digits hr', strLt_append_of_length_eq (by simp),
    strLt_cons_cons, fixedDigits_eq_iff, strLt_fixedDigits, Nat.mod_eq_of_lt hd, Nat.mod_eq_of_lt hd',
    hk, hk', Nat.cast_lt, add_mul_lt_add_mul_iff (by omega) (by omega), lt_self_iff_false, false_or]
  refine or_congr_right (and_congr_right fun _ => ?_)
  cases u with
  | sec =>
    rw [if_neg (by decide), if_neg (by decide), strLt_fixedDigits, Nat.mod_eq_of_lt ht,
      Nat.mod_eq_of_lt ht', hs rfl, hs' rfl]
    simp
  | ms =>
    rw [if_pos rfl, if_pos rfl, strLt_fixedDigits, Nat.mod_eq_of_lt (by omega),
      Nat.mod_eq_of_lt (by omega)]
    simp

/-- **tick の順序は、その暦の欄を並べた数の順序である。** -/
theorem tickFields_key_lt_iff (u : WidTimeUnit) (t t' : Int) :
    (tickFields u t).key < (tickFields u t').key ↔ t < t' := by
  have hk : ∀ s s' : Int, (toCivil s).key < (toCivil s').key ↔ s < s' := fun s s' => by
    rw [← toSecs_lt_iff_key_lt (toCivil_valid s) (toCivil_valid s'), toSecs_toCivil, toSecs_toCivil]
  have he : ∀ s : Int, (tickFields u s).key =
      (toCivil (if u = .ms then s / 1000 else s)).key * 1000 + if u = .ms then s % 1000 else 0 := by
    intro s; simp only [tickFields, WidTimestamp.key, Tm.key]
  rw [he, he]
  cases u with
  | sec => simp only [if_neg (by decide : WidTimeUnit.sec ≠ .ms), add_zero]; have := hk t t'; omega
  | ms => simp only [if_pos]; have := hk (t / 1000) (t' / 1000); have := hk (t' / 1000) (t / 1000); omega

/-- 9999 年までの tick を書いた時刻は、tick が等しいときに限り等しい。 -/
theorem renderTimestamp_tickFields_inj {u : WidTimeUnit} {t t' : Int} (h0 : 0 ≤ t)
    (h1 : t ≤ widMaxTick u) (h0' : 0 ≤ t') (h1' : t' ≤ widMaxTick u) :
    renderTimestamp u (tickFields u t) = renderTimestamp u (tickFields u t') ↔ t = t' := by
  refine ⟨fun h => ?_, fun h => h ▸ rfl⟩
  have hv := tickFields_valid h0 h1; have hv' := tickFields_valid h0' h1'
  rcases Int.lt_trichotomy t t' with hlt | heq | hgt
  · have := (strLt_renderTimestamp hv hv').mpr ((tickFields_key_lt_iff u t t').mpr hlt)
    rw [h] at this; exact absurd this (strLt_irrefl _)
  · exact heq
  · have := (strLt_renderTimestamp hv' hv).mpr ((tickFields_key_lt_iff u t' t).mpr hgt)
    rw [h] at this; exact absurd this (strLt_irrefl _)

/-! ## ミリ秒の時刻の分け方 -/

set_option maxRecDepth 2000 in
/-- tick `-1`（epoch の 1 ミリ秒前）は `19700101T000000999` と書かれ、tick `0` の時刻より後ろに
並ぶ。秒を `⌊-1 / 1000⌋ = -1` で取れば `19691231T235959999`。 -/
theorem widFmtTick_ms_before_epoch :
    widFmtTick .ms (-1) = "19700101T000000999".toList ∧
    widFmtTick .sec ((-1) / 1000) ++ fixedDigits 3 ((-1) % 1000).toNat =
      "19691231T235959999".toList ∧
    strLt (widFmtTick .ms 0) (widFmtTick .ms (-1)) := by
  refine ⟨by decide, by decide, ?_⟩
  unfold strLt; decide

/-- 9999 年までの負でない tick では、時刻の文字列の順序は tick の順序。 -/
theorem strLt_widFmtTick_iff {u : WidTimeUnit} {t t' : Int} (h0 : 0 ≤ t) (h1 : t ≤ widMaxTick u)
    (h0' : 0 ≤ t') (h1' : t' ≤ widMaxTick u) : strLt (widFmtTick u t) (widFmtTick u t') ↔ t < t' := by
  rw [widFmtTick_eq h0 h1, widFmtTick_eq h0' h1',
    strLt_renderTimestamp (tickFields_valid h0 h1) (tickFields_valid h0' h1'), tickFields_key_lt_iff]

theorem strLt_widFmtTick_iff_epoch :
    (0 : Int) ≤ 0 ∧ (0 : Int) ≤ widMaxTick .sec ∧ (0 : Int) ≤ 1 ∧ (1 : Int) ≤ widMaxTick .sec ∧
      (strLt (widFmtTick .sec 0) (widFmtTick .sec 1) ↔ (0 : Int) < 1) :=
  ⟨le_rfl, by decide, by decide, by decide, strLt_widFmtTick_iff le_rfl (by decide) (by decide) (by decide)⟩

/-! ## ID の先頭部分 -/

/-- `wid_gen_next`・`hlc_wid_gen_next` が `(tick, counter)` から書く先頭部分：
`ts`、`.`、`"%0*lld"` で書いた番号、`Z`。 -/
def widPrefix (W : Int) (u : WidTimeUnit) (t c : Int) : List Char :=
  widFmtTick u t ++ '.' :: (cSnprintf 64 (fmtZeroPad W.toNat c) ++ ['Z'])

/-- 範囲の中では、先頭部分は暦の欄と `W` 桁の番号。 -/
theorem widPrefix_eq {W : Int} {u : WidTimeUnit} {t c : Int} (hW1 : 1 ≤ W) (hW2 : W ≤ 18)
    (h0 : 0 ≤ t) (h1 : t ≤ widMaxTick u) (hc0 : 0 ≤ c) (hc1 : c ≤ 10 ^ W.toNat - 1) :
    widPrefix W u t c = renderTimestamp u (tickFields u t) ++ '.' :: (fixedDigits W.toNat c.toNat ++ ['Z']) := by
  rw [widPrefix, widFmtTick_eq h0 h1, fmtZeroPad_of_lt (by omega) hc0 (by omega),
    cSnprintf_of_lt (by simp; omega)]

/-- **先頭部分の文字列の順序は `(tick, counter)` の辞書式順序である。** -/
theorem strLt_widPrefix_iff {W : Int} {u : WidTimeUnit} {t t' c c' : Int} (hW1 : 1 ≤ W)
    (hW2 : W ≤ 18) (h0 : 0 ≤ t) (h1 : t ≤ widMaxTick u) (h0' : 0 ≤ t') (h1' : t' ≤ widMaxTick u)
    (hc0 : 0 ≤ c) (hc1 : c ≤ 10 ^ W.toNat - 1) (hc0' : 0 ≤ c') (hc1' : c' ≤ 10 ^ W.toNat - 1) :
    strLt (widPrefix W u t c) (widPrefix W u t' c') ↔ LexLt (t, c) (t', c') := by
  have hv := tickFields_valid h0 h1; have hv' := tickFields_valid h0' h1'
  have hP : ((10 ^ W.toNat : Nat) : Int) = 10 ^ W.toNat := by push_cast; rfl
  rw [widPrefix_eq hW1 hW2 h0 h1 hc0 hc1, widPrefix_eq hW1 hW2 h0' h1' hc0' hc1',
    strLt_append_of_length_eq (by rw [length_renderTimestamp hv, length_renderTimestamp hv']),
    strLt_cons_cons, strLt_append_of_length_eq (by simp), strLt_renderTimestamp hv hv',
    tickFields_key_lt_iff, renderTimestamp_tickFields_inj h0 h1 h0' h1', strLt_fixedDigits,
    fixedDigits_eq_iff, Nat.mod_eq_of_lt (by omega), Nat.mod_eq_of_lt (by omega)]
  simp only [LexLt, lt_self_iff_false, true_and, false_or, strLt_irrefl, and_false, or_false]
  omega

theorem length_widPrefix {W : Int} {u : WidTimeUnit} {t c : Int} (hW1 : 1 ≤ W) (hW2 : W ≤ 18)
    (h0 : 0 ≤ t) (h1 : t ≤ widMaxTick u) (hc0 : 0 ≤ c) (hc1 : c ≤ 10 ^ W.toNat - 1) :
    (widPrefix W u t c).length = widTimestampLen u + W.toNat + 2 := by
  rw [widPrefix_eq hW1 hW2 h0 h1 hc0 hc1]
  simp [length_renderTimestamp (tickFields_valid h0 h1)]; omega

/-- 範囲の中の二つの状態のうち組の小さい方から書いた ID は、後ろに何が続いても小さい。 -/
theorem strLt_widPrefix_append {W : Int} {u : WidTimeUnit} {t t' c c' : Int} (hW1 : 1 ≤ W)
    (hW2 : W ≤ 18) (h0 : 0 ≤ t) (h1 : t ≤ widMaxTick u) (h0' : 0 ≤ t') (h1' : t' ≤ widMaxTick u)
    (hc0 : 0 ≤ c) (hc1 : c ≤ 10 ^ W.toNat - 1) (hc0' : 0 ≤ c') (hc1' : c' ≤ 10 ^ W.toNat - 1)
    (hlt : LexLt (t, c) (t', c')) (x y : List Char) :
    strLt (widPrefix W u t c ++ x) (widPrefix W u t' c' ++ y) :=
  strLt_append_of_strLt
    (by rw [length_widPrefix hW1 hW2 h0 h1 hc0 hc1, length_widPrefix hW1 hW2 h0' h1' hc0' hc1'])
    ((strLt_widPrefix_iff hW1 hW2 h0 h1 h0' h1' hc0 hc1 hc0' hc1').mpr hlt)

/-! ## 書いた ID は先頭部分から始まる -/

theorem length_cSnprintf_le (n : Nat) (s : List Char) : (cSnprintf n s).length ≤ n - 1 :=
  List.length_take_le _ _

theorem length_widFmtTick_le (u : WidTimeUnit) (t : Int) : (widFmtTick u t).length ≤ 23 := by
  unfold widFmtTick
  dsimp only
  split
  · simp
  · split <;> exact length_cSnprintf_le _ _

theorem widRandomHex_length {rnd : Nat → UInt8} {len : Int} {pad : List Char}
    (h : widRandomHex rnd len = some pad) : pad.length = len.toNat ∧ len ≤ 33 := by
  unfold widRandomHex at h
  split_ifs at h with hl
  cases h
  simp only [widMaxZ] at hl
  exact ⟨by simp, by omega⟩

/-- `wid_gen_next` が書く ID は、状態の `(last_tick, last_seq)` の先頭部分から始まる。 -/
theorem widGenEmit_prefix {g : WidGen} {rnd : Nat → UInt8} {out : List Char}
    (h : widGenEmit g rnd widMaxLen = some out) :
    ∃ x, out = widPrefix g.W g.timeUnit g.lastTick g.lastSeq ++ x := by
  have := length_widFmtTick_le g.timeUnit g.lastTick
  have := length_cSnprintf_le 64 (fmtZeroPad g.W.toNat g.lastSeq)
  unfold widGenEmit at h
  split_ifs at h
  · obtain ⟨pad, hpad, rfl⟩ := Option.map_eq_some'.mp h
    have := (widRandomHex_length hpad).2; have := (widRandomHex_length hpad).1
    refine ⟨'-' :: pad, ?_⟩
    rw [cSnprintf_of_lt (by simp [widMaxLen]; omega)]
    simp [widPrefix]
  · cases h
    exact ⟨[], by rw [cSnprintf_of_lt (by simp [widMaxLen]; omega)]; simp [widPrefix]⟩

/-- `hlc_wid_gen_next` が書く ID は、状態の `(pt, lc)` の先頭部分から始まる。 -/
theorem hlcWidGenEmit_prefix {g : HlcWidGen} {rnd : Nat → UInt8} {out : List Char}
    (hn : g.node.length ≤ 63) (h : hlcWidGenEmit g rnd widMaxLen = some out) :
    ∃ x, out = widPrefix g.W g.timeUnit g.pt g.lc ++ x := by
  have := length_widFmtTick_le g.timeUnit g.pt
  have := length_cSnprintf_le 64 (fmtZeroPad g.W.toNat g.lc)
  unfold hlcWidGenEmit at h
  split_ifs at h
  · obtain ⟨pad, hpad, rfl⟩ := Option.map_eq_some'.mp h
    have := (widRandomHex_length hpad).2; have := (widRandomHex_length hpad).1
    refine ⟨'-' :: (g.node ++ '-' :: pad), ?_⟩
    rw [cSnprintf_of_lt (by simp [widMaxLen]; omega)]
    simp [widPrefix]
  · cases h
    exact ⟨'-' :: g.node, by rw [cSnprintf_of_lt (by simp [widMaxLen]; omega)]; simp [widPrefix]⟩

/-! ## 実行で書いた ID の順序 -/

/-- WID の実行：各状態は不変条件を満たし、`W` と単位は変わらず、番号は 0 以上、組ははじめの状態より
大きく、書いた ID はその状態の先頭部分から始まる。組は実行の順に真に増える。 -/
theorem widGenNextRun_spec {g : WidGen} {calls : List (Int × (Nat → UInt8))}
    {rs : List (WidGen × List Char)} (hg : g.Inv) (h : widGenNextRun g calls = some rs) :
    (∀ r ∈ rs, r.1.Inv ∧ r.1.W = g.W ∧ r.1.timeUnit = g.timeUnit ∧ 0 ≤ r.1.lastSeq ∧
      LexLt (g.lastTick, g.lastSeq) (r.1.lastTick, r.1.lastSeq) ∧
      ∃ x, r.2 = widPrefix g.W g.timeUnit r.1.lastTick r.1.lastSeq ++ x) ∧
    List.Pairwise (fun a b => LexLt (a.1.lastTick, a.1.lastSeq) (b.1.lastTick, b.1.lastSeq)) rs := by
  induction calls generalizing g rs with
  | nil => cases h; simp
  | cons c calls ih =>
    obtain ⟨⟨g1, out⟩, hn, hr⟩ := Option.bind_eq_some.mp h
    obtain ⟨rs, hr', rfl⟩ := Option.map_eq_some'.mp hr
    obtain ⟨g2, ha, he⟩ := Option.bind_eq_some.mp hn
    obtain ⟨out', he', hr2⟩ := Option.map_eq_some'.mp he
    cases hr2
    obtain ⟨hi, hfr, h0, -, hl⟩ := widGenAdvance_spec hg ha
    have hW : g1.W = g.W := by rw [hfr]
    have hu : g1.timeUnit = g.timeUnit := by rw [hfr]
    obtain ⟨ih1, ih2⟩ := ih hi hr'
    refine ⟨fun r hr => ?_, .cons (fun r hr => (ih1 r hr).2.2.2.2.1) ih2⟩
    rcases List.mem_cons.mp hr with rfl | hr
    · exact ⟨hi, hW, hu, h0, hl, by rw [← hW, ← hu]; exact widGenEmit_prefix he'⟩
    · obtain ⟨a, b, c, d, e, x, f⟩ := ih1 r hr
      exact ⟨a, b.trans hW, c.trans hu, d, hl.trans e, x, by rw [← hW, ← hu]; exact f⟩

/-- **WID の実行で書いた ID は、前に書いたどの ID よりも大きい。** tick が 9999 年に収まる限り。 -/
theorem widGenNextRun_ids {g : WidGen} {calls : List (Int × (Nat → UInt8))}
    {rs : List (WidGen × List Char)} (hg : g.Inv) (h : widGenNextRun g calls = some rs)
    (ht : ∀ r ∈ rs, r.1.lastTick ≤ widMaxTick g.timeUnit) :
    List.Pairwise (fun a b => strLt a.2 b.2) rs := by
  obtain ⟨h1, h2⟩ := widGenNextRun_spec hg h
  refine h2.imp_of_mem fun {a b} ha hb hab => ?_
  obtain ⟨ia, wa, -, sa, -, x, hx⟩ := h1 a ha
  obtain ⟨ib, wb, -, sb, -, y, hy⟩ := h1 b hb
  rw [hx, hy]
  exact strLt_widPrefix_append hg.W_pos hg.W_le ia.lastTick_nonneg (ht a ha) ib.lastTick_nonneg
    (ht b hb) sa (wa ▸ ia.maxSeq_eq ▸ ia.lastSeq_le) sb (wb ▸ ib.maxSeq_eq ▸ ib.lastSeq_le) hab x y

/-- HLC の実行：各状態は不変条件を満たし、`W`・単位・ノードは変わらず、`(pt, lc)` ははじめの状態より
小さくならない。ID を書いた呼び出しのあとでは真に大きく、ID はその状態から `hlc_wid_gen_next` の
後半が書いたもの。ID を書いた呼び出しの組は、前のどの状態の組よりも大きい。 -/
theorem hlcCallRun_spec {g : HlcWidGen} {calls : List HlcCall}
    {rs : List (HlcWidGen × Option (List Char))} (hg : g.Inv) (h : hlcCallRun g calls = some rs) :
    (∀ r ∈ rs, r.1.Inv ∧ r.1.W = g.W ∧ r.1.Z = g.Z ∧ r.1.timeUnit = g.timeUnit ∧ r.1.node = g.node ∧
      ¬ LexLt (r.1.pt, r.1.lc) (g.pt, g.lc) ∧ ∀ out, r.2 = some out →
        LexLt (g.pt, g.lc) (r.1.pt, r.1.lc) ∧ ∃ rnd, hlcWidGenEmit r.1 rnd widMaxLen = some out) ∧
    List.Pairwise (fun a b => ∀ out, b.2 = some out → LexLt (a.1.pt, a.1.lc) (b.1.pt, b.1.lc)) rs := by
  induction calls generalizing g rs with
  | nil => cases h; simp
  | cons c calls ih =>
    obtain ⟨⟨g1, o⟩, hs, hr⟩ := Option.bind_eq_some.mp h
    obtain ⟨rs, hr', rfl⟩ := Option.map_eq_some'.mp hr
    obtain ⟨b, hop, hout⟩ := hlcCallStep_op hs
    obtain ⟨hi, hfr, -, -, hfalse, htrue, -⟩ := hlcOpStep_ok hg hop
    have hW : g1.W = g.W := by rw [hfr]
    have hZ : g1.Z = g.Z := by rw [hfr]
    have hu : g1.timeUnit = g.timeUnit := by rw [hfr]
    have hnd : g1.node = g.node := by rw [hfr]
    have hle : ¬ LexLt (g1.pt, g1.lc) (g.pt, g.lc) := by
      cases b with
      | false => rw [hfalse rfl]; exact LexLt.irrefl _
      | true => have := htrue rfl; unfold LexLt at *; omega
    obtain ⟨ih1, ih2⟩ := ih hi hr'
    refine ⟨fun r hr => ?_, .cons (fun r hr out ho => ((ih1 r hr).2.2.2.2.2.2 out ho).1) ih2⟩
    rcases List.mem_cons.mp hr with rfl | hr
    · refine ⟨hi, hW, hZ, hu, hnd, hle, fun out ho => ?_⟩
      obtain ⟨rfl, he⟩ := hout out ho
      exact ⟨htrue rfl, he⟩
    · obtain ⟨a, b, c, d, e, f, k⟩ := ih1 r hr
      refine ⟨a, b.trans hW, c.trans hZ, d.trans hu, e.trans hnd, by unfold LexLt at *; omega,
        fun out ho => ?_⟩
      obtain ⟨hl, he⟩ := k out ho
      exact ⟨by unfold LexLt at *; omega, he⟩

/-- **HLC の実行で書いた ID は、前に書いたどの ID よりも大きい。** `pt` が 9999 年に収まる限り。 -/
theorem hlcCallRun_ids {g : HlcWidGen} {calls : List HlcCall}
    {rs : List (HlcWidGen × Option (List Char))} (hg : g.Inv) (hn : g.node.length ≤ 63)
    (h : hlcCallRun g calls = some rs) (ht : ∀ r ∈ rs, r.1.pt ≤ widMaxTick g.timeUnit) :
    List.Pairwise strLt (rs.filterMap Prod.snd) := by
  obtain ⟨h1, h2⟩ := hlcCallRun_spec hg h
  rw [List.pairwise_filterMap]
  refine h2.imp_of_mem fun {a b} ha hb hab o ho o' ho' => ?_
  obtain ⟨ia, wa, -, ua, na, -, ka⟩ := h1 a ha
  obtain ⟨ib, wb, -, ub, nb, -, kb⟩ := h1 b hb
  obtain ⟨-, rnd, he⟩ := ka o ho
  obtain ⟨-, rnd', he'⟩ := kb o' ho'
  obtain ⟨x, rfl⟩ := hlcWidGenEmit_prefix (na ▸ hn) he
  obtain ⟨y, rfl⟩ := hlcWidGenEmit_prefix (nb ▸ hn) he'
  rw [wa, ua, wb, ub]
  exact strLt_widPrefix_append hg.W_pos hg.W_le ia.pt_nonneg (ht a ha) ib.pt_nonneg (ht b hb)
    ia.lc_nonneg (wa ▸ ia.maxLc_eq ▸ ia.lc_le) ib.lc_nonneg (wb ▸ ib.maxLc_eq ▸ ib.lc_le) (hab _ ho') x y

end Wid
