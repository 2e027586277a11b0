import Wid.CLib
import Mathlib.Tactic.IntervalCases

/-!
# 暦

`wid.h` の閏年の規則と月の日数の表、それに `gmtime` が返す暦の値。

`gmtime` は libc の関数なので、proleptic Gregorian の UTC への変換として書く。
定義は素直な形を選んだ。0000-01-01 からの日数を 400 年の周期で割り、周期の中では
年を一つずつ、年の中では月を一つずつ進める。

## 示すこと

* `toSecs_toCivil` — 暦から秒に戻すと元の値になる
* `toCivil_valid` — 月・日・時・分・秒は範囲に入る（日は閏年の規則まで含めて）
* `toSecs_lt_iff_key_lt` — 正しい暦の値どうしでは、秒の順序と欄の辞書式順序が一致する

三つ目が、ID の文字列の順序が時刻の順序と一致することの芯である。
-/

namespace Wid

/-! ## 閏年と月の日数 -/

/-- `wid_is_leap_year`。 -/
def widIsLeapYear (year : Int) : Bool :=
  if year % 400 = 0 then true else if year % 100 = 0 then false else year % 4 = 0

/-- `wid_valid_ymdhms` の `days_in_month`。 -/
def widDaysInMonth : List Int := [31, 28, 31, 30, 31, 30, 31, 31, 30, 31, 30, 31]

/-- 月 `m`（1 始まり）の日数。`wid_valid_ymdhms` と同じ表と規則による。 -/
def monthDays (y : Int) (m : Nat) : Nat :=
  if m = 2 ∧ widIsLeapYear y then 29 else (widDaysInMonth.getD (m - 1) 0).toNat

def daysInYear (y : Int) : Nat := if widIsLeapYear y then 366 else 365

/-- 仕様の言葉での月の日数。閏年は 4 で割り切れる年、ただし 100 で割り切れる年は
400 で割り切れるときだけ。 -/
def gregorianDaysInMonth (y : Int) (m : Nat) : Nat :=
  match m with
  | 2 => if y % 4 = 0 ∧ (y % 100 = 0 → y % 400 = 0) then 29 else 28
  | 4 | 6 | 9 | 11 => 30
  | _ => 31

theorem gregorianDaysInMonth_le (y : Int) (m : Nat) : gregorianDaysInMonth y m ≤ 31 := by
  unfold gregorianDaysInMonth; split <;> (try split) <;> omega

theorem widIsLeapYear_iff (y : Int) :
    widIsLeapYear y = true ↔ y % 4 = 0 ∧ (y % 100 = 0 → y % 400 = 0) := by
  unfold widIsLeapYear
  split_ifs <;> simp only [decide_eq_true_eq, Bool.false_eq_true, Bool.true_eq_false, false_iff,
    true_iff, iff_false] <;> omega

/-- `wid_valid_ymdhms` の表と閏年の規則は、仕様の Gregorian の月の日数と一致する。 -/
theorem monthDays_eq_gregorian (y : Int) {m : Nat} (h1 : 1 ≤ m) (h2 : m ≤ 12) :
    monthDays y m = gregorianDaysInMonth y m := by
  interval_cases m <;> simp [monthDays, gregorianDaysInMonth, widDaysInMonth, widIsLeapYear_iff]

theorem widDaysInMonth_getD_nonneg (i : Nat) : 0 ≤ widDaysInMonth.getD i 0 := by
  have hall : ∀ v ∈ widDaysInMonth, 0 ≤ v := by decide
  simp only [List.getD_eq_getElem?_getD]
  cases h : widDaysInMonth[i]? with
  | none => simp
  | some v => exact hall v (List.getElem?_mem h)

/-- `wid_valid_ymdhms`。 -/
def widValidYmdhms (year month day hour minute second : Int) : Bool :=
  if month < 1 ∨ month > 12 then false
  else if hour < 0 ∨ hour > 23 then false
  else if minute < 0 ∨ minute > 59 then false
  else if second < 0 ∨ second > 59 then false
  else
    let dim := widDaysInMonth.getD (month - 1).toNat 0
    let dim := if month = 2 ∧ widIsLeapYear year then 29 else dim
    1 ≤ day ∧ day ≤ dim

/-- `wid_valid_ymdhms` が見ている範囲。 -/
theorem widValidYmdhms_iff {y mo d h mi s : Int} :
    widValidYmdhms y mo d h mi s = true ↔
      1 ≤ mo ∧ mo ≤ 12 ∧ 1 ≤ d ∧ d ≤ monthDays y mo.toNat ∧
        0 ≤ h ∧ h ≤ 23 ∧ 0 ≤ mi ∧ mi ≤ 59 ∧ 0 ≤ s ∧ s ≤ 59 := by
  have hnn := widDaysInMonth_getD_nonneg (mo.toNat - 1)
  have hdim : (if mo = 2 ∧ widIsLeapYear y = true then 29
      else widDaysInMonth.getD (mo - 1).toNat 0) = (monthDays y mo.toNat : Int) := by
    unfold monthDays
    rw [show (mo - 1).toNat = mo.toNat - 1 by omega]
    by_cases hm : mo = 2
    · subst hm; cases widIsLeapYear y <;> decide
    · rw [if_neg (by tauto), if_neg (by omega)]; omega
  simp only [widValidYmdhms, hdim, Bool.if_false_left, Bool.and_eq_true, Bool.not_eq_true',
    decide_eq_false_iff_not, decide_eq_true_eq, not_or, not_lt, not_le]
  omega

/-- 1 月から `m` 月までの日数の和。 -/
def cumDays (y : Int) : Nat → Nat
  | 0 => 0
  | m + 1 => cumDays y m + monthDays y (m + 1)

@[simp] theorem cumDays_zero (y : Int) : cumDays y 0 = 0 := rfl

theorem cumDays_twelve (y : Int) : cumDays y 12 = daysInYear y := by
  cases h : widIsLeapYear y <;> simp [cumDays, monthDays, daysInYear, widDaysInMonth, h]

theorem cumDays_mono (y : Int) {a b : Nat} (h : a ≤ b) : cumDays y a ≤ cumDays y b := by
  induction h with
  | refl => exact le_rfl
  | step _ ih => exact ih.trans (Nat.le_add_right _ _)

/-- 0000-01-01 から `y` 年 1 月 1 日までの日数。 -/
def daysBeforeYear (y : Int) : Int := 365 * y + (y + 3) / 4 - (y + 99) / 100 + (y + 399) / 400

theorem daysBeforeYear_succ (y : Int) :
    daysBeforeYear (y + 1) = daysBeforeYear y + daysInYear y := by
  have hl := widIsLeapYear_iff y
  unfold daysBeforeYear daysInYear
  split_ifs with h
  · have := hl.mp h; push_cast; omega
  · have := mt hl.mpr h; push_cast; omega

theorem daysBeforeYear_mono {y y' : Int} (h : y ≤ y') : daysBeforeYear y ≤ daysBeforeYear y' := by
  unfold daysBeforeYear; omega

/-- 400 年でちょうど 146097 日。閏年の並びは 400 年で一巡する。 -/
theorem daysBeforeYear_cycle (y q : Int) :
    daysBeforeYear (y + 400 * q) = daysBeforeYear y + 146097 * q := by
  unfold daysBeforeYear; omega

/-! ## 日数から暦へ -/

/-- `y` 年の頭から `d` 日目が何年の何日目かを、年を一つずつ進めて求める。 -/
def yearSplit : Nat → Int → Nat → Int × Nat
  | 0, y, d => (y, d)
  | fuel + 1, y, d =>
    if d < daysInYear y then (y, d) else yearSplit fuel (y + 1) (d - daysInYear y)

theorem yearSplit_spec : ∀ (fuel : Nat) (y : Int) (d : Nat),
    (d : Int) < daysBeforeYear (y + fuel) - daysBeforeYear y →
    daysBeforeYear (yearSplit fuel y d).1 + (yearSplit fuel y d).2 = daysBeforeYear y + d ∧
      (yearSplit fuel y d).2 < daysInYear (yearSplit fuel y d).1
  | 0, y, d, h => by simp at h; omega
  | fuel + 1, y, d, h => by
    unfold yearSplit
    split
    · exact ⟨rfl, ‹_›⟩
    · have hs := daysBeforeYear_succ y
      have harg : y + ((fuel + 1 : Nat) : Int) = y + 1 + fuel := by push_cast; omega
      rw [harg] at h
      obtain ⟨h1, h2⟩ := yearSplit_spec fuel (y + 1) (d - daysInYear y) (by omega)
      exact ⟨by omega, h2⟩

/-- 年の中の `d` 日目（0 始まり）が何月（0 始まり）の何日目かを、月を一つずつ進めて求める。 -/
def monthSplit (y : Int) : Nat → Nat → Nat → Nat × Nat
  | 0, i, d => (i, d)
  | fuel + 1, i, d =>
    if d < monthDays y (i + 1) then (i, d) else monthSplit y fuel (i + 1) (d - monthDays y (i + 1))

theorem monthSplit_spec (y : Int) : ∀ (fuel i d : Nat), cumDays y i + d < cumDays y (i + fuel) →
    cumDays y (monthSplit y fuel i d).1 + (monthSplit y fuel i d).2 = cumDays y i + d ∧
      (monthSplit y fuel i d).2 < monthDays y ((monthSplit y fuel i d).1 + 1) ∧
      (monthSplit y fuel i d).1 < i + fuel
  | 0, i, d, h => absurd h (by simp)
  | fuel + 1, i, d, h => by
    unfold monthSplit
    split
    · exact ⟨rfl, ‹_›, by omega⟩
    · have hc : cumDays y (i + 1) = cumDays y i + monthDays y (i + 1) := rfl
      rw [show i + (fuel + 1) = i + 1 + fuel by omega] at h
      obtain ⟨h1, h2, h3⟩ := monthSplit_spec y fuel (i + 1) (d - monthDays y (i + 1)) (by omega)
      exact ⟨by omega, h2, by omega⟩

/-- UTC の暦の値（`struct tm` のうち使う欄）。年は西暦、月と日は 1 始まり。 -/
structure Tm where
  year : Int
  mon : Nat
  mday : Nat
  hour : Nat
  min : Nat
  sec : Nat
  deriving DecidableEq, Repr

/-- epoch からの秒を暦にする。`gmtime` の計算である。
日数を 1970 年から数えた 400 年の周期で割り、周期の中で年を進める。 -/
def toCivil (t : Int) : Tm :=
  let n := t / 86400
  let yd := yearSplit 400 (1970 + 400 * (n / 146097)) (n % 146097).toNat
  let md := monthSplit yd.1 12 0 yd.2
  let s := (t % 86400).toNat
  { year := yd.1, mon := md.1 + 1, mday := md.2 + 1,
    hour := s / 3600, min := s % 3600 / 60, sec := s % 60 }

example : toCivil 0 = ⟨1970, 1, 1, 0, 0, 0⟩ := by decide

/-- 暦の値が epoch から何秒目か。`toCivil` の逆である。 -/
def Tm.toSecs (tm : Tm) : Int :=
  (daysBeforeYear tm.year - daysBeforeYear 1970 + cumDays tm.year (tm.mon - 1) + (tm.mday - 1))
    * 86400 + tm.hour * 3600 + tm.min * 60 + tm.sec

/-- 暦の値として正しいこと。日の上限は閏年の規則まで含む。 -/
structure Tm.Valid (tm : Tm) : Prop where
  mon_pos : 1 ≤ tm.mon
  mon_le : tm.mon ≤ 12
  mday_pos : 1 ≤ tm.mday
  mday_le : tm.mday ≤ monthDays tm.year tm.mon
  hour_lt : tm.hour < 24
  min_lt : tm.min < 60
  sec_lt : tm.sec < 60

/-- `toCivil` の二つの分割が満たすこと。年の頭からの日と月の頭からの日が、元の日数に足し戻る。 -/
theorem toCivil_split (t : Int) :
    daysBeforeYear (toCivil t).year + cumDays (toCivil t).year ((toCivil t).mon - 1)
        + ((toCivil t).mday - 1) = daysBeforeYear 1970 + t / 86400 ∧
      (toCivil t).mday ≤ monthDays (toCivil t).year (toCivil t).mon ∧ (toCivil t).mon ≤ 12 := by
  have hq := daysBeforeYear_cycle 1970 (t / 86400 / 146097)
  have hq' := daysBeforeYear_cycle 1970 (t / 86400 / 146097 + 1)
  have hc : 1970 + 400 * (t / 86400 / 146097) + ((400 : Nat) : Int)
      = 1970 + 400 * (t / 86400 / 146097 + 1) := by push_cast; omega
  obtain ⟨hy1, hy2⟩ := yearSplit_spec 400 (1970 + 400 * (t / 86400 / 146097))
    (t / 86400 % 146097).toNat (by rw [hc]; omega)
  simp only [toCivil, Nat.add_sub_cancel]
  generalize yearSplit 400 (1970 + 400 * (t / 86400 / 146097)) (t / 86400 % 146097).toNat = yd
    at hy1 hy2 ⊢
  obtain ⟨hm1, hm2, hm3⟩ := monthSplit_spec yd.1 12 0 yd.2 (by simpa [cumDays_twelve] using hy2)
  simp only [cumDays_zero, Nat.zero_add] at hm1
  omega

theorem toSecs_toCivil (t : Int) : (toCivil t).toSecs = t := by
  have h1 := (toCivil_split t).1
  have hs : ((t % 86400).toNat : Int) = t % 86400 := Int.toNat_of_nonneg (by omega)
  unfold Tm.toSecs
  simp only [toCivil] at h1 ⊢
  omega

theorem toCivil_valid (t : Int) : (toCivil t).Valid := by
  obtain ⟨-, h2, h3⟩ := toCivil_split t
  have hs : (t % 86400).toNat < 86400 := by omega
  refine ⟨by simp [toCivil], h3, by simp [toCivil], h2, ?_, ?_, ?_⟩ <;> simp only [toCivil] <;> omega

/-! ## 順序 -/

/-- 欄を上から並べた数。各欄が 100 未満なら、この数の順序が欄の辞書式順序である。 -/
def Tm.key (tm : Tm) : Int :=
  ((((tm.year * 100 + tm.mon) * 100 + tm.mday) * 100 + tm.hour) * 100 + tm.min) * 100 + tm.sec

/-- 年の頭から数えた日（0 始まり）。 -/
def Tm.yday (tm : Tm) : Nat := cumDays tm.year (tm.mon - 1) + (tm.mday - 1)

theorem monthDays_le (y : Int) (m : Nat) : monthDays y m ≤ 31 := by
  unfold monthDays
  split
  · omega
  · have hall : ∀ v ∈ widDaysInMonth, v.toNat ≤ 31 := by decide
    simp only [List.getD_eq_getElem?_getD]
    cases h : widDaysInMonth[m - 1]? with
    | none => simp
    | some v => exact hall v (List.getElem?_mem h)

theorem cumDays_pred {m : Nat} (y : Int) (h : 1 ≤ m) :
    cumDays y m = cumDays y (m - 1) + monthDays y m := by
  obtain ⟨k, rfl⟩ : ∃ k, m = k + 1 := ⟨m - 1, by omega⟩
  rfl

theorem Tm.Valid.mday_lt {tm : Tm} (h : tm.Valid) : tm.mday < 32 :=
  Nat.lt_succ_of_le (h.mday_le.trans (monthDays_le _ _))

theorem Tm.Valid.yday_lt_cumDays {tm : Tm} (h : tm.Valid) : tm.yday < cumDays tm.year tm.mon := by
  rw [cumDays_pred _ h.mon_pos]
  have := h.mday_pos; have := h.mday_le
  unfold Tm.yday; omega

theorem Tm.Valid.yday_lt {tm : Tm} (h : tm.Valid) : tm.yday < daysInYear tm.year := by
  have := cumDays_mono tm.year h.mon_le
  rw [cumDays_twelve] at this
  exact h.yday_lt_cumDays.trans_le this

/-- 同じ年の中では、(月, 日) の順序が年の頭からの日の順序である。 -/
theorem yday_lt_of_lt {a b : Tm} (ha : a.Valid) (hb : b.Valid) (hy : a.year = b.year)
    (h : a.mon * 100 + a.mday < b.mon * 100 + b.mday) : a.yday < b.yday := by
  have := ha.mday_lt; have := hb.mday_lt; have := ha.mday_pos; have := hb.mday_pos
  rcases Nat.lt_or_ge a.mon b.mon with hm | hm
  · have h1 := ha.yday_lt_cumDays
    have h2 := cumDays_mono a.year (show a.mon ≤ b.mon - 1 by omega)
    rw [hy] at h1 h2
    unfold Tm.yday at *; omega
  · have hm' : a.mon = b.mon := by omega
    unfold Tm.yday; rw [hy, hm']; omega

/-- 日付の順序：正しい日付の間では、(年, 月, 日) の順序が 0000-01-01 からの日数の順序である。 -/
theorem dayNum_lt_of_date_lt {a b : Tm} (ha : a.Valid) (hb : b.Valid)
    (h : (a.year * 100 + a.mon) * 100 + a.mday < (b.year * 100 + b.mon) * 100 + b.mday) :
    daysBeforeYear a.year + a.yday < daysBeforeYear b.year + b.yday := by
  have := ha.mday_lt; have := hb.mday_lt; have := ha.mon_le; have := hb.mon_le
  rcases Int.lt_trichotomy a.year b.year with hy | hy | hy
  · have h1 := ha.yday_lt
    have h2 := daysBeforeYear_succ a.year
    have h3 := daysBeforeYear_mono (show a.year + 1 ≤ b.year by omega)
    omega
  · have := yday_lt_of_lt ha hb hy (by omega)
    rw [hy]; omega
  · omega

/-- 欄の数が等しい正しい暦の値は等しい。 -/
theorem Tm.key_inj {a b : Tm} (ha : a.Valid) (hb : b.Valid) (h : a.key = b.key) : a = b := by
  have := ha.mday_lt; have := hb.mday_lt; have := ha.mon_le; have := hb.mon_le
  have := ha.hour_lt; have := hb.hour_lt; have := ha.min_lt; have := hb.min_lt
  have := ha.sec_lt; have := hb.sec_lt
  cases a; cases b
  simp only [Tm.key, Tm.mk.injEq] at *
  omega

theorem toSecs_lt_of_key_lt {a b : Tm} (ha : a.Valid) (hb : b.Valid) (h : a.key < b.key) :
    a.toSecs < b.toSecs := by
  have := ha.mday_lt; have := hb.mday_lt; have := ha.mon_le; have := hb.mon_le
  have := ha.hour_lt; have := hb.hour_lt; have := ha.min_lt; have := hb.min_lt
  have := ha.sec_lt; have := hb.sec_lt; have := ha.mday_pos; have := hb.mday_pos
  have hd : (a.year * 100 + a.mon) * 100 + a.mday < (b.year * 100 + b.mon) * 100 + b.mday ∨
      ((a.year * 100 + a.mon) * 100 + a.mday = (b.year * 100 + b.mon) * 100 + b.mday ∧
        (a.hour * 100 + a.min) * 100 + a.sec < (b.hour * 100 + b.min) * 100 + b.sec) := by
    unfold Tm.key at h; omega
  have hs : a.toSecs = (daysBeforeYear a.year + a.yday - daysBeforeYear 1970) * 86400
      + (a.hour * 3600 + a.min * 60 + a.sec) := by unfold Tm.toSecs Tm.yday; omega
  have hs' : b.toSecs = (daysBeforeYear b.year + b.yday - daysBeforeYear 1970) * 86400
      + (b.hour * 3600 + b.min * 60 + b.sec) := by unfold Tm.toSecs Tm.yday; omega
  rcases hd with hd | ⟨hd, ht⟩
  · have := dayNum_lt_of_date_lt ha hb hd
    rw [hs, hs']; omega
  · have hy : a.year = b.year := by omega
    have hm : a.mon = b.mon := by omega
    have hdd : a.mday = b.mday := by omega
    have : a.yday = b.yday := by unfold Tm.yday; rw [hy, hm, hdd]
    rw [hs, hs', hy, this]; omega

/-- **秒の順序は欄の辞書式順序である。** 正しい暦の値の間で成り立つ。 -/
theorem toSecs_lt_iff_key_lt {a b : Tm} (ha : a.Valid) (hb : b.Valid) :
    a.toSecs < b.toSecs ↔ a.key < b.key := by
  refine ⟨fun h => ?_, toSecs_lt_of_key_lt ha hb⟩
  rcases Int.lt_trichotomy a.key b.key with h' | h' | h'
  · exact h'
  · rw [Tm.key_inj ha hb h'] at h; exact absurd h (Int.lt_irrefl _)
  · exact absurd (toSecs_lt_of_key_lt hb ha h') (Int.not_lt.mpr (Int.le_of_lt h))

end Wid
