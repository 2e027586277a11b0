import Wid.Calendar

/-!
# 時刻の欄

ID の先頭の `YYYYMMDDTHHMMSS[mmm]` を書く側と読む側。

* 読む側は `wid_parse_timestamp`。決まった位置の文字を読み、暦として確かめる。
* 書く側は `wid_fmt_tick`。`gmtime` と `strftime` を通す。

読む側は位置で書かれている（`s[8] != 'T'` など）。証明ではそれを
「先頭がどういう列の連結か」に言い換える。鍵は `take_eq_fixedDigits`：
数字だけが並ぶ区間は、読んだ値をその桁数で書いたものに等しい。
-/

namespace Wid

/-! ## 文字の分類 -/

/-- `wid_is_digit`。 -/
def widIsDigit (c : Char) : Bool := '0' ≤ c && c ≤ '9'

/-- `wid_is_alpha`。 -/
def widIsAlpha (c : Char) : Bool := ('a' ≤ c && c ≤ 'z') || ('A' ≤ c && c ≤ 'Z')

/-- `wid_is_alnum`。 -/
def widIsAlnum (c : Char) : Bool := widIsDigit c || widIsAlpha c

/-- `wid_is_lower_hex`。 -/
def widIsLowerHex (c : Char) : Bool := ('0' ≤ c && c ≤ '9') || ('a' ≤ c && c ≤ 'f')

/-- `wid_is_node_char`。 -/
def widIsNodeChar (c : Char) : Bool := widIsAlnum c || c == '_'

theorem widIsDigit_iff {c : Char} : widIsDigit c = true ↔ 48 ≤ c.toNat ∧ c.toNat ≤ 57 := by
  simp only [widIsDigit, Bool.and_eq_true, decide_eq_true_eq]
  rfl

theorem widIsDigit_of_mem_fixedDigits {w n : Nat} {c : Char} (h : c ∈ fixedDigits w n) :
    widIsDigit c = true := by
  obtain ⟨d, hd, hc⟩ := toNat_of_mem_fixedDigits h
  rw [widIsDigit_iff]; omega

/-- 数字は数字を書いた文字に戻る。 -/
theorem digitChar_toNat {c : Char} (h : widIsDigit c = true) : digitChar (c.toNat - 48) = c := by
  rw [widIsDigit_iff] at h
  unfold digitChar
  rw [show 48 + (c.toNat - 48) = c.toNat by omega, Char.ofNat_toNat]

@[simp] theorem widIsDigit_nul : widIsDigit '\x00' = false := rfl

/-! ## 数字の列 -/

/-- 数字の列が表す十進の値。上の桁から読む。 -/
def decValue : List Char → Nat
  | [] => 0
  | c :: cs => (c.toNat - 48) * 10 ^ cs.length + decValue cs

theorem decValue_lt : ∀ {l : List Char}, (∀ c ∈ l, widIsDigit c = true) → decValue l < 10 ^ l.length
  | [], _ => by simp [decValue]
  | c :: cs, h => by
    have hc := widIsDigit_iff.mp (h c (by simp))
    have ih := decValue_lt (fun x hx => h x (List.mem_cons_of_mem _ hx))
    have : (c.toNat - 48) * 10 ^ cs.length ≤ 9 * 10 ^ cs.length := Nat.mul_le_mul_right _ (by omega)
    simp only [decValue, List.length_cons, Nat.pow_succ]
    omega

theorem decValue_fixedDigits (w n : Nat) : decValue (fixedDigits w n) = n % 10 ^ w := by
  induction w with
  | zero => simp [decValue, fixedDigits, Nat.mod_one]
  | succ w ih =>
    rw [fixedDigits, decValue, ih, toNat_digitChar (Nat.mod_lt _ (by omega)), length_fixedDigits,
      Nat.add_sub_cancel_left, Nat.mod_pow_succ, Nat.mul_comm, Nat.add_comm]

/-- **数字だけの列は、その値をその桁数で書いたものである。** -/
theorem digits_eq_fixedDigits :
    ∀ {l : List Char}, (∀ c ∈ l, widIsDigit c = true) → l = fixedDigits l.length (decValue l)
  | [], _ => rfl
  | c :: cs, h => by
    have hc := h c (by simp)
    have hcs : ∀ x ∈ cs, widIsDigit x = true := fun x hx => h x (List.mem_cons_of_mem _ hx)
    have hlt := decValue_lt hcs
    have hd := widIsDigit_iff.mp hc
    have hpos : 0 < 10 ^ cs.length := Nat.pos_pow_of_pos _ (by omega)
    have hdiv : ((c.toNat - 48) * 10 ^ cs.length + decValue cs) / 10 ^ cs.length = c.toNat - 48 := by
      rw [Nat.add_comm, Nat.add_mul_div_right _ _ hpos, Nat.div_eq_of_lt hlt]; omega
    have hmod : ((c.toNat - 48) * 10 ^ cs.length + decValue cs) % 10 ^ cs.length = decValue cs := by
      rw [Nat.add_comm, Nat.add_mul_mod_self_right, Nat.mod_eq_of_lt hlt]
    rw [List.length_cons, fixedDigits, decValue, hdiv, Nat.mod_eq_of_lt (by omega : c.toNat - 48 < 10),
      digitChar_toNat hc, ← fixedDigits_mod, hmod, ← digits_eq_fixedDigits hcs]

/-- `wid_parse_digits_i64`。先頭 `n` 文字を十進で読む。数字でない文字（終端の NUL を含む）があれば
`-1`。 -/
def widParseDigitsI64 (s : List Char) (n : Nat) : Int := go 0 s n
where
  /-- 読み進めるループ。`v` はここまでの値。 -/
  go (v : Int) : List Char → Nat → Int
    | _, 0 => v
    | [], _ + 1 => -1
    | c :: cs, k + 1 => if widIsDigit c then go (v * 10 + (c.toNat - '0'.toNat : Nat)) cs k else -1

theorem widParseDigitsI64_go_of_digits : ∀ (n : Nat) (v : Int) (s : List Char),
    (∀ i < n, widIsDigit (cAt s i) = true) →
    widParseDigitsI64.go v s n = v * 10 ^ n + decValue (s.take n) ∧ n ≤ s.length
  | 0, v, s, _ => by simp [widParseDigitsI64.go, decValue]
  | n + 1, v, [], h => absurd (h 0 (by omega)) (by simp)
  | n + 1, v, c :: cs, h => by
    have hc : widIsDigit c = true := h 0 (by omega)
    obtain ⟨ih, hlen⟩ := widParseDigitsI64_go_of_digits n (v * 10 + (c.toNat - '0'.toNat : Nat)) cs
      (fun i hi => h (i + 1) (by omega))
    refine ⟨?_, by simp; omega⟩
    rw [widParseDigitsI64.go, if_pos hc, ih, List.take_succ_cons, decValue, List.length_take,
      Nat.min_eq_left hlen]
    push_cast
    rw [Int.pow_succ]
    ring_nf

/-- 数字が `n` 個並んでいれば、`wid_parse_digits_i64` はその値を返す。 -/
theorem widParseDigitsI64_of_digits {s : List Char} {n : Nat}
    (h : ∀ i < n, widIsDigit (cAt s i) = true) : widParseDigitsI64 s n = decValue (s.take n) := by
  simpa using (widParseDigitsI64_go_of_digits n 0 s h).1

/-- **数字が `n` 個並ぶ区間は、読んだ値を `n` 桁で書いたものに等しい。** -/
theorem take_eq_fixedDigits {s : List Char} {n : Nat} (h : ∀ i < n, widIsDigit (cAt s i) = true) :
    s.take n = fixedDigits n (widParseDigitsI64 s n).toNat ∧ 0 ≤ widParseDigitsI64 s n ∧
      widParseDigitsI64 s n < 10 ^ n ∧ n ≤ s.length := by
  have hlen := (widParseDigitsI64_go_of_digits n 0 s h).2
  have hall : ∀ c ∈ s.take n, widIsDigit c = true := by
    intro c hc
    obtain ⟨i, hi, rfl⟩ := List.getElem_of_mem hc
    have hi' : i < n ∧ i < s.length := by simpa using hi
    simpa [List.getElem_take, cAt_eq_getElem hi'.2] using h i hi'.1
  have hlt := decValue_lt hall
  rw [List.length_take, Nat.min_eq_left hlen] at hlt
  rw [widParseDigitsI64_of_digits h]
  refine ⟨?_, by omega, by exact_mod_cast hlt, hlen⟩
  conv_lhs => rw [digits_eq_fixedDigits hall]
  simp [Nat.min_eq_left hlen]

/-- 十進で書いた `w` 桁を読むと、下 `w` 桁の値が返る。 -/
theorem widParseDigitsI64_fixedDigits (w n : Nat) (rest : List Char) :
    widParseDigitsI64 (fixedDigits w n ++ rest) w = (n % 10 ^ w : Nat) := by
  have h : ∀ i < w, widIsDigit (cAt (fixedDigits w n ++ rest) i) = true := fun i hi => by
    rw [cAt_append_left (by simpa using hi)]
    exact widIsDigit_of_mem_fixedDigits (cAt_mem (by simpa using hi))
  rw [widParseDigitsI64_of_digits h, List.take_left' (by simp), decValue_fixedDigits]

/-! ## `wid_parse_timestamp` -/

/-- `wid_time_unit_t`。 -/
inductive WidTimeUnit where
  | sec
  | ms
  deriving DecidableEq, Repr

/-- `wid_timestamp_len`。 -/
def widTimestampLen (unit : WidTimeUnit) : Nat := if unit = .ms then 18 else 15

/-- `wid_parse_timestamp` が書き出す七つの欄。 -/
structure WidTimestamp where
  year : Int
  month : Int
  day : Int
  hour : Int
  minute : Int
  second : Int
  millisecond : Int
  deriving DecidableEq, Repr

/-- `wid_parse_timestamp` のミリ秒の欄。`ms` のときだけ 3 桁を読む。 -/
def widParseMillis (s : List Char) (unit : WidTimeUnit) : Option Int :=
  if unit = .ms then
    if !(List.range' 15 3).all (fun i => widIsDigit (cAt s i)) then none
    else if widParseDigitsI64 (s.drop 15) 3 < 0 ∨ widParseDigitsI64 (s.drop 15) 3 > 999 then none
    else some (widParseDigitsI64 (s.drop 15) 3)
  else some 0

/-- `wid_parse_timestamp`。成功すれば読んだ欄を返す。 -/
def widParseTimestamp (s : List Char) (unit : WidTimeUnit) : Option WidTimestamp :=
  if cAt s 8 ≠ 'T' then none
  else if !(List.range' 0 8).all (fun i => widIsDigit (cAt s i)) then none
  else if !(List.range' 9 6).all (fun i => widIsDigit (cAt s i)) then none
  else if !widValidYmdhms (widParseDigitsI64 s 4) (widParseDigitsI64 (s.drop 4) 2)
      (widParseDigitsI64 (s.drop 6) 2) (widParseDigitsI64 (s.drop 9) 2)
      (widParseDigitsI64 (s.drop 11) 2) (widParseDigitsI64 (s.drop 13) 2) then none
  else (widParseMillis s unit).bind fun ms =>
    if cAt s (widTimestampLen unit) ≠ '.' then none
    else some ⟨widParseDigitsI64 s 4, widParseDigitsI64 (s.drop 4) 2, widParseDigitsI64 (s.drop 6) 2,
      widParseDigitsI64 (s.drop 9) 2, widParseDigitsI64 (s.drop 11) 2,
      widParseDigitsI64 (s.drop 13) 2, ms⟩

/-- 時刻の欄を `%04d%02d%02dT%02d%02d%02d`（`ms` なら続けて `%03d`）で書く。 -/
def renderTimestamp (unit : WidTimeUnit) (r : WidTimestamp) : List Char :=
  fmtZeroPad 4 r.year ++ fmtZeroPad 2 r.month ++ fmtZeroPad 2 r.day ++
    'T' :: (fmtZeroPad 2 r.hour ++ fmtZeroPad 2 r.minute ++ fmtZeroPad 2 r.second ++
      if unit = .ms then fmtZeroPad 3 r.millisecond else [])

/-- 時刻の欄として正しいこと。年は 4 桁、暦は Gregorian、`sec` では ms は 0。 -/
structure WidTimestamp.Valid (unit : WidTimeUnit) (r : WidTimestamp) : Prop where
  year_nonneg : 0 ≤ r.year
  year_lt : r.year < 10000
  month_pos : 1 ≤ r.month
  month_le : r.month ≤ 12
  day_pos : 1 ≤ r.day
  day_le : r.day ≤ gregorianDaysInMonth r.year r.month.toNat
  hour_nonneg : 0 ≤ r.hour
  hour_le : r.hour ≤ 23
  minute_nonneg : 0 ≤ r.minute
  minute_le : r.minute ≤ 59
  second_nonneg : 0 ≤ r.second
  second_le : r.second ≤ 59
  ms_nonneg : 0 ≤ r.millisecond
  ms_le : r.millisecond ≤ 999
  ms_of_sec : unit = .sec → r.millisecond = 0

/-- 暦の検査は `wid_valid_ymdhms` の検査である。 -/
theorem widValidYmdhms_iff_gregorian {y mo d h mi s : Int} :
    widValidYmdhms y mo d h mi s = true ↔
      1 ≤ mo ∧ mo ≤ 12 ∧ 1 ≤ d ∧ d ≤ gregorianDaysInMonth y mo.toNat ∧
        0 ≤ h ∧ h ≤ 23 ∧ 0 ≤ mi ∧ mi ≤ 59 ∧ 0 ≤ s ∧ s ≤ 59 := by
  rw [widValidYmdhms_iff]
  constructor
  · rintro ⟨h1, h2, h3, h4, h5⟩
    exact ⟨h1, h2, h3, by rwa [← monthDays_eq_gregorian y (by omega) (by omega)], h5⟩
  · rintro ⟨h1, h2, h3, h4, h5⟩
    exact ⟨h1, h2, h3, by rwa [monthDays_eq_gregorian y (by omega) (by omega)], h5⟩

theorem renderTimestamp_of_valid {u : WidTimeUnit} {r : WidTimestamp} (hr : r.Valid u) :
    renderTimestamp u r = fixedDigits 4 r.year.toNat ++ fixedDigits 2 r.month.toNat ++
      fixedDigits 2 r.day.toNat ++ 'T' :: (fixedDigits 2 r.hour.toNat ++ fixedDigits 2 r.minute.toNat ++
        fixedDigits 2 r.second.toNat ++ if u = .ms then fixedDigits 3 r.millisecond.toNat else []) := by
  have := hr.year_nonneg; have := hr.year_lt; have := hr.month_le; have := hr.day_le
  have := hr.hour_le; have := hr.minute_le; have := hr.second_le; have := hr.ms_le
  have hd := gregorianDaysInMonth_le r.year r.month.toNat
  unfold renderTimestamp
  rw [fmtZeroPad_of_lt (by omega) hr.year_nonneg (by omega),
    fmtZeroPad_of_lt (by omega) (by have := hr.month_pos; omega) (by omega),
    fmtZeroPad_of_lt (by omega) (by have := hr.day_pos; omega) (by omega),
    fmtZeroPad_of_lt (by omega) hr.hour_nonneg (by omega),
    fmtZeroPad_of_lt (by omega) hr.minute_nonneg (by omega),
    fmtZeroPad_of_lt (by omega) hr.second_nonneg (by omega),
    fmtZeroPad_of_lt (by omega) hr.ms_nonneg (by omega)]

theorem length_renderTimestamp {u : WidTimeUnit} {r : WidTimestamp} (hr : r.Valid u) :
    (renderTimestamp u r).length = widTimestampLen u := by
  rw [renderTimestamp_of_valid hr]; cases u <;> simp [widTimestampLen]

theorem length_renderTimestamp_le {u : WidTimeUnit} {r : WidTimestamp} (hr : r.Valid u) :
    (renderTimestamp u r).length ≤ 18 := by
  rw [length_renderTimestamp hr]; unfold widTimestampLen; split <;> omega

/-- 時刻部と `.` の後ろ。 -/
theorem drop_renderTimestamp {u : WidTimeUnit} {r : WidTimestamp} (hr : r.Valid u) (t : List Char) :
    (renderTimestamp u r ++ '.' :: t).drop (widTimestampLen u + 1) = t := by
  rw [← length_renderTimestamp hr]; simp

theorem widParseMillis_eq_some {s : List Char} {u : WidTimeUnit} {ms : Int}
    (h : widParseMillis s u = some ms) :
    (u = .sec ∧ ms = 0) ∨ (u = .ms ∧ (∀ i < 3, widIsDigit (cAt s (15 + i)) = true) ∧
      ms = widParseDigitsI64 (s.drop 15) 3 ∧ 0 ≤ ms ∧ ms ≤ 999) := by
  unfold widParseMillis at h
  cases u with
  | sec => simp at h; exact .inl ⟨rfl, h.symm⟩
  | ms =>
    simp only [if_true] at h
    split_ifs at h with h3 h4
    cases h
    simp only [Bool.not_eq_true', Bool.not_eq_false, all_range'_cAt] at h3
    exact .inr ⟨rfl, h3, rfl, by omega, by omega⟩

/-- 読めた欄は正しく、文字列はその欄を書いたものと `.` で始まる。 -/
theorem widParseTimestamp_inv {s : List Char} {u : WidTimeUnit} {r : WidTimestamp}
    (h : widParseTimestamp s u = some r) :
    r.Valid u ∧ s = renderTimestamp u r ++ '.' :: s.drop (widTimestampLen u + 1) := by
  unfold widParseTimestamp at h
  split_ifs at h with hT h8 h6 hv hdot
  · simp at h
  obtain ⟨ms, hms, h⟩ := Option.bind_eq_some.mp h
  cases h
  simp only [ne_eq, not_not, Bool.not_eq_true', Bool.not_eq_false, all_range'_cAt] at hT h8 h6 hv hdot
  obtain ⟨eY, hY0, hY1, -⟩ := take_eq_fixedDigits (s := s) (n := 4)
    (fun i hi => by simpa using h8 i (by omega))
  obtain ⟨eM, hM0, hM1, -⟩ := take_eq_fixedDigits (s := s.drop 4) (n := 2)
    (fun i hi => by simpa using h8 (4 + i) (by omega))
  obtain ⟨eD, hD0, hD1, -⟩ := take_eq_fixedDigits (s := s.drop 6) (n := 2)
    (fun i hi => by simpa using h8 (6 + i) (by omega))
  obtain ⟨eH, hH0, hH1, -⟩ := take_eq_fixedDigits (s := s.drop 9) (n := 2)
    (fun i hi => by simpa using h6 i (by omega))
  obtain ⟨eMi, hMi0, hMi1, -⟩ := take_eq_fixedDigits (s := s.drop 11) (n := 2)
    (fun i hi => by simpa [← Nat.add_assoc] using h6 (2 + i) (by omega))
  obtain ⟨eS, hS0, hS1, -⟩ := take_eq_fixedDigits (s := s.drop 13) (n := 2)
    (fun i hi => by simpa [← Nat.add_assoc] using h6 (4 + i) (by omega))
  have hY : (10 : Int) ^ 4 = 10000 := by norm_num
  obtain ⟨hmo1, hmo2, hd1, hd2, hh1, hh2, hmi1, hmi2, hs1, hs2⟩ := widValidYmdhms_iff_gregorian.mp hv
  have e1 := drop_eq_append (s := s) (a := 0) (by simpa using eY) (show 0 + 4 = 4 from rfl)
  have e2 := drop_eq_append eM (show 4 + 2 = 6 from rfl)
  have e3 := drop_eq_append eD (show 6 + 2 = 8 from rfl)
  have e4 := drop_eq_cons hT (by decide) (show 8 + 1 = 9 from rfl)
  have e5 := drop_eq_append eH (show 9 + 2 = 11 from rfl)
  have e6 := drop_eq_append eMi (show 11 + 2 = 13 from rfl)
  have e7 := drop_eq_append eS (show 13 + 2 = 15 from rfl)
  -- ミリ秒の欄（`sec` なら空）と、その後ろの `.`
  have hmsv : (0 ≤ ms ∧ ms ≤ 999 ∧ (u = .sec → ms = 0)) ∧ s.drop 15 =
      (if u = .ms then fixedDigits 3 ms.toNat else []) ++ '.' :: s.drop (widTimestampLen u + 1) := by
    rcases widParseMillis_eq_some hms with ⟨rfl, rfl⟩ | ⟨rfl, h3, rfl, hms0, hms1⟩
    · exact ⟨by decide, drop_eq_cons hdot (by decide) rfl⟩
    · obtain ⟨eMs, -⟩ := take_eq_fixedDigits (s := s.drop 15) (n := 3) (fun i hi => by simpa using h3 i hi)
      refine ⟨⟨hms0, hms1, nofun⟩, (drop_eq_append eMs (show 15 + 3 = 18 from rfl)).trans ?_⟩
      rw [(drop_eq_cons hdot (by decide) rfl : s.drop 18 = '.' :: s.drop 19)]; rfl
  have hvalid : WidTimestamp.Valid u ⟨widParseDigitsI64 s 4, widParseDigitsI64 (s.drop 4) 2,
      widParseDigitsI64 (s.drop 6) 2, widParseDigitsI64 (s.drop 9) 2, widParseDigitsI64 (s.drop 11) 2,
      widParseDigitsI64 (s.drop 13) 2, ms⟩ :=
    ⟨hY0, by dsimp only; omega, hmo1, hmo2, hd1, hd2, hh1, hh2, hmi1, hmi2, hs1, hs2, hmsv.1.1,
      hmsv.1.2.1, hmsv.1.2.2⟩
  refine ⟨hvalid, ?_⟩
  rw [renderTimestamp_of_valid hvalid]
  conv_lhs => rw [← List.drop_zero s, e1, e2, e3, e4, e5, e6, e7, hmsv.2]
  simp

/-- 正しい欄を書いて `.` を続けた文字列は、その欄として読める。 -/
theorem widParseTimestamp_render {u : WidTimeUnit} {r : WidTimestamp} (hr : r.Valid u)
    (rest : List Char) : widParseTimestamp (renderTimestamp u r ++ '.' :: rest) u = some r := by
  have := hr.year_nonneg; have := hr.year_lt; have := hr.month_pos; have := hr.month_le
  have := hr.day_pos; have := hr.day_le; have := gregorianDaysInMonth_le r.year r.month.toNat
  have := hr.hour_nonneg; have := hr.hour_le; have := hr.minute_nonneg; have := hr.minute_le
  have := hr.second_nonneg; have := hr.second_le; have := hr.ms_nonneg; have := hr.ms_le
  have hdate : ∀ c ∈ fixedDigits 4 r.year.toNat ++ fixedDigits 2 r.month.toNat ++
      fixedDigits 2 r.day.toNat, widIsDigit c = true := by
    simp only [List.mem_append]; rintro c ((h | h) | h) <;> exact widIsDigit_of_mem_fixedDigits h
  have htime : ∀ c ∈ fixedDigits 2 r.hour.toNat ++ fixedDigits 2 r.minute.toNat ++
      fixedDigits 2 r.second.toNat, widIsDigit c = true := by
    simp only [List.mem_append]; rintro c ((h | h) | h) <;> exact widIsDigit_of_mem_fixedDigits h
  have hv : widValidYmdhms r.year r.month r.day r.hour r.minute r.second = true :=
    widValidYmdhms_iff_gregorian.mpr ⟨by omega, by omega, by omega, by omega, by omega, by omega,
      by omega, by omega, by omega, by omega⟩
  generalize hs : renderTimestamp u r ++ '.' :: rest = s
  rw [renderTimestamp_of_valid hr] at hs
  have hT : cAt s 8 = 'T' := by rw [← hs]; simp [cAt_append_right]
  have h8 : (List.range' 0 8).all (fun i => widIsDigit (cAt s i)) = true := by
    rw [all_range'_cAt]; intro i hi; rw [← hs, List.append_assoc, List.append_assoc]
    exact cAt_append_of_mem hdate (by simpa using hi)
  have h6 : (List.range' 9 6).all (fun i => widIsDigit (cAt s i)) = true := by
    have hd9 : s.drop 9 = (fixedDigits 2 r.hour.toNat ++ fixedDigits 2 r.minute.toNat ++
        fixedDigits 2 r.second.toNat) ++
        ((if u = .ms then fixedDigits 3 r.millisecond.toNat else []) ++ '.' :: rest) := by
      rw [← hs]
      simp only [List.append_assoc, List.cons_append, List.drop_append_eq_append_drop,
        length_fixedDigits, List.drop_eq_nil_of_le, List.drop_succ_cons, List.drop_zero, zero_le,
        Nat.sub_eq_zero_of_le, List.nil_append, Nat.reduceLeDiff, Nat.reduceSub]
    rw [all_range'_cAt]; intro i hi; rw [← cAt_drop, hd9]
    exact cAt_append_of_mem htime (by simpa using hi)
  have hfields : [widParseDigitsI64 s 4, widParseDigitsI64 (s.drop 4) 2, widParseDigitsI64 (s.drop 6) 2,
      widParseDigitsI64 (s.drop 9) 2, widParseDigitsI64 (s.drop 11) 2, widParseDigitsI64 (s.drop 13) 2] =
      [r.year, r.month, r.day, r.hour, r.minute, r.second] := by
    rw [← hs]
    simp only [List.append_assoc, List.cons_append, widParseDigitsI64_fixedDigits, Nat.reducePow,
      Int.ofNat_emod, Int.ofNat_toNat, Nat.cast_ofNat, length_fixedDigits, List.drop_left',
      List.drop_append_eq_append_drop, Nat.reduceLeDiff, List.drop_eq_nil_of_le, Nat.reduceSub,
      List.nil_append, List.drop_succ_cons, List.drop_zero, zero_le, Nat.sub_eq_zero_of_le,
      List.cons.injEq, and_true]
    omega
  simp only [List.cons.injEq, and_true] at hfields
  obtain ⟨hy, hmo, hd, hh, hmi, hse⟩ := hfields
  have hms : widParseMillis s u = some r.millisecond := by
    cases u with
    | sec => simp [widParseMillis, hr.ms_of_sec rfl]
    | ms =>
      have hd15 : s.drop 15 = fixedDigits 3 r.millisecond.toNat ++ '.' :: rest := by
        rw [← hs]
        simp only [List.append_assoc, reduceIte, List.cons_append, List.drop_append_eq_append_drop,
          length_fixedDigits, List.drop_eq_nil_of_le, List.drop_succ_cons, List.drop_left',
          List.drop_zero, List.nil_append, Nat.reduceLeDiff, Nat.reduceSub]
      have h3 : (List.range' 15 3).all (fun i => widIsDigit (cAt s i)) = true := by
        rw [all_range'_cAt]; intro i hi; rw [← cAt_drop, hd15]
        exact cAt_append_of_mem (fun _ h => widIsDigit_of_mem_fixedDigits h) (by simpa using hi)
      have hv3 : widParseDigitsI64 (s.drop 15) 3 = r.millisecond := by
        rw [hd15, widParseDigitsI64_fixedDigits]; omega
      simp [widParseMillis, h3, hv3]; omega
  have hdot : cAt s (widTimestampLen u) = '.' := by
    rw [← hs]; cases u <;> simp [widTimestampLen, cAt_append_right]
  unfold widParseTimestamp
  simp [hT, h8, h6, hy, hmo, hd, hh, hmi, hse, hv, hms, hdot]
/-- **`wid_parse_timestamp` の仕様。** 受け入れるのは、正しい欄を書いた列の直後に `.` が
来る文字列だけで、返すのはその欄である。 -/
theorem widParseTimestamp_eq_some {s : List Char} {u : WidTimeUnit} {r : WidTimestamp} :
    widParseTimestamp s u = some r ↔ r.Valid u ∧ ∃ rest, s = renderTimestamp u r ++ '.' :: rest :=
  ⟨fun h => ⟨(widParseTimestamp_inv h).1, _, (widParseTimestamp_inv h).2⟩,
    fun ⟨hr, rest, hs⟩ => hs ▸ widParseTimestamp_render hr rest⟩

/-! ## `wid_fmt_tick` -/

/-- libc の `gmtime`。年が `int` の `tm_year`（西暦 − 1900）に入らなければ失敗する。 -/
def gmtime (t : Int) : Option Tm :=
  if -2 ^ 31 ≤ (toCivil t).year - 1900 ∧ (toCivil t).year - 1900 < 2 ^ 31 then some (toCivil t)
  else none

/-- `strftime(base, sizeof(base), "%Y%m%dT%H%M%S", tm)`。`%Y` は年を桁数だけ書く（POSIX）。
`base[20]` に入らないと `strftime` は 0 を返して中身は不定になる。ここでは空とする。 -/
def strftimeBase (tm : Tm) : List Char :=
  let s := fmtZeroPad 0 tm.year ++ fixedDigits 2 tm.mon ++ fixedDigits 2 tm.mday ++
    'T' :: (fixedDigits 2 tm.hour ++ fixedDigits 2 tm.min ++ fixedDigits 2 tm.sec)
  if s.length < 20 then s else []

/-- `wid_fmt_tick`。`ms` では秒を C の割り算（0 への切り捨て）で取り、余りが負なら 1000 を足す。 -/
def widFmtTick (unit : WidTimeUnit) (tick : Int) : List Char :=
  let sec := if unit = .ms then tick.tdiv 1000 else tick
  let ms := if unit = .ms then
      (if tick.tmod 1000 < 0 then tick.tmod 1000 + 1000 else tick.tmod 1000) else 0
  match gmtime sec with
  | none => []
  | some tm =>
    if unit = .ms then cSnprintf 24 (strftimeBase tm ++ fmtZeroPad 3 ms)
    else cSnprintf 24 (strftimeBase tm)

/-- 9999 年の最後の瞬間の tick。 -/
def widMaxTick (unit : WidTimeUnit) : Int := if unit = .ms then 253402300799999 else 253402300799

/-- tick の UTC の暦の欄。`ms` では秒は `tick / 1000`、ミリ秒はその余り。 -/
def tickFields (unit : WidTimeUnit) (tick : Int) : WidTimestamp :=
  let tm := toCivil (if unit = .ms then tick / 1000 else tick)
  ⟨tm.year, tm.mon, tm.mday, tm.hour, tm.min, tm.sec, if unit = .ms then tick % 1000 else 0⟩

/-- 1970 年から 9999 年までの秒は、4 桁の年になる。 -/
theorem toCivil_year_of_range {t : Int} (h0 : 0 ≤ t) (h1 : t ≤ 253402300799) :
    1970 ≤ (toCivil t).year ∧ (toCivil t).year ≤ 9999 := by
  have hv := toCivil_valid t
  have hs := toSecs_toCivil t
  have := hv.mon_le; have := hv.mday_lt; have := hv.hour_lt; have := hv.min_lt; have := hv.sec_lt
  have hE : (⟨1970, 1, 1, 0, 0, 0⟩ : Tm).Valid := by constructor <;> decide
  have hZ : (⟨9999, 12, 31, 23, 59, 59⟩ : Tm).Valid := by constructor <;> decide
  have hE0 : (⟨1970, 1, 1, 0, 0, 0⟩ : Tm).toSecs = 0 := by decide
  have hZ0 : (⟨9999, 12, 31, 23, 59, 59⟩ : Tm).toSecs = 253402300799 := by decide
  constructor
  · by_contra hy
    have := (toSecs_lt_iff_key_lt hv hE).mpr (by unfold Tm.key; dsimp only; omega)
    omega
  · by_contra hy
    have := (toSecs_lt_iff_key_lt hZ hv).mpr (by unfold Tm.key; dsimp only; omega)
    omega

/-- 4 桁の年の暦の値を `strftime` で書いたもの。 -/
theorem strftimeBase_of_year {tm : Tm} (h1 : 1000 ≤ tm.year) (h2 : tm.year ≤ 9999) :
    strftimeBase tm = fixedDigits 4 tm.year.toNat ++ fixedDigits 2 tm.mon ++ fixedDigits 2 tm.mday ++
      'T' :: (fixedDigits 2 tm.hour ++ fixedDigits 2 tm.min ++ fixedDigits 2 tm.sec) := by
  have hY : fmtZeroPad 0 tm.year = fixedDigits 4 tm.year.toNat := by
    have : numDigits tm.year.toNat = 3 + 1 := numDigits_eq (by simp; omega) (by simp; omega)
    simp [fmtZeroPad, show ¬ tm.year < 0 by omega, this]
  simp [strftimeBase, hY]

theorem tickSec_range {u : WidTimeUnit} {t : Int} (h0 : 0 ≤ t) (h1 : t ≤ widMaxTick u) :
    0 ≤ (if u = .ms then t / 1000 else t) ∧ (if u = .ms then t / 1000 else t) ≤ 253402300799 := by
  cases u <;> simp [widMaxTick] at h1 ⊢ <;> omega

theorem tickFields_valid {u : WidTimeUnit} {t : Int} (h0 : 0 ≤ t) (h1 : t ≤ widMaxTick u) :
    (tickFields u t).Valid u := by
  obtain ⟨hs0, hs1⟩ := tickSec_range h0 h1
  obtain ⟨hy1, hy2⟩ := toCivil_year_of_range hs0 hs1
  have hv := toCivil_valid (if u = .ms then t / 1000 else t)
  have := hv.mon_pos; have := hv.mon_le; have := hv.mday_pos; have hmd := hv.mday_le
  have := hv.hour_lt; have := hv.min_lt; have := hv.sec_lt
  rw [monthDays_eq_gregorian _ hv.mon_pos hv.mon_le] at hmd
  refine ⟨by simp [tickFields]; omega, by simp [tickFields]; omega, by simp [tickFields]; omega,
    by simp [tickFields]; omega, by simp [tickFields]; omega, by simp [tickFields]; omega,
    by simp [tickFields], by simp [tickFields]; omega, by simp [tickFields], by simp [tickFields]; omega,
    by simp [tickFields], by simp [tickFields]; omega, ?_, ?_, ?_⟩ <;> cases u <;> simp [tickFields] <;> omega

theorem widFmtTick_sec {t : Int} {tm : Tm} (hg : gmtime t = some tm) :
    widFmtTick .sec t = cSnprintf 24 (strftimeBase tm) := by
  unfold widFmtTick; dsimp only; rw [if_neg (by decide), hg]; rfl

theorem widFmtTick_ms {t : Int} {tm : Tm} (hg : gmtime (t.tdiv 1000) = some tm) :
    widFmtTick .ms t = cSnprintf 24 (strftimeBase tm ++
      fmtZeroPad 3 (if t.tmod 1000 < 0 then t.tmod 1000 + 1000 else t.tmod 1000)) := by
  unfold widFmtTick; dsimp only; rw [if_pos rfl, hg]; rfl

/-- **`wid_fmt_tick` は 9999 年までの tick を、その暦の欄として書く。** -/
theorem widFmtTick_eq {u : WidTimeUnit} {t : Int} (h0 : 0 ≤ t) (h1 : t ≤ widMaxTick u) :
    widFmtTick u t = renderTimestamp u (tickFields u t) := by
  obtain ⟨hs0, hs1⟩ := tickSec_range h0 h1
  rw [renderTimestamp_of_valid (tickFields_valid h0 h1)]
  cases u with
  | sec =>
    rw [if_neg (by decide)] at hs0 hs1
    obtain ⟨hy1, hy2⟩ := toCivil_year_of_range hs0 hs1
    have hg : gmtime t = some (toCivil t) := by unfold gmtime; exact if_pos ⟨by omega, by omega⟩
    have hb := strftimeBase_of_year (by omega : 1000 ≤ (toCivil t).year) hy2
    rw [widFmtTick_sec hg, hb, cSnprintf_of_lt (by simp)]
    simp [tickFields]
  | ms =>
    rw [if_pos rfl] at hs0 hs1
    obtain ⟨hy1, hy2⟩ := toCivil_year_of_range hs0 hs1
    have htd : t.tdiv 1000 = t / 1000 := Int.tdiv_eq_ediv h0 (by omega)
    have hg : gmtime (t.tdiv 1000) = some (toCivil (t / 1000)) := by
      rw [htd]; unfold gmtime; exact if_pos ⟨by omega, by omega⟩
    have hb := strftimeBase_of_year (by omega : 1000 ≤ (toCivil (t / 1000)).year) hy2
    have hms : fmtZeroPad 3 (t % 1000) = fixedDigits 3 (t % 1000).toNat :=
      fmtZeroPad_of_lt (by omega) (by omega) (by omega)
    rw [widFmtTick_ms hg, Int.tmod_eq_emod h0 (by omega), if_neg (by omega), hms, hb,
      cSnprintf_of_lt (by simp)]
    simp [tickFields]

end Wid
