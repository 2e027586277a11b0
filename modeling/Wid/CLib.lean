import Mathlib.Data.List.Lex
import Mathlib.Data.Char
import Mathlib.Tactic.Ring

/-!
# C の下まわり

`wid.h` が頼っている C の道具のうち、ID の符号と生成が使う部分だけを写す。

* `int64_t` は `Int` で持つ。加算の結果が範囲を出ると C では未定義動作なので、
  `add64` は `none` を返す。生成器の遷移はこの `none` をそのまま伝える。
* C の文字列は終端の NUL を含まない `List Char` で表す。終端から先を読むと NUL が返る
  （`cAt`）。NULL ポインタは表さない。
* `snprintf` の `%0*lld` / `%02d` / `%03d` の出力と、バッファ長での切り詰め。
* `strcmp` の順序。ID の文字はすべて ASCII なので、byte の比較は文字の番号の比較である。
-/

namespace Wid

/-! ## `int64_t` -/

def int64Max : Int := 2 ^ 63 - 1

def int64Min : Int := -2 ^ 63

/-- `int64_t` の加算。範囲を出ると未定義動作なので `none`。 -/
def add64 (a b : Int) : Option Int :=
  if int64Min ≤ a + b ∧ a + b ≤ int64Max then some (a + b) else none

theorem add64_of_le {a b : Int} (h₁ : int64Min ≤ a + b) (h₂ : a + b ≤ int64Max) :
    add64 a b = some (a + b) :=
  if_pos ⟨h₁, h₂⟩

theorem add64_eq_some {a b c : Int} :
    add64 a b = some c ↔ c = a + b ∧ int64Min ≤ a + b ∧ a + b ≤ int64Max := by
  unfold add64
  split <;> simp_all [eq_comm]

/-- `(int)` への変換。`size_t` の値を 2^32 を法として符号付きに読む。C では実装定義で、
gcc と clang はこう振る舞う。 -/
def toInt32 (n : Nat) : Int :=
  if n % 2 ^ 32 < 2 ^ 31 then (n % 2 ^ 32 : Nat) else ((n % 2 ^ 32 : Nat) : Int) - 2 ^ 32

theorem toInt32_of_lt {n : Nat} (h : n < 2 ^ 31) : toInt32 n = n := by
  have : n % 2 ^ 32 = n := Nat.mod_eq_of_lt (by omega)
  rw [toInt32, this, if_pos h]

/-! ## C の文字列 -/

/-- `s[i]`。終端の NUL とその先は `'\x00'` を返す。 -/
def cAt (s : List Char) (i : Nat) : Char := s.getD i '\x00'

@[simp] theorem cAt_nil (i : Nat) : cAt [] i = '\x00' := by simp [cAt]

@[simp] theorem cAt_cons_zero (c : Char) (s : List Char) : cAt (c :: s) 0 = c := rfl

@[simp] theorem cAt_cons_succ (c : Char) (s : List Char) (i : Nat) :
    cAt (c :: s) (i + 1) = cAt s i := rfl

theorem cAt_append_left {s t : List Char} {i : Nat} (h : i < s.length) :
    cAt (s ++ t) i = cAt s i := by
  simp [cAt, List.getElem?_append_left h]

theorem cAt_append_right {s t : List Char} {i : Nat} (h : s.length ≤ i) :
    cAt (s ++ t) i = cAt t (i - s.length) := by
  simp [cAt, List.getElem?_append_right h]

/-- ポインタを `k` 進めてから読むのは、`k` だけ先を読むのと同じである。 -/
@[simp] theorem cAt_drop (s : List Char) (k i : Nat) : cAt (s.drop k) i = cAt s (k + i) := by
  simp [cAt]

theorem cAt_eq_getElem {s : List Char} {i : Nat} (h : i < s.length) : cAt s i = s[i] := by
  simp [cAt, List.getElem?_eq_getElem h]

theorem cAt_mem {s : List Char} {i : Nat} (h : i < s.length) : cAt s i ∈ s := by
  rw [cAt_eq_getElem h]; exact List.getElem_mem h

theorem cAt_of_length_le {s : List Char} {i : Nat} (h : s.length ≤ i) : cAt s i = '\x00' := by
  simp [cAt, List.getElem?_eq_none h]

/-- 区間の検査は、ポインタを進めた先の先頭の検査である。 -/
theorem all_range'_cAt {p : Char → Bool} {s : List Char} {a n : Nat} :
    (List.range' a n).all (fun i => p (cAt s i)) = true ↔ ∀ i < n, p (cAt s (a + i)) = true := by
  simp only [List.all_eq_true, List.mem_range'_1]
  exact ⟨fun h i hi => h (a + i) ⟨by omega, by omega⟩,
    fun h j hj => by simpa [Nat.add_sub_cancel' hj.1] using h (j - a) (by omega)⟩

/-- 長さの分かった区間を先頭から切り出す。 -/
theorem drop_eq_append {s l : List Char} {a n b : Nat} (h : (s.drop a).take n = l)
    (hb : a + n = b) : s.drop a = l ++ s.drop b := by
  rw [← h, ← hb, ← List.drop_drop, List.take_append_drop]

/-- NUL でない文字が読めた位置では、その文字を先頭から切り出せる。 -/
theorem drop_eq_cons {s : List Char} {a b : Nat} {c : Char} (h : cAt s a = c) (hc : c ≠ '\x00')
    (hb : a + 1 = b) : s.drop a = c :: s.drop b := by
  subst hb
  have ha : a < s.length := by
    by_contra hn
    exact hc (h ▸ cAt_of_length_le (by omega))
  rw [List.drop_eq_getElem_cons ha, ← cAt_eq_getElem ha, h]

/-- 列 `l` の中を読むとき、後ろに何が続いていても同じ文字が返る。 -/
theorem cAt_append_of_mem {l t : List Char} {p : Char → Bool} (hl : ∀ c ∈ l, p c = true)
    {i : Nat} (hi : i < l.length) : p (cAt (l ++ t) i) = true := by
  rw [cAt_append_left hi]; exact hl _ (cAt_mem hi)

/-- 位置で書いた検査を列の形に言い換える。NUL を通さない述語が先頭 `n` 文字で成り立つのは、
先頭がちょうど `n` 文字の、述語を満たす列のときである。 -/
theorem forall_cAt_iff {p : Char → Bool} (hp : p '\x00' = false) {s : List Char} {n : Nat} :
    (∀ i < n, p (cAt s i) = true) ↔ ∃ l t, s = l ++ t ∧ l.length = n ∧ ∀ c ∈ l, p c = true := by
  constructor
  · intro h
    have hn : n ≤ s.length := by
      by_contra hn
      have := h s.length (by omega)
      rw [cAt_of_length_le le_rfl, hp] at this
      exact absurd this (by decide)
    refine ⟨s.take n, s.drop n, (List.take_append_drop n s).symm, by simp [hn], fun c hc => ?_⟩
    obtain ⟨i, hi, rfl⟩ := List.getElem_of_mem hc
    rw [List.length_take] at hi
    have hi' := Nat.lt_min.mp hi
    simpa [List.getElem_take, cAt_eq_getElem hi'.2] using h i hi'.1
  · rintro ⟨l, t, rfl, rfl, hl⟩ i hi
    exact cAt_append_of_mem hl hi

/-- `strchr(s, c)`：最初の `c` の位置。なければ `NULL`（`none`）。 -/
def cStrchr (c : Char) : List Char → Option Nat
  | [] => none
  | d :: s => if d = c then some 0 else (cStrchr c s).map (· + 1)

/-- `c` を含まない列の後ろに `c` があれば、`strchr` はその位置を返す。 -/
theorem cStrchr_append_cons {c : Char} {l t : List Char} (hl : c ∉ l) :
    cStrchr c (l ++ c :: t) = some l.length := by
  induction l with
  | nil => simp [cStrchr]
  | cons d l ih =>
    have hd : d ≠ c := fun h => hl (h ▸ List.mem_cons_self d l)
    simp [cStrchr, hd, ih (fun h => hl (List.mem_cons_of_mem d h))]

theorem cStrchr_of_not_mem {c : Char} {l : List Char} (hl : c ∉ l) : cStrchr c l = none := by
  induction l with
  | nil => rfl
  | cons d l ih =>
    have hd : d ≠ c := fun h => hl (h ▸ List.mem_cons_self d l)
    simp [cStrchr, hd, ih (fun h => hl (List.mem_cons_of_mem d h))]

/-- `snprintf(out, n, ...)` が書く文字列。`n - 1` 文字で切る。 -/
def cSnprintf (n : Nat) (s : List Char) : List Char := s.take (n - 1)

theorem cSnprintf_of_lt {n : Nat} {s : List Char} (h : s.length < n) : cSnprintf n s = s :=
  List.take_of_length_le (by omega)

/-- `strcmp(a, b) < 0`。文字を `unsigned char` として辞書式に比べる。 -/
def strLt (a b : List Char) : Prop := List.Lex (fun x y => x.toNat < y.toNat) a b

/-! ## 十進の書き出し -/

/-- 十進の一桁を文字にする。 -/
def digitChar (d : Nat) : Char := Char.ofNat (48 + d)

theorem toNat_digitChar {d : Nat} (h : d < 10) : (digitChar d).toNat = 48 + d := by
  have hall : ∀ e, e < 10 → (digitChar e).toNat = 48 + e := by decide
  exact hall d h

/-- `n` の下 `w` 桁を、上の桁から順に書く。 -/
def fixedDigits : Nat → Nat → List Char
  | 0, _ => []
  | w + 1, n => digitChar (n / 10 ^ w % 10) :: fixedDigits w n

@[simp] theorem length_fixedDigits (w n : Nat) : (fixedDigits w n).length = w := by
  induction w <;> simp [fixedDigits, *]

theorem toNat_of_mem_fixedDigits {w n : Nat} {c : Char} (h : c ∈ fixedDigits w n) :
    ∃ d < 10, c.toNat = 48 + d := by
  induction w with
  | zero => simp [fixedDigits] at h
  | succ w ih =>
    rcases List.mem_cons.mp h with rfl | h
    · exact ⟨_, Nat.mod_lt _ (by omega), toNat_digitChar (Nat.mod_lt _ (by omega))⟩
    · exact ih h

/-- 桁の列は上下に切り分けられる。 -/
theorem fixedDigits_add (a b n : Nat) :
    fixedDigits (a + b) n = fixedDigits a (n / 10 ^ b) ++ fixedDigits b n := by
  induction a with
  | zero => simp [fixedDigits]
  | succ a ih =>
    rw [Nat.add_right_comm, fixedDigits, ih, fixedDigits, Nat.div_div_eq_div_mul, ← Nat.pow_add,
      Nat.add_comm b a]
    rfl

/-- 下 `w` 桁しか見ないので、`10 ^ w` を法として同じ数は同じに書かれる。 -/
theorem fixedDigits_mod (w n : Nat) : fixedDigits w (n % 10 ^ w) = fixedDigits w n := by
  induction w generalizing n with
  | zero => rfl
  | succ w ih =>
    have h : n % 10 ^ (w + 1) / 10 ^ w % 10 = n / 10 ^ w % 10 := by
      rw [Nat.mod_pow_succ, Nat.add_mul_div_left _ _ (Nat.pos_pow_of_pos _ (by omega)),
        Nat.div_eq_of_lt (Nat.mod_lt _ (Nat.pos_pow_of_pos _ (by omega)))]
      simp
    have h' : n % 10 ^ (w + 1) % 10 ^ w = n % 10 ^ w :=
      Nat.mod_mod_of_dvd _ (Nat.pow_dvd_pow 10 (by omega))
    simp only [fixedDigits, h]
    rw [← ih (n % 10 ^ (w + 1)), h', ih]

/-- 十進の桁数の計算。`fuel` は `n` 自身で足りる（一回ごとに 10 で割る）。 -/
def numDigitsAux : Nat → Nat → Nat
  | 0, _ => 1
  | fuel + 1, n => if n < 10 then 1 else numDigitsAux fuel (n / 10) + 1

/-- 十進の桁数。`0` は 1 桁である。 -/
def numDigits (n : Nat) : Nat := numDigitsAux n n

theorem numDigitsAux_le : ∀ (fuel n w : Nat), n < 10 ^ w → 0 < w → numDigitsAux fuel n ≤ w
  | 0, _, _, _, hw => hw
  | fuel + 1, n, w, h, hw => by
    unfold numDigitsAux
    split
    · exact hw
    · obtain ⟨v, rfl⟩ : ∃ v, w = v + 1 := ⟨w - 1, by omega⟩
      have hv : 0 < v := by
        rcases Nat.eq_zero_or_pos v with rfl | hv
        · simp at h; omega
        · exact hv
      have := numDigitsAux_le fuel (n / 10) v
        (Nat.div_lt_of_lt_mul (by rw [Nat.pow_succ, Nat.mul_comm] at h; exact h)) hv
      omega

theorem numDigitsAux_eq : ∀ (w fuel n : Nat), 10 ^ w ≤ n → n < 10 ^ (w + 1) → w ≤ fuel →
    numDigitsAux fuel n = w + 1
  | 0, 0, _, _, _, _ => rfl
  | 0, _ + 1, n, _, h2, _ => by simp at h2; simp [numDigitsAux, h2]
  | w + 1, fuel + 1, n, h1, h2, hf => by
    have h10 : 10 ≤ n := le_trans (by have := Nat.one_le_pow w 10 (by omega); rw [Nat.pow_succ]; omega) h1
    rw [numDigitsAux, if_neg (by omega), numDigitsAux_eq w fuel (n / 10)
      ((Nat.le_div_iff_mul_le (by omega)).mpr (by rw [Nat.pow_succ] at h1; exact h1))
      (Nat.div_lt_of_lt_mul (by rw [Nat.pow_succ, Nat.mul_comm] at h2; exact h2)) (by omega)]

/-- `w + 1` 桁の数の桁数は `w + 1`。 -/
theorem numDigits_eq {n w : Nat} (h1 : 10 ^ w ≤ n) (h2 : n < 10 ^ (w + 1)) : numDigits n = w + 1 :=
  numDigitsAux_eq w n n h1 h2 (le_trans (Nat.le_of_lt (Nat.lt_pow_self (by omega) w)) h1)

theorem numDigits_le {n w : Nat} (h : n < 10 ^ w) (hw : 0 < w) : numDigits n ≤ w :=
  numDigitsAux_le n n w h hw

theorem numDigitsAux_pos : ∀ fuel n, 0 < numDigitsAux fuel n
  | 0, _ => Nat.one_pos
  | _ + 1, _ => by unfold numDigitsAux; split <;> omega

theorem lt_pow_numDigitsAux : ∀ fuel n, n ≤ fuel → n < 10 ^ numDigitsAux fuel n
  | 0, n, h => by simp [numDigitsAux]; omega
  | fuel + 1, n, h => by
    unfold numDigitsAux
    split
    · simpa
    · have := lt_pow_numDigitsAux fuel (n / 10) (by omega)
      rw [Nat.pow_succ]; omega

/-- 数は自分の桁数の十進に収まる。 -/
theorem lt_pow_numDigits (n : Nat) : n < 10 ^ numDigits n := lt_pow_numDigitsAux n n le_rfl

/-- `printf` の `%0*lld` と `%0Nd`。幅 `w` まで 0 で詰める。負の数は符号の後ろを詰める。 -/
def fmtZeroPad (w : Nat) (v : Int) : List Char :=
  if v < 0 then '-' :: fixedDigits (max (w - 1) (numDigits v.natAbs)) v.natAbs
  else fixedDigits (max w (numDigits v.toNat)) v.toNat

/-- 幅に収まる非負の値は、ちょうど `w` 桁で書かれる。 -/
theorem fmtZeroPad_of_lt {w : Nat} {v : Int} (hw : 0 < w) (h0 : 0 ≤ v) (h : v < 10 ^ w) :
    fmtZeroPad w v = fixedDigits w v.toNat := by
  have hv : v.toNat < 10 ^ w := by
    have : ((10 ^ w : Nat) : Int) = 10 ^ w := by push_cast; rfl
    omega
  simp [fmtZeroPad, show ¬ v < 0 by omega, numDigits_le hv hw]

end Wid
