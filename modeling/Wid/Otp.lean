import Wid.Canonical

/-!
# w-otp：WID に結び付いた使い捨ての符号

`A=w-otp`（main.c 866–1030）は WID を鍵付きの HMAC-SHA256 で要約し、要約の 16 進の頭 8 桁を
`10^DIGITS` で割った余りを `DIGITS` 桁の十進で書く。`MODE=gen` は WID（`WID=` がなければ作る）と
その符号を書き、`MODE=verify` は同じ計算をやり直して `CODE` と比べる。`MAX_AGE_SEC` か
`MAX_FUTURE_SEC` が正なら、WID の時刻を `sscanf` と `mktime` で読み戻し、今の時刻との差も見る。

要約は `popen` で `openssl` に任せる。`openssl` はコマンドの文字列から標準出力への関数 `shell`、
鍵のファイルはパスから中身への関数 `readFile` として外から与え、どの二つの関数についても
成り立つことを示す。

* `computeWotp_eq_some` — `DIGITS ∈ [1, 19]` では、`compute_wotp` の結果はちょうど `DIGITS` 桁の
  十進で、値は `openssl` の出力の最後の `=` の後ろの 16 進 8 桁を `10^DIGITS` で割った余り。
  `PATH_MAX` のコマンドの検査は決して効かない。
* `wotpWidTickMs_of_parse` — `wid_parse_timestamp` が受け入れる時刻を、`wotp_wid_tick_ms` は
  epoch からのミリ秒として読む。1970 年より前の時刻だけを断る。
* `runWotp_gen_verify` — `MODE=gen` が書いた WID と符号は、同じ `KEY` と `DIGITS` の
  `MODE=verify` で受け入れられる。断るのは時間窓だけである。
* `runWotp_fresh_window` — 作ったばかりの WID の符号は、検査の時計と作った時計の差が窓に
  入るとき、そのときに限り受け入れられる。

`secret` と `wid` は C の文字列（NUL を含まない）。`(int64_t)time(NULL) * 1000` の溢れ
（2^63 / 1000 秒より先の時計）は扱わない。
-/

namespace Wid

/-! ## `compute_wotp` -/

/-- C の `isxdigit`。 -/
def cIsXDigit (c : Char) : Bool := widIsDigit c || ('a' ≤ c && c ≤ 'f') || ('A' ≤ c && c ≤ 'F')

/-- `strtoul(_, _, 16)` の一桁の値。 -/
def hexDigitValue (c : Char) : Nat :=
  if widIsDigit c then c.toNat - 48 else if 'a' ≤ c && c ≤ 'f' then c.toNat - 87 else c.toNat - 55

/-- 16 進の桁の列の値。 -/
def hexValue : List Char → Nat
  | [] => 0
  | c :: cs => hexDigitValue c * 16 ^ cs.length + hexValue cs

/-- `strrchr(s, c)`：`c` が最後に現れる位置。 -/
def cStrrchr (c : Char) : List Char → Option Nat
  | [] => none
  | d :: t =>
    match cStrrchr c t with
    | some i => some (i + 1)
    | none => if d = c then some 0 else none

/-- バッファの中の C の文字列：最初の NUL の前。 -/
def cStr (s : List Char) : List Char := s.takeWhile (· != '\x00')

/-- 改行までの一行（改行を含む）。 -/
def lineOf : List Char → List Char
  | [] => []
  | c :: t => if c = '\n' then ['\n'] else c :: lineOf t

/-- `fgets(line, n, p)` のあとの `line`：出力の最初の行を改行ごと `n - 1` 文字まで読む。
出力が空なら `fgets` は `NULL` を返す。 -/
def fgetsLine (n : Nat) (out : List Char) : Option (List Char) :=
  if out = [] then none else some (cStr ((lineOf out).take (n - 1)))

/-- `compute_wotp` が `popen` に渡すコマンド（main.c 899–904）。`%%s` は `%s` と書かれる。 -/
def wotpCmd (wid secret : List Char) : List Char :=
  "printf \x27%s\x27 \x27".toList ++ wid ++
    "\x27 | openssl dgst -sha256 -mac HMAC -macopt \x27key:".toList ++ secret ++
    "\x27 2>/dev/null".toList

/-- `strrchr(line, '=')` の後ろ（`=` がなければ行の頭）から空白を飛ばしたところ（main.c 913–915）。 -/
def wotpHex (line : List Char) : List Char :=
  (match cStrrchr '=' line with
    | some i => line.drop (i + 1)
    | none => line).dropWhile (· == ' ')

/-- `compute_wotp`（main.c 882–927）。失敗（`return 1`）は `none`。`mod` は `unsigned long` に
`10` を掛けて作るので `2^64` で回る。`digits ≥ 64` の `v % 0` は未定義動作だが、呼び出し元は
`DIGITS` を `[4, 10]` に限るので、ここでは失敗に数える。 -/
def computeWotp (shell : List Char → Option (List Char)) (secret wid : List Char) (digits : Nat) :
    Option (List Char) :=
  if hasUnsafeShellChar secret || hasUnsafeShellChar wid then none
  else if wid = [] ∨ 256 < wid.length then none
  else if secret = [] ∨ 512 < secret.length then none
  else if pathMax ≤ (wotpCmd wid secret).length then none
  else (shell (wotpCmd wid secret)).bind fun out => (fgetsLine 256 out).bind fun line =>
    if !(List.range 8).all (fun i => cIsXDigit (cAt (wotpHex line) i)) then none
    else
      let v := hexValue ((wotpHex line).take 8)
      let m := 10 ^ digits % 2 ^ 64
      if m = 0 then none else some (cSnprintf 32 (fmtZeroPad digits (v % m : Nat)))

example : wotpHex "HMAC-SHA2-256(stdin)= 0a1b2c3d4e\n".toList = "0a1b2c3d4e\n".toList := by decide
example : hexValue "0a1b2c3d".toList = 0x0a1b2c3d := by decide

theorem length_wotpCmd (wid secret : List Char) :
    (wotpCmd wid secret).length = wid.length + secret.length + 74 := by
  simp [wotpCmd]; omega

/-- 長さを検査した後の WID と鍵では、コマンドは `cmd[PATH_MAX]` に必ず収まる。 -/
theorem wotpCmd_lt_pathMax {wid secret : List Char} (hw : wid.length ≤ 256) (hs : secret.length ≤ 512) :
    (wotpCmd wid secret).length < pathMax := by
  rw [length_wotpCmd]; unfold pathMax; omega

/-- `DIGITS ≤ 19` では `10^DIGITS` は `unsigned long` に収まる。 -/
theorem pow_ten_mod {digits : Nat} (h : digits ≤ 19) : 10 ^ digits % 2 ^ 64 = 10 ^ digits :=
  Nat.mod_eq_of_lt (lt_of_le_of_lt (Nat.pow_le_pow_right (by omega) h) (by decide))

/-- 余りは `DIGITS` 桁でちょうど書かれ、`otp[32]` で切られない。 -/
theorem cSnprintf_fmtZeroPad_mod {digits : Nat} (h1 : 1 ≤ digits) (h2 : digits ≤ 19) (v : Nat) :
    cSnprintf 32 (fmtZeroPad digits (v % 10 ^ digits : Nat)) = fixedDigits digits (v % 10 ^ digits) := by
  have hlt : v % 10 ^ digits < 10 ^ digits := Nat.mod_lt _ (Nat.pos_pow_of_pos _ (by omega))
  rw [fmtZeroPad_of_lt (by omega) (by omega) (by exact_mod_cast hlt), Int.toNat_ofNat,
    cSnprintf_of_lt (by simp; omega)]

/-- `compute_wotp` の検査を済ませた形。`PATH_MAX` の検査と `unsigned long` の回りは消える。 -/
theorem computeWotp_eq {shell : List Char → Option (List Char)} {secret wid : List Char} {digits : Nat}
    (h1 : 1 ≤ digits) (h2 : digits ≤ 19) :
    computeWotp shell secret wid digits =
      if hasUnsafeShellChar secret = false ∧ hasUnsafeShellChar wid = false ∧ wid ≠ [] ∧
          wid.length ≤ 256 ∧ secret ≠ [] ∧ secret.length ≤ 512 then
        (shell (wotpCmd wid secret)).bind fun out => (fgetsLine 256 out).bind fun line =>
          if (List.range 8).all (fun i => cIsXDigit (cAt (wotpHex line) i)) then
            some (fixedDigits digits (hexValue ((wotpHex line).take 8) % 10 ^ digits))
          else none
      else none := by
  have hm := pow_ten_mod h2
  have hm0 : 10 ^ digits ≠ 0 := Nat.pos_iff_ne_zero.mp (Nat.pos_pow_of_pos _ (by omega))
  unfold computeWotp
  by_cases hc : hasUnsafeShellChar secret = false ∧ hasUnsafeShellChar wid = false ∧ wid ≠ [] ∧
      wid.length ≤ 256 ∧ secret ≠ [] ∧ secret.length ≤ 512
  · obtain ⟨hs, hw, hw0, hw1, hs0, hs1⟩ := hc
    rw [if_neg (by simp [hs, hw]), if_neg (not_or.mpr ⟨hw0, by omega⟩), if_neg (not_or.mpr ⟨hs0, by omega⟩),
      if_neg (by have := wotpCmd_lt_pathMax hw1 hs1; omega), if_pos ⟨hs, hw, hw0, hw1, hs0, hs1⟩]
    simp only [hm, hm0, if_false, cSnprintf_fmtZeroPad_mod h1 h2, Bool.not_eq_true', Bool.not_eq_false]
    congr 1; funext out; congr 1; funext line
    by_cases hx : (List.range 8).all (fun i => cIsXDigit (cAt (wotpHex line) i)) <;> simp [hx]
  · rw [if_neg hc]
    by_cases hs : hasUnsafeShellChar secret = false ∧ hasUnsafeShellChar wid = false
    · by_cases hw : wid = [] ∨ 256 < wid.length
      · rw [if_neg (by simp [hs.1, hs.2]), if_pos hw]
      · rw [if_neg (by simp [hs.1, hs.2]), if_neg hw, if_pos (by
          by_contra hn; push_neg at hw hn; exact hc ⟨hs.1, hs.2, hw.1, hw.2, hn.1, hn.2⟩)]
    · rw [if_pos (by revert hs; cases hasUnsafeShellChar secret <;> cases hasUnsafeShellChar wid <;> decide)]

/-- **`compute_wotp` の仕様。** `DIGITS ∈ [1, 19]` では、成功するのは鍵と WID がシェルの特別な
文字を含まず長さが範囲に入り、`openssl` の出力の最初の行の最後の `=` の後ろ（と空白）が 16 進
8 桁で始まるときにちょうど限る。符号はその 8 桁の値を `10^DIGITS` で割った余りを、ちょうど
`DIGITS` 桁の十進で書いたもの。 -/
theorem computeWotp_eq_some {shell : List Char → Option (List Char)} {secret wid : List Char}
    {digits : Nat} (h1 : 1 ≤ digits) (h2 : digits ≤ 19) {otp : List Char} :
    computeWotp shell secret wid digits = some otp ↔
      hasUnsafeShellChar secret = false ∧ hasUnsafeShellChar wid = false ∧ wid ≠ [] ∧
        wid.length ≤ 256 ∧ secret ≠ [] ∧ secret.length ≤ 512 ∧
        ∃ out line, shell (wotpCmd wid secret) = some out ∧ fgetsLine 256 out = some line ∧
          (∀ i < 8, cIsXDigit (cAt (wotpHex line) i) = true) ∧
          otp = fixedDigits digits (hexValue ((wotpHex line).take 8) % 10 ^ digits) := by
  rw [computeWotp_eq h1 h2]
  by_cases hc : hasUnsafeShellChar secret = false ∧ hasUnsafeShellChar wid = false ∧ wid ≠ [] ∧
      wid.length ≤ 256 ∧ secret ≠ [] ∧ secret.length ≤ 512
  · obtain ⟨hs, hw, hw0, hw1, hs0, hs1⟩ := hc
    rw [if_pos ⟨hs, hw, hw0, hw1, hs0, hs1⟩]
    simp only [Option.bind_eq_some]
    constructor
    · rintro ⟨out, ho, line, hl, hx⟩
      split_ifs at hx with hall
      exact ⟨hs, hw, hw0, hw1, hs0, hs1, out, line, ho, hl, by simpa using hall,
        (Option.some.inj hx).symm⟩
    · rintro ⟨-, -, -, -, -, -, out, line, ho, hl, hall, rfl⟩
      exact ⟨out, ho, line, hl, if_pos (by simpa using hall)⟩
  · rw [if_neg hc]
    simp only [reduceCtorEq, false_iff]
    rintro ⟨hs, hw, hw0, hw1, hs0, hs1, -⟩
    exact hc ⟨hs, hw, hw0, hw1, hs0, hs1⟩

theorem computeWotp_hmac_line :
    computeWotp (fun _ => some "HMAC-SHA2-256(stdin)= 0a1b2c3d9f\n".toList) "k".toList "w".toList 6 =
      some "552957".toList :=
  (computeWotp_eq_some (by decide) (by decide)).mpr
    ⟨rfl, rfl, by decide, by decide, by decide, by decide, _, _, rfl, rfl, by decide, by decide⟩

/-! ## `wotp_wid_tick_ms` -/

/-- `%Nd` の符号：`-` か `+` を読めば、その一文字も幅に数える。 -/
def scanSign (w : Nat) : List Char → Bool × List Char × Nat
  | '-' :: u => (true, u, w - 1)
  | '+' :: u => (false, u, w - 1)
  | u => (false, u, w)

/-- `sscanf` の `%Nd` 一つ：空白を飛ばし、符号を含めて `N` 文字までの数字を読む。数字が一つも
なければその変換は失敗する。 -/
def scanDec (w : Nat) (s : List Char) : Option (Int × List Char) :=
  let sg := scanSign w (s.dropWhile cIsSpace)
  let ds := (sg.2.1.take sg.2.2).takeWhile widIsDigit
  if ds = [] then none
  else some (if sg.1 then -(decValue ds : Int) else decValue ds, sg.2.1.drop ds.length)

/-- `sscanf` の書式の指示：幅つきの `%Nd` と、そのまま合わせる文字。 -/
inductive ScanDir where
  | dec (w : Nat)
  | lit (c : Char)

/-- `sscanf`：指示を順に進め、最初に失敗したところで止まる。読めた値の列（長さが戻り値）。 -/
def scanfInts : List ScanDir → List Char → List Int
  | [], _ => []
  | .dec w :: ds, s =>
    match scanDec w s with
    | none => []
    | some r => r.1 :: scanfInts ds r.2
  | .lit c :: ds, s =>
    match s with
    | d :: t => if d = c then scanfInts ds t else []
    | [] => []

/-- `"%4d%2d%2dT%2d%2d%2d%3d."`。 -/
def wotpFormat : List ScanDir :=
  [.dec 4, .dec 2, .dec 2, .lit 'T', .dec 2, .dec 2, .dec 2, .dec 3, .lit '.']

/-- `TZ=UTC` での `mktime`：`tm_mon` は 12 で割って年に繰り入れ、日・時・分・秒は範囲の外でも
そのまま足す（`mktime` の正規化）。 -/
def mktimeUtc (tmYear tmMon tmMday tmHour tmMin tmSec : Int) : Int :=
  let y := tmYear + 1900 + tmMon / 12
  (daysBeforeYear y - daysBeforeYear 1970 + cumDays y (tmMon % 12).toNat + (tmMday - 1)) * 86400 +
    tmHour * 3600 + tmMin * 60 + tmSec

/-- `wotp_wid_tick_ms`（main.c 929–952）。読めた欄が 6 より少ないか、1970 年より前なら失敗。
ミリ秒の欄は読めなければ 0 のまま。 -/
def wotpWidTickMs (wid : List Char) : Option Int :=
  let v := scanfInts wotpFormat wid
  if v.length < 6 then none
  else
    let secEpoch := mktimeUtc (v.getD 0 0 - 1900) (v.getD 1 0 - 1) (v.getD 2 0) (v.getD 3 0)
      (v.getD 4 0) (v.getD 5 0)
    if secEpoch < 0 then none else some (secEpoch * 1000 + v.getD 6 0)

example : wotpWidTickMs "19700101T000001.0000Z".toList = some 1000 := by decide
example : wotpWidTickMs "19700101T000000123.0000Z".toList = some 123 := by decide
example : wotpWidTickMs "19691231T235959.0000Z".toList = none := by decide

theorem scanSign_digit {c : Char} (hc : widIsDigit c = true) (w : Nat) (u : List Char) :
    scanSign w (c :: u) = (false, c :: u, w) :=
  scanSign.eq_3 _ _ (fun _ h => absurd ((List.cons.inj h).1 ▸ hc) (by decide))
    (fun _ h => absurd ((List.cons.inj h).1 ▸ hc) (by decide))

/-- `%Nd` は `N` 個の数字をちょうど読む。後ろに何が続いても幅で止まる。 -/
theorem scanDec_digits {ds : List Char} (hne : ds ≠ []) (hd : ∀ c ∈ ds, widIsDigit c = true)
    (rest : List Char) : scanDec ds.length (ds ++ rest) = some ((decValue ds : Int), rest) := by
  obtain ⟨c, u, rfl⟩ := List.exists_cons_of_ne_nil hne
  have hc := hd c (List.mem_cons_self _ _)
  have hdrop : (c :: u ++ rest).dropWhile cIsSpace = c :: u ++ rest := by
    rw [List.cons_append, List.dropWhile_cons, if_neg (by simp [cIsSpace_of_digit hc])]
  unfold scanDec
  rw [hdrop, List.cons_append, scanSign_digit hc, ← List.cons_append]
  simp only [List.take_left, List.takeWhile_eq_self_iff.mpr hd, List.drop_left, if_neg hne,
    Bool.false_eq_true, if_false]

theorem scanDec_fixedDigits {w : Nat} (hw : 0 < w) (n : Nat) (rest : List Char) :
    scanDec w (fixedDigits w n ++ rest) = some (((n % 10 ^ w : Nat) : Int), rest) := by
  have h := @scanDec_digits (fixedDigits w n)
    (by rw [← List.length_pos, length_fixedDigits]; exact hw)
    (fun _ hc => widIsDigit_of_mem_fixedDigits hc) rest
  rwa [length_fixedDigits, decValue_fixedDigits] at h

theorem scanfInts_fixedDigits {w : Nat} (hw : 0 < w) (n : Nat) (ds : List ScanDir) (rest : List Char) :
    scanfInts (.dec w :: ds) (fixedDigits w n ++ rest) = ((n % 10 ^ w : Nat) : Int) :: scanfInts ds rest := by
  simp only [scanfInts, scanDec_fixedDigits hw]

/-- `.` の前で `%Nd` は何も読めない。 -/
theorem scanDec_dot (w : Nat) (rest : List Char) : scanDec w ('.' :: rest) = none := by
  simp [scanDec, scanSign, show cIsSpace '.' = false by decide, show widIsDigit '.' = false by decide]

theorem scanfInts_lit (c : Char) (ds : List ScanDir) (t : List Char) :
    scanfInts (.lit c :: ds) (c :: t) = scanfInts ds t := by
  simp only [scanfInts, if_pos]

/-- 時刻の欄を、`wotp_wid_tick_ms` が `struct tm` にする値。 -/
def WidTimestamp.toTm (r : WidTimestamp) : Tm :=
  ⟨r.year, r.month.toNat, r.day.toNat, r.hour.toNat, r.minute.toNat, r.second.toNat⟩

/-- `wid_parse_timestamp` の書く時刻を `sscanf` は欄ごとに読み戻す。ミリ秒の欄は `ms` の
WID にだけあり、`sec` の WID では `%3d` が `.` で止まる。 -/
theorem scanfInts_render {u : WidTimeUnit} {r : WidTimestamp} (hr : r.Valid u) (rest : List Char) :
    scanfInts wotpFormat (renderTimestamp u r ++ '.' :: rest) =
      [r.year, r.month, r.day, r.hour, r.minute, r.second] ++ if u = .ms then [r.millisecond] else [] := by
  have := hr.year_nonneg; have := hr.year_lt; have := hr.month_pos; have := hr.month_le
  have := hr.day_pos; have := hr.day_le; have := gregorianDaysInMonth_le r.year r.month.toNat
  have := hr.hour_nonneg; have := hr.hour_le; have := hr.minute_nonneg; have := hr.minute_le
  have := hr.second_nonneg; have := hr.second_le; have := hr.ms_nonneg; have := hr.ms_le
  rw [renderTimestamp_of_valid hr]
  simp only [List.append_assoc, List.cons_append, wotpFormat]
  rw [scanfInts_fixedDigits (by omega), scanfInts_fixedDigits (by omega),
    scanfInts_fixedDigits (by omega), scanfInts_lit, scanfInts_fixedDigits (by omega),
    scanfInts_fixedDigits (by omega), scanfInts_fixedDigits (by omega)]
  cases u with
  | sec =>
    rw [if_neg (by decide), List.nil_append]
    simp only [scanfInts, scanDec_dot, if_neg (by decide : WidTimeUnit.sec ≠ .ms), List.append_nil,
      List.cons.injEq, and_true]
    omega
  | ms =>
    rw [if_pos rfl, scanfInts_fixedDigits (by omega), scanfInts_lit]
    simp only [scanfInts, if_pos, List.cons_append, List.nil_append, List.cons.injEq, and_true]
    omega

/-- 暦の欄として正しい値では、`mktime` は `Tm.toSecs` である。 -/
theorem mktimeUtc_toTm {u : WidTimeUnit} {r : WidTimestamp} (hr : r.Valid u) :
    mktimeUtc (r.year - 1900) (r.month - 1) r.day r.hour r.minute r.second = r.toTm.toSecs := by
  have := hr.year_nonneg; have := hr.month_pos; have := hr.month_le; have := hr.day_pos
  have := hr.hour_nonneg; have := hr.minute_nonneg; have := hr.second_nonneg
  have hq : (r.month - 1) / 12 = 0 := by omega
  have hm : ((r.month - 1) % 12).toNat = r.month.toNat - 1 := by omega
  simp only [mktimeUtc, Tm.toSecs, WidTimestamp.toTm, hq, hm, add_zero, sub_add_cancel]
  omega

/-- `wid_parse_timestamp` の書く時刻と `.` で始まる WID を、`wotp_wid_tick_ms` は epoch からの
ミリ秒として読む。 -/
theorem wotpWidTickMs_render {u : WidTimeUnit} {r : WidTimestamp} (hr : r.Valid u) (rest : List Char) :
    wotpWidTickMs (renderTimestamp u r ++ '.' :: rest) =
      if r.toTm.toSecs < 0 then none else some (r.toTm.toSecs * 1000 + r.millisecond) := by
  unfold wotpWidTickMs
  rw [scanfInts_render hr]
  cases u with
  | sec => simp [hr.ms_of_sec rfl, mktimeUtc_toTm hr]
  | ms => simp [mktimeUtc_toTm hr]

/-- **`wotp_wid_tick_ms` は `wid_parse_timestamp` と同じ時刻を読む。** `wid_parse_timestamp` が
受け入れる WID なら、`wotp_wid_tick_ms` はその欄の時刻を epoch からのミリ秒で返し、
1970 年より前の時刻だけを断る。 -/
theorem wotpWidTickMs_of_parse {s : List Char} {u : WidTimeUnit} {r : WidTimestamp}
    (h : widParseTimestamp s u = some r) :
    wotpWidTickMs s = if r.toTm.toSecs < 0 then none else some (r.toTm.toSecs * 1000 + r.millisecond) := by
  obtain ⟨hr, rest, rfl⟩ := widParseTimestamp_eq_some.mp h
  exact wotpWidTickMs_render hr rest

theorem wotpWidTickMs_one_second : wotpWidTickMs "19700101T000001.0000Z".toList = some 1000 := by
  rw [wotpWidTickMs_of_parse (u := .sec) (r := ⟨1970, 1, 1, 0, 0, 1, 0⟩) (by decide)]
  decide

/-! ## `run_wotp` -/

/-- `resolve_wotp_secret` が末尾から削る文字。 -/
def isTrailingSpace (c : Char) : Bool := c = '\n' || c = '\r' || c = ' ' || c = '\t'

/-- `resolve_wotp_secret`（main.c 866–880）。`KEY` のファイルを開けなければ値そのものが鍵。
開ければ中身の `PATH_MAX - 1` バイトまでの末尾の改行と空白を削り、空なら失敗する。鍵は
そのバッファの C の文字列。 -/
def resolveWotpSecret (readFile : List Char → Option (List Char)) (raw : List Char) :
    Option (List Char) :=
  if raw = [] then none
  else
    match readFile raw with
    | none => some (cSnprintf pathMax raw)
    | some content =>
      let buf := ((content.take (pathMax - 1)).reverse.dropWhile isTrailingSpace).reverse
      if buf = [] then none else some (cStr buf)

/-- `run_wotp` が外から読むもの。 -/
structure WotpEnv where
  /-- `popen(cmd, "r")` の標準出力。`popen` が失敗すれば `none`。 -/
  shell : List Char → Option (List Char)
  /-- `fopen(path, "rb")` で読める中身。開けなければ `none`。 -/
  readFile : List Char → Option (List Char)
  /-- 生成器の読む `wid_now_tick(unit)`。 -/
  tick : Int
  /-- `wid_random_hex` の読む乱数のバイト。 -/
  rnd : Nat → UInt8
  /-- `time(NULL)`。 -/
  now : Int

/-- `mode[16]`（main.c 955–957）：`MODE`（空なら `gen`）を写して小文字にする。 -/
def wotpMode (c : CanonOpts) : List Char :=
  (cSnprintf 16 (if c.mode = [] then "gen".toList else c.mode)).map cToLower

/-- main.c 958–983：方式、`KEY`、`DIGITS`、時間窓の値を検査し、鍵を読む。 -/
def wotpCheck (readFile : List Char → Option (List Char)) (c : CanonOpts) :
    Except (List Char) (List Char) :=
  if wotpMode c ≠ "gen".toList ∧ wotpMode c ≠ "verify".toList then
    .error "error: MODE must be gen or verify for A=w-otp\n".toList
  else if c.key = [] then .error "error: KEY=<secret_or_path> required for A=w-otp\n".toList
  else if c.digits < 4 ∨ c.digits > 10 then .error "error: DIGITS must be between 4 and 10\n".toList
  else if c.maxAgeSec < 0 then .error "error: MAX_AGE_SEC must be a non-negative integer\n".toList
  else if c.maxFutureSec < 0 then
    .error "error: MAX_FUTURE_SEC must be a non-negative integer\n".toList
  else
    match resolveWotpSecret readFile c.key with
    | none => .error "error: w-otp secret cannot be empty\n".toList
    | some secret => .ok secret

/-- `widv[WID_MAX_LEN]`（main.c 984–994）：`WID` を写すか、`gen` なら新しい生成器の最初の ID。
`wid_gen_next` の未定義動作は `none`。 -/
def wotpWid (env : WotpEnv) (c : CanonOpts) (unit : WidTimeUnit) :
    Option (Except (List Char) (List Char)) :=
  if c.wid ≠ [] then some (.ok (cSnprintf widMaxLen c.wid))
  else if wotpMode c = "gen".toList then
    (widGenNext (widGenInitEx c.W c.Z unit) env.tick env.rnd widMaxLen).map fun r => .ok r.2
  else some (.error "error: WID=<wid_string> required for A=w-otp MODE=verify\n".toList)

/-- 時間窓（main.c 1007–1023）：断る理由。窓の中なら `none`。 -/
def wotpWindow (now : Int) (c : CanonOpts) (widv : List Char) : Option (List Char) :=
  if c.maxAgeSec > 0 ∨ c.maxFutureSec > 0 then
    match wotpWidTickMs widv with
    | none => some "error: WID timestamp is invalid for time-window verification\n".toList
    | some widMs =>
      let delta := now * 1000 - widMs
      if delta < 0 ∧ -delta > c.maxFutureSec * 1000 then
        some "error: OTP invalid: WID timestamp is too far in the future\n".toList
      else if delta ≥ 0 ∧ c.maxAgeSec > 0 ∧ delta > c.maxAgeSec * 1000 then
        some "error: OTP invalid: WID timestamp is too old\n".toList
      else none
  else none

/-- `MODE=gen` の一行 `\x7b"wid":"%s","otp":"%s","digits":%d\x7d`。 -/
def wotpGenLine (widv otp : List Char) (digits : Int) : List Char :=
  "\x7b\"wid\":\"".toList ++ widv ++ "\",\"otp\":\"".toList ++ otp ++ "\",\"digits\":".toList ++
    fmtZeroPad 0 digits ++ "\x7d\n".toList

/-- main.c 995–1029：符号を計算し、`gen` なら書き、`verify` なら時間窓と `CODE` を見る。 -/
def wotpFinish (env : WotpEnv) (c : CanonOpts) (widv secret : List Char) :
    Except (List Char) (List Char) :=
  match computeWotp env.shell secret widv c.digits.toNat with
  | none => .error "error: failed to compute w-otp digest\n".toList
  | some otp =>
    if wotpMode c = "gen".toList then .ok (wotpGenLine widv otp c.digits)
    else if c.code = [] then .error "error: CODE=<otp_code> required for A=w-otp MODE=verify\n".toList
    else
      match wotpWindow env.now c widv with
      | some e => .error e
      | none => if c.code = otp then .ok "OTP valid.\n".toList else .error "OTP invalid.\n".toList

/-- `run_wotp`（main.c 954–1030）。`.ok` は標準出力に書いて 0 で終わること、`.error` は標準
エラーに書いて 1 で終わること、`none` は未定義動作。 -/
def runWotp (env : WotpEnv) (c : CanonOpts) (unit : WidTimeUnit) :
    Option (Except (List Char) (List Char)) :=
  match wotpCheck env.readFile c with
  | .error e => some (.error e)
  | .ok secret => (wotpWid env c unit).map fun w => w.bind fun widv => wotpFinish env c widv secret

/-- tick をミリ秒にしたもの。 -/
def tickMs (unit : WidTimeUnit) (tick : Int) : Int := if unit = .ms then tick else tick * 1000

/-! ### 部品の仕様 -/

theorem computeWotp_some {shell : List Char → Option (List Char)} {secret wid otp : List Char}
    {digits : Nat} (h1 : 1 ≤ digits) (h2 : digits ≤ 19)
    (h : computeWotp shell secret wid digits = some otp) : wid ≠ [] ∧ otp.length = digits := by
  rw [computeWotp_eq h1 h2] at h
  split_ifs at h with hc
  · obtain ⟨out, -, h⟩ := Option.bind_eq_some.mp h
    obtain ⟨line, -, h⟩ := Option.bind_eq_some.mp h
    split_ifs at h
    cases h
    exact ⟨hc.2.2.1, length_fixedDigits _ _⟩

/-- `wotp_check` が通れば、方式は二つのどちらかで、`DIGITS` は `[4, 10]`、窓の値は負でない。 -/
theorem wotpCheck_ok {rf : List Char → Option (List Char)} {c : CanonOpts} {secret : List Char}
    (h : wotpCheck rf c = .ok secret) :
    (wotpMode c = "gen".toList ∨ wotpMode c = "verify".toList) ∧ c.key ≠ [] ∧ 4 ≤ c.digits ∧
      c.digits ≤ 10 ∧ 0 ≤ c.maxAgeSec ∧ 0 ≤ c.maxFutureSec ∧ resolveWotpSecret rf c.key = some secret := by
  unfold wotpCheck at h
  split_ifs at h with h1 h2 h3 h4 h5
  split at h
  · cases h
  · cases h
    exact ⟨by tauto, h2, by omega, by omega, by omega, by omega, ‹_›⟩

/-- 検査は `MODE` が `gen` か `verify` であることしか見ない。`verify` にして `WID` と `CODE` を
与えても、同じ鍵で通る。 -/
theorem wotpCheck_verify {rf : List Char → Option (List Char)} {c : CanonOpts} {secret : List Char}
    (h : wotpCheck rf c = .ok secret) (w p : List Char) :
    wotpCheck rf { c with mode := "verify".toList, wid := w, code := p } = .ok secret := by
  have hm : wotpMode { c with mode := "verify".toList, wid := w, code := p } = "verify".toList := rfl
  obtain ⟨hmode, -⟩ := wotpCheck_ok h
  unfold wotpCheck at h ⊢
  rw [if_neg (by rw [hm]; decide)]
  rwa [if_neg (by rcases hmode with hm' | hm' <;> rw [hm'] <;> decide)] at h

theorem runWotp_eq_ok {env : WotpEnv} {c : CanonOpts} {u : WidTimeUnit} {out : List Char}
    (h : runWotp env c u = some (.ok out)) :
    ∃ secret widv, wotpCheck env.readFile c = .ok secret ∧ wotpWid env c u = some (.ok widv) ∧
      wotpFinish env c widv secret = .ok out := by
  unfold runWotp at h
  cases hc : wotpCheck env.readFile c with
  | error e => rw [hc] at h; cases h
  | ok secret =>
    rw [hc] at h
    obtain ⟨w, hw, hf⟩ := Option.map_eq_some'.mp h
    cases w with
    | error e => cases hf
    | ok widv => exact ⟨secret, widv, rfl, hw, hf⟩

theorem runWotp_of_parts {env : WotpEnv} {c : CanonOpts} {u : WidTimeUnit} {secret widv : List Char}
    (hc : wotpCheck env.readFile c = .ok secret) (hw : wotpWid env c u = some (.ok widv)) :
    runWotp env c u = some (wotpFinish env c widv secret) := by
  unfold runWotp
  rw [hc]
  simp only [hw, Option.map_some']
  rfl

/-- `gen` の成功は、符号を計算して一行に書いたもの。 -/
theorem wotpFinish_gen {env : WotpEnv} {c : CanonOpts} {widv secret out : List Char}
    (hmode : wotpMode c = "gen".toList) (h : wotpFinish env c widv secret = .ok out) :
    ∃ p, computeWotp env.shell secret widv c.digits.toNat = some p ∧ out = wotpGenLine widv p c.digits := by
  unfold wotpFinish at h
  split at h
  · cases h
  · rw [if_pos hmode] at h
    cases h
    exact ⟨_, ‹_›, rfl⟩

/-- `verify` は、同じ鍵と WID で計算した符号が `CODE` と同じなら、時間窓だけで決まる。 -/
theorem wotpFinish_verify {env : WotpEnv} {c : CanonOpts} {w p secret : List Char}
    (hp : computeWotp env.shell secret w c.digits.toNat = some p) (hp0 : p ≠ []) :
    wotpFinish env { c with mode := "verify".toList, wid := w, code := p } w secret =
      match wotpWindow env.now c w with
      | none => .ok "OTP valid.\n".toList
      | some e => .error e := by
  have hm : wotpMode { c with mode := "verify".toList, wid := w, code := p } = "verify".toList := rfl
  have hwin : wotpWindow env.now { c with mode := "verify".toList, wid := w, code := p } w =
    wotpWindow env.now c w := rfl
  unfold wotpFinish
  simp only [hp]
  rw [if_neg (by rw [hm]; decide), if_neg hp0, hwin]
  cases wotpWindow env.now c w <;> simp

/-- `WID` を与えれば、`widv` はそれを `WID_MAX_LEN` で切ったもの。 -/
theorem wotpWid_given {env : WotpEnv} {c : CanonOpts} {u : WidTimeUnit} (hw : c.wid ≠ []) :
    wotpWid env c u = some (.ok (cSnprintf widMaxLen c.wid)) :=
  if_pos hw

/-- `gen` で WID を作るとき、それは新しい生成器の最初の ID：時刻の部分は `max tick 0` を
`wid_fmt_tick` で書いたもの、長さは `WID_MAX_LEN` より短い。 -/
theorem wotpWid_fresh {env : WotpEnv} {c : CanonOpts} {u : WidTimeUnit} {w : List Char}
    (hw : c.wid = []) (h : wotpWid env c u = some (.ok w)) :
    ∃ rest, w = widFmtTick u (max env.tick 0) ++ '.' :: rest ∧ w.length < widMaxLen := by
  unfold wotpWid at h
  rw [if_neg (not_not.mpr hw)] at h
  split_ifs at h
  · obtain ⟨⟨g, s⟩, hr, hs⟩ := Option.map_eq_some'.mp h
    cases hs
    obtain ⟨ha, he⟩ := widGenNext_eq_some hr
    obtain ⟨g1, ha', ht⟩ := widGenAdvance_init c.W c.Z u env.tick
    obtain rfl : g1 = g := Option.some.inj (ha'.symm.trans ha)
    obtain ⟨hg, hfr, hs0, -, -⟩ := widGenAdvance_spec (widGenInitEx_inv c.W c.Z u) ha
    by_cases hZ : g1.Z ≤ 33
    · obtain ⟨pad, he', -, -, hlen⟩ := widGenEmit_full hg hs0 hZ env.rnd
      rw [he'] at he; cases he
      have hu : g1.timeUnit = u := by rw [hfr]; rfl
      exact ⟨_, by rw [WidGen.idText, hu, ht], hlen⟩
    · rw [widGenEmit_of_Z_gt (by omega)] at he; cases he
  · cases h

theorem wotpWid_length {env : WotpEnv} {c : CanonOpts} {u : WidTimeUnit} {w : List Char}
    (h : wotpWid env c u = some (.ok w)) : w.length < widMaxLen := by
  by_cases hw : c.wid = []
  · exact (wotpWid_fresh hw h).choose_spec.2
  · rw [wotpWid_given hw] at h
    cases h
    exact length_cSnprintf_lt (by decide) _

/-- `verify` の実行：`gen` と同じ鍵と WID で同じ符号を計算すれば、結果は時間窓だけで決まる。 -/
theorem runWotp_verify {env : WotpEnv} {c : CanonOpts} {u : WidTimeUnit} {secret w p : List Char}
    (hc : wotpCheck env.readFile c = .ok secret) (hw0 : w ≠ []) (hwl : w.length < widMaxLen)
    (hp : computeWotp env.shell secret w c.digits.toNat = some p) (hp0 : p ≠ []) :
    runWotp env { c with mode := "verify".toList, wid := w, code := p } u =
      some (match wotpWindow env.now c w with
        | none => .ok "OTP valid.\n".toList
        | some e => .error e) := by
  have hw : wotpWid env { c with mode := "verify".toList, wid := w, code := p } u = some (.ok w) := by
    rw [wotpWid_given hw0, cSnprintf_of_lt hwl]
  rw [runWotp_of_parts (wotpCheck_verify hc w p) hw, wotpFinish_verify hp hp0]

/-- `gen` の成功から、書いた WID と符号と、それを計算した鍵を取り出す。 -/
theorem runWotp_gen {env : WotpEnv} {c : CanonOpts} {u : WidTimeUnit} {out : List Char}
    (hmode : wotpMode c = "gen".toList) (h : runWotp env c u = some (.ok out)) :
    ∃ secret w p, wotpCheck env.readFile c = .ok secret ∧ wotpWid env c u = some (.ok w) ∧
      computeWotp env.shell secret w c.digits.toNat = some p ∧ out = wotpGenLine w p c.digits ∧
      w ≠ [] ∧ w.length < widMaxLen ∧ p ≠ [] := by
  obtain ⟨secret, w, hc, hw, hf⟩ := runWotp_eq_ok h
  obtain ⟨p, hp, rfl⟩ := wotpFinish_gen hmode hf
  obtain ⟨-, -, h4, h10, -⟩ := wotpCheck_ok hc
  obtain ⟨hw0, hpl⟩ := computeWotp_some (by omega) (by omega) hp
  refine ⟨secret, w, p, hc, hw, hp, rfl, hw0, wotpWid_length hw, ?_⟩
  rw [← List.length_pos, hpl]; omega

/-- **`gen` の符号は `verify` で受け入れられる。** `MODE=gen` が書いた WID と符号を、同じ
`openssl` と鍵のファイルのもとで `MODE=verify WID=… CODE=…`（ほかの値は同じ）に渡すと、
時間窓が断らない限り `OTP valid.` で 0 で終わる。 -/
theorem runWotp_gen_verify {envG : WotpEnv} {c : CanonOpts} {u : WidTimeUnit} {out : List Char}
    (hmode : wotpMode c = "gen".toList) (hgen : runWotp envG c u = some (.ok out)) :
    ∃ w p, out = wotpGenLine w p c.digits ∧
      ∀ envV : WotpEnv, envV.shell = envG.shell → envV.readFile = envG.readFile → ∀ u' : WidTimeUnit,
        runWotp envV { c with mode := "verify".toList, wid := w, code := p } u' =
          some (match wotpWindow envV.now c w with
            | none => .ok "OTP valid.\n".toList
            | some e => .error e) := by
  obtain ⟨secret, w, p, hc, -, hp, rfl, hw0, hwl, hp0⟩ := runWotp_gen hmode hgen
  exact ⟨w, p, rfl, fun envV hs hr _ => runWotp_verify (hr ▸ hc) hw0 hwl (hs ▸ hp) hp0⟩

/-- 例の環境：`openssl` はどのコマンドにも同じ一行を返し、鍵のファイルはなく、時計は 0。 -/
def demoEnv : WotpEnv :=
  ⟨fun _ => some "HMAC-SHA2-256(stdin)= 0a1b2c3d9f\n".toList, fun _ => none, 0, fun _ => 0, 0⟩

theorem runWotp_gen_verify_given :
    wotpMode { CanonOpts.default with key := "k".toList, wid := "w".toList } = "gen".toList ∧
      runWotp demoEnv { CanonOpts.default with key := "k".toList, wid := "w".toList } .sec =
        some (.ok (wotpGenLine "w".toList "552957".toList 6)) ∧
      ∃ w p, wotpGenLine "w".toList "552957".toList 6 = wotpGenLine w p 6 ∧
        ∀ envV : WotpEnv, envV.shell = demoEnv.shell → envV.readFile = demoEnv.readFile →
          ∀ u' : WidTimeUnit,
            runWotp envV { { CanonOpts.default with key := "k".toList, wid := "w".toList } with
                mode := "verify".toList, wid := w, code := p } u' =
              some (match wotpWindow envV.now
                  { CanonOpts.default with key := "k".toList, wid := "w".toList } w with
                | none => .ok "OTP valid.\n".toList
                | some e => .error e) :=
  have h1 : wotpMode { CanonOpts.default with key := "k".toList, wid := "w".toList } = "gen".toList := rfl
  have h2 : runWotp demoEnv { CanonOpts.default with key := "k".toList, wid := "w".toList } .sec =
      some (.ok (wotpGenLine "w".toList "552957".toList 6)) := rfl
  ⟨h1, h2, runWotp_gen_verify h1 h2⟩

/-- `wid_fmt_tick` の書く時刻を、`wotp_wid_tick_ms` はミリ秒の tick として読み戻す。 -/
theorem wotpWidTickMs_widFmtTick {u : WidTimeUnit} {t : Int} (h0 : 0 ≤ t) (h1 : t ≤ widMaxTick u)
    (rest : List Char) : wotpWidTickMs (widFmtTick u t ++ '.' :: rest) = some (tickMs u t) := by
  obtain ⟨hs0, -⟩ := tickSec_range h0 h1
  have htm : (tickFields u t).toTm = toCivil (if u = .ms then t / 1000 else t) := by
    simp [tickFields, WidTimestamp.toTm]
  rw [widFmtTick_eq h0 h1, wotpWidTickMs_render (tickFields_valid h0 h1), htm, toSecs_toCivil,
    if_neg (by omega)]
  cases u with
  | sec => simp [tickMs, tickFields]
  | ms => simp [tickMs, tickFields]; omega

/-- 時間窓は、WID の時刻 `m` が読めれば、差 `now·1000 − m` が `MAX_FUTURE_SEC` 秒より未来に
なく、`MAX_AGE_SEC > 0` なら `MAX_AGE_SEC` 秒より古くないときに限り通す。 -/
theorem wotpWindow_eq_none {now : Int} {c : CanonOpts} {widv : List Char} {m : Int}
    (hm : wotpWidTickMs widv = some m) (hF : 0 ≤ c.maxFutureSec) :
    wotpWindow now c widv = none ↔
      (0 < c.maxAgeSec ∨ 0 < c.maxFutureSec →
        -(c.maxFutureSec * 1000) ≤ now * 1000 - m ∧
          (0 < c.maxAgeSec → now * 1000 - m ≤ c.maxAgeSec * 1000)) := by
  unfold wotpWindow
  rw [hm]
  dsimp only
  split_ifs <;> simp <;> omega

/-- **作ったばかりの WID の符号は、時計の差が窓に入るときに限り受け入れられる。** `MODE=gen` が
WID を作った（`WID=` なし、時計 `tick` が 9999 年まで）なら、その WID と符号を `MODE=verify` に
渡した結果は、検査の時計 `now` と `tick` のミリ秒の差が `[−MAX_FUTURE_SEC, MAX_AGE_SEC]` 秒
（`MAX_AGE_SEC = 0` なら上は限りなし、どちらも 0 なら窓なし）に入るとき、そのときに限り
`OTP valid.` になる。 -/
theorem runWotp_fresh_window {envG : WotpEnv} {c : CanonOpts} {u : WidTimeUnit} {out : List Char}
    (hmode : wotpMode c = "gen".toList) (hwid : c.wid = []) (htick : envG.tick ≤ widMaxTick u)
    (hgen : runWotp envG c u = some (.ok out)) :
    ∃ w p, out = wotpGenLine w p c.digits ∧
      ∀ envV : WotpEnv, envV.shell = envG.shell → envV.readFile = envG.readFile → ∀ u' : WidTimeUnit,
        (runWotp envV { c with mode := "verify".toList, wid := w, code := p } u' =
            some (.ok "OTP valid.\n".toList) ↔
          (0 < c.maxAgeSec ∨ 0 < c.maxFutureSec →
            -(c.maxFutureSec * 1000) ≤ envV.now * 1000 - tickMs u (max envG.tick 0) ∧
              (0 < c.maxAgeSec → envV.now * 1000 - tickMs u (max envG.tick 0) ≤ c.maxAgeSec * 1000))) := by
  obtain ⟨secret, w, p, hc, hw, hp, rfl, hw0, hwl, hp0⟩ := runWotp_gen hmode hgen
  obtain ⟨rest, rfl, -⟩ := wotpWid_fresh hwid hw
  have hm := wotpWidTickMs_widFmtTick (le_max_right _ _) (max_le htick (widMaxTick_lt u).1) rest
  obtain ⟨-, -, -, -, -, hF, -⟩ := wotpCheck_ok hc
  refine ⟨_, p, rfl, fun envV hs hr _ => ?_⟩
  rw [runWotp_verify (hr ▸ hc) hw0 hwl (hs ▸ hp) hp0, ← wotpWindow_eq_none hm hF]
  cases wotpWindow envV.now c _ <;> simp

theorem runWotp_fresh_window_demo :
    wotpMode { CanonOpts.default with key := "k".toList } = "gen".toList ∧
      CanonOpts.wid { CanonOpts.default with key := "k".toList } = [] ∧
      demoEnv.tick ≤ widMaxTick .sec ∧
      runWotp demoEnv { CanonOpts.default with key := "k".toList } .sec =
        some (.ok (wotpGenLine "19700101T000000.0000Z-000000".toList "552957".toList 6)) ∧
      ∃ w p, wotpGenLine "19700101T000000.0000Z-000000".toList "552957".toList 6 = wotpGenLine w p 6 ∧
        ∀ envV : WotpEnv, envV.shell = demoEnv.shell → envV.readFile = demoEnv.readFile →
          ∀ u' : WidTimeUnit,
            (runWotp envV { { CanonOpts.default with key := "k".toList } with
                mode := "verify".toList, wid := w, code := p } u' = some (.ok "OTP valid.\n".toList) ↔
              (0 < (0 : Int) ∨ 0 < (5 : Int) →
                -(5 * 1000) ≤ envV.now * 1000 - tickMs .sec (max demoEnv.tick 0) ∧
                  (0 < (0 : Int) → envV.now * 1000 - tickMs .sec (max demoEnv.tick 0) ≤ 0 * 1000))) :=
  have h1 : wotpMode { CanonOpts.default with key := "k".toList } = "gen".toList := rfl
  have h2 : CanonOpts.wid { CanonOpts.default with key := "k".toList } = [] := rfl
  have h3 : demoEnv.tick ≤ widMaxTick .sec := by decide
  have h4 : runWotp demoEnv { CanonOpts.default with key := "k".toList } .sec =
      some (.ok (wotpGenLine "19700101T000000.0000Z-000000".toList "552957".toList 6)) := rfl
  ⟨h1, h2, h3, h4, runWotp_fresh_window h1 h2 h3 h4⟩

end Wid
