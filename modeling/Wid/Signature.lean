import Wid.Otp

/-!
# 署名 `A=sign` と検証 `A=verify`

`run_sign`（main.c 757–803）は、WID（と `DATA` のファイルの中身）を並べた文を
`openssl pkeyutl -sign` で署名し、`openssl base64 -A | tr '+/' '-_' | tr -d '='` で埋め草のない
base64url の文字列にして書く（main.c 779）。`run_verify`（main.c 805–864）はその逆に、`-` `_` を `+` `/` に
戻し、長さを 4 の倍数まで `=` で埋め、`openssl base64 -A -d` と `openssl pkeyutl -verify` に渡す。

`openssl` の署名と検証、base64 の読み戻しは外から与える関数とする。`openssl base64 -A` が
書くものは RFC 4648 §4 の base64（改行なし）として、ここで書く。

* `restoreBase64_base64UrlOf` — 1533 バイトまでのどの署名でも、`run_sign` の書く base64url を
  `run_verify` は `openssl base64 -A` の書いた文字列そのものに戻す。埋め草の `=` の数は長さから
  決まるので、消しても失われない。
* `runSign_verify` — 鍵の組で署名が検証でき、`openssl base64 -A -d` が base64 を読み戻すなら、
  `A=sign` の書いた署名（`SIG[1024]` に入るもの）は、同じ WID と `DATA` の `A=verify` で
  `Signature valid.` になる。

作業用のファイル（`.local/wid/c/*`）と `OUT` は書けるものとする。
-/

namespace Wid

/-! ## base64 -/

/-- RFC 4648 §4 の表：`A-Z` が 0..25、`a-z` が 26..51、`0-9` が 52..61、`+` が 62、`/` が 63。 -/
def base64Chars : List Char :=
  "ABCDEFGHIJKLMNOPQRSTUVWXYZabcdefghijklmnopqrstuvwxyz0123456789+/".toList

/-- 6 ビットの値の文字。 -/
def b64 (n : Nat) : Char := base64Chars.getD n 'A'

/-- `openssl base64 -A`（RFC 4648 §4）：3 バイトを 4 文字にし、最後に残る 1・2 バイトは
`==`・`=` で埋める。`-A` なので改行は書かない。 -/
def base64Encode : List UInt8 → List Char
  | [] => []
  | [a] => [b64 (a.toNat / 4), b64 (a.toNat % 4 * 16), '=', '=']
  | [a, b] => [b64 (a.toNat / 4), b64 (a.toNat % 4 * 16 + b.toNat / 16), b64 (b.toNat % 16 * 4), '=']
  | a :: b :: c :: rest =>
    b64 (a.toNat / 4) :: b64 (a.toNat % 4 * 16 + b.toNat / 16) ::
      b64 (b.toNat % 16 * 4 + c.toNat / 64) :: b64 (c.toNat % 64) :: base64Encode rest

example : base64Encode [104, 105] = "aGk=".toList := by decide

/-- `tr '+/' '-_'` の一文字。 -/
def urlChar (ch : Char) : Char := if ch = '+' then '-' else if ch = '/' then '_' else ch

/-- `run_verify` の `-` → `+`、`_` → `/`。 -/
def stdChar (ch : Char) : Char := if ch = '-' then '+' else if ch = '_' then '/' else ch

/-- `tr '+/' '-_' | tr -d '='`（main.c 779）。 -/
def base64UrlOf (t : List Char) : List Char := (t.map urlChar).filter (· != '=')

/-- `std[2048]`（main.c 826–840）：`SIG` を写して `-` `_` を戻し、長さを `=` で 4 の倍数に埋める。
長さを 4 で割って 1 余れば断る（内の `none`）。`strcat` が `std[2048]` を溢れれば未定義動作
（外の `none`）。 -/
def restoreBase64 (sig : List Char) : Option (Option (List Char)) :=
  let std := (cSnprintf 2048 sig).map stdChar
  let pad := if std.length % 4 = 2 then "==".toList else if std.length % 4 = 3 then "=".toList else []
  if std.length % 4 = 1 then some none
  else if 2048 ≤ std.length + pad.length then none
  else some (some (std ++ pad))

example : restoreBase64 "__4".toList = some (some "//4=".toList) := by decide

/-! ## 埋め草の形 -/

theorem b64_mem {n : Nat} (h : n < 64) : b64 n ∈ base64Chars := by
  have hall : ∀ n < 64, b64 n ∈ base64Chars := by decide
  exact hall n h

/-- 表の文字は `tr` で `=` にならず、`run_verify` の置き換えで元に戻る。 -/
theorem stdChar_urlChar : ∀ ch ∈ base64Chars, stdChar (urlChar ch) = ch ∧ urlChar ch ≠ '=' := by
  decide

/-- base64 は表の文字の列と、長さで決まる 0〜2 個の `=` からなる。長さは `4 ⌈n / 3⌉`。 -/
theorem base64Encode_shape (s : List UInt8) : ∃ body pad, base64Encode s = body ++ pad ∧
    (∀ ch ∈ body, ch ∈ base64Chars) ∧
    ((pad = [] ∧ body.length % 4 = 0) ∨ (pad = ['='] ∧ body.length % 4 = 3) ∨
      (pad = ['=', '='] ∧ body.length % 4 = 2)) ∧
    body.length + pad.length = 4 * ((s.length + 2) / 3) := by
  induction s using base64Encode.induct with
  | case1 => exact ⟨[], [], rfl, by simp, by simp, rfl⟩
  | case2 a =>
    have := a.toNat_lt_size
    refine ⟨[_, _], ['=', '='], rfl, ?_, by simp, by simp⟩
    simp only [List.mem_cons, List.mem_nil_iff, or_false]
    rintro ch (rfl | rfl) <;> exact b64_mem (by simp only [UInt8.size] at *; omega)
  | case3 a b =>
    have := a.toNat_lt_size; have := b.toNat_lt_size
    refine ⟨[_, _, _], ['='], rfl, ?_, by simp, by simp⟩
    simp only [List.mem_cons, List.mem_nil_iff, or_false]
    rintro ch (rfl | rfl | rfl) <;> exact b64_mem (by simp only [UInt8.size] at *; omega)
  | case4 a b c rest ih =>
    obtain ⟨body, pad, h, hb, hp, hl⟩ := ih
    have := a.toNat_lt_size; have := b.toNat_lt_size; have := c.toNat_lt_size
    have hmod : (body.length + 1 + 1 + 1 + 1) % 4 = body.length % 4 := by omega
    refine ⟨_ :: _ :: _ :: _ :: body, pad, by rw [base64Encode, h]; rfl, ?_,
      by simp only [List.length_cons]; rw [hmod]; exact hp, ?_⟩
    · simp only [List.mem_cons]
      rintro ch (rfl | rfl | rfl | rfl | h)
      all_goals first | exact hb _ h | exact b64_mem (by simp only [UInt8.size] at *; omega)
    · simp only [List.length_cons] at hl ⊢; omega

/-- `tr` は表の文字を `=` にしないので、`tr -d '='` が消すのは埋め草だけ。 -/
theorem base64UrlOf_body_pad {body pad : List Char} (hb : ∀ ch ∈ body, ch ∈ base64Chars)
    (hp : pad = [] ∨ pad = ['='] ∨ pad = ['=', '=']) : base64UrlOf (body ++ pad) = body.map urlChar := by
  have hpad : (pad.map urlChar).filter (· != '=') = [] := by rcases hp with rfl | rfl | rfl <;> rfl
  have hbody : (body.map urlChar).filter (· != '=') = body.map urlChar :=
    List.filter_eq_self.mpr fun ch hch => by
      obtain ⟨x, hx, rfl⟩ := List.mem_map.mp hch
      simpa using (stdChar_urlChar x (hb x hx)).2
  rw [base64UrlOf, List.map_append, List.filter_append, hbody, hpad, List.append_nil]

/-- base64url の長さは、埋め草を除いた base64 の長さ。 -/
theorem base64Encode_url (s : List UInt8) : ∃ body pad, base64Encode s = body ++ pad ∧
    base64UrlOf (base64Encode s) = body.map urlChar ∧ (∀ ch ∈ body, ch ∈ base64Chars) ∧
    pad.length ≤ 2 ∧ body.length + pad.length = 4 * ((s.length + 2) / 3) := by
  obtain ⟨body, pad, h, hb, hp, hl⟩ := base64Encode_shape s
  have hp' : pad = [] ∨ pad = ['='] ∨ pad = ['=', '='] := by
    rcases hp with ⟨h, -⟩ | ⟨h, -⟩ | ⟨h, -⟩ <;> simp [h]
  refine ⟨body, pad, h, by rw [h, base64UrlOf_body_pad hb hp'], hb, ?_, hl⟩
  rcases hp' with rfl | rfl | rfl <;> simp

/-- **base64url からの往復。** 1533 バイトまでのどの署名でも、`tr '+/' '-_' | tr -d '='` の書いた
文字列を `run_verify` は `openssl base64 -A` の書いた base64 そのものに戻す。 -/
theorem restoreBase64_base64UrlOf (s : List UInt8) (hs : s.length ≤ 1533) :
    restoreBase64 (base64UrlOf (base64Encode s)) = some (some (base64Encode s)) := by
  obtain ⟨body, pad, h, hb, hp, hl⟩ := base64Encode_shape s
  have hurl := @base64UrlOf_body_pad body pad hb
    (by rcases hp with ⟨h, -⟩ | ⟨h, -⟩ | ⟨h, -⟩ <;> simp [h])
  have hstd : (body.map urlChar).map stdChar = body := by
    rw [List.map_map]
    conv_rhs => rw [← List.map_id body]
    exact List.map_congr_left fun ch hch => (stdChar_urlChar ch (hb ch hch)).1
  have hlen : body.length + pad.length ≤ 2044 := by omega
  rw [h, hurl]
  unfold restoreBase64
  rw [cSnprintf_of_lt (by simp; omega), hstd]
  rcases hp with ⟨rfl, hm⟩ | ⟨rfl, hm⟩ | ⟨rfl, hm⟩
  · simp [hm]; omega
  · simp [hm]; simp at hlen; omega
  · simp [hm]; simp at hlen; omega

theorem restoreBase64_two_bytes :
    restoreBase64 (base64UrlOf (base64Encode [255, 254])) = some (some (base64Encode [255, 254])) :=
  restoreBase64_base64UrlOf [255, 254] (by decide)

/-! ## `run_sign` と `run_verify` -/

/-- `build_message_file`（main.c 728–755）：WID のあとに `DATA` のファイルの中身を並べた文。 -/
def buildMessage (readFile : List Char → Option (List Char)) (c : CanonOpts) :
    Except (List Char) (List Char) :=
  if c.wid = [] then .error "error: WID=<wid_string> required\n".toList
  else if c.data = [] then .ok c.wid
  else
    match readFile c.data with
    | none => .error ("error: data file not found: ".toList ++ c.data ++ "\n".toList)
    | some d => .ok (c.wid ++ d)

/-- `run_sign` と `run_verify` が外から読むもの。 -/
structure SignEnv where
  /-- `access(path, R_OK) == 0`。 -/
  readable : List Char → Bool
  /-- `fopen(path, "rb")` で読める中身。開けなければ `none`。 -/
  readFile : List Char → Option (List Char)
  /-- `openssl pkeyutl -sign -inkey key -rawin`：終了状態が 0 なら書いた署名。 -/
  pkSign : List Char → List Char → Option (List UInt8)
  /-- `openssl pkeyutl -verify -pubin -inkey key -sigfile sig -rawin` の終了状態が 0 か。 -/
  pkVerify : List Char → List UInt8 → List Char → Bool
  /-- `openssl base64 -A -d`：終了状態が 0 なら読んだバイト列。 -/
  unbase64 : List Char → Option (List UInt8)

/-- `run_sign` の書き出し先。 -/
inductive SignSink where
  /-- `printf("%s\n", out)`。 -/
  | stdout
  /-- `OUT` のファイルに `out` を書く。 -/
  | file (path : List Char)
  deriving DecidableEq, Repr

/-- `run_sign`（main.c 757–803）。成功は書き出し先と、`txt` を `out[2048]` に読んだ C の文字列。 -/
def runSign (env : SignEnv) (c : CanonOpts) : Except (List Char) (SignSink × List Char) :=
  if c.key = [] then .error "error: KEY=<private_key_path> required for A=sign\n".toList
  else if !env.readable c.key then
    .error ("error: private key file not found: ".toList ++ c.key ++ "\n".toList)
  else
    match buildMessage env.readFile c with
    | .error e => .error e
    | .ok msg =>
      match env.pkSign c.key msg with
      | none => .error "error: sign failed (ensure Ed25519 private key PEM)\n".toList
      | some s =>
        .ok (if c.out = [] then .stdout else .file c.out,
          cStr ((base64UrlOf (base64Encode s)).take 2047))

/-- `run_verify`（main.c 805–864）。`.ok` は標準出力に書いて 0 で終わること、`.error` は標準
エラーに書いて 1 で終わること、`none` は未定義動作。 -/
def runVerify (env : SignEnv) (c : CanonOpts) : Option (Except (List Char) (List Char)) :=
  if c.key = [] then some (.error "error: KEY=<public_key_path> required for A=verify\n".toList)
  else if c.sig = [] then some (.error "error: SIG=<signature_string> required for A=verify\n".toList)
  else if !env.readable c.key then
    some (.error ("error: public key file not found: ".toList ++ c.key ++ "\n".toList))
  else
    match buildMessage env.readFile c with
    | .error e => some (.error e)
    | .ok msg =>
      (restoreBase64 c.sig).map fun r =>
        match r with
        | none => .error "error: invalid base64url signature length\n".toList
        | some std =>
          match env.unbase64 std with
          | none => .error "error: invalid signature encoding\n".toList
          | some s =>
            if env.pkVerify c.key s msg then .ok "Signature valid.\n".toList
            else .error "Signature invalid.\n".toList

/-- `run_sign` の成功は、鍵が読め、文を作り、署名して base64url にしたもの。 -/
theorem runSign_eq_ok {env : SignEnv} {c : CanonOpts} {sink : SignSink} {text : List Char}
    (h : runSign env c = .ok (sink, text)) :
    ∃ msg s, buildMessage env.readFile c = .ok msg ∧ env.pkSign c.key msg = some s ∧
      text = cStr ((base64UrlOf (base64Encode s)).take 2047) := by
  unfold runSign at h
  cases hb : buildMessage env.readFile c with
  | error e => simp only [hb] at h; split_ifs at h
  | ok msg =>
    cases hs : env.pkSign c.key msg with
    | none => simp only [hb, hs] at h; split_ifs at h
    | some s =>
      simp only [hb, hs] at h
      split_ifs at h <;> cases h <;> exact ⟨msg, s, rfl, hs, rfl⟩

/-- base64url の文字列は NUL を含まない。 -/
theorem cStr_base64UrlOf (s : List UInt8) (n : Nat) :
    cStr ((base64UrlOf (base64Encode s)).take n) = (base64UrlOf (base64Encode s)).take n := by
  obtain ⟨body, pad, -, hurl, hb, -⟩ := base64Encode_url s
  have hall : ∀ y ∈ base64Chars, (urlChar y != '\x00') = true := by decide
  refine List.takeWhile_eq_self_iff.mpr fun ch hch => ?_
  rw [hurl] at hch
  obtain ⟨x, hx, rfl⟩ := List.mem_map.mp (List.mem_of_mem_take hch)
  exact hall x (hb x hx)

/-- **`A=sign` の署名は `A=verify` で受け入れられる。** `run_sign` が署名の文字列 `text`
（空でなく `SIG[1024]` に入る）を書いたなら、公開鍵 `pub` が読め、その鍵の組でこの文の署名が
検証でき、`openssl base64 -A -d` が署名の base64 を読み戻す限り、同じ WID と `DATA` で
`KEY=pub SIG=text` とした `run_verify` は `Signature valid.` を書いて 0 で終わる。 -/
theorem runSign_verify {env : SignEnv} {c : CanonOpts} {sink : SignSink} {text : List Char}
    (h : runSign env c = .ok (sink, text)) (hne : text ≠ []) (hlen : text.length ≤ 1023)
    {pub : List Char} (hpub : pub ≠ []) (hread : env.readable pub = true)
    (hkey : ∀ msg s, env.pkSign c.key msg = some s →
      env.unbase64 (base64Encode s) = some s ∧ env.pkVerify pub s msg = true) :
    runVerify env { c with key := pub, sig := text } = some (.ok "Signature valid.\n".toList) := by
  obtain ⟨msg, s, hm, hs, rfl⟩ := runSign_eq_ok h
  obtain ⟨hdec, hver⟩ := hkey msg s hs
  rw [cStr_base64UrlOf] at hne hlen ⊢
  have htake : (base64UrlOf (base64Encode s)).take 2047 = base64UrlOf (base64Encode s) :=
    List.take_of_length_le (by simp at hlen; omega)
  rw [htake] at hne hlen ⊢
  have hs1533 : s.length ≤ 1533 := by
    obtain ⟨body, pad, -, hurl, -, hp, hl⟩ := base64Encode_url s
    rw [hurl, List.length_map] at hlen
    omega
  have hm' : buildMessage env.readFile { c with key := pub, sig := base64UrlOf (base64Encode s) } =
    .ok msg := hm
  unfold runVerify
  rw [if_neg hpub, if_neg hne, if_neg (by simp [hread]), hm']
  simp only [restoreBase64_base64UrlOf s hs1533, Option.map_some', hdec, hver, if_true]

/-- 例の環境：どの文にも同じ 3 バイトで署名し、検証はいつも通り、base64 はその 3 バイトに読む。 -/
def demoSignEnv : SignEnv :=
  ⟨fun _ => true, fun _ => none, fun _ _ => some [1, 2, 3], fun _ _ _ => true, fun _ => some [1, 2, 3]⟩

theorem runSign_verify_demo :
    runSign demoSignEnv { CanonOpts.default with key := "priv".toList, wid := "w".toList } =
        .ok (.stdout, "AQID".toList) ∧
      runVerify demoSignEnv { { CanonOpts.default with key := "priv".toList, wid := "w".toList } with
        key := "pub".toList, sig := "AQID".toList } = some (.ok "Signature valid.\n".toList) :=
  have h : runSign demoSignEnv { CanonOpts.default with key := "priv".toList, wid := "w".toList } =
      .ok (.stdout, "AQID".toList) := rfl
  ⟨h, runSign_verify h (by decide) (by decide) (by decide) rfl
    (fun _ _ hs => by cases hs; exact ⟨rfl, rfl⟩)⟩

end Wid
