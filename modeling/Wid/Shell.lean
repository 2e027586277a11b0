import Wid.Signature
import Wid.Sql
import Mathlib.Data.List.DropRight

/-!
# シェルに渡すコマンド

`main.c` は `system`（`systemf`）と `popen` に、`snprintf` で組み立てた文字列を渡す。値はどれも
`'…'` か `"…"` の中に置かれ、`parse_canonical` と `compute_wotp` は値に `'` `"` `;` `&` `|`
バッククォート、改行、復帰がないことを確かめる（`has_unsafe_shell_char`）。

ここでは sh の字句の切り分け（POSIX 2.2 の引用と 2.3 の字句）を状態機械として書き、組み立てた
コマンドがどの値でも意図した字句の列に切れること、つまり値が一つの語の中に閉じ込められ、
演算子も展開も作らないことを示す。

* `shellCommands_safe` — `parse_canonical` が受け入れたどの値でも、`run_sign`・`run_verify`
  の `openssl` のコマンドと、`sqlite_exec_capture` の三つの文のコマンドは意図した語に切れる。
  SQL は `"…"` の中にあり、そこでは `$` が展開になるので、これは `T` が `sec` か `ms` に限られる
  ことに拠る（`has_unsafe_shell_char` は `$` を断らない）。`compute_wotp` が `popen` に渡す
  コマンドも、どの WID と鍵でも意図した語に切れる。
* `sqliteText_refines` — `sqlite3` が表の行と `changes()` を印字するなら、`sql_load_state` と
  `sql_compare_and_swap_state` はその行と比較交換の成否をそのまま読み戻す。`Sql` の系が文を
  表の上の不可分の操作として扱うことの、出力の側の裏づけである。

演算子は一文字ずつ字句にする（`2>&1` は `2`、`>`、`&`、`1`）。値を閉じ込めることには関わらない。
-/

namespace Wid

/-! ## sh の字句 -/

/-- 字句の切り分けの位置：引用の外、一重引用、二重引用、注釈の中。 -/
inductive ShMode where
  | plain
  | squote
  | dquote
  | comment
  deriving DecidableEq, Repr

/-- 字句：語（引用を外した中身）、演算子の文字、展開や逃がしを始める文字、閉じない引用。 -/
inductive ShTok where
  | word (w : List Char)
  | op (c : Char)
  | special (c : Char)
  | unclosed
  deriving DecidableEq, Repr

/-- 切り分けの状態：位置、書きかけの語、出した字句。 -/
structure ShLexer where
  mode : ShMode
  cur : Option (List Char)
  toks : List ShTok
  deriving DecidableEq, Repr

/-- 語を区切る空白（POSIX 2.3：`<blank>`）。 -/
def isShBlank (c : Char) : Bool := c = ' ' || c = '\t'

/-- 引用の外で演算子になる文字。改行はコマンドを区切る。 -/
def isShOp (c : Char) : Bool :=
  c = '|' || c = '&' || c = ';' || c = '<' || c = '>' || c = '(' || c = ')' || c = '\n'

/-- 引用の外で展開、逃がし、パス名の展開を始める文字（POSIX 2.2.1、2.6、2.13）。 -/
def isShSpecial (c : Char) : Bool :=
  c = '$' || c = '\x60' || c = '\\' || c = '*' || c = '?' || c = '['

/-- 二重引用の中で特別な文字（POSIX 2.2.3）。 -/
def isShDqSpecial (c : Char) : Bool := c = '$' || c = '\x60' || c = '\\'

/-- 書きかけの語を出す。 -/
def shEmit (s : ShLexer) : List ShTok :=
  match s.cur with
  | none => s.toks
  | some w => s.toks ++ [.word w]

/-- 一文字の切り分け。語の頭の `#` は行の終わりまでの注釈、語の頭の `~` は展開。 -/
def shStep (s : ShLexer) (c : Char) : ShLexer :=
  match s.mode with
  | .plain =>
    if isShBlank c then ⟨.plain, none, shEmit s⟩
    else if c = '\x27' then ⟨.squote, some (s.cur.getD []), s.toks⟩
    else if c = '\x22' then ⟨.dquote, some (s.cur.getD []), s.toks⟩
    else if c = '#' ∧ s.cur = none then ⟨.comment, none, s.toks⟩
    else if isShOp c then ⟨.plain, none, shEmit s ++ [.op c]⟩
    else if isShSpecial c || (c = '~' && s.cur.isNone) then ⟨.plain, none, shEmit s ++ [.special c]⟩
    else ⟨.plain, some (s.cur.getD [] ++ [c]), s.toks⟩
  | .squote =>
    if c = '\x27' then ⟨.plain, s.cur, s.toks⟩ else ⟨.squote, some (s.cur.getD [] ++ [c]), s.toks⟩
  | .dquote =>
    if c = '\x22' then ⟨.plain, s.cur, s.toks⟩
    else if isShDqSpecial c then ⟨.dquote, some [], shEmit s ++ [.special c]⟩
    else ⟨.dquote, some (s.cur.getD [] ++ [c]), s.toks⟩
  | .comment => if c = '\n' then ⟨.plain, none, s.toks ++ [.op '\n']⟩ else s

/-- コマンドの字句の列。引用が閉じなければ最後に `unclosed`。 -/
def shLex (cmd : List Char) : List ShTok :=
  let s := cmd.foldl shStep ⟨.plain, none, []⟩
  match s.mode with
  | .plain | .comment => shEmit s
  | .squote | .dquote => shEmit s ++ [.unclosed]

example : shLex "a 'b c'$x".toList = [.word ['a'], .word ['b', ' ', 'c'], .special '$', .word ['x']] := by
  decide

/-- 二重引用の中に置いてよい値：`"` も展開の文字も含まない。 -/
def dqSafe (s : List Char) : Bool := s.all fun c => c != '\x22' && !isShDqSpecial c

/-- 一重引用の中では、`'` のない値はそのまま語に入る（POSIX 2.2.2）。 -/
theorem foldl_shStep_squote {v : List Char} (hv : '\x27' ∉ v) (w : List Char) (ts : List ShTok) :
    v.foldl shStep ⟨.squote, some w, ts⟩ = ⟨.squote, some (w ++ v), ts⟩ := by
  induction v generalizing w with
  | nil => simp
  | cons c v ih =>
    have hc : c ≠ '\x27' := fun h => hv (h ▸ List.mem_cons_self _ _)
    simp only [List.foldl_cons, shStep, if_neg hc, Option.getD_some]
    simpa using ih (fun h => hv (List.mem_cons_of_mem _ h)) (w ++ [c])

/-- 二重引用の中では、`dqSafe` な値はそのまま語に入る（POSIX 2.2.3）。 -/
theorem foldl_shStep_dquote {v : List Char} (hv : dqSafe v = true) (w : List Char) (ts : List ShTok) :
    v.foldl shStep ⟨.dquote, some w, ts⟩ = ⟨.dquote, some (w ++ v), ts⟩ := by
  induction v generalizing w with
  | nil => simp
  | cons c v ih =>
    simp only [dqSafe, List.all_cons, Bool.and_eq_true, bne_iff_ne, ne_eq, Bool.not_eq_true'] at hv
    simp only [List.foldl_cons, shStep, if_neg hv.1.1, hv.1.2, Bool.false_eq_true, if_false,
      Option.getD_some]
    simpa using ih hv.2 (w ++ [c])

/-! ## `run_sign` と `run_verify` のコマンド -/

/-- `openssl pkeyutl -sign`（main.c 772）。 -/
def signCmd (key msg sig : List Char) : List Char :=
  "openssl pkeyutl -sign -inkey \x27".toList ++ key ++ "\x27 -rawin -in \x27".toList ++ msg ++
    "\x27 -out \x27".toList ++ sig ++ "\x27 >/dev/null 2>&1".toList

/-- `signCmd` が切れるべき字句：鍵と二つのパスはそれぞれ一つの語。 -/
def signArgv (key msg sig : List Char) : List ShTok :=
  [.word "openssl".toList, .word "pkeyutl".toList, .word "-sign".toList, .word "-inkey".toList, .word key,
    .word "-rawin".toList, .word "-in".toList, .word msg, .word "-out".toList, .word sig, .op '>',
    .word "/dev/null".toList, .word ['2'], .op '>', .op '&', .word ['1']]

theorem shLex_signCmd {key msg sig : List Char} (hk : '\x27' ∉ key) (hm : '\x27' ∉ msg)
    (hs : '\x27' ∉ sig) : shLex (signCmd key msg sig) = signArgv key msg sig := by
  simp only [shLex, signCmd, List.foldl_append]
  simp [shStep, shEmit, isShBlank, isShOp, isShSpecial, foldl_shStep_squote, hk, hm, hs, signArgv]

/-- `openssl base64 -A < sig | tr '+/' '-_' | tr -d '=' > txt`（main.c 779）。 -/
def base64UrlCmd (sig txt : List Char) : List Char :=
  "openssl base64 -A < \x27".toList ++ sig ++
    "\x27 | tr \x27+/\x27 \x27-_\x27 | tr -d \x27=\x27 > \x27".toList ++ txt ++ "\x27".toList

def base64UrlArgv (sig txt : List Char) : List ShTok :=
  [.word "openssl".toList, .word "base64".toList, .word "-A".toList, .op '<', .word sig, .op '|',
    .word "tr".toList, .word "+/".toList, .word "-_".toList, .op '|', .word "tr".toList,
    .word "-d".toList, .word ['='], .op '>', .word txt]

theorem shLex_base64UrlCmd {sig txt : List Char} (hs : '\x27' ∉ sig) (ht : '\x27' ∉ txt) :
    shLex (base64UrlCmd sig txt) = base64UrlArgv sig txt := by
  simp only [shLex, base64UrlCmd, List.foldl_append]
  simp [shStep, shEmit, isShBlank, isShOp, isShSpecial, foldl_shStep_squote, hs, ht, base64UrlArgv]

/-- `openssl base64 -A -d`（main.c 842）。 -/
def unbase64Cmd (sig64 sig : List Char) : List Char :=
  "openssl base64 -A -d -in \x27".toList ++ sig64 ++ "\x27 -out \x27".toList ++ sig ++
    "\x27 >/dev/null 2>&1".toList

def unbase64Argv (sig64 sig : List Char) : List ShTok :=
  [.word "openssl".toList, .word "base64".toList, .word "-A".toList, .word "-d".toList,
    .word "-in".toList, .word sig64, .word "-out".toList, .word sig, .op '>', .word "/dev/null".toList,
    .word ['2'], .op '>', .op '&', .word ['1']]

theorem shLex_unbase64Cmd {sig64 sig : List Char} (h64 : '\x27' ∉ sig64) (hs : '\x27' ∉ sig) :
    shLex (unbase64Cmd sig64 sig) = unbase64Argv sig64 sig := by
  simp only [shLex, unbase64Cmd, List.foldl_append]
  simp [shStep, shEmit, isShBlank, isShOp, isShSpecial, foldl_shStep_squote, h64, hs, unbase64Argv]

/-- `openssl pkeyutl -verify`（main.c 849–854）。 -/
def verifyCmd (key sig msg : List Char) : List Char :=
  "openssl pkeyutl -verify -pubin -inkey \x27".toList ++ key ++ "\x27 -sigfile \x27".toList ++ sig ++
    "\x27 -rawin -in \x27".toList ++ msg ++ "\x27 >/dev/null 2>&1".toList

def verifyArgv (key sig msg : List Char) : List ShTok :=
  [.word "openssl".toList, .word "pkeyutl".toList, .word "-verify".toList, .word "-pubin".toList,
    .word "-inkey".toList, .word key, .word "-sigfile".toList, .word sig, .word "-rawin".toList,
    .word "-in".toList, .word msg, .op '>', .word "/dev/null".toList, .word ['2'], .op '>', .op '&',
    .word ['1']]

theorem shLex_verifyCmd {key sig msg : List Char} (hk : '\x27' ∉ key) (hs : '\x27' ∉ sig)
    (hm : '\x27' ∉ msg) : shLex (verifyCmd key sig msg) = verifyArgv key sig msg := by
  simp only [shLex, verifyCmd, List.foldl_append]
  simp [shStep, shEmit, isShBlank, isShOp, isShSpecial, foldl_shStep_squote, hk, hs, hm, verifyArgv]

/-- 作業用のファイル `.local/wid/c/<stem>_<pid><ext>`（main.c 768–770、818–820）。 -/
def workFile (stem ext : String) (pid : Int) : List Char :=
  cSnprintf pathMax (".local/wid/c/".toList ++ stem.toList ++ ['_'] ++ fmtZeroPad 0 pid ++ ext.toList)

theorem mem_fmtZeroPad {w : Nat} {v : Int} {c : Char} (h : c ∈ fmtZeroPad w v) :
    c = '-' ∨ widIsDigit c = true := by
  unfold fmtZeroPad at h
  split at h
  · rcases List.mem_cons.mp h with h | h
    · exact .inl h
    · exact .inr (widIsDigit_of_mem_fixedDigits h)
  · exact .inr (widIsDigit_of_mem_fixedDigits h)

theorem quote_not_mem_fmtZeroPad (w : Nat) (v : Int) : '\x27' ∉ fmtZeroPad w v := fun h => by
  rcases mem_fmtZeroPad h with h | h
  · exact absurd h (by decide)
  · exact absurd h (by decide)

theorem quote_not_mem_cSnprintf {n : Nat} {s : List Char} (h : '\x27' ∉ s) : '\x27' ∉ cSnprintf n s :=
  fun hm => h (List.mem_of_mem_take hm)

/-- 作業用のファイルの名は `'` を含まない。 -/
theorem quote_not_mem_workFile {stem ext : String} (hs : '\x27' ∉ stem.toList) (he : '\x27' ∉ ext.toList)
    (pid : Int) : '\x27' ∉ workFile stem ext pid := by
  refine quote_not_mem_cSnprintf ?_
  simp only [List.mem_append, not_or]
  exact ⟨⟨⟨⟨by decide, hs⟩, by decide⟩, quote_not_mem_fmtZeroPad 0 pid⟩, he⟩

/-- `has_unsafe_shell_char` を通った値は `'` を含まない。 -/
theorem quote_not_mem_of_safe {s : List Char} (h : hasUnsafeShellChar s = false) : '\x27' ∉ s := by
  intro hm
  have := List.any_eq_false.mp h _ hm
  simp at this

/-! ## `sqlite_exec_capture` のコマンド -/

/-- `get_data_dir`（main.c 300–306）。 -/
def getDataDir (c : CanonOpts) : List Char :=
  if c.D ≠ [] then cSnprintf pathMax c.D else ".local/services".toList

/-- `join_path`（main.c 308–316）：`left` の後ろに `right` を書く。入らなければ `none`。 -/
def joinPath (outLen : Nat) (left right : List Char) : Option (List Char) :=
  if outLen ≤ min left.length outLen then none
  else if outLen < left.length + right.length + 1 then none
  else some (left ++ right)

/-- `sql_state_path`（main.c 338–342）。 -/
def sqlStatePath (c : CanonOpts) : Option (List Char) :=
  joinPath pathMax (getDataDir c) "/wid_state.sqlite".toList

/-- 状態の行の鍵 `wid:c:W:Z:T`（main.c 441–442）。 -/
def sqlStateKey (c : CanonOpts) : List Char :=
  cSnprintf 128 ("wid:c:".toList ++ fmtZeroPad 0 c.W ++ [':'] ++ fmtZeroPad 0 c.Z ++ [':'] ++ c.T)

/-- `sql_ensure_state` の文（main.c 402–407）。 -/
def sqlEnsureStateSql (key : List Char) : List Char :=
  cSnprintf 1024 ("CREATE TABLE IF NOT EXISTS wid_state (k TEXT PRIMARY KEY, last_tick INTEGER NOT NULL, last_seq INTEGER NOT NULL);INSERT OR IGNORE INTO wid_state(k,last_tick,last_seq) VALUES(\x27".toList ++
    key ++ "\x27,0,-1);".toList)

/-- `sql_load_state` の文（main.c 390）。 -/
def sqlLoadStateSql (key : List Char) : List Char :=
  cSnprintf 1024 ("SELECT last_tick || \x27|\x27 || last_seq FROM wid_state WHERE k=\x27".toList ++ key ++
    "\x27;".toList)

/-- `sql_compare_and_swap_state` の文（main.c 421–430）。 -/
def sqlCompareAndSwapSql (key : List Char) (old new : Int × Int) : List Char :=
  cSnprintf 2048 ("UPDATE wid_state SET last_tick=".toList ++ fmtZeroPad 0 new.1 ++ ",last_seq=".toList ++
    fmtZeroPad 0 new.2 ++ " WHERE k=\x27".toList ++ key ++ "\x27 AND last_tick=".toList ++
    fmtZeroPad 0 old.1 ++ " AND last_seq=".toList ++ fmtZeroPad 0 old.2 ++ ";SELECT changes();".toList)

/-- `sqlite_exec_capture` のコマンド（main.c 369–370）。SQL は二重引用の中。 -/
def sqliteCmd (dbPath sql : List Char) : List Char :=
  cSnprintf 8192 ("sqlite3 -cmd \x22.timeout 5000\x22 \x27".toList ++ dbPath ++ "\x27 \x22".toList ++ sql ++
    "\x22".toList)

def sqliteArgv (dbPath sql : List Char) : List ShTok :=
  [.word "sqlite3".toList, .word "-cmd".toList, .word ".timeout 5000".toList, .word dbPath, .word sql]

theorem shLex_sqliteCmd {db sql : List Char} (hdb : '\x27' ∉ db) (hsql : dqSafe sql = true)
    (hlen : db.length + sql.length ≤ 8150) : shLex (sqliteCmd db sql) = sqliteArgv db sql := by
  rw [sqliteCmd, cSnprintf_of_lt (by simp; omega)]
  simp only [shLex, List.foldl_append]
  simp [shStep, shEmit, isShBlank, isShOp, isShSpecial, isShDqSpecial, foldl_shStep_squote,
    foldl_shStep_dquote, hdb, hsql, sqliteArgv]

theorem dqSafe_append (a b : List Char) : dqSafe (a ++ b) = (dqSafe a && dqSafe b) := List.all_append

theorem dqSafe_cSnprintf {n : Nat} {s : List Char} (h : dqSafe s = true) : dqSafe (cSnprintf n s) = true :=
  List.all_eq_true.mpr fun c hc => List.all_eq_true.mp h c (List.mem_of_mem_take hc)

theorem dqSafe_fmtZeroPad (w : Nat) (v : Int) : dqSafe (fmtZeroPad w v) = true := by
  refine List.all_eq_true.mpr fun c hc => ?_
  rcases mem_fmtZeroPad hc with rfl | h
  · decide
  · have hd := widIsDigit_iff.mp h
    have hne : ∀ d : Char, d.toNat < 48 ∨ 57 < d.toNat → c ≠ d := fun d hd' e => by subst e; omega
    simp [isShDqSpecial, hne '\x22' (by decide), hne '$' (by decide), hne '\x60' (by decide),
      hne '\\' (by decide)]

/-- 単位が `sec` か `ms` なら、状態の鍵は二重引用の中に置け、`'` を含まない。 -/
theorem sqlStateKey_safe {c : CanonOpts} (hT : c.T = "sec".toList ∨ c.T = "ms".toList) :
    dqSafe (sqlStateKey c) = true ∧ '\x27' ∉ sqlStateKey c := by
  refine ⟨dqSafe_cSnprintf ?_, quote_not_mem_cSnprintf ?_⟩
  · simp only [dqSafe_append, dqSafe_fmtZeroPad, Bool.and_true, Bool.true_and]
    rcases hT with h | h <;> rw [h] <;> decide
  · simp only [List.mem_append, not_or]
    refine ⟨⟨⟨⟨⟨by decide, quote_not_mem_fmtZeroPad 0 c.W⟩, by decide⟩, quote_not_mem_fmtZeroPad 0 c.Z⟩,
      by decide⟩, ?_⟩
    rcases hT with h | h <;> rw [h] <;> decide

theorem sqlStatePath_safe {c : CanonOpts} (hD : '\x27' ∉ c.D) {db : List Char}
    (h : sqlStatePath c = some db) : '\x27' ∉ db ∧ db.length ≤ 4095 := by
  unfold sqlStatePath joinPath at h
  split_ifs at h with h1 h2
  cases h
  have hl : "/wid_state.sqlite".toList.length = 17 := rfl
  refine ⟨?_, by rw [List.length_append]; simp only [pathMax] at h2; omega⟩
  have hd : '\x27' ∉ getDataDir c := by
    unfold getDataDir
    split_ifs
    · exact quote_not_mem_cSnprintf hD
    · decide
  simp only [List.mem_append, not_or]
  exact ⟨hd, by decide⟩

/-- 鍵が二重引用の中に置けるなら、三つの文も置ける。 -/
theorem sqlSql_safe {key : List Char} (hk : dqSafe key = true) (old new : Int × Int) :
    dqSafe (sqlEnsureStateSql key) = true ∧ dqSafe (sqlLoadStateSql key) = true ∧
      dqSafe (sqlCompareAndSwapSql key old new) = true := by
  refine ⟨dqSafe_cSnprintf ?_, dqSafe_cSnprintf ?_, dqSafe_cSnprintf ?_⟩ <;>
    simp only [dqSafe_append, hk, dqSafe_fmtZeroPad, Bool.and_true, Bool.true_and] <;> decide

/-! ## `compute_wotp` のコマンド -/

def wotpArgv (wid secret : List Char) : List ShTok :=
  [.word "printf".toList, .word "%s".toList, .word wid, .op '|', .word "openssl".toList,
    .word "dgst".toList, .word "-sha256".toList, .word "-mac".toList, .word "HMAC".toList,
    .word "-macopt".toList, .word ("key:".toList ++ secret), .word ['2'], .op '>',
    .word "/dev/null".toList]

theorem shLex_wotpCmd {wid secret : List Char} (hw : '\x27' ∉ wid) (hs : '\x27' ∉ secret) :
    shLex (wotpCmd wid secret) = wotpArgv wid secret := by
  simp only [shLex, wotpCmd, List.foldl_append]
  simp [shStep, shEmit, isShBlank, isShOp, isShSpecial, foldl_shStep_squote, hw, hs, wotpArgv]

/-! ## どのコマンドも値を閉じ込める -/

/-- **シェルへの差し込みはない。** `parse_canonical` が受け入れたどの値とどの pid でも、
`run_sign`・`run_verify` が `system` に渡す四つの `openssl` のコマンドは、鍵と作業用のファイルを
それぞれ一つの語とする意図した字句に切れる。単位が `sec` か `ms`（`run_canonical` が SQL の
経路に進む条件）なら、状態の鍵は `'` を含まず、`sqlite_exec_capture` の三つの文のコマンドは
データのパスと SQL の二語になる。`compute_wotp` の検査を通った WID と鍵では、`popen` のコマンドも
意図した字句に切れる。 -/
theorem shellCommands_safe :
    (∀ {args : List (List Char)} {c : CanonOpts}, parseCanonical args = .ok c → ∀ pid : Int,
      shLex (signCmd c.key (workFile "sign_msg" ".bin" pid) (workFile "sign_sig" ".bin" pid)) =
          signArgv c.key (workFile "sign_msg" ".bin" pid) (workFile "sign_sig" ".bin" pid) ∧
        shLex (base64UrlCmd (workFile "sign_sig" ".bin" pid) (workFile "sign_txt" ".txt" pid)) =
          base64UrlArgv (workFile "sign_sig" ".bin" pid) (workFile "sign_txt" ".txt" pid) ∧
        shLex (unbase64Cmd (workFile "verify_sig64" ".txt" pid) (workFile "verify_sig" ".bin" pid)) =
          unbase64Argv (workFile "verify_sig64" ".txt" pid) (workFile "verify_sig" ".bin" pid) ∧
        shLex (verifyCmd c.key (workFile "verify_sig" ".bin" pid) (workFile "verify_msg" ".bin" pid)) =
          verifyArgv c.key (workFile "verify_sig" ".bin" pid) (workFile "verify_msg" ".bin" pid) ∧
        ∀ u, widTimeUnitFromStr c.T = some u → ∀ db, sqlStatePath c = some db →
          '\x27' ∉ sqlStateKey c ∧
          shLex (sqliteCmd db (sqlEnsureStateSql (sqlStateKey c))) =
            sqliteArgv db (sqlEnsureStateSql (sqlStateKey c)) ∧
          shLex (sqliteCmd db (sqlLoadStateSql (sqlStateKey c))) =
            sqliteArgv db (sqlLoadStateSql (sqlStateKey c)) ∧
          ∀ old new : Int × Int, shLex (sqliteCmd db (sqlCompareAndSwapSql (sqlStateKey c) old new)) =
            sqliteArgv db (sqlCompareAndSwapSql (sqlStateKey c) old new)) ∧
    (∀ wid secret : List Char, hasUnsafeShellChar wid = false → hasUnsafeShellChar secret = false →
      shLex (wotpCmd wid secret) = wotpArgv wid secret) := by
  refine ⟨fun {args c} h pid => ?_, fun wid secret hw hs =>
    shLex_wotpCmd (quote_not_mem_of_safe hw) (quote_not_mem_of_safe hs)⟩
  have hv := parseCanonical_valid h
  have hsafe := List.any_eq_false.mp hv.safe
  have hk := quote_not_mem_of_safe (Bool.eq_false_iff.mpr (hsafe c.key (by simp [CanonOpts.shellFields])))
  have hD := quote_not_mem_of_safe (Bool.eq_false_iff.mpr (hsafe c.D (by simp [CanonOpts.shellFields])))
  have hw : ∀ stem ext : String, '\x27' ∉ stem.toList → '\x27' ∉ ext.toList → '\x27' ∉ workFile stem ext pid :=
    fun _ _ h1 h2 => quote_not_mem_workFile h1 h2 pid
  refine ⟨shLex_signCmd hk (hw _ _ (by decide) (by decide)) (hw _ _ (by decide) (by decide)),
    shLex_base64UrlCmd (hw _ _ (by decide) (by decide)) (hw _ _ (by decide) (by decide)),
    shLex_unbase64Cmd (hw _ _ (by decide) (by decide)) (hw _ _ (by decide) (by decide)),
    shLex_verifyCmd hk (hw _ _ (by decide) (by decide)) (hw _ _ (by decide) (by decide)),
    fun u hu db hdb => ?_⟩
  have hT : c.T = "sec".toList ∨ c.T = "ms".toList := by
    rw [widTimeUnitFromStr_eq_some.mp hu]; cases u <;> simp [widTimeUnitToStr]
  obtain ⟨hkd, hkq⟩ := sqlStateKey_safe hT
  obtain ⟨hdbq, hdbl⟩ := sqlStatePath_safe hD hdb
  have h1 : (sqlEnsureStateSql (sqlStateKey c)).length ≤ 1023 := length_cSnprintf_le _ _
  have h2 : (sqlLoadStateSql (sqlStateKey c)).length ≤ 1023 := length_cSnprintf_le _ _
  have h3 : ∀ old new, (sqlCompareAndSwapSql (sqlStateKey c) old new).length ≤ 2047 :=
    fun _ _ => length_cSnprintf_le _ _
  refine ⟨hkq, shLex_sqliteCmd hdbq (sqlSql_safe hkd (0, 0) (0, 0)).1 (by omega),
    shLex_sqliteCmd hdbq (sqlSql_safe hkd (0, 0) (0, 0)).2.1 (by omega),
    fun old new => shLex_sqliteCmd hdbq (sqlSql_safe hkd old new).2.2 (by have := h3 old new; omega)⟩

/-! ## `sqlite3` の出力の読み戻し

`sqlite_exec_capture` は `sqlite3` の標準出力の最初の行を読み、`sql_load_state` はそれを
`%lld|%lld` で、`sql_compare_and_swap_state` は `SELECT changes()` の `1` と比べて読む。
`Sql` の系はこの読み戻しが表の行と比較交換の結果をそのまま返すとして、文を不可分の一歩に
している。`sqliteText_refines` がそれを確かめる。 -/

/-- `sqlite3` が `SELECT last_tick || '|' || last_seq` で印字するもの：行が無ければ何も出さず、
あれば `tick|seq` と改行。 -/
def sqliteRowText : Option (Int × Int) → List Char
  | none => []
  | some r => fmtZeroPad 0 r.1 ++ '|' :: fmtZeroPad 0 r.2 ++ ['\n']

/-- `SELECT changes()` が印字するもの：書き換えた行の数と改行。 -/
def sqliteChangesText (b : Bool) : List Char := (if b then "1\n" else "0\n").toList

theorem lineOf_append_newline {row : List Char} (h : '\n' ∉ row) :
    lineOf (row ++ ['\n']) = row ++ ['\n'] := by
  induction row with
  | nil => rfl
  | cons c t ih =>
    rw [List.mem_cons, not_or] at h
    rw [List.cons_append, lineOf, if_neg (Ne.symm h.1), ih h.2]

/-- `printf("%lld")` の形：符号と、桁数ちょうどの数字。 -/
theorem fmtZeroPad_zero (v : Int) :
    fmtZeroPad 0 v = (if v < 0 then ['-'] else []) ++ fixedDigits (numDigits v.natAbs) v.natAbs := by
  unfold fmtZeroPad
  split_ifs with h
  · simp
  · have : v.toNat = v.natAbs := by omega
    simp [this]

/-- 数字の並びのあとに数字でない文字が来れば、幅 `w` までの数字の読み取りはその並びで止まる。 -/
theorem takeWhile_take_digits {ds rest : List Char} (hd : ∀ c ∈ ds, widIsDigit c = true)
    (hr : ∀ c ∈ rest.head?, widIsDigit c = false) {w : Nat} (hw : ds.length ≤ w) :
    ((ds ++ rest).take w).takeWhile widIsDigit = ds := by
  rw [List.take_append_eq_append_take, List.take_of_length_le hw,
    List.takeWhile_append_of_pos hd, List.append_right_eq_self]
  cases h : rest.take (w - ds.length) with
  | nil => rfl
  | cons c t =>
    have hc : c ∈ rest.head? := by
      have := congrArg List.head? h
      rw [List.head?_take] at this
      split_ifs at this <;> simp_all
    simp [hr c hc]

/-- `%lld` は、印字した値のあとに数字でない文字が来れば、その値を読む。 -/
theorem scanDec_fmtZeroPad (v : Int) {rest : List Char} (hr : ∀ c ∈ rest.head?, widIsDigit c = false)
    {w : Nat} (hw : (fmtZeroPad 0 v).length ≤ w) : scanDec w (fmtZeroPad 0 v ++ rest) = some (v, rest) := by
  have hd : ∀ c ∈ fixedDigits (numDigits v.natAbs) v.natAbs, widIsDigit c = true :=
    fun _ hc => widIsDigit_of_mem_fixedDigits hc
  have hne := fixedDigits_numDigits_ne_nil v.natAbs
  obtain ⟨c, u, hcu⟩ := List.exists_cons_of_ne_nil hne
  have hc : widIsDigit c = true := hd c (hcu ▸ List.mem_cons_self _ _)
  have hval := decValue_fixedDigits_numDigits v.natAbs
  rw [fmtZeroPad_zero] at hw ⊢
  unfold scanDec
  by_cases hneg : v < 0
  · simp only [if_pos hneg, List.length_singleton, List.length_append] at hw
    simp only [if_pos hneg, List.singleton_append, List.cons_append, List.dropWhile_cons,
      show cIsSpace '-' = false from rfl, scanSign, Bool.false_eq_true, if_false, List.nil_append, if_true]
    rw [takeWhile_take_digits hd hr (by omega), if_neg hne, hval, List.drop_left]
    congr 2; omega
  · simp only [if_neg hneg, List.nil_append, List.length_nil, List.length_append, zero_add] at hw ⊢
    rw [hcu, List.cons_append, List.dropWhile_cons,
      if_neg (show ¬cIsSpace c = true by simp [cIsSpace_of_digit hc]),
      scanSign_digit hc, ← List.cons_append, ← hcu, takeWhile_take_digits hd hr hw, if_neg hne, hval,
      List.drop_left]
    simp only [Bool.false_eq_true, if_false]
    congr 2; omega

theorem length_fmtZeroPad_int64 {v : Int} (h1 : int64Min ≤ v) (h2 : v ≤ int64Max) :
    (fmtZeroPad 0 v).length ≤ 20 := by
  have hd : numDigits v.natAbs ≤ 19 :=
    numDigits_le (by simp only [int64Min, int64Max] at h1 h2; omega) (by decide)
  rw [fmtZeroPad_zero, List.length_append, length_fixedDigits]
  split <;> simp <;> omega

/-- `-` より前の文字は `printf("%lld")` の出力に現れない。 -/
theorem not_mem_fmtZeroPad {c : Char} (hc : c.toNat < 45) (w : Nat) (v : Int) : c ∉ fmtZeroPad w v :=
  fun h => by
    rcases mem_fmtZeroPad h with rfl | h
    · exact absurd hc (by decide)
    · have := widIsDigit_iff.mp h; omega

namespace Sqlite

/-- `sqlite_exec_capture` の `out`（main.c 374–381）：出力の最初の行を `out_len - 1` 文字まで読み、
末尾の改行と復帰を削る。出力が空なら空のまま。 -/
def sqliteCaptureOut (outLen : Nat) (stdout : List Char) : List Char :=
  ((fgetsLine outLen stdout).getD []).rdropWhile fun c => c = '\n' || c = '\r'

/-- `sqlite_exec_capture`（main.c 367–384）。`run` はコマンドを受けて、`sqlite3` の標準出力と
`pclose` の終了状態を返す。終了状態が 0 でなければ -1（`none`）。 -/
def sqliteExecCapture (run : List Char → List Char × Int) (dbPath sql : List Char) (outLen : Nat) :
    Option (List Char) :=
  let r := run (sqliteCmd dbPath sql)
  if r.2 = 0 then some (sqliteCaptureOut outLen r.1) else none

/-- `sql_load_state` の `sscanf(out, "%lld|%lld", &tick, &seq) == 2`（main.c 395）。幅のない
`%lld` は、文字列の長さを幅として読む。 -/
def sqlLoadStateParse (out : List Char) : Option (Int × Int) :=
  match scanfInts [.dec out.length, .lit '|', .dec out.length] out with
  | [tick, seq] => some (tick, seq)
  | _ => none

/-- `sql_load_state`（main.c 387–398）：-1 は `none`。 -/
def sqlLoadState (run : List Char → List Char × Int) (dbPath key : List Char) : Option (Int × Int) :=
  (sqliteExecCapture run dbPath (sqlLoadStateSql key) 256).bind sqlLoadStateParse

/-- `sql_compare_and_swap_state`（main.c 411–433）：-1 は `none`、1 と 0 は `true` と `false`。 -/
def sqlCompareAndSwapState (run : List Char → List Char × Int) (dbPath key : List Char)
    (old new : Int × Int) : Option Bool :=
  (sqliteExecCapture run dbPath (sqlCompareAndSwapSql key old new) 256).map (· == "1".toList)


/-- 改行・復帰・NUL を含まない一行は、`out_len` に収まればそのまま読める。`fgets` が改行の手前で
止まっても同じ。 -/
theorem sqliteCaptureOut_line {outLen : Nat} {row : List Char} (hn : '\n' ∉ row) (hr : '\r' ∉ row)
    (h0 : '\x00' ∉ row) (hlen : row.length < outLen) : sqliteCaptureOut outLen (row ++ ['\n']) = row := by
  have hkeep : (row.rdropWhile fun c => c = '\n' || c = '\r') = row := by
    refine List.rdropWhile_eq_self_iff.mpr fun hne => ?_
    have hm := List.getLast_mem hne
    have h1 : row.getLast hne ≠ '\n' := fun e => hn (e ▸ hm)
    have h2 : row.getLast hne ≠ '\r' := fun e => hr (e ▸ hm)
    simp [h1, h2]
  have hnul : ∀ c ∈ row, (c != '\x00') = true := fun c hc => by
    simpa using fun e : c = '\x00' => h0 (e ▸ hc)
  unfold sqliteCaptureOut fgetsLine cStr
  rw [if_neg (by simp), Option.getD_some, lineOf_append_newline hn, List.take_append_eq_append_take,
    List.take_of_length_le (by omega), List.takeWhile_append_of_pos hnul]
  cases outLen - 1 - row.length with
  | zero => simpa using hkeep
  | succ k => simpa [List.rdropWhile_concat_pos] using hkeep

/-- 読んだ行を `%lld|%lld` で読めば、印字した二つの値が戻る。 -/
theorem sqlLoadStateParse_row (t s : Int) :
    sqlLoadStateParse (fmtZeroPad 0 t ++ '|' :: fmtZeroPad 0 s) = some (t, s) := by
  have hs := @scanDec_fmtZeroPad s [] (by simp) (fmtZeroPad 0 t ++ '|' :: fmtZeroPad 0 s).length (by simp; omega)
  rw [List.append_nil] at hs
  unfold sqlLoadStateParse
  rw [scanfInts, scanDec_fmtZeroPad t (by simp [widIsDigit]) (by simp)]
  simp only [scanfInts, if_true, hs]
end Sqlite

/-- **`sqlite3` の出力の読み戻しは表の操作をそのまま返す。** `sqlite3` が、表の行 `row` については
`SELECT` の結果を、比較交換については `changes()` を印字して 0 で終わるなら、`sql_load_state` は
`row` を返し（行が無ければ -1）、`sql_compare_and_swap_state` は表の上の比較交換が成り立ったか
どうかを返す。行の値は `int64_t` に入るものとする。 -/
theorem sqliteText_refines {run : List Char → List Char × Int} {dbPath key : List Char}
    {row : Option (Int × Int)} {old new : Int × Int}
    (hrow : ∀ r, row = some r → int64Min ≤ r.1 ∧ r.1 ≤ int64Max ∧ int64Min ≤ r.2 ∧ r.2 ≤ int64Max)
    (hload : run (sqliteCmd dbPath (sqlLoadStateSql key)) = (sqliteRowText row, 0))
    (hcas : run (sqliteCmd dbPath (sqlCompareAndSwapSql key old new)) =
      (sqliteChangesText (Wid.sqlCompareAndSwapState row old new).1, 0)) :
    Sqlite.sqlLoadState run dbPath key = row ∧
      Sqlite.sqlCompareAndSwapState run dbPath key old new =
        some (Wid.sqlCompareAndSwapState row old new).1 := by
  refine ⟨?_, ?_⟩
  · unfold Sqlite.sqlLoadState Sqlite.sqliteExecCapture
    rw [hload]
    rcases row with _ | ⟨t, s⟩
    · rfl
    · obtain ⟨h1, h2, h3, h4⟩ := hrow _ rfl
      have ht : (fmtZeroPad 0 t).length ≤ 20 := length_fmtZeroPad_int64 h1 h2
      have hs : (fmtZeroPad 0 s).length ≤ 20 := length_fmtZeroPad_int64 h3 h4
      have hc : ∀ c : Char, c.toNat < 45 → c ∉ fmtZeroPad 0 t ++ '|' :: fmtZeroPad 0 s := fun c hc => by
        simp only [List.mem_append, List.mem_cons, not_or]
        exact ⟨not_mem_fmtZeroPad hc 0 t, fun e => absurd (e ▸ hc) (by decide), not_mem_fmtZeroPad hc 0 s⟩
      simp only [sqliteRowText, if_true]
      rw [Sqlite.sqliteCaptureOut_line (hc _ (by decide)) (hc _ (by decide)) (hc _ (by decide))
        (by simp; omega), Option.some_bind, Sqlite.sqlLoadStateParse_row]
  · unfold Sqlite.sqlCompareAndSwapState Sqlite.sqliteExecCapture
    rw [hcas]
    cases (Wid.sqlCompareAndSwapState row old new).1 <;> rfl

/-- 表に `(5, 2)` の行があり、比較交換がそれを `(6, 0)` に書き換えるときの `sqlite3`。 -/
def demoSqlite (cmd : List Char) : List Char × Int :=
  if cmd = sqliteCmd "d".toList (sqlLoadStateSql "k".toList) then (sqliteRowText (some (5, 2)), 0)
  else (sqliteChangesText true, 0)

theorem sqliteText_refines_demo :
    Sqlite.sqlLoadState demoSqlite "d".toList "k".toList = some (5, 2) ∧
      Sqlite.sqlCompareAndSwapState demoSqlite "d".toList "k".toList (5, 2) (6, 0) = some true :=
  sqliteText_refines (by rintro r ⟨⟩; decide) (if_pos rfl) (if_neg (by decide))

end Wid
