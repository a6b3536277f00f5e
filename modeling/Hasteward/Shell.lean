import Mathlib.Data.List.Basic

/-!
# What `sh -c` makes of a script: token recognition

The part of the POSIX shell's token recognition (XCU 2.3) and quoting (XCU 2.2) that decides the
words of a simple command.  Blanks separate words.  A newline, and each of the operator
characters `& | ; < > ( )`, ends the word in progress and is a token of its own.  A backslash
quotes the next character, and before a newline disappears with it.  Single quotes quote
everything up to the next single quote.  Double quotes quote everything but `$`, a backquote, and
a backslash before one of `$`, a backquote, `"`, a backslash or a newline.  A `#` that starts a
word starts a comment.  Quote removal is done as the word is read, so a `Token.word` holds the
text the command receives.

What the shell would *expand* is not modelled: a parameter (`$`), a backquote, a pattern (`*`,
`?`, `[`), a tilde that starts a word.  On any of them the lexer stops with `Lexed.expansion`, so
every token list it does return is the shell's.  A quote left open is `Lexed.unterminated`, which
the shell reports as a syntax error.

A command substitution `$(...)` inside double quotes is read up to its closing parenthesis, and
the word that holds it is a `Token.expanded`: where it starts and ends is known, its text only
once the substitution has run.  Inside it the lexer follows single and double quotes, backslashes
and substitutions nested in double quotes, and reads only the words of a simple command: an
operator other than the closing `)`, a newline, a `#`, a `$` outside double quotes, a backquote,
or a first word that is a reserved word (`simpleSubst`: with `case`, a `)` may end a pattern)
stops it with `Lexed.expansion`, so the parenthesis it takes for the closing one is the shell's.
After the substitution the word may go on with double-quoted text and characters that stand for
themselves; anything else there is not modelled either.

`commandWords` reads a token list as one simple command: words, then only newlines.  Its first
word must be neither an assignment nor a reserved word; both are checked conservatively (a first
word with an `=` in it, or spelling a reserved word, is not modelled, quoted or not).

`lexAux_plainWords` reads back any list of words that need no quoting (`PlainWord`), each
followed by a space, as exactly those words.
-/

set_option autoImplicit false

namespace Hasteward
namespace Shell

/-- A token of a script, after quote removal. -/
inductive Token
  | word (text : String)
  /-- A word that holds a command substitution: what the command receives is known only once
  the substitution has run. -/
  | expanded
  | op (c : Char)
  | newline
  deriving DecidableEq, Repr

/-- What token recognition makes of a script. -/
inductive Lexed
  | tokens (ts : List Token)
  | unterminated
  | expansion
  deriving DecidableEq, Repr

/-- A construct open inside a command substitution: the substitution's own parenthesis, or a
single- or double-quoted text. -/
inductive Open
  | paren
  | single
  | double
  deriving DecidableEq, Repr

/-- Where the lexer is: outside quotes, inside single or double quotes, or in a comment; just
after a backslash outside or inside double quotes, or inside a substitution; just after a `$`
inside double quotes, where a `(` opens a substitution over the constructs `opens`;
inside a command substitution, with the constructs open in it, innermost first; or in the rest
of a word that holds a substitution, outside or inside double quotes. -/
inductive Mode
  | plain
  | single
  | double
  | comment
  | plainEscape
  | doubleEscape
  | dollar (opens : List Open)
  | substEscape (opens : List Open)
  | subst (opens : List Open)
  | plainX
  | doubleX
  deriving DecidableEq, Repr

/-- A blank: space or tab. -/
def isBlank (c : Char) : Bool := c == ' ' || c == '\t'

/-- A character that is an operator, or starts one. -/
def isOperator (c : Char) : Bool := ['&', '|', ';', '<', '>', '(', ')'].contains c

/-- A character that starts a parameter expansion or a command substitution. -/
def isExpansion (c : Char) : Bool := c == '$' || c == '\x60'

/-- A character that makes an unquoted word a pattern. -/
def isPattern (c : Char) : Bool := c == '*' || c == '?' || c == '['

/-- A character that stands for itself anywhere in an unquoted word: not a blank, a newline, an
operator, a quote or a backslash, and starting no expansion, pattern, tilde or comment. -/
def isPlain (c : Char) : Bool :=
  !(c == '\n' || isBlank c || isOperator c || c == '\'' || c == '"' || c == '\\' ||
    isExpansion c || isPattern c || c == '~' || c == '#')

/-- The reserved words of the shell grammar (XCU 2.4). -/
def reservedWords : List String :=
  ["!", "\x7b", "\x7d", "case", "do", "done", "elif", "else", "esac", "fi", "for", "if", "in",
    "then", "until", "while"]

/-- Whether the text after `$(` starts a simple command: its first word, up to a blank or a `)`,
is not a reserved word, which would open a compound command or, with `case`, patterns whose `)`
does not end the substitution. -/
def simpleSubst (cs : List Char) : Bool :=
  let first := (cs.dropWhile isBlank).takeWhile fun c => !(isBlank c || c == ')')
  !reservedWords.contains (String.mk first)

/-- End the word in progress, if there is one. -/
def delimit (w : Option (List Char)) (acc : List Token) : List Token :=
  match w with
  | some cs => acc ++ [.word (String.mk cs)]
  | none => acc

/-- Extend the word in progress by `c`, starting one if there is none. -/
def extend (w : Option (List Char)) (c : Char) : Option (List Char) := some (w.getD [] ++ [c])

/-- Token recognition of the rest of the script, in mode `m`, with the word in progress `w` and
the tokens `acc` so far. -/
def lexAux : List Char → Mode → Option (List Char) → List Token → Lexed
  | [], .plain, w, acc => .tokens (delimit w acc)
  | [], .comment, _, acc => .tokens acc
  | [], .plainX, _, acc => .tokens (acc ++ [.expanded])
  | [], .plainEscape, w, acc => .tokens (delimit (extend w '\\') acc)
  | [], _, _, _ => .unterminated
  | c :: cs, .comment, w, acc =>
    if c = '\n' then lexAux cs .plain w (acc ++ [.newline]) else lexAux cs .comment w acc
  | c :: cs, .single, w, acc =>
    if c = '\'' then lexAux cs .plain w acc else lexAux cs .single (extend w c) acc
  | c :: cs, .double, w, acc =>
    if c = '"' then lexAux cs .plain w acc
    else if c = '$' then lexAux cs (.dollar []) w acc
    else if isExpansion c then .expansion
    else if c = '\\' then lexAux cs .doubleEscape w acc
    else lexAux cs .double (extend w c) acc
  | d :: ds, .doubleEscape, w, acc =>
    if d = '\n' then lexAux ds .double w acc
    else if d = '$' ∨ d = '\x60' ∨ d = '"' ∨ d = '\\' then lexAux ds .double (extend w d) acc
    else lexAux ds .double (extend (extend w '\\') d) acc
  | c :: cs, .dollar opens, w, acc =>
    if c = '(' ∧ simpleSubst cs then lexAux cs (.subst (.paren :: opens)) w acc else .expansion
  | c :: cs, .subst opens, w, acc =>
    match opens with
    | .single :: os =>
      if c = '\'' then lexAux cs (.subst os) w acc else lexAux cs (.subst opens) w acc
    | .double :: os =>
      if c = '"' then lexAux cs (.subst os) w acc
      else if c = '$' then lexAux cs (.dollar opens) w acc
      else if c = '\x60' then .expansion
      else if c = '\\' then lexAux cs (.substEscape opens) w acc
      else lexAux cs (.subst opens) w acc
    | .paren :: os =>
      if c = ')' then
        match os with
        | [] => lexAux cs .doubleX w acc
        | _ :: _ => lexAux cs (.subst os) w acc
      else if c = '\'' then lexAux cs (.subst (.single :: opens)) w acc
      else if c = '"' then lexAux cs (.subst (.double :: opens)) w acc
      else if c = '\\' then lexAux cs (.substEscape opens) w acc
      else if isBlank c || isPlain c then lexAux cs (.subst opens) w acc
      else .expansion
    | [] => .expansion
  | _ :: cs, .substEscape opens, w, acc => lexAux cs (.subst opens) w acc
  | c :: cs, .doubleX, w, acc =>
    if c = '"' then lexAux cs .plainX w acc
    else if c = '$' then lexAux cs (.dollar []) w acc
    else if isExpansion c || c = '\\' then .expansion
    else lexAux cs .doubleX w acc
  | c :: cs, .plainX, w, acc =>
    if c = '\n' then lexAux cs .plain none (acc ++ [.expanded, .newline])
    else if isBlank c then lexAux cs .plain none (acc ++ [.expanded])
    else if isOperator c then lexAux cs .plain none (acc ++ [.expanded, .op c])
    else if c = '"' then lexAux cs .doubleX w acc
    else if isPlain c then lexAux cs .plainX w acc
    else .expansion
  | c :: cs, .plain, w, acc =>
    if c = '\n' then lexAux cs .plain none (delimit w acc ++ [.newline])
    else if isBlank c then lexAux cs .plain none (delimit w acc)
    else if isOperator c then lexAux cs .plain none (delimit w acc ++ [.op c])
    else if c = '\'' then lexAux cs .single (some (w.getD [])) acc
    else if c = '"' then lexAux cs .double (some (w.getD [])) acc
    else if c = '\\' then lexAux cs .plainEscape w acc
    else if isExpansion c || isPattern c || (c == '~' && w.isNone) then .expansion
    else if c = '#' ∧ w = none then lexAux cs .comment none acc
    else lexAux cs .plain (extend w c) acc
  | d :: ds, .plainEscape, w, acc =>
    if d = '\n' then lexAux ds .plain w acc else lexAux ds .plain (extend w d) acc

/-- Token recognition of a whole script. -/
def lex (s : String) : Lexed := lexAux s.data .plain none []

/-- The words of a token list made of words followed only by newlines. -/
def wordsThenNewlines : List Token → Option (List String)
  | [] => some []
  | .word w :: ts => (wordsThenNewlines ts).map (w :: ·)
  | .newline :: ts => if ts.all (· == .newline) then some [] else none
  | .op _ :: _ => none
  | .expanded :: _ => none

/-- The first token that is not a word: what ends the first simple command. -/
def firstNonWord : List Token → Option Token
  | [] => none
  | .word _ :: ts => firstNonWord ts
  | t :: _ => some t

/-- The words of the script read as one simple command, when it is one: words then newlines, a
first word that is neither an assignment nor a reserved word. -/
def commandWords : Lexed → Option (List String)
  | .tokens ts =>
    match wordsThenNewlines ts with
    | some (w :: ws) =>
      if w.data.contains '=' || reservedWords.contains w then none else some (w :: ws)
    | _ => none
  | _ => none

/-! ## Words that need no quoting -/

/-- A word that needs no quoting: not empty, and made of characters that stand for themselves. -/
def PlainWord (w : String) : Prop := w ≠ "" ∧ ∀ c ∈ w.data, isPlain c = true

instance : DecidablePred PlainWord := fun _ => inferInstanceAs (Decidable (_ ∧ _))

theorem lexAux_plain {c : Char} (hc : isPlain c = true) (cs : List Char) (w : Option (List Char))
    (acc : List Token) : lexAux (c :: cs) .plain w acc = lexAux cs .plain (extend w c) acc := by
  simp only [isPlain, Bool.not_eq_true', Bool.or_eq_false_iff, beq_eq_false_iff_ne, ne_eq] at hc
  simp [lexAux, hc]

theorem lexAux_blank (cs : List Char) (w : Option (List Char)) (acc : List Token) :
    lexAux (' ' :: cs) .plain w acc = lexAux cs .plain none (delimit w acc) := rfl

theorem foldl_extend (cs p : List Char) : cs.foldl extend (some p) = some (p ++ cs) := by
  induction cs generalizing p with
  | nil => simp
  | cons c cs ih => simp [extend, ih]

theorem foldl_extend_none {cs : List Char} (h : cs ≠ []) : cs.foldl extend none = some cs := by
  obtain ⟨c, cs, rfl⟩ := List.exists_cons_of_ne_nil h
  exact foldl_extend cs [c]

/-- Characters that stand for themselves extend the word in progress, one by one. -/
theorem lexAux_plain_chars (cs : List Char) (hcs : ∀ c ∈ cs, isPlain c = true)
    (rest : List Char) (w : Option (List Char)) (acc : List Token) :
    lexAux (cs ++ rest) .plain w acc = lexAux rest .plain (cs.foldl extend w) acc := by
  induction cs generalizing w with
  | nil => rfl
  | cons c cs ih =>
    simp only [List.mem_cons, forall_eq_or_imp] at hcs
    rw [List.cons_append, lexAux_plain hcs.1, ih hcs.2, List.foldl_cons]

/-- Words that need no quoting, each followed by a space, are read back as those words. -/
theorem lexAux_plainWords (ws : List String) (h : ∀ w ∈ ws, PlainWord w) (acc : List Token) :
    lexAux (ws.flatMap fun w => w.data ++ [' ']) .plain none acc =
      .tokens (acc ++ ws.map .word) := by
  induction ws generalizing acc with
  | nil => simp [lexAux, delimit]
  | cons w ws ih =>
    simp only [List.mem_cons, forall_eq_or_imp] at h
    obtain ⟨⟨hne, hw⟩, hws⟩ := h
    have hword : w.data.foldl extend none = some w.data :=
      foldl_extend_none fun h => hne (String.ext h)
    rw [List.flatMap_cons, List.append_assoc, List.singleton_append, lexAux_plain_chars _ hw,
      hword, lexAux_blank, ih hws]
    simp [delimit]

/-! ## What comes before does not change what comes after -/

/-- Tokens put before a token list; a script the lexer rejects stays rejected. -/
def Lexed.prepend (pre : List Token) : Lexed → Lexed
  | .tokens ts => .tokens (pre ++ ts)
  | l => l

@[simp] theorem Lexed.prepend_tokens (pre ts : List Token) :
    (Lexed.tokens ts).prepend pre = .tokens (pre ++ ts) := rfl

@[simp] theorem Lexed.prepend_unterminated (pre : List Token) :
    Lexed.unterminated.prepend pre = .unterminated := rfl

@[simp] theorem Lexed.prepend_expansion (pre : List Token) :
    Lexed.expansion.prepend pre = .expansion := rfl

theorem delimit_append (w : Option (List Char)) (pre acc : List Token) :
    delimit w (pre ++ acc) = pre ++ delimit w acc := by
  cases w <;> simp [delimit]

theorem lexAux_hash (cs : List Char) (acc : List Token) :
    lexAux ('#' :: cs) .plain none acc = lexAux cs .comment none acc := rfl

/-- The lexer never reads back the tokens it has: tokens before them pass through. -/
theorem lexAux_append_acc (pre : List Token) (cs : List Char) (m : Mode) (w : Option (List Char))
    (acc : List Token) : lexAux cs m w (pre ++ acc) = (lexAux cs m w acc).prepend pre := by
  induction cs, m, w, acc using lexAux.induct
  case case53 h ih =>
    -- a word that starts with a hash starts a comment: the one guard that simp cannot decide
    obtain ⟨rfl, rfl⟩ := h
    rw [lexAux_hash, lexAux_hash, ih]
  all_goals simp [lexAux, delimit_append, *]

theorem lexAux_open_single (cs : List Char) (w : Option (List Char)) (acc : List Token) :
    lexAux ('\'' :: cs) .plain w acc = lexAux cs .single (some (w.getD [])) acc := rfl

theorem lexAux_close_single (cs : List Char) (w : Option (List Char)) (acc : List Token) :
    lexAux ('\'' :: cs) .single w acc = lexAux cs .plain w acc := rfl

theorem lexAux_operator {c : Char} (hc : isOperator c = true) (cs : List Char)
    (w : Option (List Char)) (acc : List Token) :
    lexAux (c :: cs) .plain w acc = lexAux cs .plain none (delimit w acc ++ [.op c]) := by
  simp only [isOperator, List.elem_eq_mem, List.mem_cons, List.mem_singleton,
    decide_eq_true_eq, List.not_mem_nil, or_false] at hc
  rcases hc with rfl | rfl | rfl | rfl | rfl | rfl | rfl <;> rfl

theorem wordsThenNewlines_map_word (ws : List String) :
    wordsThenNewlines (ws.map .word) = some ws := by
  induction ws with
  | nil => rfl
  | cons w ws ih => simp [wordsThenNewlines, ih]

end Shell
end Hasteward
