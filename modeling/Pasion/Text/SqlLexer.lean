import Mathlib.Data.List.Basic

/-! The lexer of PostgreSQL with standard conforming strings, as far as names, operators and string
literals go. -/
namespace Sql

inductive Token where
  | ident (name : List Char)
  | op (name : List Char)
  | str (value : List Char)
  deriving DecidableEq

/-- `closed` is behind a quote that may be the first of two, `gap` behind a literal. -/
inductive Mode where
  | start
  | ident (name : List Char)
  | op (name : List Char)
  | str (value : List Char)
  | closed (value : List Char)
  | gap (value : List Char) (newline : Bool)

def isSpace (c : Char) : Bool := c ∈ [' ', '\t', '\n', '\r', '\x0b', '\x0c']

def isNewline (c : Char) : Bool := c = '\n' || c = '\r'

def isIdentStart (c : Char) : Bool := c.isAlpha || c = '_' || 128 ≤ c.toNat

def isIdentCont (c : Char) : Bool := isIdentStart c || c.isDigit || c = '$'

def isOpChar (c : Char) : Bool := c ∈ "~!@#^&|`?+-*/%<>=".toList

/-- The first character of a token. Numbers, parameters and punctuation are left out. -/
def enter (c : Char) : Option Mode :=
  if isSpace c then some .start
  else if isIdentStart c then some (.ident [c])
  else if isOpChar c then some (.op [c])
  else if c = '\'' then some (.str [])
  else none

/-- The tokens that a character completes. Comments and prefixes of literals are left out. -/
def next : Mode → Char → Option (List Token × Mode)
  | .start, c => (enter c).map ([], ·)
  | .ident name, c =>
    if isIdentCont c then some ([], .ident (name ++ [c]))
    else if c = '\'' then none
    else (enter c).map ([.ident name], ·)
  | .op name, c =>
    if isOpChar c then
      if (name.getLast?, c) ∈ [(some '-', '-'), (some '/', '*')] then none
      else some ([], .op (name ++ [c]))
    else (enter c).map ([.op name], ·)
  | .str value, c =>
    if c = '\x00' then none
    else if c = '\'' then some ([], .closed value)
    else some ([], .str (value ++ [c]))
  | .closed value, c =>
    if c = '\'' then some ([], .str (value ++ [c]))
    else if isSpace c then some ([], .gap value (isNewline c))
    else (enter c).map ([.str value], ·)
  | .gap value newline, c =>
    if isSpace c then some ([], .gap value (newline || isNewline c))
    else if c = '\'' ∧ newline then some ([], .str value)
    else (enter c).map ([.str value], ·)

def finish : Mode → Option (List Token)
  | .start => some []
  | .ident name => some [.ident name]
  | .op name => some [.op name]
  | .str _ => none
  | .closed value | .gap value _ => some [.str value]

/-- The tokens that a text completes, and where the lexer stands behind it. -/
def run : Mode → List Char → Option (List Token × Mode)
  | m, [] => some ([], m)
  | m, c :: cs => (next m c).bind (fun r => (run r.2 cs).map (fun r' => (r.1 ++ r'.1, r'.2)))

def lex (text : String) : Option (List Token) :=
  (run .start text.toList).bind (fun r => (finish r.2).map (r.1 ++ ·))

theorem run_append {cs cs' : List Char} {m m' m'' : Mode} {tokens tokens' : List Token}
    (h : run m cs = some (tokens, m')) (h' : run m' cs' = some (tokens', m'')) :
    run m (cs ++ cs') = some (tokens ++ tokens', m'') := by
  induction cs generalizing m tokens with
  | nil =>
    cases h
    exact h'
  | cons c cs ih =>
    obtain ⟨⟨first, m₁⟩, hnext, h⟩ := Option.bind_eq_some_iff.mp h
    obtain ⟨⟨rest, m₂⟩, hrest, heq⟩ := Option.map_eq_some_iff.mp h
    obtain ⟨rfl, rfl⟩ := Prod.mk.inj heq
    rw [List.cons_append, run, hnext, Option.bind_some, ih hrest, Option.map_some,
      List.append_assoc]

/-- A text with every quote doubled. -/
def escape (value : List Char) : List Char :=
  value.flatMap (fun c => if c = '\'' then ['\'', '\''] else [c])

/-- The value of a literal with the escaped text is the text. -/
theorem run_escape {value : List Char} (hnul : '\x00' ∉ value) :
    ∀ read, run (.str read) (escape value ++ ['\'']) = some ([], .closed (read ++ value)) := by
  induction value with
  | nil =>
    intro read
    simp [escape, run, next]
  | cons c value ih =>
    intro read
    rw [List.mem_cons, not_or] at hnul
    obtain ⟨hc, hvalue⟩ := hnul
    have hread := ih hvalue (read ++ [c])
    rw [List.append_assoc, List.singleton_append] at hread
    have hstep : run (.str read) (if c = '\'' then ['\'', '\''] else [c]) =
        some ([], .str (read ++ [c])) := by
      -- a quote takes the lexer to `closed` and back
      by_cases hquote : c = '\''
      · simp [run, next, hquote]
      · simp [run, next, hquote, Ne.symm hc]
    rw [escape, List.flatMap_cons, List.append_assoc]
    exact run_append hstep hread

end Sql
