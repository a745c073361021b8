import Interpolation.Expression.Number
import Interpolation.Text.Identifier

/-!
# Tokens of expressions

An expression is divided into names, numbers, quotations and symbols, which are signs and the words
that cannot be names.  Outside parentheses the end of a line is a token too, and so is the
indentation of the next one.  There are round and curly parentheses.

The division ends with a token for the end, or with a fault: a problem of the text at this place.
-/

set_option autoImplicit false

namespace Interpolation

namespace Expression

/-- The kinds of tokens. -/
inductive Kind
  | name
  | number
  | quotation
  | symbol
  | newline
  | indent
  | finish
deriving DecidableEq

/-- A token. -/
structure Token where
  kind : Kind
  text : Characters
  /-- The line where it ends, counted from one. -/
  line : Nat
  /-- The number of parentheses that are open behind it. -/
  level : Nat
deriving DecidableEq

/-- The words that cannot be names. -/
def keywords : List String :=
  ["False", "None", "True", "and", "as", "assert", "async", "await", "break", "class", "continue",
    "def", "del", "elif", "else", "except", "finally", "for", "from", "global", "if", "import",
    "in", "is", "lambda", "nonlocal", "not", "or", "pass", "raise", "return", "try", "while",
    "with", "yield"]

/-- The signs of more than one character, the longer ones first. -/
def signs : List String :=
  ["**=", "...", "//=", "<<=", ">>=", "!=", "%=", "&=", "**", "*=", "+=", "-=", "->", "//", "/=",
    ":=", "<<", "<=", "<>", "==", ">=", ">>", "@=", "^=", "|="]

/-- The marks that may stand before a quotation, in small letters. -/
def marks : List String :=
  ["b", "f", "r", "u", "br", "rb", "fr", "rf"]

/-- The greatest number of open parentheses. -/
def openLimit : Nat := 200

/-- Where the division of a text has come to. -/
structure Scanner where
  /-- The open parentheses with their lines, the last one first. -/
  openings : List (Char × Nat)
  line : Nat
  /-- Whether no token has stood on the line. -/
  isBlank : Bool
  /-- Whether the spacing at the start of the line is still to come. -/
  isAtStart : Bool
  /-- The indentations of the lines around, the last one first: columns where tabs lead to every
  eighth one, and columns where they count as one. -/
  indentations : List (Nat × Nat)
  /-- Whether the end of the text has been seen with the last token. -/
  hasSeenEnd : Bool
deriving DecidableEq

namespace Scanner

/-- The beginning of a text. -/
def start : Scanner :=
  ⟨[], 1, true, true, [], false⟩

/-- A token of the line. -/
def token (s : Scanner) (kind : Kind) (text : Characters) : Token :=
  ⟨kind, text, s.line, s.openings.length⟩

/-- What is done at the start of a text: tokens, the number of characters they take, and the
scanner behind them. -/
abbrev Step := Except Fault (List Token × Nat × Scanner)

/-- A problem that takes the place of others. -/
def grave (problem : Problem) : Step :=
  .error ⟨problem, .grave⟩

/-- The step over one token. -/
def overToken (s : Scanner) (kind : Kind) (text : Characters) : Step :=
  .ok ([s.token kind text], text.length, { s with isBlank := false })

/-- The weight of a fault that does not take the place of other problems by itself. -/
def weight (s : Scanner) : Weight :=
  match s.openings with
  | [] => .light
  | (opening, line) :: _ => .pending opening line s.hasSeenEnd

/-- The fault at the end of a text, if a parenthesis is open. -/
def unclosed? (s : Scanner) : Option Fault :=
  s.openings.head?.map fun (opening, _) => ⟨.unclosed opening, s.weight⟩

/-- The fault of a backslash that does not hide the end of a line. -/
def strayBackslash (s : Scanner) (rest : Characters) : Fault :=
  if rest = ['\n'] then s.unclosed?.getD ⟨.unexpectedEnd, .light⟩ else ⟨.continuation, s.weight⟩

/-! ## Lines -/

/-- The spacing at the start of a line, to which a backslash at its end adds the next line. -/
structure Spacing where
  length : Nat
  /-- The number of lines that end in it. -/
  lines : Nat
  /-- Its last column, where tabs lead to every eighth one. -/
  column : Nat
  /-- Its last column, where tabs count as one. -/
  narrow : Nat
  /-- The columns where the end of a line was hidden first. -/
  held : Nat × Nat
deriving DecidableEq

/-- The columns that a line with this spacing begins at. -/
def Spacing.columns (before : Spacing) : Nat × Nat :=
  (if before.held.1 = 0 then before.column else before.held.1,
    if before.held.2 = 0 then before.narrow else before.held.2)

/-- The spacing at the start of a text behind some other spacing. -/
def spacing (s : Scanner) (before : Spacing) : Characters → Except Fault Spacing
  | '\\' :: '\n' :: c :: rest =>
    s.spacing
      { before with
        length := before.length + 2
        lines := before.lines + 1
        held := before.columns } (c :: rest)
  | c :: rest =>
    let next := { before with length := before.length + 1 }
    if c = ' ' then
      s.spacing { next with column := before.column + 1, narrow := before.narrow + 1 } rest
    else if c = '\t' then
      let column := (before.column / 8 + 1) * 8
      s.spacing { next with column, narrow := before.narrow + 1 } rest
    else if c = '\x0C' then s.spacing { next with column := 0, narrow := 0 } rest
    else if c = '\\' then .error (s.strayBackslash rest)
    else .ok before
  | [] => .ok before

/-- The scanner at a line that begins at some columns, with a token for its indentation. -/
def indent (s : Scanner) (columns : Nat × Nat) : Except Fault (List Token × Scanner) :=
  let around := s.indentations.dropWhile fun outer => columns.1 < outer.1
  let outer := around.head?.getD (0, 0)
  if columns = outer then .ok ([], { s with indentations := around })
  else if around = s.indentations ∧ outer.1 < columns.1 ∧ outer.2 < columns.2 then
    .ok ([s.token .indent []], { s with indentations := columns :: around })
  else .error ⟨.inconsistentIndent, .light⟩

/-- The step over the spacing at the start of a line. -/
def overSpacing (s : Scanner) (text : Characters) : Step := do
  let found ← s.spacing ⟨0, 0, 0, 0, 0, 0⟩ text
  let next : Scanner := { s with line := s.line + found.lines, isAtStart := false }
  let hasContent := (text.drop found.length).head?.any fun c => c ≠ '#' ∧ c ≠ '\n'
  if next.openings = [] ∧ hasContent then
    let (first, next) ← next.indent found.columns
    return (first, found.length, next)
  else return ([], found.length, next)

/-- The step over a line feed. -/
def overLine (s : Scanner) : Step :=
  let ended := if s.openings ≠ [] ∨ s.isBlank then [] else [s.token .newline ['\n']]
  .ok (ended, 1, { s with line := s.line + 1, isBlank := true, isAtStart := true })

/-- The step over a backslash, which hides the end of its line. -/
def overBackslash (s : Scanner) : Characters → Step
  | '\n' :: _ :: _ => .ok ([], 2, { s with line := s.line + 1 })
  | rest => .error (s.strayBackslash rest)

/-! ## Quotations -/

/-- The length of a quotation behind its opening quotes, and the number of lines that end in it;
`run` counts the quotes just read.  The problem is the number of lines read in vain. -/
def closing (quote : Char) (size run : Nat) : Characters → Except Nat (Nat × Nat)
  | [] => .error 0
  | '\\' :: c :: rest =>
    let lines := if c = '\n' then 1 else 0
    match closing quote size 0 rest with
    | .ok (length, more) => .ok (length + 2, more + lines)
    | .error more => .error (more + lines)
  | c :: rest =>
    if size = 1 ∧ c = '\n' then .error 0
    else if c = quote ∧ run + 1 = size then .ok (1, 0)
    else
      let lines := if c = '\n' then 1 else 0
      match closing quote size (if c = quote then run + 1 else 0) rest with
      | .ok (length, more) => .ok (length + 1, more + lines)
      | .error more => .error (more + lines)

/-- The step over a quotation whose opening quote is at an index of a text. -/
def overQuotation (s : Scanner) (index : Nat) (quote : Char) (text : Characters) : Step :=
  let behind := text.drop (index + 1)
  let isBlock := behind.take 2 = [quote, quote]
  let opened := if isBlock then 3 else 1
  match closing quote opened 0 (text.drop (index + opened)) with
  | .error lines => grave (.unterminated isBlock (s.line + lines))
  | .ok (length, lines) =>
    let next : Scanner := { s with line := s.line + lines, isBlank := false }
    let length := index + opened + length
    .ok ([next.token .quotation (text.take length)], length, next)

/-- The index and the quote of the quotation at the start of a text. -/
def quotation? (text : Characters) : Option (Nat × Char) :=
  [0, 1, 2].findSome? fun index =>
    match text[index]? with
    | none => none
    | some quote =>
      let mark := (text.take index).map Char.toLower
      if (quote = '"' ∨ quote = '\'') ∧
          (index = 0 ∨ marks.any fun m => m.toList = mark) then
        some (index, quote)
      else none

/-! ## Names and signs -/

/-- The first character that cannot stand where it does in a name. -/
def misplaced? : Characters → Option Char
  | [] => none
  | c :: rest =>
    if Characters.startsIdentifier c || c = '_' then
      rest.find? fun c => !Characters.continuesIdentifier c
    else some c

/-- The step over a name. -/
def overName (s : Scanner) (text : Characters) : Step :=
  let name := text.takeWhile continuesName
  match misplaced? name with
  | some c => grave (.character c)
  | none => s.overToken (if keywords.any fun k => k.toList = name then .symbol else .name) name

/-- The step over an opening parenthesis. -/
def overOpening (s : Scanner) (c : Char) : Step :=
  if openLimit ≤ s.openings.length then grave .tooManyOpen
  else { s with openings := (c, s.line) :: s.openings }.overToken .symbol [c]

/-- The step over a closing parenthesis. -/
def overClosing (s : Scanner) (c : Char) : Step :=
  match s.openings with
  | [] => grave (.unmatched c)
  | (opening, line) :: openings =>
    if (opening = '(' ↔ c = ')') then { s with openings }.overToken .symbol [c]
    else grave (.mismatched c opening (if line = s.line then none else some line))

/-- The step over a sign. -/
def overSign (s : Scanner) (c : Char) (text : Characters) : Step :=
  match signs.find? fun sign => sign.toList.isPrefixOf text with
  | some sign => s.overToken .symbol sign.toList
  | none => if Characters.isPrintable c then s.overToken .symbol [c] else grave (.character c)

/-! ## All tokens -/

/-- The step at the start of a text. -/
def step (s : Scanner) (c : Char) (rest : Characters) : Step :=
  let text := c :: rest
  if c = ' ' ∨ c = '\t' ∨ c = '\x0C' then .ok ([], 1, s)
  else if c = '\n' then s.overLine
  else if c = '#' then .ok ([], (text.takeWhile (· ≠ '\n')).length, s)
  else if c = '\\' then s.overBackslash rest
  else if c.isDigit ∨ (c = '.' ∧ rest.head?.any Char.isDigit) then
    match numberRun text with
    | .ok length => s.overToken .number (text.take length)
    | .error problem => grave problem
  else
    match quotation? text with
    | some (index, quote) => s.overQuotation index quote text
    | none =>
      if beginsName c then s.overName text
      else if c = '(' ∨ c = '\x7b' then s.overOpening c
      else if c = ')' ∨ c = '\x7d' then s.overClosing c
      else s.overSign c text

/-- Whether what follows a token has been looked at to find its end. -/
def looksBehind (t : Token) : Bool :=
  t.kind ≠ .quotation && (t.kind ≠ .symbol || t.text.length < 3 || t.text.all beginsName)

/-- The step at the start of a text, of which nothing may be left. -/
def next (s : Scanner) (text : Characters) : Step :=
  if s.isAtStart then s.overSpacing text
  else
    match text with
    | [] => .ok ([], 0, s)
    | c :: rest => s.step c rest

/-- The tokens of a text, and the fault that they end with; there are no more steps than `bound`. -/
def tokens : Nat → Scanner → Characters → List Token × Option Fault
  | 0, _, _ => ([], none)
  | bound + 1, s, text =>
    if text = [] then
      match s.unclosed? with
      | some fault => ([], some fault)
      | none => ([s.token .finish []], none)
    else
      match s.next text with
      | .error fault => ([], some fault)
      | .ok (first, length, s) =>
        let rest := text.drop length
        let hasSeenEnd := rest = [] && first.any looksBehind
        let (others, fault) := tokens bound { s with hasSeenEnd } rest
        (first ++ others, fault)

end Scanner

/-- A text in which every line ends with a line feed alone. -/
def withLineFeeds : Characters → Characters
  | '\r' :: '\n' :: rest => '\n' :: withLineFeeds rest
  | '\r' :: rest => '\n' :: withLineFeeds rest
  | c :: rest => c :: withLineFeeds rest
  | [] => []

/-- The tokens of a text, and the fault that they end with; for every character there are at most
two steps, one of them over the spacing of its line. -/
def tokens (text : Characters) : List Token × Option Fault :=
  if '\x00' ∈ text then ([], some ⟨.nullCharacter, .grave⟩)
  else Scanner.tokens (2 * text.length + 2) .start (withLineFeeds text)

end Expression

end Interpolation
