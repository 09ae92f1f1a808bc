/-
# ErrorReport.Source.Lexeme — the lexemes of a line of Ruby.

Source is coloured line by line, by the look of its lexemes alone: comments, strings, symbols,
numbers, keywords and constants. What begins at a character depends on that character, the one
before it and the ones after it; nothing is carried over from another line, so a string that is
still open at the end of its line is no string, and a comment ends with its line.

The texts of the lexemes of a line give the line back (`lexemes_text`).
-/
import ErrorReport.Text.Class

namespace ErrorReport.Source

/-- The kinds of lexemes that have a colour. -/
inductive Kind where
  | comment
  | string
  | symbol
  | number
  | keyword
  | constant
  deriving DecidableEq, Repr

/-- A piece of a line; pieces without a kind are one character long. -/
structure Lexeme where
  kind : Option Kind
  text : Text
  deriving DecidableEq, Repr

/-! ## What begins at a character -/

/-- The words with a meaning of their own. -/
def keywords : List Text := [
  "def", "end", "class", "module", "if", "elsif", "else", "unless", "while", "until", "for", "in",
  "do", "return", "yield", "begin", "rescue", "ensure", "raise", "self", "nil", "true", "false",
  "and", "or", "not", "then", "case", "when", "require", "require_relative", "super", "lambda",
  "proc", "next", "break"].map String.toList

/-- How many characters it takes to the end of a string, closing quotation mark included. A
backslash takes the character after it out of consideration. -/
def stringLength? (quote : Char) : Text → Option Nat
  | [] => none
  | ['\\'] => none
  | '\\' :: _ :: rest => (stringLength? quote rest).map (· + 2)
  | c :: rest => if c = quote then some 1 else (stringLength? quote rest).map (· + 1)

/-- How many characters the name of a symbol takes. -/
def symbolLength? : Text → Option Nat
  | c :: rest =>
    if c.isAlpha || c = '_' then
      let run := (rest.takeWhile Text.isWord).length
      match rest.drop run with
      | '?' :: _ => some (run + 2)
      | '!' :: _ => some (run + 2)
      | _ => some (run + 1)
    else none
  | [] => none

/-- How many characters a number takes after its first digit. A fraction belongs to it if it is
followed by a word edge; the number itself has to be. -/
def numberLength? (rest : Text) : Option Nat :=
  let run := (rest.takeWhile fun c => Text.isDigit c || c = '_').length
  let fraction? : Option Nat :=
    match rest.drop run with
    | '.' :: behind =>
      let digits := (behind.takeWhile Text.isDigit).length
      if digits ≠ 0 && Text.isWordEdge (behind.drop digits).head? then some (run + 1 + digits)
      else none
    | _ => none
  fraction? <|> if Text.isWordEdge (rest.drop run).head? then some run else none

/-- The kind of lexeme that begins at `c`, between `before` and `rest`, and how many characters of
`rest` it takes. -/
def kindAt (before : Option Char) (c : Char) (rest : Text) : Option (Kind × Nat) :=
  if c = '#' then some (.comment, rest.length)
  else if c = '"' || c = Text.apostrophe then (stringLength? c rest).map (.string, ·)
  else if c = ':' then (symbolLength? rest).map (.symbol, ·)
  else if !Text.isWordEdge before then none
  else if Text.isDigit c then (numberLength? rest).map (.number, ·)
  else
    -- a keyword has to be the whole word
    let length := (rest.takeWhile Text.isWord).length
    if keywords.contains (c :: rest.take length) then some (.keyword, length)
    else if c.isUpper then some (.constant, length)
    else none

/-! ## The lexemes of a line -/

/-- The lexemes of what follows `before` on a line. -/
def lexemesAfter (before : Option Char) (t : Text) : List Lexeme :=
  match t with
  | [] => []
  | c :: rest =>
    match kindAt before c rest with
    | some (kind, length) =>
      let taken := c :: rest.take length
      ⟨some kind, taken⟩ :: lexemesAfter taken.getLast? (rest.drop length)
    | none => ⟨none, [c]⟩ :: lexemesAfter (some c) rest
termination_by t.length

/-- The lexemes of a line. -/
def lexemes (line : Text) : List Lexeme := lexemesAfter none line

theorem lexemesAfter_text (before : Option Char) (t : Text) :
    (lexemesAfter before t).flatMap Lexeme.text = t := by
  fun_induction lexemesAfter before t with
  | case1 => rfl
  | case2 before c rest kind length _ taken ih =>
    rw [List.flatMap_cons, ih]
    exact congrArg (c :: ·) (List.take_append_drop length rest)
  | case3 before c rest _ ih =>
    rw [List.flatMap_cons, ih]
    rfl

/-- Nothing is lost: the lexemes of a line, one after the other, are the line. -/
theorem lexemes_text (line : Text) : (lexemes line).flatMap Lexeme.text = line :=
  lexemesAfter_text none line

end ErrorReport.Source
