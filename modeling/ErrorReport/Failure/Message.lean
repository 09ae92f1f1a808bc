/-
# ErrorReport.Failure.Message — what the messages of common exceptions say.

Interpreters put facts into the wording of a message: how many arguments were passed and expected,
which method is undefined, which file could not be loaded, where the source is broken. Each reader
here knows one wording and gives the facts, or nothing if the message is worded differently.

The counts of a message about arguments are named, since they are written in the order *received,
expected* and it is easy to swap them.
-/
import ErrorReport.Location.Basic
import ErrorReport.Text.Class
import ErrorReport.Text.Cut

namespace ErrorReport.Failure

/-! ## Numbers of arguments -/

/-- How many arguments a method got and how many it wants. -/
structure Arity where
  received : UInt64
  expected : UInt64
  deriving DecidableEq, Repr, Inhabited

/-- Reads `(received for expected)` up to the end of a message. -/
def countsAtEnd? (t : Text) : Option (Text × Text) := do
  let rest ← Text.after? ['('] t
  let (received, rest) ← Text.leadingDigits rest
  let rest ← Text.after? " for ".toList rest
  let (expected, rest) ← Text.leadingDigits rest
  if rest = [')'] then some (received, expected) else none

/-- Reads `wrong number of arguments … (received for expected)`. -/
def countsInParentheses? (message : Text) : Option (Text × Text) := do
  let rest ← Text.after? "wrong number of arguments".toList message
  let (_, counts) ← Text.cutAt countsAtEnd? rest
  return counts

/-- Reads ` expected ` and a number up to the end of a message. -/
def expectedAtEnd? (t : Text) : Option Text := do
  let rest ← Text.after? " expected ".toList t
  let (expected, rest) ← Text.leadingDigits rest
  if rest = [] then some expected else none

/-- Reads `': given received … expected expected` up to the end of a message. -/
def givenAtEnd? (t : Text) : Option (Text × Text) := do
  let rest ← Text.after? "': given ".toList t
  let (received, rest) ← Text.leadingDigits rest
  let (_, expected) ← Text.cutAt expectedAtEnd? rest
  return (received, expected)

/-- Reads `method 'name': given received … expected expected`. -/
def countsAfterName? (message : Text) : Option (Text × Text) := do
  let rest ← Text.after? "method '".toList message
  let (_, counts) ← Text.cutAt givenAtEnd? rest
  return counts

/-- The two counts as words. -/
def Arity.ofDigits? (counts : Text × Text) : Option Arity := do
  return { received := ← Text.toWord? counts.1, expected := ← Text.toWord? counts.2 }

/-- The counts of a message about a wrong number of arguments, which is a single line. -/
def arity? (message : Text) : Option Arity :=
  if Text.isOneLine message then
    (countsInParentheses? message >>= Arity.ofDigits?) <|>
      (countsAfterName? message >>= Arity.ofDigits?)
  else none

/-! ## Undefined methods -/

/-- Reads a name in quotation marks at the start of a text; the name is not empty and holds no
apostrophe. -/
def leadingName? : Text → Option Text
  | opening :: rest =>
    let name := rest.takeWhile (· != Text.apostrophe)
    if (opening = Text.graveAccent || opening = Text.apostrophe) &&
        !name.isEmpty && rest.contains Text.apostrophe then
      some name
    else none
  | [] => none

/-- The method that a message calls undefined. -/
def undefinedMethod? (message : Text) : Option Text := do
  let rest ← Text.after? "undefined ".toList message
  let rest ← Text.after? "method ".toList rest <|>
    Text.after? "local variable or method ".toList rest
  leadingName? rest

/-! ## Files that cannot be loaded -/

/-- The file that a message says cannot be loaded. -/
def unloadable? (message : Text) : Option Text := do
  let rest ← Text.after? "cannot load such file -- ".toList message
  if !rest.isEmpty && Text.isOneLine rest then some (Text.trim rest) else none

/-! ## Broken source -/

/-- Reads `:line: reason` up to the end of a line. -/
def lineAndReason? (t : Text) : Option (Text × Text) := do
  let rest ← Text.after? [':'] t
  let (digits, rest) ← Text.leadingDigits rest
  let reason ← Text.after? ": ".toList rest
  return (digits, reason)

/-- The place in the source that the first line of a message names, and what is wrong there. -/
def brokenSource? (message : Text) : Option (Location × Text) := do
  let first ← Text.firstLine? message
  let (path, digits, reason) ← Text.cutAfter lineAndReason? first
  -- a number that is no line does not make another cut acceptable
  let line ← Text.toWord? digits
  if line = 0 then none
  else some ({ path := ⟨path⟩, line }, Text.trim reason)

end ErrorReport.Failure
