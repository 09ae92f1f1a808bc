/-
# ErrorReport.Text.Basic — text is a list of characters.

Everything this library reads and writes, apart from the octets of a source file, is text: frames,
messages, paths, reports. Text is handled as the list of its characters, so that cutting, searching
and joining are the list operations, and a statement about a report is a statement about a list.

The few characters that the syntax of frames, paths and terminal output turns on have names here.

Source files are decoded without ever failing: where the octets stop being UTF-8, one replacement
character stands for the longest piece that could still have begun a character, and reading goes on
at the octet that ruled the piece out. The machine goes octet by octet; between two octets it
knows the continuation octets that are still owed and the range of the next one, which is what keeps
overlong forms, surrogates and numbers beyond the last code point from being accepted.
-/

namespace ErrorReport

/-- Text is the list of its characters. -/
abbrev Text := List Char

namespace Text

/-! ## Characters and beginnings -/

/-- Ends a line. -/
def newline : Char := '\n'

/-- Opens every terminal escape sequence. -/
def escape : Char := '\x1b'

/-- The quotation mark that closes a label, and nowadays opens it too. -/
def apostrophe : Char := '\x27'

/-- The quotation mark with which older interpreters open a label. -/
def graveAccent : Char := '\x60'

/-- The character is one of the 128 of ASCII. -/
def isAscii (c : Char) : Bool := c.toNat < 128

/-- The text stays within one line. -/
def isOneLine (t : Text) : Bool := !t.contains newline

/-- What follows `lead` in a text that starts with it. -/
def after? (lead t : Text) : Option Text :=
  if lead.isPrefixOf t then some (t.drop lead.length) else none

/-- What follows `lead` is exactly what one has to put behind it to get the text. -/
theorem after?_eq_some {lead t rest : Text} : after? lead t = some rest ↔ t = lead ++ rest := by
  unfold after?
  split
  · next h =>
    obtain ⟨r, rfl⟩ := List.isPrefixOf_iff_prefix.1 h
    simp
  · next h =>
    simp only [reduceCtorEq, false_iff]
    rintro rfl
    exact h (List.isPrefixOf_iff_prefix.2 (List.prefix_append _ _))

/-! ## The text of octets -/

/-- The octets of a file. -/
abbrev Octets := List UInt8

namespace Utf8

/-- Stands for octets that are no character. -/
def replacement : Char := '\uFFFD'

/-- A character that has begun: the bits read so far, how many octets are owed after the next one,
and the least and the greatest octet that may come next. -/
structure Partial where
  bits : Nat
  owed : Nat
  low : UInt8 := 0x80
  high : UInt8 := 0xBF

/-- What an octet says between two characters. -/
inductive Lead where
  | whole (c : Char)
  | opens (p : Partial)
  | invalid

/-- Reads an octet that stands between two characters. -/
def lead (b : UInt8) : Lead :=
  if b < 0x80 then .whole (Char.ofNat b.toNat)
  else if b < 0xC2 then .invalid
  else if b < 0xE0 then .opens { bits := b.toNat - 0xC0, owed := 0 }
  else if b = 0xE0 then .opens { bits := 0, owed := 1, low := 0xA0 }
  else if b = 0xED then .opens { bits := 0xD, owed := 1, high := 0x9F }
  else if b < 0xF0 then .opens { bits := b.toNat - 0xE0, owed := 1 }
  else if b = 0xF0 then .opens { bits := 0, owed := 2, low := 0x90 }
  else if b < 0xF4 then .opens { bits := b.toNat - 0xF0, owed := 2 }
  else if b = 0xF4 then .opens { bits := 4, owed := 2, high := 0x8F }
  else .invalid

/-- The text and the character begun after an octet that stands between two characters. -/
def start (b : UInt8) : Text × Option Partial :=
  match lead b with
  | .whole c => ([c], none)
  | .opens p => ([], some p)
  | .invalid => ([replacement], none)

/-- One octet: the text it completes and the character that is open after it. -/
def step : Option Partial → UInt8 → Text × Option Partial
  | none, b => start b
  | some p, b =>
    if p.low ≤ b && b ≤ p.high then
      let bits := 64 * p.bits + (b.toNat - 0x80)
      match p.owed with
      | 0 => ([Char.ofNat bits], none)
      | owed + 1 => ([], some { bits, owed })
    else
      -- the octet does not belong to the open character, but may begin one of its own
      let (t, next) := start b
      (replacement :: t, next)

/-- Decodes octets after an open character. -/
def decodeFrom : Option Partial → Octets → Text
  | none, [] => []
  | some _, [] => [replacement]
  | p, b :: rest =>
    let (t, next) := step p b
    t ++ decodeFrom next rest

/-- The text of a file's octets. -/
def decode (octets : Octets) : Text := decodeFrom none octets

end Utf8

end Text

end ErrorReport
