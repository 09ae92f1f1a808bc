/-
# ErrorReport.Window.Basic — windows onto source files, and the lines they show.

A window asks for the source lines around a location: from which line to which, relative to the
location, what to point out on its line, what to say there, and whether the code or only the path
matters.

Lines are counted from one and indexed from zero, line numbers are words of 64 bits and offsets are
signed words. The index of a line and the sum of an index and an offset saturate at the ends of the
signed range instead of wrapping around, and what lies before the first line becomes the first line.
A line number so large that no file can have such a line gives a window without lines.

The lines that are shown are moved to the left by the shortest indentation among them; of several
indentations of that length the first counts. A line that starts with something else, as can happen
where tabs and spaces are mixed, stays where it is.
-/
import ErrorReport.Location.Basic

namespace ErrorReport

/-- What matters in a window: the code, or only the path of its file. -/
inductive Emphasis where
  | code
  | path
  deriving DecidableEq, Repr, Inhabited

/-- What an emphasis is called. -/
def Emphasis.name : Emphasis → Text
  | code => "code".toList
  | path => "path".toList

/-- The emphasis called by a name. -/
def Emphasis.ofName? (name : Text) : Option Emphasis :=
  [Emphasis.code, .path].find? (·.name = name)

/-- Lines relative to that of a location, first and last. -/
structure LineRange where
  first : Int64
  last : Int64
  deriving DecidableEq, Repr, Inhabited

/-- A window onto the source around a location. -/
structure Window where
  location : Location
  range : LineRange
  /-- The token to point out on the line of the location; its label if there is none. -/
  highlight : Option Text := none
  /-- What to say on the line of the location. -/
  message : Option Text := none
  /-- An arrow points at the line of the location. -/
  mark : Bool := true
  emphasis : Emphasis := .code
  deriving DecidableEq, Repr, Inhabited

/-- The token that a window points out. -/
def Window.token (w : Window) : Text := w.highlight.getD w.location.label

/-! ## Which lines are shown -/

/-- The nearest signed word to the sum of two. -/
def saturatingAdd (a b : Int64) : Int64 := Int64.ofIntClamp (a.toInt + b.toInt)

/-- The index of a line, saturating at the largest signed word less one. Line zero, which no file
has, has the index before the first. -/
def lineIndex (line : UInt64) : Int64 :=
  saturatingAdd (Int64.ofIntClamp line.toNat) (-1)

/-- The index of the line at an offset from a line, but not before the first line. -/
def edgeIndex (line : UInt64) (offset : Int64) : UInt64 :=
  let index := saturatingAdd (lineIndex line) offset
  if index < 0 then 0 else index.toUInt64

/-- The difference of two words, or zero if it is negative. -/
def saturatingSub (a b : UInt64) : UInt64 := if b ≤ a then a - b else 0

/-- On numbers, saturating subtraction is truncated subtraction. -/
theorem toNat_saturatingSub (a b : UInt64) : (saturatingSub a b).toNat = a.toNat - b.toNat := by
  unfold saturatingSub
  split
  · next h => exact UInt64.toNat_sub_of_le a b h
  · next h =>
    rw [UInt64.le_iff_toNat_le] at h
    simp only [UInt64.toNat_zero]
    omega

namespace Window

/-- The index of the first line shown. -/
def start (w : Window) : UInt64 := edgeIndex w.location.line w.range.first

/-- The index of the last line shown, if the file is long enough. -/
def stop (w : Window) : UInt64 := edgeIndex w.location.line w.range.last

/-- How many lines are shown, if the file is long enough. -/
def count (w : Window) : UInt64 := saturatingSub (w.stop + 1) w.start

/-- The number of the first line shown. -/
def firstLine (w : Window) : UInt64 := w.start + 1

/-- Where the line of the location is among the lines shown, unless it comes before them. Line zero
counts as the first. -/
def target? (w : Window) : Option Nat :=
  let index := saturatingSub w.location.line 1
  if w.start ≤ index then some (index - w.start).toNat else none

/-- The lines to show out of all lines of a file. -/
def select (w : Window) (lines : List Text) : List Text :=
  (lines.drop w.start.toNat).take w.count.toNat

/-! ## Indentation -/

/-- A character of indentation. -/
def isIndent (c : Char) : Bool := c = ' ' || c = '\r' || c = '\t'

/-- What a line starts with before its first other character. -/
def indentation (line : Text) : Text := line.takeWhile isIndent

/-- The first of the shortest texts. -/
def shortest : List Text → Text
  | [] => []
  | t :: ts => ts.foldl (fun least t => if t.length < least.length then t else least) t

/-- The lines without the shortest indentation among them. -/
def dedent (lines : List Text) : List Text :=
  let shared := shortest (lines.map indentation)
  lines.map fun line => (Text.after? shared line).getD line

end Window

end ErrorReport
