/-
# ErrorReport.Terminal.Style — how painted text looks.

A style is a set of attributes with at most one colour in front and one behind. Painting puts the
text between the sequence of the style and a reset. Since a reset ends every style, not only the
one it belongs to, the sequence is repeated after each reset that the text already holds: text
painted inside painted text leaves the outer style as it found it.

The second half of the module is the palette of the reports: one style for each thing that is
painted.
-/
import ErrorReport.Terminal.Sgr
import ErrorReport.Text.Class

namespace ErrorReport.Terminal

/-! ## Styles -/

/-- The colours in use. -/
inductive Colour where
  | red | green | yellow | blue | magenta | cyan | white
  | brightBlack | brightRed | brightCyan | brightWhite
  deriving DecidableEq, Repr

/-- The parameter that sets a colour in front; ten more sets it behind. -/
def Colour.code : Colour → Nat
  | red => 31
  | green => 32
  | yellow => 33
  | blue => 34
  | magenta => 35
  | cyan => 36
  | white => 37
  | brightBlack => 90
  | brightRed => 91
  | brightCyan => 96
  | brightWhite => 97

/-- A way to show text. -/
structure Style where
  bold : Bool := false
  dimmed : Bool := false
  underlined : Bool := false
  reversed : Bool := false
  background : Option Colour := none
  foreground : Option Colour := none
  deriving DecidableEq, Repr

namespace Style

/-- The parameters of a style: attributes first, then the colour behind, then the one in front. -/
def codes (s : Style) : List Nat :=
  (if s.bold then [1] else []) ++ (if s.dimmed then [2] else []) ++
    (if s.underlined then [4] else []) ++ (if s.reversed then [7] else []) ++
    (s.background.map (·.code + 10)).toList ++ (s.foreground.map (·.code)).toList

/-- The sequence that turns a style on. -/
def opening (s : Style) : Text := sgr ([';'].intercalate (s.codes.map Text.ofNat))

/-- Repeats a sequence after every reset in a text. -/
def reopen (opening : Text) : Text → Text
  | '\x1b' :: '[' :: '0' :: 'm' :: rest => reset ++ opening ++ reopen opening rest
  | c :: rest => c :: reopen opening rest
  | [] => []

/-- A text in a style. The style without attributes leaves a text as it is. -/
def paint (s : Style) (t : Text) : Text :=
  if s = {} then t else s.opening ++ reopen s.opening t ++ reset

/-! ## The palette -/

/-- Draws the eye without alarm. -/
def brightWhite : Style := { foreground := some .brightWhite }

/-- Says that something is wrong. -/
def brightRed : Style := { foreground := some .brightRed }

/-- Belongs to what is wrong, but comes second. -/
def dimRed : Style := { dimmed := true, foreground := some .red }

/-- Class names. -/
def classname : Style := brightWhite

/-- Messages. -/
def message : Style := brightRed

/-- Explanations. -/
def explanation : Style := brightRed

/-- What surrounds something. -/
def context : Style := { foreground := some .white }

/-- What can be passed over. -/
def details : Style := dimRed

/-- Rules between sections and dividers between columns. -/
def rule : Style := { foreground := some .brightBlack }

/-- The directory of a file. -/
def directory : Style := { foreground := some .cyan }

/-- The name of a file. -/
def fileName : Style := { bold := true, foreground := some .brightCyan }

/-- Line numbers. -/
def lineNumber : Style := { foreground := some .yellow }

/-- The line number that a window points at. -/
def markedLineNumber : Style := { bold := true, foreground := some .brightRed }

/-- The header of a window that matters for its path only. -/
def header : Style := { underlined := true }

/-- Tokens that are pointed out in the source. -/
def highlight : Style := { reversed := true }

/-- Source without colours. -/
def faint : Style := { dimmed := true }

/-- Messages inside the source. -/
def scream : Style := { bold := true, background := some .red, foreground := some .brightWhite }

end Style

end ErrorReport.Terminal
