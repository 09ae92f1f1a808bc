/-
# ErrorReport.Window.Render — windows as text.

A rendered window is a header, which names the file and the line, and a block: the numbered source
lines, or a placeholder if the file cannot be read. The block is built row by row. Each source line
is moved to the left with the others, coloured, and put behind a gutter with its number; an arrow in
the gutter marks the line of the location, where the message of the window is added and its token
pointed out.

Where only the path matters, the header is underlined and the block is moved to the right and loses
its colours; the token is then pointed out once more.
-/
import ErrorReport.Path.Basic
import ErrorReport.Terminal.Theme
import ErrorReport.Window.Basic

namespace ErrorReport

/-- The files that can be read: the octets at a path, looked up by its text. -/
abbrev Files := Path → Option Text.Octets

/-- Everything that rendering depends on besides what is rendered. -/
structure View where
  theme : Terminal.Theme
  /-- The directory that paths are shown relative to. -/
  directory : Path
  files : Files

namespace Window

/-! ## The header -/

/-- The directory of a file as seen from another: relative if it lies below, absolute otherwise. -/
def directoryFrom (base path : Path) : Path :=
  let whole := base.join path
  let parent := whole.parent?.getD .empty
  match parent.relativeTo? base with
  | some below => if below.text = [] then .here else below
  | none => parent

/-- The header of a window: directory, file and line number. -/
def header (v : View) (l : Location) : Text :=
  v.theme.paint .directory ((directoryFrom v.directory l.path).text ++ ['/']) ++
    v.theme.paint .fileName l.fileName ++
    ':' :: v.theme.paint .lineNumber (Text.ofNat l.line.toNat)

/-! ## The rows -/

/-- The source lines of a file, without their newlines. -/
def sourceLines (octets : Text.Octets) : List Text :=
  (Text.lines (Text.Utf8.decode octets)).map Text.body

/-- Lines with their numbers. -/
def numbered : UInt64 → List Text → List (UInt64 × Text)
  | _, [] => []
  | n, line :: lines => (n, line) :: numbered (n + 1) lines

/-- How wide the gutter of a window is: the digits of the last line number, the arrow or its room,
and a colon. -/
def gutterWidth (firstLine : UInt64) (count : Nat) : Nat :=
  (Text.ofNat (saturatingSub (firstLine + UInt64.ofNat count) 1).toNat).length + 4

/-- The gutter in front of a line, padded on the right. -/
def gutter (width : Nat) (marked : Bool) (n : UInt64) : Text :=
  let t := (if marked then "-> ".toList else "   ".toList) ++ Text.ofNat n.toNat ++ [':']
  t ++ List.replicate (width - t.length) ' '

/-- A numbered line as a row. -/
def row (θ : Terminal.Theme) (w : Window) (width : Nat) (n : UInt64) (line : Text) : Text :=
  let marked := w.mark && n = w.location.line
  -- a marked gutter is painted twice, so the mark shows inside the colour of line numbers
  let g := gutter width marked n
  let g := if marked then θ.paint .markedLineNumber g else g
  θ.paint .lineNumber g ++ ' ' :: line

/-- The rows of a window onto the lines of a file, without its message. -/
def rows (θ : Terminal.Theme) (w : Window) (lines : List Text) : List Text :=
  let shown := (dedent (w.select lines)).map θ.coloured
  let width := gutterWidth w.firstLine shown.length
  (numbered w.firstLine shown).map fun (n, line) => w.row θ width n line

/-- Adds the message of a window to the row of its location. -/
def annotate (θ : Terminal.Theme) (w : Window) (rows : List Text) : List Text :=
  match w.target?, w.message with
  | some target, some message =>
    rows.mapIdx fun i row => if i = target then row ++ ' ' :: θ.paint .scream message else row
  | _, _ => rows

/-- Points out the token of a window on the row of its location. -/
def pointOut (θ : Terminal.Theme) (w : Window) (block : Text) : Text :=
  match w.target? with
  | some target => θ.highlight target w.token block
  | none => block

/-! ## The block -/

/-- Stands for the source of a file that cannot be read. -/
def placeholder : Text := "Can't find code\n".toList

/-- How far a block is moved where only the path matters. -/
def margin : Text := List.replicate 6 ' '

/-- The block of a window whose code matters. -/
def block (v : View) (w : Window) : Text :=
  match v.files w.location.path with
  | some octets =>
    w.pointOut v.theme (Text.unlines (w.annotate v.theme (w.rows v.theme (sourceLines octets))))
  | none => placeholder

/-- The text of a window. -/
def render (v : View) (w : Window) : Text :=
  match w.emphasis with
  | .code => header v w.location ++ Text.newline :: w.block v
  | .path =>
    let faded := v.theme.faded (Terminal.Theme.indented margin (w.block v))
    -- fading took the highlight out with everything else
    v.theme.paint .header (header v w.location) ++ Text.newline :: w.pointOut v.theme faded

end Window

end ErrorReport
