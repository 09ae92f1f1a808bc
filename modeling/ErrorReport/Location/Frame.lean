/-
# ErrorReport.Location.Frame — reading the frames of a backtrace.

An interpreter writes a frame in one of three forms:

* `path:line:in 'label'`, where the label may also be opened by a grave accent;
* `label at path:line`;
* `path:line`, without a label.

They are tried in this order on the frame without the white space around it, and the first that
fits decides. A frame that fits in more than one way has the shortest first part that fits. The
digits may be of any script while the form is looked for, but only a positive number of 64 bits in
ASCII digits is a line number: `parse` says so rather than trying another form.
-/
import ErrorReport.Error
import ErrorReport.Location.Basic
import ErrorReport.Text.Class
import ErrorReport.Text.Cut

namespace ErrorReport.Location

/-- The parts of a frame before its line number has been read. -/
structure Parts where
  path : Text
  digits : Text
  label : Text
  deriving DecidableEq, Repr

/-! ## The three forms -/

/-- Reads `:line` up to the end of a frame. -/
def lineAtEnd? (t : Text) : Option Text := do
  let rest ← Text.after? [':'] t
  let (digits, rest) ← Text.leadingDigits rest
  if rest = [] then some digits else none

/-- Reads a label in quotation marks up to the end of a frame. -/
def labelAtEnd? : Text → Option Text
  | opening :: rest =>
    if (opening = Text.graveAccent || opening = Text.apostrophe) &&
        rest.getLast? = some Text.apostrophe then
      some rest.dropLast
    else none
  | [] => none

/-- Reads `:line:in 'label'` up to the end of a frame. -/
def lineAndLabelAtEnd? (t : Text) : Option (Text × Text) := do
  let rest ← Text.after? [':'] t
  let (digits, rest) ← Text.leadingDigits rest
  let rest ← Text.after? ":in ".toList rest
  let label ← labelAtEnd? rest
  return (digits, label)

/-- Reads a frame with the label in quotation marks behind the line number. -/
def labelLast? (frame : Text) : Option Parts := do
  let (path, digits, label) ← Text.cutAfter lineAndLabelAtEnd? frame
  return { path, digits, label }

/-- Reads a frame without a label. -/
def unlabelled? (frame : Text) : Option Parts := do
  let (path, digits) ← Text.cutAfter lineAtEnd? frame
  return { path, digits, label := [] }

/-- Reads a frame with the label in front, which does not start with white space. -/
def labelFirst? (frame : Text) : Option Parts := do
  if frame.head?.any Text.isBlank then none
  let (label, parts) ← Text.cutAfter (fun t => Text.after? " at ".toList t >>= unlabelled?) frame
  return { parts with label }

/-- Reads a frame in the first form that fits. No form goes beyond one line. -/
def parts? (frame : Text) : Option Parts :=
  if Text.isOneLine frame then
    labelLast? frame <|> labelFirst? frame <|> unlabelled? frame
  else none

/-! ## Frames -/

/-- Reads one frame of a backtrace. -/
def parse (raw : Text) : Except Error Location :=
  let frame := Text.trim raw
  match parts? frame with
  | none => .error (.frame .unrecognised frame)
  | some parts =>
    match Text.toWord? parts.digits with
    | none => .error (.frame .outOfRange frame)
    | some line =>
      if line = 0 then .error (.frame .notPositive frame)
      else .ok { path := ⟨parts.path⟩, line, label := parts.label }

/-- Reads the frames of a backtrace in order, leaving out those that cannot be read. -/
def parseAll (frames : List Text) : List Location :=
  frames.filterMap fun frame => (parse frame).toOption

end ErrorReport.Location
