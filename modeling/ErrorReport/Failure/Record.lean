/-
# ErrorReport.Failure.Record — an exception as the interpreter hands it over.

What is known of a raised exception before anything has been read out of it: its class, perhaps a
message, perhaps the raw frames of a backtrace. Some hosts take the backtrace off before they hand
the exception over; then the frames that were recorded where it was raised stand in for it.

A host process writes the exception as a JSON record with the fields `classname`, `message` and
`backtrace`, of which only the first is needed, and what it recorded at the raise site as a record
with the field `caller_backtrace`. Fields of other names are passed over.
-/
import ErrorReport.Json.Record

namespace ErrorReport

/-! ## Raised exceptions -/

/-- An exception as the interpreter reports it. -/
structure Raised where
  classname : Text
  message : Option Text := none
  /-- The raw frames, innermost first. -/
  backtrace : Option (List Text) := none
  deriving DecidableEq, Repr, Inhabited

/-- What was recorded at the place where an exception was raised. -/
structure RaiseSite where
  /-- The raw frames of the callers, innermost first. -/
  callers : Option (List Text) := none
  deriving DecidableEq, Repr, Inhabited

namespace Raised

/-- An exception with a message and a backtrace without frames. -/
def ofMessage (classname message : Text) : Raised :=
  { classname, message := some message, backtrace := some [] }

/-- The exception with other frames. -/
def withBacktrace (r : Raised) (frames : List Text) : Raised :=
  { r with backtrace := some frames }

/-- The frames of an exception: its own if it has a list of them, even an empty one, and otherwise
those of its callers. -/
def frames? (r : Raised) (site : RaiseSite) : Option (List Text) :=
  r.backtrace <|> site.callers

end Raised

/-! ## Records -/

/-- An exception of which not all has been read. -/
structure Raised.Draft where
  classname : Option Text := none
  message : Option Text := none
  backtrace : Option (List Text) := none

/-- The form of the record of an exception. -/
def Raised.recordForm : Json.RecordForm Raised.Draft where
  fields := [
    .of "classname".toList Json.string fun d s => { d with classname := some s },
    .of "message".toList (Json.nullable Json.string) fun d s => { d with message := s },
    .of "backtrace".toList (Json.nullable (Json.list Json.string)) fun d b =>
      { d with backtrace := b }]
  allowsOthers := true
  isComplete := fun d => d.classname.isSome

/-- Reads the record of an exception. -/
def Raised.ofJson (t : Text) : Except Json.Fault Raised := do
  let draft ← Json.document (recordForm.read {}) t
  match draft.classname with
  | some classname =>
    return { classname, message := draft.message, backtrace := draft.backtrace }
  | none => .error .mismatched

/-- The form of the record of a raise site. -/
def RaiseSite.recordForm : Json.RecordForm RaiseSite where
  fields := [
    .of "caller_backtrace".toList (Json.nullable (Json.list Json.string)) fun _ callers =>
      { callers }]
  allowsOthers := true

/-- Reads the record of a raise site. -/
def RaiseSite.ofJson (t : Text) : Except Json.Fault RaiseSite :=
  Json.document (recordForm.read {}) t

end ErrorReport
