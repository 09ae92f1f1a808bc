/-
# ErrorReport.Error — what can go wrong, and how it is said.

Every failure of this library apart from a fault in JSON text is a value of `Error`: it names the
cause and carries what the message has to show. `Error.message` is the only place where causes are
put into words.
-/
import ErrorReport.Text.Quoted

namespace ErrorReport

/-- What is wrong with a frame of a backtrace. -/
inductive FrameFault where
  /-- The frame has none of the known forms. -/
  | unrecognised
  /-- Its line number is not a number of 64 bits in ASCII digits. -/
  | outOfRange
  /-- Its line number is zero; lines are counted from one. -/
  | notPositive
  deriving DecidableEq, Repr

/-- The failures of this library. -/
inductive Error where
  /-- A frame cannot be read. The frame is shown without the white space around it. -/
  | frame (fault : FrameFault) (line : Text)
  /-- A code window was asked for by name, without saying what it shows. -/
  | bareCodeTag
  /-- A node was asked for by a name that is no tag. -/
  | unknownTag (tag : Text)
  /-- The exception has no message. -/
  | noMessage (classname : Text)
  /-- Neither the exception nor the place where it was raised has a backtrace. -/
  | noBacktrace (classname : Text)
  /-- The exception is not one that is explained. -/
  | notAccepted (classname : Text)
  /-- The exception is accepted, but no heuristic of the catalogue knows its shape. -/
  | noHeuristic (classname : Text)
  deriving DecidableEq, Repr

namespace FrameFault

/-- What is wrong with a frame, in words. -/
def message : FrameFault → Text
  | unrecognised => "unrecognised backtrace frame: ".toList
  | outOfRange => "line number out of range in frame: ".toList
  | notPositive => "line number must be positive in frame: ".toList

end FrameFault

namespace Error

/-- A failure in words. -/
def message : Error → Text
  | frame fault line => "parse error: ".toList ++ fault.message ++ Text.quoted line
  | bareCodeTag => "parse error: code nodes are built from a CodeRequest".toList
  | unknownTag tag => "unknown semantic tag: ".toList ++ tag
  | noMessage classname =>
    "exception is not parseable: ".toList ++ classname ++ " has no message".toList
  | noBacktrace classname =>
    "exception is not parseable: ".toList ++ classname ++ " has no backtrace".toList
  | notAccepted classname =>
    "asked for a heuristic on an exception that is not accepted: ".toList ++ classname
  | noHeuristic classname =>
    "no heuristic matched ".toList ++ classname ++
      "; is the catchall missing from the list?".toList

end Error

end ErrorReport
