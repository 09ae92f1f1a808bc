/-
# ErrorReport.Failure.Basic — what an exception tells.

A `Failure` is a raised exception with everything read out of it: its class, an explanation, the
locations of its backtrace and the details that its message gives away. A message about the number
of arguments is read for every class; the other wordings only for the class that uses them.

`ofRaised` needs a message and a list of frames; `isReadable` says beforehand whether they are
there.
-/
import ErrorReport.Failure.Message
import ErrorReport.Failure.Record
import ErrorReport.Location.Frame

namespace ErrorReport

/-- The facts that the message of an exception gives away. -/
inductive Failure.Details where
  | generic
  | arity (counts : Failure.Arity)
  | undefinedMethod (name : Text)
  | unloadable (path : Text)
  /-- The broken line is named in the message; it need not be in the backtrace. -/
  | brokenSource (location : Location) (reason : Text)
  deriving DecidableEq, Repr, Inhabited

/-- What is known about a raised exception. -/
structure Failure where
  classname : Text
  explanation : Text
  /-- The locations of the backtrace, innermost first. -/
  backtrace : List Location
  details : Failure.Details
  deriving DecidableEq, Repr, Inhabited

namespace Failure

/-- The class of exceptions for undefined methods. -/
def noMethodError : Text := "NoMethodError".toList

/-- The class of exceptions for files that cannot be loaded. -/
def loadError : Text := "LoadError".toList

/-- The class of exceptions for source that cannot be read. -/
def syntaxError : Text := "SyntaxError".toList

/-- The details that only exceptions of one class have. -/
def classDetails (classname message : Text) : Details :=
  if classname = noMethodError then
    (undefinedMethod? message).elim .generic .undefinedMethod
  else if classname = loadError then
    (unloadable? message).elim .generic .unloadable
  else if classname = syntaxError then
    (brokenSource? message).elim .generic fun (location, reason) => .brokenSource location reason
  else .generic

/-- The details of an exception. Counts of arguments come first, whatever the class. -/
def detailsOf (classname message : Text) : Details :=
  (arity? message).elim (classDetails classname message) .arity

/-- How a failure is explained: in the words of its message, except that counts of arguments are
shown apart from the explanation. -/
def explanationOf (message : Text) : Details → Text
  | .arity _ => "Wrong number of arguments".toList
  | _ => message

/-- An exception can be read if it has a message and frames. -/
def isReadable (raised : Raised) (site : RaiseSite) : Bool :=
  raised.message.isSome && (raised.frames? site).isSome

/-- Reads an exception. A missing message is reported before missing frames. -/
def ofRaised (raised : Raised) (site : RaiseSite) : Except Error Failure :=
  match raised.message, raised.frames? site with
  | none, _ => .error (.noMessage raised.classname)
  | some _, none => .error (.noBacktrace raised.classname)
  | some message, some frames =>
    let details := detailsOf raised.classname message
    .ok {
      classname := raised.classname
      explanation := explanationOf message details
      backtrace := Location.parseAll frames
      details }

/-! ## Questions about a failure -/

/-- The innermost location, where the exception was raised. -/
def raisedAt? (f : Failure) : Option Location := f.backtrace.head?

/-- The counts of arguments, if the message gave them. -/
def counts? (f : Failure) : Option Arity :=
  match f.details with
  | .arity counts => some counts
  | _ => none

/-- The undefined method, if the message named it. -/
def undefinedMethodName? (f : Failure) : Option Text :=
  match f.details with
  | .undefinedMethod name => some name
  | _ => none

/-- The file that cannot be loaded, if the message named it. -/
def unloadablePath? (f : Failure) : Option Text :=
  match f.details with
  | .unloadable path => some path
  | _ => none

/-- The broken place in the source and what is wrong there, if the message named them. -/
def brokenPlace? (f : Failure) : Option (Location × Text) :=
  match f.details with
  | .brokenSource location reason => some (location, reason)
  | _ => none

/-! ## Sameness -/

/-- The same facts, up to the spelling of paths. -/
def Details.same : Details → Details → Bool
  | .brokenSource l r, .brokenSource l' r' => l.same l' && r = r'
  | d, d' => d = d'

/-- Lists of the same locations. -/
def sameBacktrace : List Location → List Location → Bool
  | [], [] => true
  | a :: as, b :: bs => a.same b && sameBacktrace as bs
  | _, _ => false

/-- The same account of an exception, up to the spelling of paths. -/
def same (f g : Failure) : Bool :=
  f.classname = g.classname && f.explanation = g.explanation &&
    sameBacktrace f.backtrace g.backtrace && f.details.same g.details

end Failure

end ErrorReport
