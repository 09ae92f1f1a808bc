/-
# ErrorReport.Heuristic — recognising and presenting failures.

A heuristic knows one kind of failure. A catalogue is a list of heuristics, most specific first; the
first that matches is the one that presents the failure. The catchall `exception` matches anything
and belongs at the end.

A diagnosis is a failure seen through one heuristic, in one project. It has three sections: the
`summary` says what failed, the `windows` show the source that explains it, and the `backtrace`
shows one line for every frame with the method called from it pointed out. A heuristic can present
any failure, also one that it does not fit; then it shows what there is.
-/
import ErrorReport.Failure.Basic
import ErrorReport.Node.Tag
import ErrorReport.Project

namespace ErrorReport

/-! ## Recognising -/

/-- The kinds of failures that are known. -/
inductive Heuristic where
  | wrongNumberOfArguments
  | noMethodError
  | loadError
  | syntaxError
  | exception
  deriving DecidableEq, Repr, Inhabited

namespace Heuristic

/-- What a heuristic is called. -/
def name : Heuristic → Text
  | wrongNumberOfArguments => "WrongNumberOfArguments".toList
  | noMethodError => "NoMethodError".toList
  | loadError => "LoadError".toList
  | syntaxError => "SyntaxError".toList
  | exception => "Exception".toList

/-- The catalogue of all heuristics, the catchall last. -/
def all : List Heuristic :=
  [wrongNumberOfArguments, noMethodError, loadError, syntaxError, exception]

/-- The heuristic called by a name. -/
def ofName? (name : Text) : Option Heuristic := all.find? (·.name = name)

/-- A heuristic knows a failure by its class or by the facts in its message. -/
def fits (h : Heuristic) (f : Failure) : Bool :=
  match h with
  | wrongNumberOfArguments => f.counts?.isSome
  | noMethodError => f.classname = Failure.noMethodError
  | loadError => f.classname = Failure.loadError
  | syntaxError => f.brokenPlace?.isSome
  | exception => true

/-- The first heuristic of a catalogue that knows a failure. -/
def firstMatch? (catalogue : List Heuristic) (f : Failure) : Option Heuristic :=
  catalogue.find? (·.fits f)

end Heuristic

/-! ## Presenting -/

/-- A failure seen through a heuristic. -/
structure Diagnosis where
  heuristic : Heuristic
  failure : Failure
  project : Project
  deriving Inhabited

namespace Diagnosis

/-! ## Facts -/

/-- The counts of arguments; zero each if the message did not give them. -/
def counts (d : Diagnosis) : Failure.Arity := d.failure.counts?.getD ⟨0, 0⟩

/-- How the failure is explained. -/
def explanation (d : Diagnosis) : Text :=
  match d.heuristic with
  | .loadError =>
    match d.failure.unloadablePath? with
    | some path => "Couldn't load ".toList ++ path
    | none => d.failure.explanation
  | .syntaxError =>
    match d.failure.brokenPlace? with
    | some (_, reason) => reason
    | none => d.failure.explanation
  | _ => d.failure.explanation

/-! ## The summary -/

/-- The counts in words. -/
def countsText (counts : Failure.Arity) : Text :=
  "(expected ".toList ++ Text.ofNat counts.expected.toNat ++ ", sent ".toList ++
    Text.ofNat counts.received.toNat ++ ")".toList

/-- The explanation as a node. Counts of arguments are set off from it. -/
def headline (d : Diagnosis) : Node :=
  match d.heuristic with
  | .wrongNumberOfArguments =>
    .wrap .explanation (.seq [
      .text (d.explanation ++ [' ']), .wrap .details (.text (countsText d.counts))])
  | _ => .wrap .explanation (.text d.explanation)

/-- The section that names the failure: its class beside the explanation. -/
def summary (d : Diagnosis) : Node :=
  .wrap .summary (.columns [.wrap .classname (.text d.failure.classname), d.headline])

/-! ## Windows -/

/-- The lines around a location that are shown. -/
def around : LineRange := ⟨-5, 5⟩

/-- The lines of a definition that are shown. -/
def downward : LineRange := ⟨0, 5⟩

/-- The line of a location alone. -/
def onlyLine : LineRange := ⟨0, 0⟩

/-- A window onto the file that a location stands for in a project. -/
def windowAt (project : Project) (l : Location) (range : LineRange) : Window :=
  { location := { l with path := project.resolve l.path }, range }

/-- The window around the place where the exception was raised, if that is known. -/
def raisedWindow (d : Diagnosis) (highlight : Text) (message : Option Text) : Node :=
  match d.failure.raisedAt? with
  | some l =>
    .wrap .heuristic
      (.code { windowAt d.project l around with highlight := some highlight, message })
  | none => .null

/-- The method that was running where the exception was raised. -/
def raisedMethod (d : Diagnosis) : Text :=
  (d.failure.raisedAt?.map Location.methodName).getD []

/-- The definition of the method that was called, and the place it was called from. -/
def callWindows (d : Diagnosis) : Node :=
  match d.failure.backtrace with
  | [] => .null
  | definition :: callers =>
    let method := definition.methodName
    let expected := "EXPECTED ".toList ++ Text.ofNat d.counts.expected.toNat
    let sent := "SENT ".toList ++ Text.ofNat d.counts.received.toNat
    let defined : Window :=
      { windowAt d.project definition downward with
        highlight := some method, message := some expected }
    let called := callers.head?.map fun call =>
      { windowAt d.project call around with highlight := some method, message := some sent }
    .wrap .heuristic (.seq ((defined :: called.toList).map .code))

/-- The section with the source that explains the failure. -/
def windows (d : Diagnosis) : Node :=
  match d.heuristic with
  | .wrongNumberOfArguments => d.callWindows
  | .noMethodError =>
    match d.failure.undefinedMethodName? with
    | some name => d.raisedWindow name (some (name ++ " is undefined".toList))
    | none => d.raisedWindow d.raisedMethod none
  | .loadError =>
    match d.failure.unloadablePath? with
    | some path => d.raisedWindow path (some (path ++ " could not be loaded".toList))
    | none => d.raisedWindow [] none
  | .syntaxError =>
    match d.failure.brokenPlace? with
    | some (l, reason) =>
      .wrap .heuristic (.code { windowAt d.project l around with message := some reason })
    | none => .null
  | .exception => d.raisedWindow d.raisedMethod none

/-! ## The backtrace -/

/-- The window of a frame: its line, with the method called from it pointed out. Outside the
project only the path matters. -/
def frameWindow (project : Project) (called : Text) (l : Location) : Window :=
  { windowAt project l onlyLine with
    highlight := some called
    emphasis := if project.contains l.path then .code else .path }

/-- The windows of frames, where `called` is the method called from the first of them. -/
def frameWindows (project : Project) : Text → List Location → List Window
  | _, [] => []
  | called, l :: rest =>
    frameWindow project called l :: frameWindows project l.methodName rest

/-- The section with the frames. Nothing is known to be called from the innermost one. -/
def backtrace (d : Diagnosis) : Node :=
  .backtrace ((frameWindows d.project [] d.failure.backtrace).map .code)

/-- All sections of the report. -/
def report (d : Diagnosis) : Node := .seq [d.summary, d.windows, d.backtrace]

end Diagnosis

end ErrorReport
