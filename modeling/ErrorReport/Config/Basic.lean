/-
# ErrorReport.Config.Basic — settings, and explaining exceptions.

Settings are written in JSON text. They choose the theme, name further classes of exceptions that are
not explained, and describe the project. Every setting may be missing; a field of any other name is
refused.

A configuration says which heuristics are tried, which classes of exceptions are left alone, how
reports look and where the user's code lives. An exception is *accepted* if it can be read, its
class is not left alone and some heuristic fits it. `diagnose` gives the diagnosis of an accepted
exception and `explain` its report; for an exception that is not accepted the first fails and the
second has nothing to say.
-/
import ErrorReport.Heuristic
import ErrorReport.Json.Record
import ErrorReport.Node.Render

namespace ErrorReport

/-! ## Settings -/

/-- What can be set. -/
structure Settings where
  theme : Terminal.ThemeName := .ansi
  /-- Classes of exceptions that are not explained, besides those that never are. -/
  blacklist : List Text := []
  projectRoot : Option Path := none
  loadedFiles : List Path := []
  deriving DecidableEq, Repr, Inhabited

namespace Settings

/-- Reads a path. -/
def path : Json.Reader Path := fun t => do
  let (s, rest) ← Json.string t
  return (⟨s⟩, rest)

/-- The form of the record of settings. -/
def recordForm : Json.RecordForm Settings where
  fields := [
    .of "theme".toList (Json.choice Terminal.ThemeName.byName) fun s theme => { s with theme },
    .of "blacklist".toList (Json.list Json.string) fun s blacklist => { s with blacklist },
    .of "project_root".toList (Json.nullable path) fun s root => { s with projectRoot := root },
    .of "loaded_files".toList (Json.list path) fun s files => { s with loadedFiles := files }]
  allowsOthers := false

/-- Reads settings. -/
def ofJson (t : Text) : Except Json.Fault Settings :=
  Json.document (recordForm.read {}) t

end Settings

/-! ## Configurations -/

/-- How exceptions are explained. -/
structure Config where
  heuristics : List Heuristic := Heuristic.all
  /-- Classes of exceptions that are not explained. -/
  blacklist : List Text := ["SystemExit".toList]
  theme : Terminal.Theme := {}
  project : Project := {}
  deriving Inhabited

/-- The part of the system that reports depend on. -/
structure Host where
  /-- The directory in which the program runs. -/
  workingDirectory : Path
  files : Files

namespace Config

/-- The configuration that settings describe. They add to the classes that are never explained. Of
several spellings of a loaded file the last stays. -/
def ofSettings (s : Settings) : Config where
  blacklist := ({} : Config).blacklist ++ s.blacklist
  theme := { name := s.theme }
  project := {
    root := s.projectRoot
    loadedFiles := s.loadedFiles.foldl PathSet.replace .empty }

/-- The class of a failure is left alone. -/
def isBlacklisted (c : Config) (f : Failure) : Bool := c.blacklist.contains f.classname

/-- An exception is explained. -/
def accepts (c : Config) (raised : Raised) (site : RaiseSite) : Bool :=
  match Failure.ofRaised raised site with
  | .ok f => !c.isBlacklisted f && (Heuristic.firstMatch? c.heuristics f).isSome
  | .error _ => false

/-- The diagnosis of an accepted exception by the first heuristic that fits. -/
def diagnose (c : Config) (raised : Raised) (site : RaiseSite) : Except Error Diagnosis := do
  if !c.accepts raised site then throw (.notAccepted raised.classname)
  let failure ← Failure.ofRaised raised site
  match Heuristic.firstMatch? c.heuristics failure with
  | some heuristic => return { heuristic, failure, project := c.project }
  | none => throw (.noHeuristic failure.classname)

/-- The report of a diagnosis, with paths shown relative to a directory. -/
def format (c : Config) (host : Host) (directory : Path) (d : Diagnosis) : Text :=
  d.report.render {
    theme := c.theme
    directory := Path.absoluteFrom host.workingDirectory directory
    files := host.files }

/-- The report of an exception, if it is accepted. -/
def explain (c : Config) (host : Host) (raised : Raised) (site : RaiseSite) (directory : Path) :
    Except Error (Option Text) :=
  if c.accepts raised site then do
    let d ← c.diagnose raised site
    return some (c.format host directory d)
  else .ok none

end Config

end ErrorReport
