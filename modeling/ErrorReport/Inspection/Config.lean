/-
# ErrorReport.Inspection.Config — configurations laid out for a developer.

Shows the heuristics by their names and the project; how exceptions are left alone and how reports
look is not shown.
-/
import ErrorReport.Config.Basic
import ErrorReport.Inspection.Failure

namespace ErrorReport

/-- A path, as it was written. -/
def Path.inspect (p : Path) : Inspection := .text p.text

/-- A project, field by field. -/
def Project.inspect (p : Project) : Inspection :=
  .record "Project".toList [
    .labelled "root".toList (.option (p.root.map Path.inspect)),
    .labelled "loaded_files".toList (.set (p.loadedFiles.toList.map Path.inspect))]

/-- A configuration, field by field. -/
def Config.inspect (c : Config) : Inspection :=
  .record "Config".toList [
    .labelled "heuristics".toList (.list (c.heuristics.map fun h => .text h.name)),
    .labelled "project".toList c.project.inspect] true

end ErrorReport
