/-
# ErrorReport.Node.Render — the text of a report.

Rendering a tree puts each wrapped content into its style, draws a rule in front of every section,
lays columns out side by side and replaces windows by their text. A backtrace without frames says
so.
-/
import ErrorReport.Node.Tag
import ErrorReport.Window.Render

namespace ErrorReport

/-- What a wrapper does to the text of its content: sections get a rule in front, everything else
gets a style. -/
def Wrapper.apply (θ : Terminal.Theme) : Wrapper → Text → Text
  | summary, t => θ.rule ++ t
  | heuristic, t => θ.rule ++ t
  | classname, t => θ.paint .classname t
  | message, t => θ.paint .message t
  | explanation, t => θ.paint .explanation t
  | context, t => θ.paint .context t
  | details, t => θ.paint .details t

namespace Node

/-- Stands for a backtrace without frames. -/
def noBacktrace : Text := "No backtrace available".toList

mutual

/-- The text of a tree. -/
def render (v : View) : Node → Text
  | text t => t
  | seq parts => (renderAll v parts).flatten
  | wrap wrapper content => wrapper.apply v.theme (render v content)
  | backtrace frames =>
    v.theme.rule ++
      if frames.isEmpty then v.theme.paint .message noBacktrace
      else (renderAll v frames).flatten
  | separator => v.theme.rule
  | columns cells => v.theme.columns (renderAll v cells)
  | code window => window.render v
  | null => []

/-- The texts of trees. -/
def renderAll (v : View) : List Node → List Text
  | [] => []
  | node :: nodes => render v node :: renderAll v nodes

end

theorem renderAll_eq_map (v : View) (nodes : List Node) :
    renderAll v nodes = nodes.map (render v) := by
  induction nodes with
  | nil => rfl
  | cons node nodes ih => rw [renderAll, ih, List.map_cons]

end Node

end ErrorReport
