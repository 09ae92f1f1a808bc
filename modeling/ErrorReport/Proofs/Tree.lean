/-
# ErrorReport.Proofs.Tree — the leaves of the tree of a report.

What a report shows stands in the leaves of its tree: texts and windows. `texts` and `windows` list
them in order, and `treeInduction` is the induction that goes with the nested lists of nodes.
-/
import ErrorReport.Node.Tag

namespace ErrorReport.Node

/-! ## Induction -/

/-- Induction on trees, where the parts of a node are known by membership. -/
@[elab_as_elim]
theorem treeInduction {motive : Node → Prop} (text : ∀ t, motive (.text t))
    (seq : ∀ parts, (∀ part ∈ parts, motive part) → motive (.seq parts))
    (wrap : ∀ wrapper content, motive content → motive (.wrap wrapper content))
    (backtrace : ∀ frames, (∀ frame ∈ frames, motive frame) → motive (.backtrace frames))
    (separator : motive .separator)
    (columns : ∀ cells, (∀ cell ∈ cells, motive cell) → motive (.columns cells))
    (code : ∀ window, motive (.code window)) (null : motive .null) (node : Node) :
    motive node := by
  have hnil : ∀ part ∈ ([] : List Node), motive part := by
    intro part hpart
    cases hpart
  have hcons : ∀ (part : Node) (parts : List Node), motive part →
      (∀ part ∈ parts, motive part) → ∀ p ∈ part :: parts, motive p := by
    intro part parts hpart hparts
    exact List.forall_mem_cons.2 ⟨hpart, hparts⟩
  exact @Node.rec motive (fun parts => ∀ part ∈ parts, motive part) text seq wrap backtrace
    separator columns code null hnil hcons node

/-! ## Leaves -/

mutual

/-- The texts of a tree, in order. -/
def texts : Node → List Text
  | text t => [t]
  | seq parts => textsAll parts
  | wrap _ content => texts content
  | backtrace frames => textsAll frames
  | separator => []
  | columns cells => textsAll cells
  | code _ => []
  | null => []

/-- The texts of trees, in order. -/
def textsAll : List Node → List Text
  | [] => []
  | node :: nodes => texts node ++ textsAll nodes

end

mutual

/-- The windows of a tree, in order. -/
def windows : Node → List Window
  | text _ => []
  | seq parts => windowsAll parts
  | wrap _ content => windows content
  | backtrace frames => windowsAll frames
  | separator => []
  | columns cells => windowsAll cells
  | code window => [window]
  | null => []

/-- The windows of trees, in order. -/
def windowsAll : List Node → List Window
  | [] => []
  | node :: nodes => windows node ++ windowsAll nodes

end

theorem textsAll_eq_flatMap (nodes : List Node) : textsAll nodes = nodes.flatMap texts := by
  induction nodes with
  | nil => rfl
  | cons node nodes ih => rw [textsAll, ih, List.flatMap_cons]

theorem windowsAll_eq_flatMap (nodes : List Node) : windowsAll nodes = nodes.flatMap windows := by
  induction nodes with
  | nil => rfl
  | cons node nodes ih => rw [windowsAll, ih, List.flatMap_cons]

theorem mem_textsAll {nodes : List Node} {t : Text} :
    t ∈ textsAll nodes ↔ ∃ node ∈ nodes, t ∈ node.texts := by
  rw [textsAll_eq_flatMap, List.mem_flatMap]

theorem mem_windowsAll {nodes : List Node} {w : Window} :
    w ∈ windowsAll nodes ↔ ∃ node ∈ nodes, w ∈ node.windows := by
  rw [windowsAll_eq_flatMap, List.mem_flatMap]

theorem windowsAll_map_code (ws : List Window) : windowsAll (ws.map .code) = ws := by
  induction ws with
  | nil => rfl
  | cons w ws ih =>
    rw [List.map_cons, windowsAll, ih]
    rfl

theorem textsAll_map_code (ws : List Window) : textsAll (ws.map .code) = [] := by
  induction ws with
  | nil => rfl
  | cons w ws ih =>
    rw [List.map_cons, textsAll, ih]
    rfl

end ErrorReport.Node
