/-
# ErrorReport.Node.Tag — the tree of a report, and its nodes by name.

A report is first put together as a tree that says what each part *is*: a class name, an
explanation, a window onto the source, a section. How the parts look is decided when the tree is
rendered (`ErrorReport.Node.Render`). Seven kinds of nodes wrap one content and are told apart by
their `Wrapper`.

Every kind of node except plain text and sequences has a tag, and every tag has a name. `tagged`
builds the node with a given tag name from its children: a wrapped content is the only child, or the
sequence of the children if there is not exactly one. Windows say more than their children could, so
they cannot be built this way.
-/
import ErrorReport.Error
import ErrorReport.Window.Basic

namespace ErrorReport

/-! ## Nodes -/

/-- What a wrapped content is. -/
inductive Wrapper where
  /-- The section that names the failure. -/
  | summary
  /-- The section that explains the failure. -/
  | heuristic
  | classname
  | message
  | explanation
  | context
  | details
  deriving DecidableEq, Repr

/-- A part of a report. -/
inductive Node where
  | text (t : Text)
  | seq (parts : List Node)
  | wrap (wrapper : Wrapper) (content : Node)
  /-- The section with the windows of a backtrace, one for each frame. -/
  | backtrace (frames : List Node)
  /-- A rule across the report. -/
  | separator
  | columns (cells : List Node)
  | code (window : Window)
  /-- Nothing. -/
  | null
  deriving Repr, Inhabited

/-! ## Tags -/

/-- What a wrapper is called. -/
def Wrapper.name : Wrapper → Text
  | summary => "summary".toList
  | heuristic => "heuristic".toList
  | classname => "classname".toList
  | message => "message".toList
  | explanation => "explanation".toList
  | context => "context".toList
  | details => "details".toList

/-- The kind of a node. -/
inductive Tag where
  | wrap (wrapper : Wrapper)
  | backtrace
  | separator
  | columns
  | code
  | null
  deriving DecidableEq, Repr

namespace Tag

/-- What a tag is called. -/
def name : Tag → Text
  | wrap wrapper => wrapper.name
  | backtrace => "backtrace".toList
  | separator => "separator".toList
  | columns => "columns".toList
  | code => "code".toList
  | null => "null".toList

/-- All tags. -/
def all : List Tag := [
  wrap .summary, wrap .heuristic, backtrace, separator, columns, wrap .classname, wrap .message,
  wrap .explanation, wrap .context, wrap .details, code, null]

theorem mem_all (tag : Tag) : tag ∈ all := by
  rcases tag with ⟨wrapper⟩ | _ | _ | _ | _ | _
  · cases wrapper <;> decide
  all_goals decide

/-- The tag called by a name. -/
def parse (name : Text) : Except Error Tag :=
  match all.find? (·.name = name) with
  | some tag => .ok tag
  | none => .error (.unknownTag name)

/-- No two tags have the same name: the tag called by a tag's name is that tag. -/
theorem parse_name (tag : Tag) : parse tag.name = .ok tag := by
  rcases tag with ⟨wrapper⟩ | _ | _ | _ | _ | _
  · cases wrapper <;> rfl
  all_goals rfl

theorem name_of_parse {name : Text} {tag : Tag} (h : parse name = .ok tag) : tag.name = name := by
  unfold parse at h
  split at h
  · next found hfind =>
    obtain rfl := Except.ok.inj h
    simpa using List.find?_some hfind
  · cases h

end Tag

namespace Node

/-- The tag of a node. Plain text and sequences have none. -/
def tag? : Node → Option Tag
  | text _ => none
  | seq _ => none
  | wrap wrapper _ => some (.wrap wrapper)
  | backtrace _ => some .backtrace
  | separator => some .separator
  | columns _ => some .columns
  | code _ => some .code
  | null => some .null

/-- Several nodes as one. -/
def ofChildren : List Node → Node
  | [child] => child
  | children => seq children

/-- The node with a tag that is made of children, unless it takes more than that to make it. Rules
and nothing have no use for children. -/
def ofTag? (children : List Node) : Tag → Option Node
  | .wrap wrapper => some (wrap wrapper (ofChildren children))
  | .backtrace => some (backtrace children)
  | .separator => some separator
  | .columns => some (columns children)
  | .code => none
  | .null => some null

/-- The node called by the name of a tag. -/
def tagged (name : Text) (children : List Node) : Except Error Node := do
  let tag ← Tag.parse name
  match ofTag? children tag with
  | some node => return node
  | none => throw .bareCodeTag

end Node

end ErrorReport
