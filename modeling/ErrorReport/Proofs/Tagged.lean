/-
# ErrorReport.Proofs.Tagged — what nodes built by name are and how they look.

The name of a tag says what a node is, and `Looks` says how it is to look, name by name: what is done
to the texts of its children. `tagged_means_its_name` says that exactly the names of tags other than
that of windows build a node, that the node answers to the name it was built by, and that it looks as
its name says.

What a wrapper gets is the text of its content, and sequences only put texts one after the other. So
it does not matter whether children are passed one by one or in sequences within sequences with
nothing in between (`Groups`).
-/
import ErrorReport.Node.Render

namespace ErrorReport

open Terminal (Theme)

/-! ## Names -/

/-- The names of all tags. -/
def Tag.vocabulary : List Text := [
  "summary".toList, "heuristic".toList, "backtrace".toList, "separator".toList, "columns".toList,
  "classname".toList, "message".toList, "explanation".toList, "context".toList, "details".toList,
  "code".toList, "null".toList]

namespace Tag

variable {name : Text}

theorem mem_vocabulary_iff : name ∈ vocabulary ↔ ∃ tag : Tag, tag.name = name := by
  have hall : vocabulary = all.map Tag.name := rfl
  rw [hall, List.mem_map]
  exact exists_congr fun tag => and_iff_right (mem_all tag)

theorem name_inj {tag tag' : Tag} (h : tag.name = tag'.name) : tag = tag' := by
  have hparse := parse_name tag
  rw [h, parse_name] at hparse
  exact (Except.ok.inj hparse).symm

/-- Outside the vocabulary there is no tag, and the name is all there is to say. -/
theorem parse_of_notMem (h : name ∉ vocabulary) : parse name = .error (.unknownTag name) := by
  unfold parse
  split
  · next tag hfind =>
    exact absurd (mem_vocabulary_iff.2 ⟨tag, by simpa using List.find?_some hfind⟩) h
  · rfl

end Tag

/-! ## Looks -/

/-- How the node that is called by a name looks, if its children are written as `parts`. -/
inductive Looks (θ : Theme) (parts : List Text) : Text → Text → Prop
  | summary : Looks θ parts "summary".toList (θ.rule ++ parts.flatten)
  | heuristic : Looks θ parts "heuristic".toList (θ.rule ++ parts.flatten)
  | backtrace (h : parts ≠ []) : Looks θ parts "backtrace".toList (θ.rule ++ parts.flatten)
  | noBacktrace (h : parts = []) : Looks θ parts "backtrace".toList
      (θ.rule ++ θ.paint .message "No backtrace available".toList)
  | separator : Looks θ parts "separator".toList θ.rule
  | columns : Looks θ parts "columns".toList (θ.columns parts)
  | classname : Looks θ parts "classname".toList (θ.paint .classname parts.flatten)
  | message : Looks θ parts "message".toList (θ.paint .message parts.flatten)
  | explanation : Looks θ parts "explanation".toList (θ.paint .explanation parts.flatten)
  | context : Looks θ parts "context".toList (θ.paint .context parts.flatten)
  | details : Looks θ parts "details".toList (θ.paint .details parts.flatten)
  | null : Looks θ parts "null".toList []

theorem Wrapper.looks_apply (wrapper : Wrapper) (θ : Theme) (parts : List Text) :
    Looks θ parts wrapper.name (wrapper.apply θ parts.flatten) := by
  cases wrapper with
  | summary => exact .summary
  | heuristic => exact .heuristic
  | classname => exact .classname
  | message => exact .message
  | explanation => exact .explanation
  | context => exact .context
  | details => exact .details

namespace Node

variable {name : Text} {children : List Node} {node : Node} {tag : Tag}

/-- Several nodes as one are written one after the other. -/
theorem render_ofChildren (v : View) (children : List Node) :
    (ofChildren children).render v = (children.map (render v)).flatten := by
  match children with
  | [] => rfl
  | [child] => rw [ofChildren, List.map_singleton, List.flatten_singleton]
  | first :: second :: children =>
    have hseq : ofChildren (first :: second :: children) = seq (first :: second :: children) := rfl
    rw [hseq, render, renderAll_eq_map]

/-- **A node made of children looks as the name of its tag says.** -/
theorem looks_of_ofTag? (h : ofTag? children tag = some node) (v : View) :
    Looks v.theme (children.map (render v)) tag.name (node.render v) := by
  cases tag with
  | wrap wrapper =>
    obtain rfl := Option.some.inj h
    rw [render, render_ofChildren]
    exact wrapper.looks_apply v.theme _
  | backtrace =>
    obtain rfl := Option.some.inj h
    rw [render]
    cases children with
    | nil => exact .noBacktrace rfl
    | cons frame frames =>
      rw [renderAll_eq_map]
      exact .backtrace (List.cons_ne_nil _ _)
  | separator =>
    obtain rfl := Option.some.inj h
    exact .separator
  | columns =>
    obtain rfl := Option.some.inj h
    rw [render, renderAll_eq_map]
    exact .columns
  | code => cases h
  | null =>
    obtain rfl := Option.some.inj h
    exact .null

theorem tag?_of_ofTag? (h : ofTag? children tag = some node) : node.tag? = some tag := by
  cases tag with
  | code => cases h
  | _ =>
    obtain rfl := Option.some.inj h
    rfl

theorem exists_ofTag?_iff : (∃ node, ofTag? children tag = some node) ↔ tag ≠ .code := by
  cases tag with
  | code => simp [ofTag?]
  | _ => simp [ofTag?]

/-! ## Building by name -/

theorem tagged_name (tag : Tag) (children : List Node) :
    tagged tag.name children =
      match ofTag? children tag with
      | some node => .ok node
      | none => .error .bareCodeTag := by
  rw [tagged, Tag.parse_name]
  rfl

/-- **A node is built by name** exactly if it is made for the tag of that name. -/
theorem tagged_eq_ok :
    tagged name children = .ok node ↔
      ∃ tag : Tag, tag.name = name ∧ ofTag? children tag = some node := by
  constructor
  · intro h
    cases hparse : Tag.parse name with
    | error fault =>
      rw [tagged, hparse] at h
      cases h
    | ok tag =>
      obtain rfl := Tag.name_of_parse hparse
      rw [tagged_name] at h
      split at h
      · next made hmade =>
        obtain rfl := Except.ok.inj h
        exact ⟨tag, rfl, hmade⟩
      · cases h
  · rintro ⟨tag, rfl, hmade⟩
    rw [tagged_name, hmade]

theorem tagged_of_notMem (h : name ∉ Tag.vocabulary) (children : List Node) :
    tagged name children = .error (.unknownTag name) := by
  rw [tagged, Tag.parse_of_notMem h]
  rfl

theorem tagged_code (children : List Node) :
    tagged "code".toList children = .error .bareCodeTag := tagged_name .code children

/-- A node is built by every other name. -/
theorem exists_tagged_eq_ok :
    (∃ node, tagged name children = .ok node) ↔
      name ∈ Tag.vocabulary ∧ name ≠ "code".toList := by
  simp only [tagged_eq_ok, Tag.mem_vocabulary_iff]
  constructor
  · rintro ⟨node, tag, rfl, hmade⟩
    refine ⟨⟨tag, rfl⟩, fun hcode => ?_⟩
    have hcode : tag.name = Tag.code.name := hcode
    exact exists_ofTag?_iff.1 ⟨node, hmade⟩ (Tag.name_inj hcode)
  · rintro ⟨⟨tag, rfl⟩, hcode⟩
    have hother : tag ≠ .code := by
      rintro rfl
      exact hcode rfl
    obtain ⟨node, hmade⟩ : ∃ node, ofTag? children tag = some node := exists_ofTag?_iff.2 hother
    exact ⟨node, tag, rfl, hmade⟩

/-! ## Grouping -/

/-- The nodes `grouped` are the nodes `parts` in the same order, put into sequences, which may be
nested, with nothing in between. -/
inductive Groups : List Node → List Node → Prop
  | nil : Groups [] []
  | part {parts grouped : List Node} (part : Node) :
      Groups parts grouped → Groups (part :: parts) (part :: grouped)
  | null {parts grouped : List Node} : Groups parts grouped → Groups parts (.null :: grouped)
  | seq {parts parts' group grouped : List Node} : Groups parts group → Groups parts' grouped →
      Groups (parts ++ parts') (.seq group :: grouped)

/-- **Grouping does not show.** -/
theorem Groups.flatten_render {parts grouped : List Node} (h : Groups parts grouped) (v : View) :
    (grouped.map (render v)).flatten = (parts.map (render v)).flatten := by
  induction h with
  | nil => rfl
  | part part _ ih => rw [List.map_cons, List.flatten_cons, ih, List.map_cons, List.flatten_cons]
  | null _ ih => rw [List.map_cons, List.flatten_cons, ih, render, List.nil_append]
  | seq _ _ ihgroup ih =>
    rw [List.map_cons, List.flatten_cons, render, renderAll_eq_map, ihgroup, ih, List.map_append,
      List.flatten_append]

/-- **A node built by name is what its name says.**

A name builds a node exactly if it is one of the twelve names and not that of windows. A name outside
the vocabulary is an error that carries it, the name of windows an error of its own, whatever the
children. A node that is built answers to the name and looks as the name says, under every view. For
the names of the seven wrappers the node is written as the wrapper around the sequence of the
children, and so is every grouping of them. -/
theorem tagged_means_its_name (name : Text) (children : List Node) :
    ((∃ node, tagged name children = .ok node) ↔
        name ∈ Tag.vocabulary ∧ name ≠ "code".toList) ∧
    (name ∉ Tag.vocabulary → tagged name children = .error (.unknownTag name)) ∧
    (name = "code".toList → tagged name children = .error .bareCodeTag) ∧
    (∀ node, tagged name children = .ok node →
      node.tag?.map Tag.name = some name ∧
      ∀ v : View, Looks v.theme (children.map (render v)) name (node.render v)) ∧
    ∀ (wrapper : Wrapper) (grouped : List Node), wrapper.name = name → Groups children grouped →
      ∃ node node', tagged name children = .ok node ∧ tagged name grouped = .ok node' ∧
        ∀ v : View, node.render v = (wrap wrapper (seq children)).render v ∧
          node'.render v = node.render v := by
  refine ⟨exists_tagged_eq_ok, fun h => tagged_of_notMem h children, ?_, ?_, ?_⟩
  · rintro rfl
    exact tagged_code children
  · intro node hnode
    obtain ⟨tag, rfl, hmade⟩ := tagged_eq_ok.1 hnode
    rw [tag?_of_ofTag? hmade]
    exact ⟨rfl, looks_of_ofTag? hmade⟩
  · rintro wrapper grouped rfl hgroups
    refine ⟨_, _, tagged_name (.wrap wrapper) children, tagged_name (.wrap wrapper) grouped, ?_⟩
    intro v
    constructor
    · rw [render, render_ofChildren, render, render, renderAll_eq_map]
    · rw [render, render_ofChildren, hgroups.flatten_render v, render, render_ofChildren]

/-- Two children, and the same in sequences within sequences with nothing around them. -/
theorem tagged_means_its_name_nested :
    let children := [text "a".toList, wrap .message (text "b".toList)]
    let grouped := [seq [null, text "a".toList], null,
      seq [seq [wrap .message (text "b".toList)], null]]
    Groups children grouped ∧
      ∃ node node', tagged "details".toList children = .ok node ∧
        tagged "details".toList grouped = .ok node' ∧
        ∀ v : View, node.render v = (wrap .details (seq children)).render v ∧
          node'.render v = node.render v := by
  intro children grouped
  have hgroups : Groups children grouped :=
    .seq (.null (.part _ .nil)) (.null (.seq (.seq (.part _ .nil) (.null .nil)) .nil))
  exact ⟨hgroups, (tagged_means_its_name _ _).2.2.2.2 .details _ rfl hgroups⟩

end Node

end ErrorReport
