/-
# ErrorReport.Location.Basic — places in source files.

A location is a line of a file, together with the label under which the interpreter lists it: the
method or block that was running there. The label is written for people; `methodName` gets from it
the name that one would look for in the source, which takes off every `block in`, `rescue in` and
`ensure in` the label starts with and then the receiver.
-/
import ErrorReport.Path.Basic
import ErrorReport.Text.Class

namespace ErrorReport

/-- A line of a source file, and what was running there. -/
structure Location where
  path : Path
  /-- Lines are counted from one. A location that was not read from a frame may say zero. -/
  line : UInt64
  label : Text := []
  deriving DecidableEq, Repr, Inhabited

namespace Location

/-- Two spellings of one location: the paths may differ in fillers. -/
def same (a b : Location) : Bool :=
  a.path.same b.path && a.line = b.line && a.label = b.label

/-- The last step of the location's path. -/
def fileName (l : Location) : Text := l.path.fileName

/-! ## The method a label names -/

/-- What follows an opening such as `block (2 levels) in `. -/
def afterLevels? (label : Text) : Option Text := do
  let rest ← Text.after? "block (".toList label
  let (_, rest) ← Text.leadingDigits rest
  Text.after? " levels) in ".toList rest

/-- What follows the opening of a label that stands for a part of another one. -/
def afterOpening? (label : Text) : Option Text :=
  Text.after? "block in ".toList label <|> afterLevels? label <|>
    Text.after? "rescue in ".toList label <|> Text.after? "ensure in ".toList label

theorem length_lt_of_afterOpening? {label rest : Text} (h : afterOpening? label = some rest) :
    rest.length < label.length := by
  have key : ∀ {lead t r : Text}, lead ≠ [] → Text.after? lead t = some r →
      r.length < t.length := by
    intro lead t r hlead h
    rw [Text.after?_eq_some.1 h, List.length_append]
    have := List.length_pos_iff.2 hlead
    omega
  simp only [afterOpening?, Option.orElse_eq_orElse, Option.orElse_eq_or,
    Option.or_eq_some_iff] at h
  rcases h with h | ⟨-, h | ⟨-, h | ⟨-, h⟩⟩⟩
  · exact key (by simp) h
  · simp only [afterLevels?, bind, Option.bind_eq_some_iff, Prod.exists] at h
    obtain ⟨t, ht, digits, u, hu, hr⟩ := h
    have h₁ := key (by simp) ht
    have h₂ := key (by simp) hr
    have h₃ : u.length ≤ t.length := by
      simp only [Text.leadingDigits] at hu
      split at hu
      · simp at hu
      · obtain ⟨-, rfl⟩ := Prod.mk.inj (Option.some.inj hu)
        exact (List.dropWhile_sublist _).length_le
    omega
  · exact key (by simp) h
  · exact key (by simp) h

/-- A label without its openings. -/
def dropOpenings (label : Text) : Text :=
  match h : afterOpening? label with
  | some rest =>
    have := length_lt_of_afterOpening? h
    dropOpenings rest
  | none => label
termination_by label.length

/-- Separates the receiver from the method in a label. -/
def isReceiverMark (c : Char) : Bool := c = '#' || c = '.'

/-- The name of a method without its receiver. -/
def unqualified (name : Text) : Text :=
  (name.reverse.takeWhile (!isReceiverMark ·)).reverse

/-- The method that a label names, as it would appear in the source. Names such as `<main>` are the
interpreter's own and stay whole. -/
def methodName (l : Location) : Text :=
  let name := dropOpenings l.label
  if name.head? = some '<' then name else unqualified name

end Location

end ErrorReport
