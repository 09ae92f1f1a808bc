/-
# ErrorReport.Proofs.MethodName — the method that a label names.

A label may start with any number of openings such as `block (2 levels) in `; the rest is a name,
perhaps with a receiver in front. No opening starts another one, so the openings of a label and the
rest are determined by it: taking off one opening after the other leaves the same rest however the
label was put together (`dropOpenings_append`), and the method is read off that rest alone.

A label is cut by octets (`fromOctet?`) where its openings end, and what is left of it behind the
last mark of a receiver. Both places are between characters, whatever the label holds.
-/
import ErrorReport.Location.Basic
import ErrorReport.Proofs.Text
import Mathlib.Data.List.Infix

namespace ErrorReport.Location

open Text (IsDigitRun octetCount fromOctet? fromOctet?_append isDigit)

variable {label rest core name : Text} {openings : List Text}

/-! ## Openings -/

/-- What a label can start with when it stands for a part of another one. -/
inductive IsLabelOpening : Text → Prop
  | block : IsLabelOpening "block in ".toList
  | levels {digits : Text} (hdigits : IsDigitRun digits) :
      IsLabelOpening ("block (".toList ++ digits ++ " levels) in ".toList)
  | rescue : IsLabelOpening "rescue in ".toList
  | ensured : IsLabelOpening "ensure in ".toList

/-- A text that starts with none of them. -/
def IsBare (core : Text) : Prop := ∀ opening, IsLabelOpening opening → ¬ opening <+: core

theorem afterLevels?_eq_some :
    afterLevels? label = some rest ↔
      ∃ digits, IsDigitRun digits ∧
        label = "block (".toList ++ digits ++ " levels) in ".toList ++ rest := by
  simp only [afterLevels?, bind, Option.bind_eq_some_iff, Prod.exists, Text.after?_eq_some,
    Text.leadingDigits_eq_some]
  constructor
  · rintro ⟨_, rfl, digits, _, ⟨rfl, hne, hdigits, -⟩, rfl⟩
    exact ⟨digits, ⟨hne, hdigits⟩, by simp only [List.append_assoc]⟩
  · rintro ⟨digits, ⟨hne, hdigits⟩, rfl⟩
    refine ⟨_, by rw [List.append_assoc, List.append_assoc], digits, _,
      ⟨rfl, hne, hdigits, ?_⟩, rfl⟩
    -- the word behind the digits starts with a blank
    rintro c ⟨⟩
    decide

/-- **An opening is taken off** exactly where one stands. -/
theorem afterOpening?_eq_some :
    afterOpening? label = some rest ↔
      ∃ opening, IsLabelOpening opening ∧ label = opening ++ rest := by
  simp only [afterOpening?, Option.orElse_eq_orElse, Option.orElse_eq_or, Option.or_eq_some_iff,
    afterLevels?_eq_some, Text.after?_eq_some]
  constructor
  · rintro (h | ⟨-, ⟨digits, hdigits, h⟩ | ⟨-, h | ⟨-, h⟩⟩⟩)
    · exact ⟨_, .block, h⟩
    · exact ⟨_, .levels hdigits, h⟩
    · exact ⟨_, .rescue, h⟩
    · exact ⟨_, .ensured, h⟩
  · -- no opening starts like an earlier one
    rintro ⟨_, hopening, rfl⟩
    cases hopening with
    | block => exact .inl rfl
    | @levels digits hdigits => exact .inr ⟨rfl, .inl ⟨digits, hdigits, rfl⟩⟩
    | rescue => exact .inr ⟨rfl, .inr ⟨rfl, .inl rfl⟩⟩
    | ensured => exact .inr ⟨rfl, .inr ⟨rfl, .inr ⟨rfl, rfl⟩⟩⟩

theorem afterOpening?_eq_none : afterOpening? label = none ↔ IsBare label := by
  rw [Option.eq_none_iff_forall_ne_some]
  constructor
  · rintro h opening hopening ⟨rest, rfl⟩
    exact h rest (afterOpening?_eq_some.2 ⟨opening, hopening, rfl⟩)
  · intro h rest hrest
    obtain ⟨opening, hopening, rfl⟩ := afterOpening?_eq_some.1 hrest
    exact h opening hopening (List.prefix_append opening rest)

theorem dropOpenings_opening_append {opening : Text} (h : IsLabelOpening opening) (label : Text) :
    dropOpenings (opening ++ label) = dropOpenings label := by
  have hsome : afterOpening? (opening ++ label) = some label :=
    afterOpening?_eq_some.2 ⟨opening, h, rfl⟩
  rw [dropOpenings]
  split
  · next rest hrest =>
    obtain rfl := Option.some.inj (hrest.symm.trans hsome)
    rfl
  · next hnone =>
    rw [hsome] at hnone
    cases hnone

instance : DecidablePred IsBare := fun _ => decidable_of_iff _ afterOpening?_eq_none

theorem dropOpenings_of_isBare (h : IsBare core) : dropOpenings core = core := by
  rw [dropOpenings]
  split
  · next rest hrest =>
    rw [afterOpening?_eq_none.2 h] at hrest
    cases hrest
  · rfl

/-- **Every stack of openings goes, and nothing else.** -/
theorem dropOpenings_append (hopenings : ∀ opening ∈ openings, IsLabelOpening opening)
    (hcore : IsBare core) : dropOpenings (openings.flatten ++ core) = core := by
  induction openings with
  | nil => exact dropOpenings_of_isBare hcore
  | cons opening openings ih =>
    obtain ⟨hopening, hopenings⟩ := List.forall_mem_cons.1 hopenings
    rw [List.flatten_cons, List.append_assoc, dropOpenings_opening_append hopening,
      ih hopenings]

/-- **Every label is a stack of openings and a rest without them**, and the rest is what is left of
the label. -/
theorem exists_openings (label : Text) :
    ∃ openings : List Text, (∀ opening ∈ openings, IsLabelOpening opening) ∧
      label = openings.flatten ++ dropOpenings label ∧ IsBare (dropOpenings label) := by
  fun_induction dropOpenings label with
  | case1 label rest h _ ih =>
    obtain ⟨opening, hopening, rfl⟩ := afterOpening?_eq_some.1 h
    obtain ⟨openings, hopenings, hrest, hbare⟩ := ih
    refine ⟨opening :: openings, List.forall_mem_cons.2 ⟨hopening, hopenings⟩, ?_, hbare⟩
    rw [List.flatten_cons, List.append_assoc, ← hrest]
  | case2 label h => exact ⟨[], List.forall_mem_nil _, rfl, afterOpening?_eq_none.1 h⟩

/-! ## The mark of the receiver -/

/-- A name without the mark of a receiver. -/
def IsUnmarked (name : Text) : Prop := '#' ∉ name ∧ '.' ∉ name

instance : DecidablePred IsUnmarked := fun _ => inferInstanceAs (Decidable (_ ∧ _))

/-- The octet at which the last mark of a receiver stands in a name. -/
def lastMark? : Text → Option Nat
  | [] => none
  | c :: name =>
    match lastMark? name with
    | some i => some (c.utf8Size + i)
    | none => if isReceiverMark c then some 0 else none

theorem isReceiverMark_iff {c : Char} : isReceiverMark c = true ↔ c = '#' ∨ c = '.' := by
  rw [isReceiverMark, Bool.or_eq_true, decide_eq_true_eq, decide_eq_true_eq]

theorem isUnmarked_iff : IsUnmarked name ↔ ∀ c ∈ name, isReceiverMark c = false := by
  constructor
  · rintro ⟨hhash, hdot⟩ c hc
    rw [Bool.eq_false_iff, Ne, isReceiverMark_iff]
    rintro (rfl | rfl)
    · exact hhash hc
    · exact hdot hc
  · intro h
    exact ⟨fun hhash => Bool.false_ne_true (h _ hhash).symm,
      fun hdot => Bool.false_ne_true (h _ hdot).symm⟩

theorem unqualified_of_isUnmarked (h : IsUnmarked name) : unqualified name = name := by
  have hall : name.reverse.takeWhile (!isReceiverMark ·) = name.reverse :=
    List.takeWhile_eq_self_iff.2 fun c hc => by simp [isUnmarked_iff.1 h c (List.mem_reverse.1 hc)]
  rw [unqualified, hall, List.reverse_reverse]

/-- The method is what stands behind the last mark. -/
theorem unqualified_append_cons {mark : Char} (hmark : mark = '#' ∨ mark = '.')
    (h : IsUnmarked name) (receiver : Text) : unqualified (receiver ++ mark :: name) = name := by
  have hmark : isReceiverMark mark = true := isReceiverMark_iff.2 hmark
  have hall : ∀ c ∈ name.reverse, (!isReceiverMark c) = true := by
    intro c hc
    rw [isUnmarked_iff.1 h c (List.mem_reverse.1 hc)]
    rfl
  rw [unqualified, List.reverse_append, List.reverse_cons, List.append_assoc,
    List.takeWhile_append_of_pos hall, List.singleton_append,
    List.takeWhile_cons_of_neg (by simp [hmark]), List.append_nil, List.reverse_reverse]

/-- **Every name has no mark, or a last one**, which stands at the octet behind the receiver. -/
theorem lastMark?_cases (name : Text) :
    lastMark? name = none ∧ IsUnmarked name ∨
      ∃ receiver mark method, name = receiver ++ mark :: method ∧ (mark = '#' ∨ mark = '.') ∧
        IsUnmarked method ∧ lastMark? name = some (octetCount receiver) := by
  induction name with
  | nil => exact .inl ⟨rfl, List.not_mem_nil, List.not_mem_nil⟩
  | cons c name ih =>
    rcases ih with ⟨hnone, hname⟩ | ⟨receiver, mark, method, rfl, hmark, hmethod, hlast⟩
    · cases hc : isReceiverMark c with
      | false =>
        refine .inl ⟨?_, isUnmarked_iff.2 (List.forall_mem_cons.2 ⟨hc, isUnmarked_iff.1 hname⟩)⟩
        rw [lastMark?, hnone]
        exact if_neg (by simp [hc])
      | true =>
        refine .inr ⟨[], c, name, rfl, isReceiverMark_iff.1 hc, hname, ?_⟩
        rw [lastMark?, hnone]
        exact if_pos hc
    · refine .inr ⟨c :: receiver, mark, method, rfl, hmark, hmethod, ?_⟩
      rw [lastMark?, hlast, octetCount]

/-- **A name can be cut behind its last mark**, since a mark takes up one octet. -/
theorem fromOctet?_behind_mark {mark : Char} (hmark : mark = '#' ∨ mark = '.')
    (receiver method : Text) :
    fromOctet? (octetCount receiver + 1) (receiver ++ mark :: method) = some method := by
  have hsize : octetCount [mark] = 1 := by
    rcases hmark with rfl | rfl
    · rfl
    · rfl
  have hcut := fromOctet?_append (receiver ++ [mark]) method
  rwa [Text.octetCount_append, hsize, List.append_assoc, List.singleton_append] at hcut

/-! ## The method -/

/-- The method is the end of its name and has no mark. -/
theorem unqualified_suffix (name : Text) :
    unqualified name <:+ name ∧ IsUnmarked (unqualified name) := by
  rcases lastMark?_cases name with ⟨-, hname⟩ | ⟨receiver, mark, method, rfl, hmark, hmethod, -⟩
  · rw [unqualified_of_isUnmarked hname]
    exact ⟨List.suffix_rfl, hname⟩
  · rw [unqualified_append_cons hmark hmethod]
    exact ⟨(List.suffix_cons mark method).trans (List.suffix_append _ _), hmethod⟩

/-- **Cutting a name behind the octet of its last mark** gives the method. -/
theorem elim_lastMark?_eq (name : Text) :
    ((lastMark? name).elim (some name) fun i => fromOctet? (i + 1) name) =
      some (unqualified name) := by
  rcases lastMark?_cases name with
    ⟨hnone, hname⟩ | ⟨receiver, mark, method, rfl, hmark, hmethod, hlast⟩
  · rw [hnone, unqualified_of_isUnmarked hname]
    rfl
  · rw [hlast, unqualified_append_cons hmark hmethod]
    exact fromOctet?_behind_mark hmark receiver method

/-- The method of a label is read off what is left of the label. -/
theorem methodName_eq {l : Location} (h : dropOpenings l.label = name) :
    l.methodName = if name.head? = some '<' then name else unqualified name := by
  rw [methodName, h]

/-- **The name of a method is its label without openings and without the receiver.**

A stack of openings in front of a text that starts with none changes nothing: the method is that of
the text, which is all of it if it starts with `<`, and otherwise what stands behind its last `#` or
`.`, or all of it if it has neither. And every label is such a stack and such a text. The label can
be cut at the octet where the stack ends, and the text at the octet behind its last mark, so the
method is an end of the label; it holds no mark unless the text starts with `<`. -/
theorem method_name_strips_openings :
    (∀ (openings : List Text) (core : Text) (l l' : Location),
      (∀ opening ∈ openings, IsLabelOpening opening) → IsBare core →
      l.label = openings.flatten ++ core → l'.label = core →
      l.methodName = l'.methodName ∧
      (core.head? = some '<' → l.methodName = core) ∧
      (core.head? ≠ some '<' →
        (IsUnmarked core → l.methodName = core) ∧
        ∀ receiver mark method, core = receiver ++ mark :: method → mark = '#' ∨ mark = '.' →
          IsUnmarked method → l.methodName = method)) ∧
    ∀ l : Location, ∃ (openings : List Text) (name : Text),
      (∀ opening ∈ openings, IsLabelOpening opening) ∧ IsBare name ∧
      l.label = openings.flatten ++ name ∧
      fromOctet? (octetCount openings.flatten) l.label = some name ∧
      (name.head? ≠ some '<' →
        ((lastMark? name).elim (some name) fun i => fromOctet? (i + 1) name) =
          some l.methodName) ∧
      l.methodName <:+ l.label ∧
      (name.head? ≠ some '<' → IsUnmarked l.methodName) := by
  constructor
  · intro openings core l l' hopenings hcore hl hl'
    have hmethod := methodName_eq (l := l) (by rw [hl, dropOpenings_append hopenings hcore])
    have hmethod' := methodName_eq (l := l') (by rw [hl', dropOpenings_of_isBare hcore])
    refine ⟨hmethod.trans hmethod'.symm, fun hown => ?_, fun hother => ⟨fun hunmarked => ?_, ?_⟩⟩
    · rw [hmethod, if_pos hown]
    · rw [hmethod, if_neg hother, unqualified_of_isUnmarked hunmarked]
    · rintro receiver mark method rfl hmark hunmarked
      rw [hmethod, if_neg hother, unqualified_append_cons hmark hunmarked]
  · intro l
    obtain ⟨openings, hopenings, hlabel, hbare⟩ := exists_openings l.label
    have hmethod := methodName_eq (l := l) rfl
    have hsuffix : l.methodName <:+ dropOpenings l.label := by
      rw [hmethod]
      split
      · exact List.suffix_rfl
      · exact (unqualified_suffix _).1
    refine ⟨openings, dropOpenings l.label, hopenings, hbare, hlabel, ?_, ?_, ?_, ?_⟩
    · conv => lhs; rhs; rw [hlabel]
      exact fromOctet?_append _ _
    · intro hother
      rw [hmethod, if_neg hother, elim_lastMark?_eq]
    · exact hsuffix.trans ⟨_, hlabel.symm⟩
    · intro hother
      rw [hmethod, if_neg hother]
      exact (unqualified_suffix _).2

/-- Three openings, one with a digit of another script, in front of a text that nearly starts with a
fourth; receiver and method hold characters of several octets. -/
theorem method_name_strips_openings_nested :
    let core := "block (é levels) in Straße.größe".toList
    let l : Location := {
      path := ⟨"/a.rb".toList⟩
      line := 1
      label := "block (٣ levels) in rescue in ensure in ".toList ++ core }
    IsBare core ∧ l.methodName = "größe".toList ∧ lastMark? core = some 28 ∧
      fromOctet? 29 core = some "größe".toList := by
  intro core l
  have hbare : IsBare core := by decide
  have hopenings : ∀ opening ∈ ["block (٣ levels) in ".toList, "rescue in ".toList,
      "ensure in ".toList], IsLabelOpening opening := by
    rw [List.forall_mem_cons, List.forall_mem_cons, List.forall_mem_singleton]
    exact ⟨.levels (show IsDigitRun "٣".toList by decide), .rescue, .ensured⟩
  have hlabel : l.label = ["block (٣ levels) in ".toList, "rescue in ".toList,
      "ensure in ".toList].flatten ++ core := congrArg (· ++ core) (by decide)
  obtain ⟨-, -, hmethod⟩ := method_name_strips_openings.1 _ core l { l with label := core }
    hopenings hbare hlabel rfl
  have hname := (hmethod (by decide)).2 "block (é levels) in Straße".toList '.' "größe".toList
    (by decide) (.inr rfl) (by decide)
  exact ⟨hbare, hname, by decide, by decide⟩

end ErrorReport.Location
