/-
# ErrorReport.Proofs.Reading — printing a frame undoes reading it.

`Proofs.Frame` says which printed frames are read back. Here it is the other way round: whatever
frame is accepted, its parts written one after the other are the frame. The three forms are
predicates on a frame and its parts (`IsLabelLast`, `IsLabelFirst`, `IsUnlabelled`), and `ReadFrom`
says which of the many ways a frame may have these forms is chosen: the forms in this order, and
within a form the shortest first part. Nothing is left open by it, so frames are read exactly as it
says (`parse_eq_ok_iff_readFrom`).

The order has a price. Any text in front of ` at ` is a label, so an unlabelled frame is read back
exactly if its path does not hold that mark (`parse_unlabelledText`).
-/
import ErrorReport.Proofs.Frame
import Mathlib.Data.List.Infix
import Mathlib.Order.WellFounded

namespace ErrorReport.Location

open Text (isDigit isBlank ofNat newline apostrophe graveAccent IsDigitRun IsNumeral)

/-! ## The forms -/

/-- A frame that consists of a path, a line number and then a label in quotation marks. -/
structure IsLabelLast (frame : Text) (parts : Parts) : Prop where
  path : parts.path ≠ []
  digits : IsDigitRun parts.digits
  printed : ∃ opening, IsOpening opening ∧
    frame = parts.path ++ ':' :: parts.digits ++ ":in ".toList ++
      opening :: parts.label ++ [apostrophe]

/-- A frame that consists of a label, which does not start with white space, the mark behind it, a
path and a line number. -/
structure IsLabelFirst (frame : Text) (parts : Parts) : Prop where
  label : ∃ first, parts.label.head? = some first ∧ isBlank first = false
  path : parts.path ≠ []
  digits : IsDigitRun parts.digits
  printed : frame = parts.label ++ " at ".toList ++ parts.path ++ ':' :: parts.digits

/-- A frame that consists of a path and a line number. -/
structure IsUnlabelled (frame : Text) (parts : Parts) : Prop where
  label : parts.label = []
  path : parts.path ≠ []
  digits : IsDigitRun parts.digits
  printed : frame = parts.path ++ ':' :: parts.digits

/-- The one way in which a frame is read: in the first form that it has at all, and in that form with
the shortest first part. -/
inductive ReadFrom (frame : Text) (parts : Parts) : Prop
  | labelLast (form : IsLabelLast frame parts)
      (shortest : ∀ other, IsLabelLast frame other → parts.path.length ≤ other.path.length)
  | labelFirst (notLast : ∀ other, ¬ IsLabelLast frame other) (form : IsLabelFirst frame parts)
      (shortest : ∀ other, IsLabelFirst frame other → parts.label.length ≤ other.label.length)
  | unlabelled (notLast : ∀ other, ¬ IsLabelLast frame other)
      (notFirst : ∀ other, ¬ IsLabelFirst frame other) (form : IsUnlabelled frame parts)

/-! ## Each reader finds the shortest reading of its form -/

/-- A reader that finds the least reading, if it finds any, finds one if there is one. -/
theorem eq_none_iff_of_least {found : Option Parts} {Fits : Parts → Prop} {size : Parts → Nat}
    (hfound : ∀ parts, found = some parts ↔
      Fits parts ∧ ∀ other, Fits other → size parts ≤ size other) :
    found = none ↔ ∀ parts, ¬ Fits parts := by
  constructor
  · intro hnone parts hfits
    obtain ⟨least, hleast, hmin⟩ :=
      (measure size).wf.has_min {parts | Fits parts} ⟨parts, hfits⟩
    have hsome : found = some least :=
      (hfound least).2 ⟨hleast, fun other hother => Nat.le_of_not_lt (hmin other hother)⟩
    rw [hnone] at hsome
    cases hsome
  · intro hnone
    rw [Option.eq_none_iff_forall_ne_some]
    intro parts h
    exact hnone parts ((hfound parts).1 h).1

/-- A frame has its label last if a line number and a label follow its path. -/
theorem isLabelLast_iff {frame : Text} {parts : Parts} :
    IsLabelLast frame parts ↔ parts.path ≠ [] ∧ ∃ rest, frame = parts.path ++ rest ∧
      lineAndLabelAtEnd? rest = some (parts.digits, parts.label) := by
  simp only [lineAndLabelAtEnd?_eq_some]
  constructor
  · rintro ⟨hpath, ⟨hne, hall⟩, opening, hopening, hframe⟩
    refine ⟨hpath, _, ?_, hne, hall, opening, hopening, rfl⟩
    simp only [hframe, List.append_assoc]
  · rintro ⟨hpath, _, rfl, hne, hall, opening, hopening, rfl⟩
    exact ⟨hpath, ⟨hne, hall⟩, opening, hopening, by simp only [List.append_assoc]⟩

/-- **Label last, shortest path.** -/
theorem labelLast?_eq_some_iff {frame : Text} {parts : Parts} :
    labelLast? frame = some parts ↔
      IsLabelLast frame parts ∧
        ∀ other, IsLabelLast frame other → parts.path.length ≤ other.path.length := by
  rw [labelLast?_eq_some]
  simp only [Text.no_shorter_iff]
  constructor
  · rintro ⟨hpath, rest, hframe, hrest, hshortest⟩
    refine ⟨isLabelLast_iff.2 ⟨hpath, rest, hframe, hrest⟩, ?_⟩
    intro other hother
    obtain ⟨hpath', rest', hframe', hrest'⟩ := isLabelLast_iff.1 hother
    exact hshortest _ _ _ hframe' hpath' hrest'
  · rintro ⟨hform, hshortest⟩
    obtain ⟨hpath, rest, hframe, hrest⟩ := isLabelLast_iff.1 hform
    refine ⟨hpath, rest, hframe, hrest, ?_⟩
    rintro path rest' ⟨digits, label⟩ hframe' hpath' hrest'
    exact hshortest ⟨path, digits, label⟩ (isLabelLast_iff.2 ⟨hpath', rest', hframe', hrest'⟩)

/-- A frame has its label first if the mark and an unlabelled frame follow it. -/
theorem isLabelFirst_iff {frame : Text} {parts : Parts} :
    IsLabelFirst frame parts ↔ (∀ c ∈ frame.head?, isBlank c = false) ∧ parts.label ≠ [] ∧
      ∃ rest, frame = parts.label ++ rest ∧
        unlabelledBehindMark? rest = some { parts with label := [] } := by
  simp only [unlabelledBehindMark?_eq_some, unlabelled?_eq_some]
  constructor
  · rintro ⟨⟨first, hfirst, hblank⟩, hpath, ⟨hne, hall⟩, hframe⟩
    have hlabel : parts.label ≠ [] := by
      intro hnil
      rw [hnil] at hfirst
      cases hfirst
    refine ⟨?_, hlabel, " at ".toList ++ (parts.path ++ ':' :: parts.digits), ?_, _, rfl, trivial,
      hpath, hne, hall, rfl⟩
    · intro c hc
      rw [hframe, List.append_assoc, List.append_assoc, List.head?_append_of_ne_nil _ hlabel,
        hfirst, Option.mem_some_iff] at hc
      exact hc ▸ hblank
    · simp only [hframe, List.append_assoc]
  · rintro ⟨hblank, hlabel, _, rfl, _, rfl, -, hpath, hne, hall, rfl⟩
    have hhead : parts.label.head? = some (parts.label.head hlabel) :=
      List.head?_eq_some_head hlabel
    refine ⟨⟨_, hhead, hblank _ ?_⟩, hpath, ⟨hne, hall⟩, by simp only [List.append_assoc]⟩
    rw [List.head?_append_of_ne_nil _ hlabel, hhead, Option.mem_some_iff]

/-- **Label first, shortest label.** -/
theorem labelFirst?_eq_some_iff {frame : Text} {parts : Parts} :
    labelFirst? frame = some parts ↔
      IsLabelFirst frame parts ∧
        ∀ other, IsLabelFirst frame other → parts.label.length ≤ other.label.length := by
  rw [labelFirst?_eq_some]
  simp only [Text.no_shorter_iff]
  constructor
  · rintro ⟨hblank, hlabel, rest, hframe, hrest, hshortest⟩
    refine ⟨isLabelFirst_iff.2 ⟨hblank, hlabel, rest, hframe, hrest⟩, ?_⟩
    intro other hother
    obtain ⟨-, hlabel', rest', hframe', hrest'⟩ := isLabelFirst_iff.1 hother
    exact hshortest _ _ _ hframe' hlabel' hrest'
  · rintro ⟨hform, hshortest⟩
    obtain ⟨hblank, hlabel, rest, hframe, hrest⟩ := isLabelFirst_iff.1 hform
    refine ⟨hblank, hlabel, rest, hframe, hrest, ?_⟩
    intro label rest' parts' hframe' hlabel' hrest'
    -- what follows the mark has no label of its own, so nothing is lost by putting this one in
    have hnil : parts'.label = [] := by
      obtain ⟨_, -, hunlabelled⟩ := unlabelledBehindMark?_eq_some.1 hrest'
      exact (unlabelled?_eq_some.1 hunlabelled).1
    refine hshortest { parts' with label } (isLabelFirst_iff.2 ⟨hblank, hlabel', rest', hframe', ?_⟩)
    rw [hrest', ← hnil]

/-- **No label.** -/
theorem unlabelled?_eq_some_iff {frame : Text} {parts : Parts} :
    unlabelled? frame = some parts ↔ IsUnlabelled frame parts := by
  rw [unlabelled?_eq_some]
  constructor
  · rintro ⟨hlabel, hpath, hne, hall, hframe⟩
    exact ⟨hlabel, hpath, ⟨hne, hall⟩, hframe⟩
  · rintro ⟨hlabel, hpath, ⟨hne, hall⟩, hframe⟩
    exact ⟨hlabel, hpath, hne, hall, hframe⟩

/-! ## Frames -/

/-- **The parts of a line** are the ones it is read from, one after the other. -/
theorem parts?_eq_some_iff {frame : Text} {parts : Parts} :
    parts? frame = some parts ↔ newline ∉ frame ∧ ReadFrom frame parts := by
  have hnotLast : labelLast? frame = none ↔ ∀ other, ¬ IsLabelLast frame other :=
    eq_none_iff_of_least fun _ => labelLast?_eq_some_iff
  have hnotFirst : labelFirst? frame = none ↔ ∀ other, ¬ IsLabelFirst frame other :=
    eq_none_iff_of_least fun _ => labelFirst?_eq_some_iff
  rw [parts?, Option.ite_none_right_eq_some, Text.isOneLine_iff]
  apply and_congr_right
  intro _
  simp only [Option.orElse_eq_orElse, Option.orElse_eq_or, Option.or_eq_some_iff, hnotLast,
    hnotFirst, labelLast?_eq_some_iff, labelFirst?_eq_some_iff, unlabelled?_eq_some_iff]
  constructor
  · rintro (⟨hform, hshortest⟩ | ⟨hlast, ⟨hform, hshortest⟩ | ⟨hfirst, hform⟩⟩)
    · exact .labelLast hform hshortest
    · exact .labelFirst hlast hform hshortest
    · exact .unlabelled hlast hfirst hform
  · rintro (⟨hform, hshortest⟩ | ⟨hlast, hform, hshortest⟩ | ⟨hlast, hfirst, hform⟩)
    · exact .inl ⟨hform, hshortest⟩
    · exact .inr ⟨hlast, .inl ⟨hform, hshortest⟩⟩
    · exact .inr ⟨hlast, .inr ⟨hfirst, hform⟩⟩

theorem ReadFrom.path_ne_nil {frame : Text} {parts : Parts} (h : ReadFrom frame parts) :
    parts.path ≠ [] := by
  cases h with
  | labelLast form _ => exact form.path
  | labelFirst _ form _ => exact form.path
  | unlabelled _ _ form => exact form.path

theorem ReadFrom.newline_mem_iff {frame : Text} {parts : Parts} (h : ReadFrom frame parts) :
    newline ∈ frame ↔ newline ∈ parts.path ∨ newline ∈ parts.label := by
  have hcolon : newline ≠ ':' := by decide
  have hdigit : isDigit newline = false := by decide
  cases h with
  | labelLast form _ =>
    obtain ⟨opening, hopening, hframe⟩ := form.printed
    have hopening : newline ≠ opening := by
      rcases hopening with rfl | rfl <;> decide
    have hmark : newline ∉ ":in ".toList := by decide
    have hapostrophe : newline ≠ apostrophe := by decide
    rw [hframe]
    simp only [List.mem_append, List.mem_cons, List.not_mem_nil, hcolon, hopening, hmark,
      hapostrophe, form.digits.notMem hdigit, or_false, false_or]
  | labelFirst _ form _ =>
    have hmark : newline ∉ " at ".toList := by decide
    rw [form.printed]
    simp only [List.mem_append, List.mem_cons, hcolon, hmark, form.digits.notMem hdigit, or_false]
    exact or_comm
  | unlabelled _ _ form =>
    rw [form.printed, form.label]
    simp only [List.mem_append, List.mem_cons, hcolon, form.digits.notMem hdigit, or_false,
      List.not_mem_nil]

/-- A location is read exactly from parts that are its own, with a positive number. -/
theorem parse_eq_ok {raw : Text} {l : Location} :
    parse raw = .ok l ↔ l.line ≠ 0 ∧ ∃ digits, IsNumeral digits l.line ∧
      parts? (Text.trim raw) = some { path := l.path.text, digits, label := l.label } := by
  obtain ⟨⟨path⟩, line, label⟩ := l
  constructor
  · intro h
    unfold parse at h
    dsimp only at h
    split at h
    · cases h
    · next parts hparts =>
      split at h
      · cases h
      · next number hnumber =>
        split at h
        · cases h
        · next hzero =>
          obtain ⟨rfl, rfl, rfl⟩ : parts.path = path ∧ number = line ∧ parts.label = label := by
            simpa using h
          exact ⟨hzero, parts.digits, Text.toWord?_eq_some.1 hnumber, hparts⟩
  · rintro ⟨hzero, digits, hdigits, hparts⟩
    simp only [parse, hparts, Text.toWord?_eq_some.2 hdigits, if_neg hzero]

/-- **Printing undoes reading**, for every text and every location.

A text is read as a location exactly if the location's number is positive, its path is not empty and
it stays within a line, and if its path, its label and some ASCII digits that stand for its number
are, written in one of the forms, the text without the white space around it. The first form that
the text has is the one, with the shortest path or label for which it has that form. -/
theorem parse_eq_ok_iff_readFrom {raw : Text} {l : Location} :
    parse raw = .ok l ↔
      1 ≤ l.line.toNat ∧ l.line.toNat < UInt64.size ∧ l.path.text ≠ [] ∧ newline ∉ l.path.text ∧
        newline ∉ l.label ∧ ∃ digits, IsNumeral digits l.line ∧
          ReadFrom (Text.trim raw) { path := l.path.text, digits, label := l.label } := by
  have hpositive : l.line ≠ 0 ↔ 1 ≤ l.line.toNat := by
    rw [Ne, ← UInt64.toNat_inj, UInt64.toNat_zero]
    omega
  rw [parse_eq_ok, hpositive]
  simp only [parts?_eq_some_iff]
  constructor
  · rintro ⟨hline, digits, hdigits, hnewline, hread⟩
    obtain ⟨hpath, hlabel⟩ := not_or.1 (mt hread.newline_mem_iff.2 hnewline)
    exact ⟨hline, l.line.toNat_lt_size, hread.path_ne_nil, hpath, hlabel, digits, hdigits, hread⟩
  · rintro ⟨hline, -, -, hpath, hlabel, digits, hdigits, hread⟩
    exact ⟨hline, digits, hdigits, mt hread.newline_mem_iff.1 (not_or_intro hpath hlabel), hread⟩

/-- Of two places at which a path might end, the first one counts. -/
example : parse "a:1:in 'b':02:in 'c'".toList =
    .ok ⟨⟨"a".toList⟩, 1, "b':02:in 'c".toList⟩ := by rfl

/-! ## Unlabelled frames -/

/-- A frame without a label. -/
def unlabelledText (path : Text) (line : UInt64) : Text := path ++ ':' :: ofNat line.toNat

/-- A path in which the mark that ends a label stands between two parts. -/
def HoldsMark (path : Text) : Prop :=
  ∃ front back, front ≠ [] ∧ back ≠ [] ∧ path = front ++ " at ".toList ++ back

/-- A frame has no more than one path and number if it has no label. -/
theorem IsUnlabelled.unique {frame : Text} {parts other : Parts} (h : IsUnlabelled frame parts)
    (hother : IsUnlabelled frame other) : parts = other :=
  Option.some.inj ((unlabelled?_eq_some_iff.2 h).symm.trans (unlabelled?_eq_some_iff.2 hother))

/-- A frame without a label has one in front exactly if its path has the mark behind the label. -/
theorem IsUnlabelled.isLabelFirst_iff {frame : Text} {parts other : Parts}
    (h : IsUnlabelled frame parts) :
    IsLabelFirst frame other ↔
      (∃ first, other.label.head? = some first ∧ isBlank first = false) ∧ other.path ≠ [] ∧
        other.digits = parts.digits ∧ parts.path = other.label ++ " at ".toList ++ other.path := by
  constructor
  · rintro ⟨hlabel, hpath, hdigits, hframe⟩
    have hsame : parts = ⟨other.label ++ " at ".toList ++ other.path, other.digits, []⟩ :=
      h.unique ⟨rfl, by simp, hdigits, hframe⟩
    rw [hsame]
    exact ⟨hlabel, hpath, rfl, rfl⟩
  · rintro ⟨hlabel, hpath, hdigits, hsplit⟩
    refine ⟨hlabel, hpath, hdigits ▸ h.digits, ?_⟩
    rw [h.printed, hsplit, hdigits]

/-- A frame without a label whose path does not start with white space also has the form with a label
in front exactly if its path holds the mark. -/
theorem IsUnlabelled.exists_isLabelFirst_iff {frame : Text} {parts : Parts}
    (h : IsUnlabelled frame parts) (hfirst : ∀ c ∈ parts.path.head?, isBlank c = false) :
    (∃ other, IsLabelFirst frame other) ↔ HoldsMark parts.path := by
  constructor
  · rintro ⟨other, hother⟩
    obtain ⟨⟨first, hhead, -⟩, hpath, -, hsplit⟩ := h.isLabelFirst_iff.1 hother
    refine ⟨other.label, other.path, ?_, hpath, hsplit⟩
    intro hnil
    rw [hnil] at hhead
    cases hhead
  · rintro ⟨front, back, hfront, hback, hsplit⟩
    refine ⟨⟨back, parts.digits, front⟩, h.isLabelFirst_iff.2 ⟨?_, hback, rfl, hsplit⟩⟩
    refine ⟨front.head hfront, List.head?_eq_some_head hfront, hfirst _ ?_⟩
    rw [hsplit, List.append_assoc, List.head?_append_of_ne_nil _ hfront,
      List.head?_eq_some_head hfront, Option.mem_some_iff]

/-- A frame without a label ends in a digit, so it has none at its end. -/
theorem IsUnlabelled.not_isLabelLast {frame : Text} {parts : Parts} (h : IsUnlabelled frame parts) :
    ∀ other, ¬ IsLabelLast frame other := by
  rw [← eq_none_iff_of_least fun _ => labelLast?_eq_some_iff, h.printed, List.append_cons]
  exact labelLast?_eq_none h.digits.1 h.digits.2

/-- **A path that does not hold the mark** is all that is read in front of the number. -/
theorem IsUnlabelled.readFrom_iff {frame path digits digits' : Text}
    (h : IsUnlabelled frame ⟨path, digits, []⟩) (hfirst : ∀ c ∈ path.head?, isBlank c = false) :
    ReadFrom frame ⟨path, digits', []⟩ ↔ digits' = digits ∧ ¬ HoldsMark path := by
  rw [← h.exists_isLabelFirst_iff hfirst, not_exists]
  constructor
  · rintro (⟨hlast, -⟩ | ⟨-, hlabel, -⟩ | ⟨-, hnotFirst, hread⟩)
    · exact absurd hlast (h.not_isLabelLast _)
    · obtain ⟨first, hhead, -⟩ := hlabel.label
      cases hhead
    · exact ⟨congrArg Parts.digits (hread.unique h), hnotFirst⟩
  · rintro ⟨rfl, hnotFirst⟩
    exact .unlabelled h.not_isLabelLast hnotFirst h

/-- **A path that holds the mark** is cut at the first one, and what stands in front of it is taken
for a label. -/
theorem IsUnlabelled.exists_readFrom {frame path digits : Text}
    (h : IsUnlabelled frame ⟨path, digits, []⟩) (hfirst : ∀ c ∈ path.head?, isBlank c = false)
    (hmark : HoldsMark path) :
    ∃ label back, label ≠ [] ∧ EndsAtMark label ∧ back ≠ [] ∧
      path = label ++ " at ".toList ++ back ∧ ReadFrom frame ⟨back, digits, label⟩ := by
  have hsome : labelFirst? frame ≠ none := by
    rw [Ne, eq_none_iff_of_least fun _ => labelFirst?_eq_some_iff, ← not_exists, not_not,
      h.exists_isLabelFirst_iff hfirst]
    exact hmark
  obtain ⟨⟨back, digits', label⟩, hfound⟩ := Option.ne_none_iff_exists'.1 hsome
  obtain ⟨hform, hshortest⟩ := labelFirst?_eq_some_iff.1 hfound
  obtain ⟨⟨first, hhead, hblank⟩, hback, rfl, hsplit⟩ := h.isLabelFirst_iff.1 hform
  dsimp only at hhead hback hsplit
  have hlabel : label ≠ [] := by
    rintro rfl
    cases hhead
  refine ⟨label, back, hlabel, ?_, hback, hsplit, .labelFirst h.not_isLabelLast hform hshortest⟩
  intro front more hfront heq
  by_contra hmore
  -- a mark before the one that was found would end a shorter label
  have hhead' : front.head? = some first := by
    have hboth := congrArg List.head? heq
    rw [List.append_assoc front, List.head?_append_of_ne_nil _ hlabel,
      List.head?_append_of_ne_nil _ hfront] at hboth
    exact hboth.symm.trans hhead
  have hsplit' : path = front ++ " at ".toList ++ (more ++ back) := by
    rw [hsplit, heq, List.append_assoc]
  have hle : label.length ≤ front.length :=
    hshortest ⟨more ++ back, digits', front⟩
      (h.isLabelFirst_iff.2 ⟨⟨first, hhead', hblank⟩, by simp [hback], rfl, hsplit'⟩)
  have hlength := congrArg List.length heq
  have hpos : 0 < more.length := List.length_pos_iff.2 hmore
  simp only [List.length_append] at hlength
  omega

theorem trim_unlabelledText {before after path : Text} {line : UInt64}
    (hbefore : ∀ c ∈ before, isBlank c = true) (hafter : ∀ c ∈ after, isBlank c = true)
    (hne : path ≠ []) (hfirst : ∀ c ∈ path.head?, isBlank c = false) :
    Text.trim (before ++ unlabelledText path line ++ after) = unlabelledText path line := by
  apply Text.trim_padded hbefore hafter
  · simp [unlabelledText]
  · intro c hc
    rw [unlabelledText, List.head?_append_of_ne_nil _ hne] at hc
    exact hfirst c hc
  · intro c hc
    rw [unlabelledText, List.append_cons,
      List.getLast?_append_of_ne_nil _ (Text.ofNat_ne_nil _)] at hc
    exact Text.isBlank_eq_false_of_isDigit
      (Text.isDigit_of_mem_ofNat (List.mem_of_getLast? hc))

/-- **What is read from an unlabelled frame**, for every path within a line that does not start with
white space, such as an absolute one, and every positive number. The frame is read back exactly if
the path does not hold the mark that ends a label, whatever else it holds. If it does, the first one
is taken for such a mark, and the path is torn into a label and what is left of the path. -/
theorem parse_unlabelledText {before after path : Text} {line : UInt64}
    (hbefore : ∀ c ∈ before, isBlank c = true) (hafter : ∀ c ∈ after, isBlank c = true)
    (hfirst : ∃ first, path.head? = some first ∧ isBlank first = false) (hpath : newline ∉ path)
    (hline : line ≠ 0) :
    (parse (before ++ unlabelledText path line ++ after) = .ok ⟨⟨path⟩, line, []⟩ ↔
      ¬ HoldsMark path) ∧
    (HoldsMark path → ∃ label back, label ≠ [] ∧ EndsAtMark label ∧ back ≠ [] ∧
      path = label ++ " at ".toList ++ back ∧
      parse (before ++ unlabelledText path line ++ after) = .ok ⟨⟨back⟩, line, label⟩) := by
  obtain ⟨first, hhead, hblank⟩ := hfirst
  have hne : path ≠ [] := by
    rintro rfl
    cases hhead
  have hfirst : ∀ c ∈ path.head?, isBlank c = false := by
    intro c hc
    rw [hhead, Option.mem_some_iff] at hc
    exact hc ▸ hblank
  have hform : IsUnlabelled (unlabelledText path line) ⟨path, ofNat line.toNat, []⟩ :=
    ⟨rfl, hne, ⟨Text.ofNat_ne_nil _, isDigit_of_mem_line⟩, rfl⟩
  have htrim : Text.trim (before ++ unlabelledText path line ++ after) = unlabelledText path line :=
    trim_unlabelledText hbefore hafter hne hfirst
  have hnewline : newline ∉ unlabelledText path line :=
    List.not_mem_append hpath (List.not_mem_cons_of_ne_of_not_mem (by decide)
      (Text.notMem_ofNat (by decide) _))
  constructor
  · constructor
    · intro h
      obtain ⟨-, digits, -, hparts⟩ := parse_eq_ok.1 h
      rw [htrim, parts?_eq_some_iff, hform.readFrom_iff hfirst] at hparts
      exact hparts.2.2
    · intro hmark
      apply parse_of_parts? hline
      rw [htrim, parts?_eq_some_iff, hform.readFrom_iff hfirst]
      exact ⟨hnewline, rfl, hmark⟩
  · intro hmark
    obtain ⟨label, back, hlabel, hends, hback, hsplit, hread⟩ := hform.exists_readFrom hfirst hmark
    refine ⟨label, back, hlabel, hends, hback, hsplit, parse_of_parts? hline ?_⟩
    rw [htrim]
    exact parts?_eq_some_iff.2 ⟨hnewline, hread⟩

/-- Colons, numbers and quotation marks in a path do no harm, nor does white space, but a directory
whose name holds the word `at` does. -/
theorem parse_unlabelledText_directories :
    parse " \t/srv/a b/c:12:in 'd/e.rb:7 \n".toList =
        .ok ⟨⟨"/srv/a b/c:12:in 'd/e.rb".toList⟩, 7, []⟩ ∧
      parse "/home/me at work/a.rb:3".toList ≠ .ok ⟨⟨"/home/me at work/a.rb".toList⟩, 3, []⟩ := by
  have hspaced : " \t/srv/a b/c:12:in 'd/e.rb:7 \n".toList =
      [' ', '\t'] ++ unlabelledText "/srv/a b/c:12:in 'd/e.rb".toList 7 ++ [' ', '\n'] := by rfl
  have hmarked : "/home/me at work/a.rb:3".toList =
      [] ++ unlabelledText "/home/me at work/a.rb".toList 3 ++ [] := by rfl
  have hholds : HoldsMark "/home/me at work/a.rb".toList :=
    ⟨"/home/me".toList, "work/a.rb".toList, by decide, by decide, by rfl⟩
  have hholds' : ¬ HoldsMark "/srv/a b/c:12:in 'd/e.rb".toList := by
    rintro ⟨front, back, -, -, h⟩
    have hinfix : " at ".toList <:+: "/srv/a b/c:12:in 'd/e.rb".toList := ⟨front, back, h.symm⟩
    revert hinfix
    decide
  constructor
  · rw [hspaced]
    exact (parse_unlabelledText (List.all_eq_true.1 (by decide)) (List.all_eq_true.1 (by decide))
      ⟨'/', rfl, by decide⟩ (by decide) (by decide)).1.2 hholds'
  · rw [hmarked]
    intro h
    exact (parse_unlabelledText (by simp) (by simp) ⟨'/', rfl, by decide⟩ (by decide)
      (by decide)).1.1 h hholds

/-- Not every unlabelled frame with an absolute path is read back. -/
theorem directory_taken_for_label :
    parse "/home/me at work/a.rb:3".toList = .ok ⟨⟨"work/a.rb".toList⟩, 3, "/home/me".toList⟩ ∧
      ¬ ∀ (before after path : Text) (line : UInt64), (∀ c ∈ before, isBlank c = true) →
        (∀ c ∈ after, isBlank c = true) → path.head? = some '/' → newline ∉ path → line ≠ 0 →
        parse (before ++ unlabelledText path line ++ after) = .ok ⟨⟨path⟩, line, []⟩ := by
  have hread : parse "/home/me at work/a.rb:3".toList =
      .ok ⟨⟨"work/a.rb".toList⟩, 3, "/home/me".toList⟩ := by rfl
  refine ⟨hread, fun h => ?_⟩
  have hback := h [] [] "/home/me at work/a.rb".toList 3 (by simp) (by simp) rfl (by decide)
    (by decide)
  have hsame := hread.symm.trans hback
  simp at hsame

end ErrorReport.Location
