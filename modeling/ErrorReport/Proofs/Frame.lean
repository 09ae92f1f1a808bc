/-
# ErrorReport.Proofs.Frame — reading a frame undoes printing it.

The three forms of a frame are first described without reference to how they are looked for: each
reader accepts exactly the texts of its form (`lineAtEnd?_eq_some`, `lineAndLabelAtEnd?_eq_some`,
`unlabelled?_eq_some`). What is left is where the first part ends. A reader takes the shortest first
part that leaves an acceptable rest, so a printed frame is read back if no earlier place in it looks
like the end of the first part; `NamesNoLine` and `EndsAtMark` say so of the printed part alone, and
the proofs show that no such place can straddle its end either.
-/
import ErrorReport.Location.Frame
import ErrorReport.Proofs.Text

namespace ErrorReport.Location

open Text (isDigit isBlank ofNat newline apostrophe graveAccent)

/-! ## Printed frames -/

/-- The marks with which interpreters open a label. -/
def IsOpening (opening : Char) : Prop := opening = graveAccent ∨ opening = apostrophe

/-- A frame with the label behind the line number, opened by the given mark. -/
def labelLastText (opening : Char) (l : Location) : Text :=
  l.path.text ++ ':' :: ofNat l.line.toNat ++ ":in ".toList ++ opening :: l.label ++ [apostrophe]

/-- A frame with the label in front. -/
def labelFirstText (l : Location) : Text :=
  l.label ++ " at ".toList ++ l.path.text ++ ':' :: ofNat l.line.toNat

/-! ## What the readers accept -/

theorem colon_notMem_digits {digits : Text} (h : ∀ c ∈ digits, isDigit c = true) :
    ':' ∉ digits := by
  intro hmem
  have : isDigit ':' = true := h ':' hmem
  revert this
  decide

/-- The end of a frame with its line number is a colon and a run of digits. -/
theorem lineAtEnd?_eq_some {t digits : Text} :
    lineAtEnd? t = some digits ↔
      t = ':' :: digits ∧ digits ≠ [] ∧ ∀ c ∈ digits, isDigit c = true := by
  simp only [lineAtEnd?, bind, Option.bind_eq_some_iff, Text.after?_eq_some, Prod.exists,
    Text.leadingDigits_eq_some, Option.ite_none_right_eq_some, Option.some.injEq]
  constructor
  · rintro ⟨_, rfl, _, _, ⟨rfl, hne, hall, -⟩, rfl, rfl⟩
    exact ⟨by simp, hne, hall⟩
  · rintro ⟨rfl, hne, hall⟩
    exact ⟨digits, rfl, digits, [], ⟨by simp, hne, hall, by simp⟩, rfl, rfl⟩

theorem labelAtEnd?_eq_some {t label : Text} :
    labelAtEnd? t = some label ↔
      ∃ opening, IsOpening opening ∧ t = opening :: label ++ [apostrophe] := by
  cases t with
  | nil => simp [labelAtEnd?]
  | cons opening rest =>
    simp only [labelAtEnd?, Option.ite_none_right_eq_some, Bool.and_eq_true, Bool.or_eq_true,
      decide_eq_true_eq, Option.some.injEq]
    constructor
    · rintro ⟨⟨hopening, hlast⟩, rfl⟩
      refine ⟨opening, hopening, ?_⟩
      rw [List.cons_append, List.dropLast_append_getLast? apostrophe hlast]
    · rintro ⟨opening', hopening, heq⟩
      obtain ⟨rfl, rfl⟩ := List.cons.inj heq
      exact ⟨⟨hopening, by simp⟩, by simp⟩

theorem lineAndLabelAtEnd?_eq_some {t digits label : Text} :
    lineAndLabelAtEnd? t = some (digits, label) ↔
      digits ≠ [] ∧ (∀ c ∈ digits, isDigit c = true) ∧
        ∃ opening, IsOpening opening ∧
          t = ':' :: digits ++ ":in ".toList ++ opening :: label ++ [apostrophe] := by
  simp only [lineAndLabelAtEnd?, bind, pure, Option.bind_eq_some_iff, Text.after?_eq_some,
    Prod.exists, Text.leadingDigits_eq_some, labelAtEnd?_eq_some, Option.some.injEq, Prod.mk.injEq]
  constructor
  · rintro ⟨_, rfl, _, _, ⟨rfl, hne, hall, -⟩, _, rfl, _, ⟨opening, hopening, rfl⟩, rfl, rfl⟩
    exact ⟨hne, hall, opening, hopening, by simp⟩
  · rintro ⟨hne, hall, opening, hopening, rfl⟩
    refine ⟨_, rfl, digits, ":in ".toList ++ (opening :: label ++ [apostrophe]), ⟨by simp, hne,
      hall, ?_⟩, _, rfl, label, ⟨opening, hopening, rfl⟩, rfl, rfl⟩
    intro c hc
    obtain rfl : ':' = c := by simpa using hc
    decide

/-- **Frames without a label.** The line number is what follows the last colon, so the parts of such
a frame are determined by the frame. -/
theorem unlabelled?_eq_some {frame : Text} {parts : Parts} :
    unlabelled? frame = some parts ↔
      parts.label = [] ∧ parts.path ≠ [] ∧ parts.digits ≠ [] ∧
        (∀ c ∈ parts.digits, isDigit c = true) ∧ frame = parts.path ++ ':' :: parts.digits := by
  obtain ⟨path, digits, label⟩ := parts
  simp only [unlabelled?, bind, pure, Option.bind_eq_some_iff, Prod.exists,
    Text.cutAfter_eq_some_iff, lineAtEnd?_eq_some, Option.some.injEq, Parts.mk.injEq]
  constructor
  · rintro ⟨_, _, ⟨hpath, _, rfl, ⟨rfl, hne, hall⟩, -⟩, rfl, rfl, rfl⟩
    exact ⟨rfl, hpath, hne, hall, rfl⟩
  · rintro ⟨rfl, hpath, hne, hall, rfl⟩
    refine ⟨path, digits, ⟨hpath, _, rfl, ⟨rfl, hne, hall⟩, ?_⟩, rfl, rfl, rfl⟩
    intro l r heq _ hlen
    -- an earlier place would leave the colon of the line number among the digits
    obtain ⟨piece, hpiece, -, rfl⟩ := Text.exists_of_append_eq_append_of_length_lt heq hlen
    rw [Option.eq_none_iff_forall_ne_some]
    intro digits' h
    obtain ⟨heq', -, hall'⟩ := lineAtEnd?_eq_some.1 h
    cases piece with
    | nil => exact hpiece rfl
    | cons c piece =>
      obtain ⟨-, rfl⟩ := List.cons.inj heq'
      exact colon_notMem_digits hall' (by simp)

/-- **Frames with the label last** have the shortest path that a line number and a label follow. -/
theorem labelLast?_eq_some {frame : Text} {parts : Parts} :
    labelLast? frame = some parts ↔
      parts.path ≠ [] ∧ ∃ rest, frame = parts.path ++ rest ∧
        lineAndLabelAtEnd? rest = some (parts.digits, parts.label) ∧
        ∀ l r, frame = l ++ r → l ≠ [] → l.length < parts.path.length →
          lineAndLabelAtEnd? r = none := by
  obtain ⟨path, digits, label⟩ := parts
  simp only [labelLast?, bind, pure, Option.bind_eq_some_iff, Prod.exists,
    Text.cutAfter_eq_some_iff, Option.some.injEq, Parts.mk.injEq]
  constructor
  · rintro ⟨_, _, _, h, rfl, rfl, rfl⟩
    exact h
  · intro h
    exact ⟨path, digits, label, h, rfl, rfl, rfl⟩

/-- Reads the mark behind a label and a frame without a label behind it. -/
def unlabelledBehindMark? (t : Text) : Option Parts :=
  Text.after? " at ".toList t >>= unlabelled?

/-- What follows a label is the mark and a frame without a label. -/
theorem unlabelledBehindMark?_eq_some {t : Text} {parts : Parts} :
    unlabelledBehindMark? t = some parts ↔
      ∃ rest, t = " at ".toList ++ rest ∧ unlabelled? rest = some parts := by
  simp only [unlabelledBehindMark?, bind, Option.bind_eq_some_iff, Text.after?_eq_some]

/-- **Frames with the label first** do not start with white space and have the shortest label that
the mark and a frame without a label follow. -/
theorem labelFirst?_eq_some {frame : Text} {parts : Parts} :
    labelFirst? frame = some parts ↔
      (∀ c ∈ frame.head?, isBlank c = false) ∧ parts.label ≠ [] ∧
        ∃ rest, frame = parts.label ++ rest ∧
          unlabelledBehindMark? rest = some { parts with label := [] } ∧
          ∀ l r, frame = l ++ r → l ≠ [] → l.length < parts.label.length →
            unlabelledBehindMark? r = none := by
  have hunfold : labelFirst? frame =
      if frame.head?.any isBlank then none
      else (Text.cutAfter unlabelledBehindMark? frame).map
        fun found => { found.2 with label := found.1 } := by
    simp only [labelFirst?, bind, pure]
    split
    · rfl
    · simp only [Option.map_eq_bind]
      rfl
  have hblank : (frame.head?.any isBlank = true) ↔ ¬ ∀ c ∈ frame.head?, isBlank c = false := by
    simp [Option.any_eq_true]
  obtain ⟨path, digits, label⟩ := parts
  rw [hunfold, Option.ite_none_left_eq_some, hblank, not_not]
  simp only [Option.map_eq_some_iff, Prod.exists, Text.cutAfter_eq_some_iff, Parts.mk.injEq]
  apply and_congr_right
  intro _
  constructor
  · rintro ⟨_, ⟨path', digits', label'⟩, ⟨hne, rest, hframe, hrest, hmin⟩, rfl, rfl, rfl⟩
    obtain ⟨t, -, ht⟩ := unlabelledBehindMark?_eq_some.1 hrest
    obtain rfl : label' = [] := (unlabelled?_eq_some.1 ht).1
    exact ⟨hne, rest, hframe, hrest, hmin⟩
  · rintro ⟨hne, rest, hframe, hrest, hmin⟩
    exact ⟨label, _, ⟨hne, rest, hframe, hrest, hmin⟩, rfl, rfl, rfl⟩

/-! ## Where the first part ends -/

/-- Behind its first character, a path holds nothing that looks like a line number with the label
that follows it. -/
def NamesNoLine (path : Text) : Prop :=
  ∀ front digits opening back, front ≠ [] → digits ≠ [] → (∀ c ∈ digits, isDigit c = true) →
    IsOpening opening → path ≠ front ++ ':' :: digits ++ ":in ".toList ++ opening :: back

/-- Behind its first character, a label followed by ` at ` holds that mark only at the very end. -/
def EndsAtMark (label : Text) : Prop :=
  ∀ front back, front ≠ [] → label ++ " at ".toList = front ++ " at ".toList ++ back → back = []

/-- A path without quotation marks names no line and label. -/
theorem namesNoLine_of_notMem {path : Text} (hgrave : graveAccent ∉ path)
    (hapostrophe : apostrophe ∉ path) : NamesNoLine path := by
  intro front digits opening back _ _ _ hopening heq
  have hmem : opening ∈ path := by simp [heq]
  rcases hopening with rfl | rfl
  · exact hgrave hmem
  · exact hapostrophe hmem

/-- A label without spaces holds no mark. -/
theorem endsAtMark_of_notMem {label : Text} (h : ' ' ∉ label) : EndsAtMark label := by
  intro front back _ heq
  rw [List.append_assoc] at heq
  rcases List.append_eq_append_iff.1 heq with ⟨more, -, hmore⟩ | ⟨piece, rfl, hpiece⟩
  · have hlen := congrArg List.length hmore
    simp only [List.length_append] at hlen
    exact List.length_eq_zero_iff.1 (by omega)
  · cases piece with
    | nil => simpa using hpiece
    | cons c piece =>
      have hc : ' ' = c := (List.cons.inj hpiece).1
      subst hc
      exact absurd (by simp) h

/-- A number between colons, with a mark behind it that is no digit, that starts before a colon with a
number behind it, ends before it as well. Otherwise that colon would be the second one, and the mark
a digit. -/
theorem exists_eq_of_numbered {piece digits digits' mark t u : Text} (hpiece : piece ≠ [])
    (hdigits : ∀ c ∈ digits.head?, isDigit c = true) (hne : digits ≠ [])
    (hdigits' : ∀ c ∈ digits', isDigit c = true) (hcolon : ':' ∉ mark)
    (hmark : ∃ c, mark.head? = some c ∧ isDigit c = false)
    (heq : (':' :: digits' ++ ':' :: mark) ++ u = piece ++ ':' :: (digits ++ t)) :
    ∃ back, piece = (':' :: digits' ++ ':' :: mark) ++ back := by
  rcases List.append_eq_append_iff.1 heq with ⟨back, hback, -⟩ | ⟨more, hmore, hrest⟩
  · exact ⟨back, hback⟩
  · cases more with
    | nil => exact ⟨[], by simpa using hmore.symm⟩
    | cons c more =>
      obtain ⟨rfl, htail⟩ := List.cons.inj hrest
      cases piece with
      | nil => exact absurd rfl hpiece
      | cons d piece =>
        have hmore : digits' ++ ':' :: mark = piece ++ ':' :: more := by
          simpa using (List.cons.inj hmore).2
        obtain ⟨-, -, rfl⟩ := (List.append_cons_inj_of_notMem
          (colon_notMem_digits hdigits') hcolon).1 hmore
        obtain ⟨c, hc, hnodigit⟩ := hmark
        have htail : digits ++ t = mark ++ u := htail
        have hhead := congrArg List.head? htail
        rw [List.head?_append_of_ne_nil _ hne, List.head?_append, hc, Option.some_or] at hhead
        rw [hdigits c hhead] at hnodigit
        cases hnodigit

/-- No place within the path of a printed frame is taken for its end, not even one whose line number
or label would reach beyond the path. -/
theorem lineAndLabelAtEnd?_eq_none {front piece digits rest : Text}
    (hpath : NamesNoLine (front ++ piece)) (hfront : front ≠ []) (hpiece : piece ≠ [])
    (hdigits : ∀ c ∈ digits.head?, isDigit c = true) (hne : digits ≠ []) :
    lineAndLabelAtEnd? (piece ++ ':' :: digits ++ rest) = none := by
  rw [Option.eq_none_iff_forall_ne_some]
  rintro ⟨digits', label⟩ h
  obtain ⟨hne', hall', opening, hopening, heq⟩ := lineAndLabelAtEnd?_eq_some.1 h
  have hcolon : ':' ∉ ['i', 'n', ' ', opening] := by
    have hopening' : ':' ≠ opening := by
      rcases hopening with rfl | rfl <;> decide
    simp [hopening']
  have heq : (':' :: digits' ++ ':' :: ['i', 'n', ' ', opening]) ++ (label ++ [apostrophe]) =
      piece ++ ':' :: (digits ++ rest) := by
    simpa using heq.symm
  obtain ⟨back, rfl⟩ := exists_eq_of_numbered hpiece hdigits hne hall' hcolon
    ⟨'i', rfl, by decide⟩ heq
  exact hpath front digits' opening back hfront hne' hall' hopening (by simp)

/-- No place within the label of a printed frame is taken for its end, not even one whose mark would
reach beyond the label. -/
theorem unlabelledBehindMark?_eq_none {front piece rest : Text}
    (hends : EndsAtMark (front ++ piece)) (hfront : front ≠ []) (hpiece : piece ≠ []) :
    unlabelledBehindMark? (piece ++ " at ".toList ++ rest) = none := by
  rw [Option.eq_none_iff_forall_ne_some]
  intro parts h
  obtain ⟨rest', heq, -⟩ := unlabelledBehindMark?_eq_some.1 h
  rcases List.append_eq_append_iff.1 heq with ⟨more, hmore, -⟩ | ⟨back, hback, -⟩
  · -- the mark alone would be longer than a piece of the label with the mark behind it
    have hlen := congrArg List.length hmore
    have := List.length_pos_iff.2 hpiece
    simp only [List.length_append] at hlen
    omega
  · have hnil : back = [] :=
      hends front back hfront (by rw [List.append_assoc, hback, List.append_assoc])
    rw [hnil, List.append_nil] at hback
    exact hpiece (List.append_left_eq_self.1 hback)

/-- A frame that ends in a digit has no label behind its line number. -/
theorem labelLast?_eq_none {front digits : Text} (hne : digits ≠ [])
    (hdigits : ∀ c ∈ digits, isDigit c = true) : labelLast? (front ++ digits) = none := by
  rw [Option.eq_none_iff_forall_ne_some]
  intro parts h
  obtain ⟨-, rest, heq, hrest, -⟩ := labelLast?_eq_some.1 h
  obtain ⟨-, -, opening, -, rfl⟩ := lineAndLabelAtEnd?_eq_some.1 hrest
  have hlast := congrArg List.getLast? heq
  rw [List.getLast?_append_of_ne_nil _ hne, ← List.append_assoc, List.getLast?_concat] at hlast
  have : isDigit apostrophe = true := hdigits apostrophe (List.mem_of_getLast? hlast)
  revert this
  decide

/-! ## Printed frames are read back -/

theorem isDigit_of_mem_line {n : Nat} : ∀ c ∈ ofNat n, isDigit c = true := fun _ hc =>
  Text.isDigit_of_asciiDigit (Text.isDigit_of_mem_ofNat hc)

theorem parts?_labelLastText {opening : Char} {l : Location} (hopening : IsOpening opening)
    (hne : l.path.text ≠ []) (hpath : newline ∉ l.path.text) (hnames : NamesNoLine l.path.text)
    (hlabel : newline ∉ l.label) :
    parts? (labelLastText opening l) =
      some { path := l.path.text, digits := ofNat l.line.toNat, label := l.label } := by
  have hline : Text.isOneLine (labelLastText opening l) = true := by
    have hdigits : newline ∉ ofNat l.line.toNat := Text.notMem_ofNat (by decide) _
    have hopening' : newline ≠ opening := by
      rcases hopening with rfl | rfl <;> decide
    rw [Text.isOneLine_iff]
    simp only [newline] at hpath hdigits hopening' hlabel
    simp [labelLastText, hpath, hdigits, hlabel, hopening', newline, apostrophe]
  have hparts : labelLast? (labelLastText opening l) =
      some { path := l.path.text, digits := ofNat l.line.toNat, label := l.label } := by
    refine labelLast?_eq_some.2 ⟨hne, ':' :: ofNat l.line.toNat ++ (":in ".toList ++
      opening :: l.label ++ [apostrophe]), by simp [labelLastText], ?_, ?_⟩
    · exact lineAndLabelAtEnd?_eq_some.2
        ⟨Text.ofNat_ne_nil _, isDigit_of_mem_line, opening, hopening, by simp⟩
    · intro front r heq hfront hlen
      have heq : l.path.text ++ (':' :: ofNat l.line.toNat ++ (":in ".toList ++
          opening :: l.label ++ [apostrophe])) = front ++ r := by
        simpa [labelLastText] using heq
      -- an earlier place leaves a piece of the path in front of the line number
      obtain ⟨piece, hpiece, hsplit, rfl⟩ :=
        Text.exists_of_append_eq_append_of_length_lt heq hlen
      rw [hsplit] at hnames
      rw [← List.append_assoc]
      exact lineAndLabelAtEnd?_eq_none hnames hfront hpiece
        (fun c hc => isDigit_of_mem_line c (List.mem_of_mem_head? hc)) (Text.ofNat_ne_nil _)
  rw [parts?, if_pos hline, hparts]
  rfl

theorem parts?_labelFirstText {l : Location} (hne : l.label ≠ [])
    (hfirst : ∀ c ∈ l.label.head?, isBlank c = false) (hlabel : newline ∉ l.label)
    (hends : EndsAtMark l.label) (hpathne : l.path.text ≠ []) (hpath : newline ∉ l.path.text) :
    parts? (labelFirstText l) =
      some { path := l.path.text, digits := ofNat l.line.toNat, label := l.label } := by
  have hline : Text.isOneLine (labelFirstText l) = true := by
    have hdigits : newline ∉ ofNat l.line.toNat := Text.notMem_ofNat (by decide) _
    rw [Text.isOneLine_iff]
    simp only [newline] at hpath hdigits hlabel
    simp [labelFirstText, hpath, hdigits, hlabel, newline]
  have hlast : labelLast? (labelFirstText l) = none := by
    have heq : labelFirstText l =
        (l.label ++ " at ".toList ++ l.path.text ++ [':']) ++ ofNat l.line.toNat := by
      simp [labelFirstText]
    rw [heq]
    exact labelLast?_eq_none (Text.ofNat_ne_nil _) isDigit_of_mem_line
  have hrest : unlabelled? (l.path.text ++ ':' :: ofNat l.line.toNat) =
      some { path := l.path.text, digits := ofNat l.line.toNat, label := [] } :=
    unlabelled?_eq_some.2 ⟨rfl, hpathne, Text.ofNat_ne_nil _, isDigit_of_mem_line, rfl⟩
  have hparts : labelFirst? (labelFirstText l) =
      some { path := l.path.text, digits := ofNat l.line.toNat, label := l.label } := by
    refine labelFirst?_eq_some.2 ⟨?_, hne, " at ".toList ++ (l.path.text ++
      ':' :: ofNat l.line.toNat), by simp [labelFirstText], ?_, ?_⟩
    · intro c hc
      rw [labelFirstText, List.append_assoc, List.append_assoc,
        List.head?_append_of_ne_nil _ hne] at hc
      exact hfirst c hc
    · exact unlabelledBehindMark?_eq_some.2 ⟨_, rfl, hrest⟩
    · intro front r heq hfront hlen
      have heq : l.label ++ (" at ".toList ++ (l.path.text ++ ':' :: ofNat l.line.toNat)) =
          front ++ r := by
        simpa [labelFirstText] using heq
      -- an earlier place leaves a piece of the label in front of the mark
      obtain ⟨piece, hpiece, hsplit, rfl⟩ :=
        Text.exists_of_append_eq_append_of_length_lt heq hlen
      rw [hsplit] at hends
      rw [← List.append_assoc]
      exact unlabelledBehindMark?_eq_none hends hfront hpiece
  rw [parts?, if_pos hline, hlast, hparts]
  rfl

/-- A frame whose parts are those of a location is read as that location. -/
theorem parse_of_parts? {raw : Text} {l : Location} (hline : l.line ≠ 0)
    (h : parts? (Text.trim raw) =
      some { path := l.path.text, digits := ofNat l.line.toNat, label := l.label }) :
    parse raw = .ok l := by
  simp only [parse, h, Text.toWord?_ofNat, if_neg hline]

/-- **Reading a frame undoes printing it**, for every location with a positive line number and any
white space around the frame. With the label last, the path must not name a line and label itself;
with the label first, the label must not hold the mark that ends it. Everything else is free: labels
may hold quotation marks, colons or whole frames, and paths may hold colons and numbers. -/
theorem parse_printed {before after : Text} (hbefore : ∀ c ∈ before, isBlank c = true)
    (hafter : ∀ c ∈ after, isBlank c = true) (l : Location) (hline : l.line ≠ 0) :
    (∀ opening, IsOpening opening → l.path.text ≠ [] → newline ∉ l.path.text →
      (∀ c ∈ l.path.text.head?, isBlank c = false) → NamesNoLine l.path.text →
      newline ∉ l.label → parse (before ++ labelLastText opening l ++ after) = .ok l) ∧
    (newline ∉ l.label → (∃ c, l.label.head? = some c ∧ isBlank c = false) →
      EndsAtMark l.label → l.path.text ≠ [] → newline ∉ l.path.text →
      parse (before ++ labelFirstText l ++ after) = .ok l) := by
  constructor
  · intro opening hopening hne hpath hfirst hnames hlabel
    apply parse_of_parts? hline
    rw [Text.trim_padded hbefore hafter]
    · exact parts?_labelLastText hopening hne hpath hnames hlabel
    · simp [labelLastText]
    · intro c hc
      rw [labelLastText, List.append_assoc, List.append_assoc, List.append_assoc,
        List.head?_append_of_ne_nil _ hne] at hc
      exact hfirst c hc
    · intro c hc
      rw [labelLastText, List.getLast?_concat, Option.mem_some_iff] at hc
      subst hc
      decide
  · intro hlabel hfirst hends hne hpath
    obtain ⟨first, hhead, hfirst⟩ := hfirst
    have hlne : l.label ≠ [] := by
      intro h
      simp [h] at hhead
    have hfirst : ∀ c ∈ l.label.head?, isBlank c = false := by
      intro c hc
      rw [hhead, Option.mem_some_iff] at hc
      exact hc ▸ hfirst
    apply parse_of_parts? hline
    rw [Text.trim_padded hbefore hafter]
    · exact parts?_labelFirstText hlne hfirst hlabel hends hne hpath
    · simp [labelFirstText]
    · intro c hc
      rw [labelFirstText, List.append_assoc, List.append_assoc,
        List.head?_append_of_ne_nil _ hlne] at hc
      exact hfirst c hc
    · intro c hc
      rw [labelFirstText, List.append_cons,
        List.getLast?_append_of_ne_nil _ (Text.ofNat_ne_nil _)] at hc
      exact Text.isBlank_eq_false_of_isDigit
        (Text.isDigit_of_mem_ofNat (List.mem_of_getLast? hc))

/-- A path that goes on after a number and ` :in `, a label that looks like a frame itself, and a
path that holds the mark of labels: all come back as they were printed. -/
theorem parse_printed_tricky :
    NamesNoLine "a:12:in b.rb".toList ∧ EndsAtMark "Foo#bar".toList ∧
      parse "  a:12:in b.rb:7:in 'x' at y:1:in 'z'\n".toList =
        .ok ⟨⟨"a:12:in b.rb".toList⟩, 7, "x' at y:1:in 'z".toList⟩ ∧
      parse "\tFoo#bar at C:/a at b:3.rb:9 ".toList =
        .ok ⟨⟨"C:/a at b:3.rb".toList⟩, 9, "Foo#bar".toList⟩ := by
  have hpath : NamesNoLine "a:12:in b.rb".toList :=
    namesNoLine_of_notMem (by decide) (by decide)
  have hlabel : EndsAtMark "Foo#bar".toList := endsAtMark_of_notMem (by decide)
  have hlast : "  a:12:in b.rb:7:in 'x' at y:1:in 'z'\n".toList =
      [' ', ' '] ++ labelLastText apostrophe
        ⟨⟨"a:12:in b.rb".toList⟩, 7, "x' at y:1:in 'z".toList⟩ ++ ['\n'] := by rfl
  have hfirst : "\tFoo#bar at C:/a at b:3.rb:9 ".toList =
      ['\t'] ++ labelFirstText ⟨⟨"C:/a at b:3.rb".toList⟩, 9, "Foo#bar".toList⟩ ++ [' '] := by rfl
  have hstart : ∀ c ∈ "a:12:in b.rb".toList.head?, isBlank c = false := by
    rintro _ ⟨⟩
    decide
  refine ⟨hpath, hlabel, ?_, ?_⟩
  · rw [hlast]
    exact (parse_printed (List.all_eq_true.1 (by decide)) (List.all_eq_true.1 (by decide))
      ⟨⟨"a:12:in b.rb".toList⟩, 7, "x' at y:1:in 'z".toList⟩ (by decide)).1
      apostrophe (.inr rfl) (by decide) (by decide) hstart hpath (by decide)
  · rw [hfirst]
    exact (parse_printed (List.all_eq_true.1 (by decide)) (List.all_eq_true.1 (by decide))
      ⟨⟨"C:/a at b:3.rb".toList⟩, 9, "Foo#bar".toList⟩ (by decide)).2
      (by decide) ⟨'F', rfl, by decide⟩ hlabel (by decide) (by decide)

end ErrorReport.Location
