/-
# ErrorReport.Proofs.Wording — what the messages of three classes give away.

A message without counts of arguments is read according to the class of its exception. Each of the
three wordings is described here as a relation between a message and what it names (`CallsUndefined`,
`NamesUnloadable`, `NamesPlace`), and each reader finds exactly what stands in that relation to the
message. The three are anchored differently: a name may be followed by anything, a file reaches up to
the end of the message, and a broken place stands in the first line.

The first line can often be cut into path, number and reason in more than one way. The path is the
shortest, so a printed place is read back if its path names none itself (`NamesNoPlace`). A number
that is no line does not make another cut acceptable.
-/
import ErrorReport.Proofs.Acceptance
import ErrorReport.Proofs.Arity
import ErrorReport.Proofs.Frame
import ErrorReport.Proofs.Lines

namespace ErrorReport.Failure

open Text (isDigit isBlank newline apostrophe IsDigitRun IsNumeral)
open Location (IsOpening)

/-! ## Undefined methods -/

/-- The message starts by calling `name` undefined. The name stands in quotation marks and goes up to
the first apostrophe. -/
def CallsUndefined (message name : Text) : Prop :=
  name ≠ [] ∧ apostrophe ∉ name ∧ ∃ (lead : Text) (opening : Char) (behind : Text),
    (lead = "undefined method ".toList ∨ lead = "undefined local variable or method ".toList) ∧
      IsOpening opening ∧ message = lead ++ (opening :: name ++ apostrophe :: behind)

theorem leadingName?_eq_some {t name : Text} :
    leadingName? t = some name ↔ name ≠ [] ∧ apostrophe ∉ name ∧
      ∃ opening behind, IsOpening opening ∧ t = opening :: name ++ apostrophe :: behind := by
  have htake : ∀ name behind : Text, apostrophe ∉ name →
      (name ++ apostrophe :: behind).takeWhile (· != apostrophe) = name := by
    intro name behind hnot
    have hall : ∀ c ∈ name, (c != apostrophe) = true := by
      intro c hc
      rw [bne_iff_ne]
      rintro rfl
      exact hnot hc
    rw [List.takeWhile_append_of_pos hall]
    simp
  cases t with
  | nil => simp [leadingName?]
  | cons opening rest =>
    simp only [leadingName?, Option.ite_none_right_eq_some, Bool.and_eq_true, Bool.or_eq_true,
      decide_eq_true_eq, Bool.not_eq_true', List.isEmpty_eq_false_iff, List.contains_iff_mem,
      Option.some.injEq]
    constructor
    · rintro ⟨⟨⟨hopening, hne⟩, hmem⟩, rfl⟩
      obtain ⟨front, behind, rfl, hfront⟩ := List.eq_append_cons_of_mem hmem
      rw [htake front behind hfront] at hne ⊢
      exact ⟨hne, hfront, opening, behind, hopening, rfl⟩
    · rintro ⟨hne, hnot, _, behind, hopening, heq⟩
      obtain ⟨rfl, rfl⟩ : opening = _ ∧ rest = name ++ apostrophe :: behind := List.cons.inj heq
      rw [htake name behind hnot]
      exact ⟨⟨⟨hopening, hne⟩, by simp⟩, rfl⟩

/-- **Undefined methods** are those that the message calls undefined. -/
theorem undefinedMethod?_eq_some {message name : Text} :
    undefinedMethod? message = some name ↔ CallsUndefined message name := by
  have hmethod : "undefined method ".toList = "undefined ".toList ++ "method ".toList := by rfl
  have hvariable : "undefined local variable or method ".toList =
      "undefined ".toList ++ "local variable or method ".toList := by rfl
  -- the two leads differ in their first character, so at most one of them is there
  have hother : ∀ t : Text, Text.after? "method ".toList ("local variable or method ".toList ++ t) =
      none := fun _ => rfl
  unfold CallsUndefined
  rw [hmethod, hvariable]
  simp only [undefinedMethod?, bind, Option.bind_eq_some_iff, Text.after?_eq_some,
    Option.orElse_eq_orElse, Option.orElse_eq_or, Option.or_eq_some_iff, leadingName?_eq_some]
  constructor
  · rintro ⟨_, rfl, _, rfl | ⟨-, rfl⟩, hne, hnot, opening, behind, hopening, rfl⟩
    · exact ⟨hne, hnot, _, opening, behind, .inl rfl, hopening, (List.append_assoc ..).symm⟩
    · exact ⟨hne, hnot, _, opening, behind, .inr rfl, hopening, (List.append_assoc ..).symm⟩
  · rintro ⟨hne, hnot, _, opening, behind, rfl | rfl, hopening, rfl⟩
    · exact ⟨_, List.append_assoc .., _, .inl rfl, hne, hnot, opening, behind, hopening, rfl⟩
    · exact ⟨_, List.append_assoc .., _, .inr ⟨hother _, rfl⟩, hne, hnot, opening, behind, hopening,
        rfl⟩

/-! ## Files that cannot be loaded -/

/-- The message says that it was not possible to load `path`, which it names up to its end, maybe
with white space around it. -/
def NamesUnloadable (message path : Text) : Prop :=
  ∃ rest, rest ≠ [] ∧ newline ∉ rest ∧ message = "cannot load such file -- ".toList ++ rest ∧
    path = Text.trim rest

/-- **Unloadable files** are those that the message names. -/
theorem unloadable?_eq_some {message path : Text} :
    unloadable? message = some path ↔ NamesUnloadable message path := by
  unfold NamesUnloadable
  simp only [unloadable?, bind, Option.bind_eq_some_iff, Text.after?_eq_some,
    Option.ite_none_right_eq_some, Bool.and_eq_true, Bool.not_eq_true',
    List.isEmpty_eq_false_iff, Text.isOneLine_iff, Option.some.injEq]
  constructor
  · rintro ⟨rest, hmessage, ⟨hne, hline⟩, rfl⟩
    exact ⟨rest, hne, hline, hmessage, rfl⟩
  · rintro ⟨rest, hne, hline, hmessage, rfl⟩
    exact ⟨rest, hmessage, ⟨hne, hline⟩, rfl⟩

/-! ## Places in a line -/

/-- A line that consists of a path, a number and what is said about them. -/
structure IsPlace (line path digits said : Text) : Prop where
  path_ne_nil : path ≠ []
  isDigitRun : IsDigitRun digits
  printed : line = path ++ (':' :: digits ++ ": ".toList ++ said)

/-- A line that consists of these parts, and of none with a shorter path. -/
structure IsFirstPlace (line path digits said : Text) : Prop extends IsPlace line path digits said where
  shortest : ∀ path' digits' said', IsPlace line path' digits' said' → path.length ≤ path'.length

theorem lineAndReason?_eq_some {t digits said : Text} :
    lineAndReason? t = some (digits, said) ↔
      IsDigitRun digits ∧ t = ':' :: digits ++ ": ".toList ++ said := by
  simp only [lineAndReason?, bind, pure, Option.bind_eq_some_iff, Text.after?_eq_some, Prod.exists,
    Text.leadingDigits_eq_some, Option.some.injEq, Prod.mk.injEq]
  constructor
  · rintro ⟨_, rfl, _, _, ⟨rfl, hne, hall, -⟩, _, rfl, rfl, rfl⟩
    exact ⟨⟨hne, hall⟩, by simp⟩
  · rintro ⟨⟨hne, hall⟩, rfl⟩
    refine ⟨_, rfl, digits, ": ".toList ++ said, ⟨by simp, hne, hall, ?_⟩, _, rfl, rfl, rfl⟩
    intro c hc
    obtain rfl : ':' = c := by simpa using hc
    decide

/-- **The first place** is what is found in a line. -/
theorem cutAfter_lineAndReason?_eq_some {line path digits said : Text} :
    Text.cutAfter lineAndReason? line = some (path, digits, said) ↔
      IsFirstPlace line path digits said := by
  simp only [Text.cutAfter_eq_some_iff, Text.no_shorter_iff, Prod.forall, lineAndReason?_eq_some]
  constructor
  · rintro ⟨hpath, _, rfl, ⟨hdigits, rfl⟩, hshortest⟩
    refine ⟨⟨hpath, hdigits, rfl⟩, ?_⟩
    rintro path' digits' said' ⟨hpath', hdigits', hline⟩
    exact hshortest _ _ _ _ hline hpath' ⟨hdigits', rfl⟩
  · rintro ⟨⟨hpath, hdigits, rfl⟩, hshortest⟩
    refine ⟨hpath, _, rfl, ⟨hdigits, rfl⟩, ?_⟩
    rintro path' _ digits' said' hline hpath' ⟨hdigits', rfl⟩
    exact hshortest _ _ _ ⟨hpath', hdigits', hline⟩

/-- Behind its first character, a path holds nothing that looks like a number with something said
about it. -/
def NamesNoPlace (path : Text) : Prop :=
  ∀ front digits back, front ≠ [] → IsDigitRun digits →
    path ≠ front ++ (':' :: digits ++ ": ".toList ++ back)

/-- A path without spaces names no place. -/
theorem namesNoPlace_of_notMem {path : Text} (h : ' ' ∉ path) : NamesNoPlace path := by
  rintro front digits back - - rfl
  exact h (by simp)

/-- A printed place is the first one if its path names none: not even a number that would reach
beyond the path is taken for the end of it. -/
theorem isFirstPlace_printed {path digits said : Text} (hne : path ≠ [])
    (hnames : NamesNoPlace path) (hdigits : IsDigitRun digits) :
    IsFirstPlace (path ++ (':' :: digits ++ ": ".toList ++ said)) path digits said := by
  refine ⟨⟨hne, hdigits, rfl⟩, ?_⟩
  rintro path' digits' said' ⟨hne', hdigits', heq⟩
  by_contra hlt
  obtain ⟨piece, hpiece, rfl, hrest⟩ :=
    Text.exists_of_append_eq_append_of_length_lt heq (Nat.lt_of_not_le hlt)
  have hrest : (':' :: digits' ++ ':' :: [' ']) ++ said' =
      piece ++ ':' :: (digits ++ (": ".toList ++ said)) := by
    simpa using hrest
  obtain ⟨back, rfl⟩ := Location.exists_eq_of_numbered hpiece
    (fun c hc => hdigits.2 c (List.mem_of_mem_head? hc)) hdigits.1 hdigits'.2 (by decide)
    ⟨' ', rfl, by decide⟩ hrest
  exact hnames path' digits' back hne' hdigits' (by simp)

/-- A carriage return behind a place belongs to what is said. -/
theorem isPlace_append_return {line path digits said : Text} :
    IsPlace (line ++ ['\r']) path digits said ↔
      ∃ said', said = said' ++ ['\r'] ∧ IsPlace line path digits said' := by
  constructor
  · rintro ⟨hpath, hdigits, hline⟩
    rcases List.eq_nil_or_concat said with rfl | ⟨said', c, rfl⟩
    · have hblank : line ++ ['\r'] = path ++ (':' :: digits ++ [':']) ++ [' '] := by
        rw [hline]
        simp
      exact absurd (List.append_inj' hblank rfl).2 (by decide)
    · have hreturn : line ++ ['\r'] =
          path ++ (':' :: digits ++ ": ".toList ++ said') ++ [c] := by
        rw [hline]
        simp
      obtain ⟨rfl, hc⟩ := List.append_inj' hreturn rfl
      exact ⟨said', by rw [hc, List.concat_eq_append], hpath, hdigits, rfl⟩
  · rintro ⟨said', rfl, hpath, hdigits, rfl⟩
    exact ⟨hpath, hdigits, by simp only [List.append_assoc]⟩

theorem isFirstPlace_append_return {line path digits said : Text} :
    IsFirstPlace (line ++ ['\r']) path digits said ↔
      ∃ said', said = said' ++ ['\r'] ∧ IsFirstPlace line path digits said' := by
  constructor
  · rintro ⟨hplace, hshortest⟩
    obtain ⟨said', rfl, hplace'⟩ := isPlace_append_return.1 hplace
    refine ⟨said', rfl, hplace', ?_⟩
    intro path' digits' other hother
    exact hshortest path' digits' _ (isPlace_append_return.2 ⟨other, rfl, hother⟩)
  · rintro ⟨said', rfl, hplace, hshortest⟩
    refine ⟨isPlace_append_return.2 ⟨said', rfl, hplace⟩, ?_⟩
    intro path' digits' other hother
    obtain ⟨other', -, hother'⟩ := isPlace_append_return.1 hother
    exact hshortest path' digits' other' hother'

/-! ## Broken source -/

/-- The first line of the message names a place in the source and says what is wrong there. The
number of the place is a line number, and it has no label. -/
structure NamesPlace (message : Text) (l : Location) (reason : Text) : Prop where
  label : l.label = []
  line : l.line ≠ 0
  place : ∃ digits said, IsNumeral digits l.line ∧ reason = Text.trim said ∧
    IsFirstPlace (Text.body message) l.path.text digits said

/-- **Broken source** is where the message names a place. -/
theorem brokenSource?_eq_some {message reason : Text} {l : Location} :
    brokenSource? message = some (l, reason) ↔ NamesPlace message l reason := by
  obtain ⟨⟨path⟩, line, label⟩ := l
  by_cases hmessage : message = []
  · subst hmessage
    constructor
    · intro h
      cases h
    · rintro ⟨-, -, digits, said, -, -, ⟨hpath, -, hline⟩, -⟩
      exact absurd (List.append_eq_nil_iff.1 hline.symm).1 hpath
  obtain ⟨first, ret, hfirst, hbody, hret⟩ := Text.exists_firstLine? hmessage
  -- the carriage return that the first line may end with is white space behind what is said
  have hplaces : (∃ digits said, IsNumeral digits line ∧ reason = Text.trim said ∧
        IsFirstPlace (Text.body message) path digits said) ↔
      ∃ digits said, IsNumeral digits line ∧ reason = Text.trim said ∧
        IsFirstPlace first path digits said := by
    rw [hbody]
    rcases hret with rfl | rfl
    · rw [List.append_nil]
    · simp only [isFirstPlace_append_return]
      constructor
      · rintro ⟨digits, _, hdigits, hreason, said, rfl, hplace⟩
        rw [Text.trim_append_blank said (by decide)] at hreason
        exact ⟨digits, said, hdigits, hreason, hplace⟩
      · rintro ⟨digits, said, hdigits, hreason, hplace⟩
        rw [← Text.trim_append_blank said (show isBlank '\r' = true by decide)] at hreason
        exact ⟨digits, _, hdigits, hreason, said, rfl, hplace⟩
  have hnames : NamesPlace message ⟨⟨path⟩, line, label⟩ reason ↔
      label = [] ∧ line ≠ 0 ∧ ∃ digits said, IsNumeral digits line ∧ reason = Text.trim said ∧
        IsFirstPlace first path digits said := by
    rw [← hplaces]
    exact ⟨fun h => ⟨h.label, h.line, h.place⟩, fun ⟨hlabel, hline, hplace⟩ => ⟨hlabel, hline, hplace⟩⟩
  rw [hnames]
  simp only [brokenSource?, bind, hfirst, Option.bind_some, Option.bind_eq_some_iff, Prod.exists,
    cutAfter_lineAndReason?_eq_some, Text.toWord?_eq_some, Option.ite_none_left_eq_some,
    Option.some.injEq, Prod.mk.injEq, Location.mk.injEq, Path.mk.injEq]
  constructor
  · rintro ⟨_, digits, said, hplace, _, hdigits, hzero, ⟨rfl, rfl, rfl⟩, rfl⟩
    exact ⟨rfl, hzero, digits, said, hdigits, rfl, hplace⟩
  · rintro ⟨rfl, hzero, digits, said, hdigits, rfl, hplace⟩
    exact ⟨path, digits, said, hplace, line, hdigits, hzero, ⟨rfl, rfl, rfl⟩, rfl⟩

/-- A place that is printed in the first line of a message is named by it. -/
theorem namesPlace_printed {path digits said behind : Text} {line : UInt64} (hne : path ≠ [])
    (hpath : newline ∉ path) (hnames : NamesNoPlace path) (hdigits : IsNumeral digits line)
    (hline : line ≠ 0) (hsaid : newline ∉ said) (hbehind : ∀ c ∈ behind.head?, c = newline) :
    NamesPlace (path ++ (':' :: digits ++ ": ".toList ++ said) ++ behind) ⟨⟨path⟩, line, []⟩
      (Text.trim said) := by
  have hbody : Text.body (path ++ (':' :: digits ++ ": ".toList ++ said) ++ behind) =
      path ++ (':' :: digits ++ ": ".toList ++ said) := by
    have hnot : newline ∉ path ++ (':' :: digits ++ ": ".toList ++ said) := by
      have hrun : newline ∉ digits := hdigits.isDigitRun.notMem (by decide)
      simp only [newline] at hpath hrun hsaid
      simp [hpath, hrun, hsaid, newline]
    cases behind with
    | nil => rw [List.append_nil, Text.body_of_notMem hnot]
    | cons c behind =>
      obtain rfl : c = newline := hbehind c rfl
      exact Text.body_append_newline hnot behind
  refine ⟨rfl, hline, digits, said, hdigits, rfl, ?_⟩
  rw [hbody]
  exact isFirstPlace_printed hne hnames hdigits.isDigitRun

/-! ## Details of a class -/

variable {classname message : Text}

/-- A class that tells of broken source or of files that cannot be loaded is a class of its own. -/
theorem classes_distinct :
    loadError ≠ noMethodError ∧ syntaxError ≠ noMethodError ∧ syntaxError ≠ loadError := by
  decide

/-- **An undefined method** is named by the messages of one class that call it so. -/
theorem classDetails_eq_undefinedMethod {name : Text} :
    classDetails classname message = .undefinedMethod name ↔
      classname = noMethodError ∧ CallsUndefined message name := by
  unfold classDetails
  rw [← undefinedMethod?_eq_some]
  split_ifs with hclass
  · cases undefinedMethod? message <;> simp [hclass]
  · cases unloadable? message <;> simp [hclass]
  · cases brokenSource? message <;> simp [hclass]
  · simp [hclass]

/-- **An unloadable file** is named by the messages of one class. -/
theorem classDetails_eq_unloadable {path : Text} :
    classDetails classname message = .unloadable path ↔
      classname = loadError ∧ NamesUnloadable message path := by
  obtain ⟨hload, -, -⟩ := classes_distinct
  unfold classDetails
  rw [← unloadable?_eq_some]
  split_ifs with hmethod hclass
  · cases undefinedMethod? message <;> simp [hmethod, hload.symm]
  · cases unloadable? message <;> simp [hclass]
  · cases brokenSource? message <;> simp [hclass]
  · simp [hclass]

/-- **Broken source** is placed by the messages of one class. -/
theorem classDetails_eq_brokenSource {l : Location} {reason : Text} :
    classDetails classname message = .brokenSource l reason ↔
      classname = syntaxError ∧ NamesPlace message l reason := by
  obtain ⟨-, hmethod', hload'⟩ := classes_distinct
  unfold classDetails
  rw [← brokenSource?_eq_some]
  split_ifs with hmethod hload hclass
  · cases undefinedMethod? message <;> simp [hmethod, hmethod'.symm]
  · cases unloadable? message <;> simp [hload, hload'.symm]
  · cases brokenSource? message <;> simp [hclass, Prod.ext_iff]
  · simp [hclass]

/-- Nothing else is read according to the class. -/
theorem classDetails_eq_generic :
    classDetails classname message = .generic ↔
      (∀ name, ¬ (classname = noMethodError ∧ CallsUndefined message name)) ∧
      (∀ path, ¬ (classname = loadError ∧ NamesUnloadable message path)) ∧
      ∀ l reason, ¬ (classname = syntaxError ∧ NamesPlace message l reason) := by
  simp only [← classDetails_eq_undefinedMethod, ← classDetails_eq_unloadable,
    ← classDetails_eq_brokenSource]
  have harity : ∀ counts, classDetails classname message ≠ .arity counts :=
    classDetails_ne_arity classname message
  cases hdetails : classDetails classname message with
  | generic => simp
  | arity counts => exact absurd hdetails (harity counts)
  | undefinedMethod name => simp
  | unloadable path => simp
  | brokenSource l reason => simp

/-- Without counts of arguments, the details are those of the class. -/
theorem detailsOf_eq_classDetails (h : arity? message = none) :
    detailsOf classname message = classDetails classname message := by
  rw [detailsOf, h]
  rfl

/-- **The wordings of three classes are recognised exactly**, in every exception that can be read and
whose message gives no counts of arguments.

An undefined method is one that the message calls so, whatever follows; an unloadable file is what
the message names up to its end; broken source is where the first line of the message places it, up
to the shortest path that leaves a place, if its number is that of a line. So a printed place is read
back, whatever lines follow it, if its path names no place itself. Of every other message and class
nothing is read. -/
theorem wordings_recognised {raised : Raised} {site : RaiseSite}
    (hreadable : isReadable raised site = true) (hmessage : raised.message = some message)
    (hcounts : arity? message = none) :
    ∃ f, ofRaised raised site = .ok f ∧
      (∀ name, f.details = .undefinedMethod name ↔
        raised.classname = noMethodError ∧ CallsUndefined message name) ∧
      (∀ path, f.details = .unloadable path ↔
        raised.classname = loadError ∧ NamesUnloadable message path) ∧
      (∀ l reason, f.details = .brokenSource l reason ↔
        raised.classname = syntaxError ∧ NamesPlace message l reason) ∧
      (∀ (path digits said behind : Text) (line : UInt64), raised.classname = syntaxError →
        path ≠ [] → newline ∉ path → NamesNoPlace path → IsNumeral digits line → line ≠ 0 →
        newline ∉ said → (∀ c ∈ behind.head?, c = newline) →
        message = path ++ (':' :: digits ++ ": ".toList ++ said) ++ behind →
        f.details = .brokenSource ⟨⟨path⟩, line, []⟩ (Text.trim said)) ∧
      (f.details = .generic ↔
        (∀ name, ¬ (raised.classname = noMethodError ∧ CallsUndefined message name)) ∧
        (∀ path, ¬ (raised.classname = loadError ∧ NamesUnloadable message path)) ∧
        ∀ l reason, ¬ (raised.classname = syntaxError ∧ NamesPlace message l reason)) := by
  obtain ⟨f, hread⟩ := exists_ofRaised_eq_ok.2 hreadable
  have hdetails : f.details = classDetails raised.classname message := by
    obtain ⟨message', frames, hmessage', -, rfl⟩ := ofRaised_eq_ok.1 hread
    obtain rfl := Option.some.inj (hmessage'.symm.trans hmessage)
    exact detailsOf_eq_classDetails hcounts
  refine ⟨f, hread, ?_⟩
  rw [hdetails]
  refine ⟨fun name => classDetails_eq_undefinedMethod, fun path => classDetails_eq_unloadable,
    fun l reason => classDetails_eq_brokenSource, ?_, classDetails_eq_generic⟩
  rintro path digits said behind line hclass hne hpath hnames hdigits hline hsaid hbehind rfl
  exact classDetails_eq_brokenSource.2
    ⟨hclass, namesPlace_printed hne hpath hnames hdigits hline hsaid hbehind⟩

/-- The number behind the first colon is not that of the place, since no space follows it; and the
carriage return and the second line do not belong to the reason. -/
theorem wordings_recognised_tricky :
    arity? "a:1:b.rb:07: unexpected end \r\nmore: 2: x".toList = none ∧
    NamesNoPlace "a:1:b.rb".toList ∧
    ∃ f, ofRaised (.ofMessage syntaxError
        "a:1:b.rb:07: unexpected end \r\nmore: 2: x".toList) {} = .ok f ∧
      f.details = .brokenSource ⟨⟨"a:1:b.rb".toList⟩, 7, []⟩ "unexpected end".toList := by
  have hcounts : arity? "a:1:b.rb:07: unexpected end \r\nmore: 2: x".toList = none := by decide
  have hnames : NamesNoPlace "a:1:b.rb".toList := namesNoPlace_of_notMem (by decide)
  have hreadable : isReadable (.ofMessage syntaxError
      "a:1:b.rb:07: unexpected end \r\nmore: 2: x".toList) {} = true := by decide
  obtain ⟨f, hread, -, -, -, hplace, -⟩ := wordings_recognised hreadable rfl hcounts
  refine ⟨hcounts, hnames, f, hread, ?_⟩
  have hbehind : ∀ c ∈ "\nmore: 2: x".toList.head?, c = newline := by
    rintro _ ⟨⟩
    rfl
  exact hplace "a:1:b.rb".toList "07".toList "unexpected end \r".toList "\nmore: 2: x".toList 7
    rfl (by decide) (by decide) hnames (by decide) (by decide) (by decide) hbehind rfl

end ErrorReport.Failure
