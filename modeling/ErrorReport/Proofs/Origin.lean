/-
# ErrorReport.Proofs.Origin — where the texts of a failure come from.

Everything a failure tells was cut out of what the interpreter handed over: paths and labels out of
raw frames, names and reasons out of the message. So a character that the exception does not hold is
in no text of its failure (`ofRaised_escapeFree`), and what a frame gives stays within one line and
has a positive line number (`ofRaised_located`).
-/
import ErrorReport.Failure.Basic
import ErrorReport.Proofs.Frame
import ErrorReport.Proofs.Lines

namespace ErrorReport

open Text (newline escape)

namespace Location

/-! ## Frames -/

theorem subset_of_parts?_eq_some {frame : Text} {parts : Parts} (h : parts? frame = some parts) :
    parts.path ⊆ frame ∧ parts.label ⊆ frame ∧ newline ∉ frame := by
  simp only [parts?, Option.ite_none_right_eq_some, Text.isOneLine_iff, Option.orElse_eq_orElse,
    Option.orElse_eq_or, Option.or_eq_some_iff] at h
  obtain ⟨hline, h | ⟨-, h | ⟨-, h⟩⟩⟩ := h
  · obtain ⟨-, rest, rfl, hrest, -⟩ := labelLast?_eq_some.1 h
    obtain ⟨-, -, opening, -, rfl⟩ := lineAndLabelAtEnd?_eq_some.1 hrest
    refine ⟨List.subset_append_left _ _, ?_, hline⟩
    intro c hc
    simp [hc]
  · obtain ⟨-, -, rest, rfl, hrest, -⟩ := labelFirst?_eq_some.1 h
    obtain ⟨behind, rfl, hbehind⟩ := unlabelledBehindMark?_eq_some.1 hrest
    obtain ⟨-, -, -, -, rfl⟩ := unlabelled?_eq_some.1 hbehind
    refine ⟨?_, List.subset_append_left _ _, hline⟩
    intro c hc
    simp [hc]
  · obtain ⟨hlabel, -, -, -, rfl⟩ := unlabelled?_eq_some.1 h
    refine ⟨List.subset_append_left _ _, ?_, hline⟩
    rw [hlabel]
    exact List.nil_subset _

/-- **What a frame gives** was written in it on one line, and its line number is positive. -/
theorem of_parse_eq_ok {raw : Text} {l : Location} (h : parse raw = .ok l) :
    l.path.text ⊆ raw ∧ l.label ⊆ raw ∧ newline ∉ l.path.text ∧ newline ∉ l.label ∧
      l.line ≠ 0 := by
  unfold parse at h
  dsimp only at h
  split at h
  · cases h
  · next parts hparts =>
    obtain ⟨hpath, hlabel, hline⟩ := subset_of_parts?_eq_some hparts
    split at h
    · cases h
    · next line hword =>
      split at h
      · cases h
      · next hzero =>
        obtain rfl := Except.ok.inj h
        exact ⟨List.Subset.trans hpath (Text.trim_subset raw),
          List.Subset.trans hlabel (Text.trim_subset raw), fun hmem => hline (hpath hmem),
          fun hmem => hline (hlabel hmem), hzero⟩

/-- The locations of a backtrace were read from its frames. -/
theorem mem_parseAll {frames : List Text} {l : Location} (h : l ∈ parseAll frames) :
    ∃ raw ∈ frames, parse raw = .ok l := by
  obtain ⟨raw, hraw, hparse⟩ := List.mem_filterMap.1 h
  refine ⟨raw, hraw, ?_⟩
  cases hresult : parse raw with
  | error e => simp [hresult, Except.toOption] at hparse
  | ok l' => simpa [hresult, Except.toOption] using hparse

/-! ## The method a label names -/

theorem subset_of_afterOpening?_eq_some {label rest : Text} (h : afterOpening? label = some rest) :
    rest ⊆ label := by
  have key : ∀ {lead t r : Text}, Text.after? lead t = some r → r ⊆ t := by
    intro lead t r h
    rw [Text.after?_eq_some.1 h]
    exact List.subset_append_right _ _
  simp only [afterOpening?, Option.orElse_eq_orElse, Option.orElse_eq_or,
    Option.or_eq_some_iff] at h
  rcases h with h | ⟨-, h | ⟨-, h | ⟨-, h⟩⟩⟩
  · exact key h
  · simp only [afterLevels?, bind, Option.bind_eq_some_iff, Prod.exists] at h
    obtain ⟨t, ht, digits, u, hu, hr⟩ := h
    obtain ⟨rfl, -⟩ := Text.leadingDigits_eq_some.1 hu
    have hrest : u ⊆ label := List.Subset.trans (List.subset_append_right _ _) (key ht)
    exact List.Subset.trans (key hr) hrest
  · exact key h
  · exact key h

/-- **The name of a method** is a part of the label. -/
theorem methodName_subset (l : Location) : l.methodName ⊆ l.label := by
  have hdrop : ∀ label : Text, dropOpenings label ⊆ label := by
    intro label
    fun_induction dropOpenings label with
    | case1 label rest h _ ih => exact List.Subset.trans ih (subset_of_afterOpening?_eq_some h)
    | case2 label _ => exact List.Subset.refl _
  have hname : ∀ name : Text, unqualified name ⊆ name := by
    intro name c hc
    rw [unqualified, List.mem_reverse] at hc
    exact List.mem_reverse.1 ((List.takeWhile_sublist _).subset hc)
  unfold methodName
  dsimp only
  split
  · exact hdrop l.label
  · exact List.Subset.trans (hname _) (hdrop l.label)

end Location

namespace Failure

/-! ## Messages -/

theorem leadingName?_subset {t name : Text} (h : leadingName? t = some name) : name ⊆ t := by
  cases t with
  | nil => cases h
  | cons opening rest =>
    simp only [leadingName?, Option.ite_none_right_eq_some, Option.some.injEq] at h
    obtain ⟨-, rfl⟩ := h
    exact List.subset_cons_of_subset _ (List.takeWhile_sublist _).subset

theorem undefinedMethod?_subset {message name : Text} (h : undefinedMethod? message = some name) :
    name ⊆ message := by
  simp only [undefinedMethod?, bind, Option.bind_eq_some_iff, Text.after?_eq_some,
    Option.orElse_eq_orElse, Option.orElse_eq_or, Option.or_eq_some_iff] at h
  obtain ⟨rest, rfl, behind, hbehind, hname⟩ := h
  have hrest : behind ⊆ rest := by
    rcases hbehind with rfl | ⟨-, rfl⟩
    · exact List.subset_append_right _ _
    · exact List.subset_append_right _ _
  exact List.Subset.trans (leadingName?_subset hname)
    (List.Subset.trans hrest (List.subset_append_right _ _))

/-- The path of an unloadable file is a part of the message and stays within one line. -/
theorem of_unloadable?_eq_some {message path : Text} (h : unloadable? message = some path) :
    path ⊆ message ∧ newline ∉ path := by
  simp only [unloadable?, bind, Option.bind_eq_some_iff, Text.after?_eq_some,
    Option.ite_none_right_eq_some, Bool.and_eq_true, Option.some.injEq, Text.isOneLine_iff] at h
  obtain ⟨rest, rfl, ⟨-, hline⟩, rfl⟩ := h
  have htrim := Text.trim_subset rest
  exact ⟨List.Subset.trans htrim (List.subset_append_right _ _),
    fun hmem => hline (htrim hmem)⟩

theorem firstLine?_subset {t first : Text} (h : Text.firstLine? t = some first) : first ⊆ t := by
  obtain ⟨line, hline, rfl⟩ := Option.map_eq_some_iff.1 h
  refine List.Subset.trans ?_ (Text.subset_of_mem_lines (List.mem_of_mem_head? hline))
  split
  · exact List.Subset.refl _
  · dsimp only
    split
    · exact List.Subset.trans (List.dropLast_sublist _).subset (Text.body_subset line)
    · exact Text.body_subset line

/-- **The broken place** is named in the message; its line number is positive and it has no
label. -/
theorem of_brokenSource?_eq_some {message reason : Text} {l : Location}
    (h : brokenSource? message = some (l, reason)) :
    l.path.text ⊆ message ∧ reason ⊆ message ∧ l.label = [] ∧ l.line ≠ 0 := by
  simp only [brokenSource?, bind, Option.bind_eq_some_iff, Prod.exists,
    Text.cutAfter_eq_some_iff, Option.ite_none_left_eq_some, Option.some.injEq,
    Prod.mk.injEq] at h
  obtain ⟨first, hfirst, path, digits, behind, ⟨-, rest, rfl, hrest, -⟩, line, -, hzero, rfl,
    rfl⟩ := h
  have hsub := firstLine?_subset hfirst
  simp only [lineAndReason?, bind, pure, Option.bind_eq_some_iff, Prod.exists,
    Text.after?_eq_some, Text.leadingDigits_eq_some, Option.some.injEq, Prod.mk.injEq] at hrest
  obtain ⟨_, rfl, _, _, ⟨rfl, -⟩, _, rfl, rfl, rfl⟩ := hrest
  refine ⟨?_, ?_, rfl, hzero⟩
  · exact fun c hc => hsub (List.mem_append_left _ hc)
  · intro c hc
    apply hsub
    have := Text.trim_subset _ hc
    simp [this]

/-! ## Failures -/

/-- The details of a failure are what the readers find in its message. -/
def Details.ReadFrom (message : Text) : Details → Prop
  | generic => True
  | arity counts => arity? message = some counts
  | undefinedMethod name => undefinedMethod? message = some name
  | unloadable path => unloadable? message = some path
  | brokenSource l reason => brokenSource? message = some (l, reason)

/-- Details are read from the message, whatever the class. -/
theorem detailsOf_readFrom (classname message : Text) :
    (detailsOf classname message).ReadFrom message := by
  unfold detailsOf
  cases harity : arity? message with
  | some counts => exact harity
  | none =>
    show (classDetails classname message).ReadFrom message
    unfold classDetails
    split
    · cases h : undefinedMethod? message with
      | none => trivial
      | some name => exact h
    · split
      · cases h : unloadable? message with
        | none => trivial
        | some path => exact h
      · split
        · cases h : brokenSource? message with
          | none => trivial
          | some place => exact h
        · trivial

/-- The frames of an exception are its own, or those of its callers if it has none. -/
theorem frames?_eq_some {raised : Raised} {site : RaiseSite} {frames : List Text} :
    raised.frames? site = some frames ↔
      raised.backtrace = some frames ∨ raised.backtrace = none ∧ site.callers = some frames := by
  rw [Raised.frames?, Option.orElse_eq_orElse, Option.orElse_eq_or, Option.or_eq_some_iff]

/-- **A failure that was read** has the class of the exception, the locations of its frames, and
what its message gives. -/
theorem ofRaised_eq_ok {raised : Raised} {site : RaiseSite} {f : Failure} :
    ofRaised raised site = .ok f ↔
      ∃ message frames, raised.message = some message ∧ raised.frames? site = some frames ∧
        f = {
          classname := raised.classname
          explanation := explanationOf message (detailsOf raised.classname message)
          backtrace := Location.parseAll frames
          details := detailsOf raised.classname message } := by
  unfold ofRaised
  cases raised.message with
  | none => simp
  | some message =>
    cases raised.frames? site with
    | none => simp
    | some frames => simp [eq_comm]

/-- The places of a failure can be shown: their lines are counted from one, and what is looked for
there stays within one line. -/
structure Located (f : Failure) : Prop where
  line : ∀ l ∈ f.backtrace, l.line ≠ 0
  label : ∀ l ∈ f.backtrace, newline ∉ l.label
  unloadable : ∀ path ∈ f.unloadablePath?, newline ∉ path
  brokenLine : ∀ l reason, f.brokenPlace? = some (l, reason) → l.line ≠ 0
  brokenLabel : ∀ l reason, f.brokenPlace? = some (l, reason) → l.label = []

/-- **Every failure that was read can be shown.** -/
theorem ofRaised_located {raised : Raised} {site : RaiseSite} {f : Failure}
    (h : ofRaised raised site = .ok f) : f.Located := by
  obtain ⟨message, frames, -, -, rfl⟩ := ofRaised_eq_ok.1 h
  -- of the details it only matters that they were read from the message
  have hread := detailsOf_readFrom raised.classname message
  generalize detailsOf raised.classname message = details at hread
  constructor
  case line =>
    intro l hl
    obtain ⟨raw, -, hparse⟩ := Location.mem_parseAll hl
    exact (Location.of_parse_eq_ok hparse).2.2.2.2
  case label =>
    intro l hl
    obtain ⟨raw, -, hparse⟩ := Location.mem_parseAll hl
    exact (Location.of_parse_eq_ok hparse).2.2.2.1
  case unloadable =>
    intro path hpath
    cases details <;> cases hpath
    exact (of_unloadable?_eq_some hread).2
  case brokenLine =>
    intro l reason hplace
    cases details <;> cases hplace
    exact (of_brokenSource?_eq_some hread).2.2.2
  case brokenLabel =>
    intro l reason hplace
    cases details <;> cases hplace
    exact (of_brokenSource?_eq_some hread).2.2.1

end Failure

/-! ## Texts without escape characters -/

/-- No text of an exception holds the escape character. -/
structure Raised.EscapeFree (raised : Raised) : Prop where
  classname : escape ∉ raised.classname
  message : ∀ message ∈ raised.message, escape ∉ message
  frames : ∀ frames ∈ raised.backtrace, ∀ raw ∈ frames, escape ∉ raw

/-- No frame of the callers holds the escape character. -/
def RaiseSite.EscapeFree (site : RaiseSite) : Prop :=
  ∀ frames ∈ site.callers, ∀ raw ∈ frames, escape ∉ raw

/-- No text of a failure holds the escape character. -/
structure Failure.EscapeFree (f : Failure) : Prop where
  classname : escape ∉ f.classname
  explanation : escape ∉ f.explanation
  path : ∀ l ∈ f.backtrace, escape ∉ l.path.text
  label : ∀ l ∈ f.backtrace, escape ∉ l.label
  undefinedMethod : ∀ name ∈ f.undefinedMethodName?, escape ∉ name
  unloadable : ∀ path ∈ f.unloadablePath?, escape ∉ path
  brokenPath : ∀ l reason, f.brokenPlace? = some (l, reason) → escape ∉ l.path.text
  brokenReason : ∀ l reason, f.brokenPlace? = some (l, reason) → escape ∉ reason

/-- **A failure holds no characters** that the exception does not hold. -/
theorem Failure.ofRaised_escapeFree {raised : Raised} {site : RaiseSite} {f : Failure}
    (hraised : raised.EscapeFree) (hsite : site.EscapeFree)
    (h : Failure.ofRaised raised site = .ok f) : f.EscapeFree := by
  obtain ⟨message, frames, hsome, hframes, rfl⟩ := ofRaised_eq_ok.1 h
  have hmessage : escape ∉ message := hraised.message message hsome
  have hraw : ∀ raw ∈ frames, escape ∉ raw := by
    rcases frames?_eq_some.1 hframes with hown | ⟨-, hcallers⟩
    · exact hraised.frames frames hown
    · exact hsite frames hcallers
  have hread := detailsOf_readFrom raised.classname message
  generalize detailsOf raised.classname message = details at hread
  constructor
  case classname => exact hraised.classname
  case explanation =>
    show escape ∉ explanationOf message details
    unfold explanationOf
    split
    · decide
    · exact hmessage
  case path =>
    intro l hl hmem
    obtain ⟨raw, hin, hparse⟩ := Location.mem_parseAll hl
    exact hraw raw hin ((Location.of_parse_eq_ok hparse).1 hmem)
  case label =>
    intro l hl hmem
    obtain ⟨raw, hin, hparse⟩ := Location.mem_parseAll hl
    exact hraw raw hin ((Location.of_parse_eq_ok hparse).2.1 hmem)
  case undefinedMethod =>
    intro name hname hmem
    cases details <;> cases hname
    exact hmessage (undefinedMethod?_subset hread hmem)
  case unloadable =>
    intro path hpath hmem
    cases details <;> cases hpath
    exact hmessage ((of_unloadable?_eq_some hread).1 hmem)
  case brokenPath =>
    intro l reason hplace hmem
    cases details <;> cases hplace
    exact hmessage ((of_brokenSource?_eq_some hread).1 hmem)
  case brokenReason =>
    intro l reason hplace hmem
    cases details <;> cases hplace
    exact hmessage ((of_brokenSource?_eq_some hread).2.1 hmem)

end ErrorReport
