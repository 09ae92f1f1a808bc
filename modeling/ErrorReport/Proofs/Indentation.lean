/-
# ErrorReport.Proofs.Indentation — which indentation is taken off.

Lines are moved to the left together. What is taken off is one text, the first of the shortest
indentations among them (`IsFirstShortest`), and it is taken off every line that starts with it. The
line that it comes from is left without indentation, so the shortest one is empty from then on and
nothing is taken off a second time (`dedent_dedent`).

Where tabs, spaces and carriage returns are mixed, the shortest indentation need not start the other
ones, and lines that do not start with it stay. Where it starts all of them, all lines move by the
same text and keep their places relative to each other (`map_append_dedent`).
-/
import ErrorReport.Window.Basic
import ErrorReport.Proofs.Lines
import Mathlib.Data.List.Infix

namespace ErrorReport.Window

open Text (newline body unlines)

/-! ## The first of the shortest -/

/-- One of some texts: those in front of it are longer, and those behind it are not shorter. -/
def IsFirstShortest (t : Text) (ts : List Text) : Prop :=
  ∃ before after, ts = before ++ t :: after ∧ (∀ u ∈ before, t.length < u.length) ∧
    ∀ u ∈ after, t.length ≤ u.length

namespace IsFirstShortest

variable {t u v : Text} {ts : List Text}

theorem mem (h : IsFirstShortest t ts) : t ∈ ts := by
  obtain ⟨before, after, rfl, -, -⟩ := h
  simp

theorem length_le (h : IsFirstShortest t ts) (hu : u ∈ ts) : t.length ≤ u.length := by
  obtain ⟨before, after, rfl, hbefore, hafter⟩ := h
  rcases List.mem_append.1 hu with hu | hu
  · exact (hbefore u hu).le
  · rcases List.mem_cons.1 hu with rfl | hu
    · exact le_rfl
    · exact hafter u hu

theorem cons_of_lt (h : IsFirstShortest t ts) (hu : u ∈ ts) (hlt : u.length < v.length) :
    IsFirstShortest t (v :: ts) := by
  have hv : t.length < v.length := (h.length_le hu).trans_lt hlt
  obtain ⟨before, after, rfl, hbefore, hafter⟩ := h
  exact ⟨v :: before, after, rfl, List.forall_mem_cons.2 ⟨hv, hbefore⟩, hafter⟩

theorem cons_cons_of_le (h : IsFirstShortest t (u :: ts)) (hle : u.length ≤ v.length) :
    IsFirstShortest t (u :: v :: ts) := by
  obtain ⟨before, after, heq, hbefore, hafter⟩ := h
  cases before with
  | nil =>
    obtain ⟨rfl, rfl⟩ := List.cons.inj heq
    exact ⟨[], v :: ts, rfl, List.forall_mem_nil _, List.forall_mem_cons.2 ⟨hle, hafter⟩⟩
  | cons w before =>
    obtain ⟨rfl, rfl⟩ := List.cons.inj heq
    obtain ⟨hu, hbefore⟩ := List.forall_mem_cons.1 hbefore
    refine ⟨u :: v :: before, after, rfl, ?_, hafter⟩
    exact List.forall_mem_cons.2 ⟨hu, List.forall_mem_cons.2 ⟨hu.trans_le hle, hbefore⟩⟩

end IsFirstShortest

/-- **Of the shortest texts the first one is taken.** -/
theorem isFirstShortest_shortest {ts : List Text} (hne : ts ≠ []) :
    IsFirstShortest (shortest ts) ts := by
  -- the fold carries the first of the shortest texts behind which it has come
  have key : ∀ (us : List Text) (t : Text), IsFirstShortest
      (us.foldl (fun least u => if u.length < least.length then u else least) t) (t :: us) := by
    intro us
    induction us with
    | nil =>
      intro t
      exact ⟨[], [], rfl, List.forall_mem_nil _, List.forall_mem_nil _⟩
    | cons u us ih =>
      intro t
      rw [List.foldl_cons]
      split
      · next hlt => exact (ih u).cons_of_lt (List.mem_cons_self ..) hlt
      · next hle => exact (ih t).cons_cons_of_le (Nat.le_of_not_lt hle)
  cases ts with
  | nil => exact absurd rfl hne
  | cons t ts => exact key ts t

theorem shortest_mem {ts : List Text} (hne : ts ≠ []) : shortest ts ∈ ts :=
  (isFirstShortest_shortest hne).mem

/-! ## One line -/

/-- A line without the shortest indentation among some lines. -/
def outdented (lines : List Text) (line : Text) : Text :=
  (Text.after? (shortest (lines.map indentation)) line).getD line

theorem dedent_eq_map (lines : List Text) : dedent lines = lines.map (outdented lines) := rfl

theorem isIndent_iff {c : Char} : isIndent c = true ↔ c = ' ' ∨ c = '\t' ∨ c = '\r' := by
  simp only [isIndent, Bool.or_eq_true, decide_eq_true_eq]
  tauto

theorem isIndent_of_mem_shortest {lines : List Text} {c : Char}
    (h : c ∈ shortest (lines.map indentation)) : isIndent c = true := by
  have hne : lines.map indentation ≠ [] := by
    intro hnil
    rw [hnil] at h
    cases h
  obtain ⟨source, -, hsource⟩ := List.mem_map.1 (shortest_mem hne)
  rw [← hsource] at h
  exact List.mem_takeWhile_imp h

/-- **Only indentation is taken off.** -/
theorem exists_indent (lines : List Text) (line : Text) :
    ∃ indent : Text, (∀ c ∈ indent, isIndent c = true) ∧
      line = indent ++ outdented lines line := by
  unfold outdented
  cases hafter : Text.after? (shortest (lines.map indentation)) line with
  | none => exact ⟨[], by simp, rfl⟩
  | some rest =>
    exact ⟨_, fun _ => isIndent_of_mem_shortest, Text.after?_eq_some.1 hafter⟩

theorem outdented_subset (lines : List Text) (line : Text) : outdented lines line ⊆ line := by
  obtain ⟨indent, -, heq⟩ := exists_indent lines line
  intro c hc
  rw [heq]
  exact List.mem_append_right _ hc

theorem outdented_append {lines : List Text} {line rest : Text}
    (h : line = shortest (lines.map indentation) ++ rest) : outdented lines line = rest := by
  rw [outdented, Text.after?_eq_some.2 h, Option.getD_some]

/-- A line that does not start with the shortest indentation stays. -/
theorem outdented_eq_self {lines : List Text} {line : Text}
    (h : ¬ shortest (lines.map indentation) <+: line) : outdented lines line = line := by
  have hnone : Text.after? (shortest (lines.map indentation)) line = none := by
    rw [Option.eq_none_iff_forall_ne_some]
    intro rest hrest
    exact h ⟨rest, (Text.after?_eq_some.1 hrest).symm⟩
  rw [outdented, hnone, Option.getD_none]

theorem indentation_eq_nil_iff {line : Text} :
    indentation line = [] ↔ ∀ c ∈ line.head?, isIndent c = false := by
  cases line with
  | nil => simp [indentation]
  | cons c line => cases hc : isIndent c <;> simp [indentation, hc]

theorem indentation_of_append {line rest : Text} (h : line = indentation line ++ rest) :
    indentation rest = [] := by
  have hrest : rest = line.dropWhile isIndent :=
    List.append_cancel_left (h.symm.trans List.takeWhile_append_dropWhile.symm)
  rw [indentation_eq_nil_iff, hrest]
  intro c hc
  have hhead := List.head?_dropWhile_not isIndent line
  rw [Option.mem_def.1 hc] at hhead
  simpa using hhead

/-! ## All lines -/

/-- **A line is left without indentation.** It is the one whose indentation is taken off. -/
theorem exists_not_indented {lines : List Text} (hne : lines ≠ []) :
    ∃ line ∈ dedent lines, indentation line = [] := by
  obtain ⟨line, hline, hshortest⟩ := List.mem_map.1 (shortest_mem (mt List.map_eq_nil_iff.1 hne))
  obtain ⟨rest, hrest⟩ : indentation line <+: line := List.takeWhile_prefix _
  have houtdented : outdented lines line = rest := outdented_append (hshortest ▸ hrest.symm)
  refine ⟨rest, ?_, indentation_of_append hrest.symm⟩
  rw [dedent_eq_map, List.mem_map]
  exact ⟨line, hline, houtdented⟩

/-- Where a line is not indented, all lines stay. -/
theorem dedent_of_not_indented {lines : List Text}
    (h : ∃ line ∈ lines, indentation line = []) : dedent lines = lines := by
  obtain ⟨line, hline, hnil⟩ := h
  have hmem : [] ∈ lines.map indentation := List.mem_map.2 ⟨line, hline, hnil⟩
  have hlength := (isFirstShortest_shortest (List.ne_nil_of_mem hmem)).length_le hmem
  have hshortest : shortest (lines.map indentation) = [] :=
    List.eq_nil_of_length_eq_zero (Nat.le_zero.1 hlength)
  have hself : ∀ other ∈ lines, outdented lines other = other := fun other _ =>
    outdented_append (by rw [hshortest, List.nil_append])
  rw [dedent_eq_map, List.map_congr_left hself, List.map_id']

/-- **Moved lines stay where they are.** -/
theorem dedent_dedent (lines : List Text) : dedent (dedent lines) = dedent lines := by
  by_cases hne : lines = []
  · rw [hne]
    rfl
  · exact dedent_of_not_indented (exists_not_indented hne)

/-- **Lines whose indentations start with the shortest one** all move by it. -/
theorem map_append_dedent {lines : List Text}
    (h : ∀ line ∈ lines, shortest (lines.map indentation) <+: indentation line) :
    (dedent lines).map (shortest (lines.map indentation) ++ ·) = lines := by
  have hback : ∀ line ∈ lines,
      shortest (lines.map indentation) ++ outdented lines line = line := by
    intro line hline
    obtain ⟨rest, hrest⟩ := (h line hline).trans (List.takeWhile_prefix _)
    rw [outdented_append hrest.symm, hrest]
  rw [dedent_eq_map, List.map_map]
  exact (List.map_congr_left hback).trans (List.map_id' lines)

/-- Indentations of one character only start with the shortest one. -/
theorem shortest_prefix_of_same {lines : List Text} {blank : Char}
    (h : ∀ line ∈ lines, ∀ c ∈ indentation line, c = blank) :
    ∀ line ∈ lines, shortest (lines.map indentation) <+: indentation line := by
  intro line hline
  have hmem : indentation line ∈ lines.map indentation := List.mem_map_of_mem hline
  have hfirst := isFirstShortest_shortest (List.ne_nil_of_mem hmem)
  obtain ⟨source, hsource, hshortest⟩ := List.mem_map.1 hfirst.mem
  have hall : ∀ c ∈ shortest (lines.map indentation), c = blank := hshortest ▸ h source hsource
  rw [List.eq_replicate_of_mem (h line hline), List.prefix_replicate_iff]
  exact ⟨hfirst.length_le hmem, List.eq_replicate_of_mem hall⟩

/-! ## Finished lines -/

/-- A line with its newline. -/
def IsFinished (line : Text) : Prop := ∃ b, newline ∉ b ∧ line = b ++ [newline]

/-- Finished lines, moved to the left and written one after the other. -/
def movedLeft (source : List Text) : Text := unlines (dedent (source.map body))

instance : DecidablePred IsFinished := fun line =>
  decidable_of_iff (body line ++ [newline] = line)
    ⟨fun h => ⟨body line, Text.newline_notMem_body line, h.symm⟩, by
      rintro ⟨b, hb, rfl⟩
      rw [Text.body_append_newline hb]⟩

theorem indentation_append_newline (b : Text) : indentation (b ++ [newline]) = indentation b := by
  induction b with
  | nil => rfl
  | cons c b ih =>
    unfold indentation at ih ⊢
    rw [List.cons_append, List.takeWhile_cons, List.takeWhile_cons, ih]

theorem IsFinished.body_append {line : Text} (h : IsFinished line) :
    body line ++ [newline] = line := by
  obtain ⟨b, hb, rfl⟩ := h
  rw [Text.body_append_newline hb]

section

variable {source : List Text} (hsource : ∀ line ∈ source, IsFinished line)

include hsource

/-- Finished lines are indented as their bodies are. -/
theorem map_indentation_body : (source.map body).map indentation = source.map indentation := by
  rw [List.map_map]
  refine List.map_congr_left fun line hline => ?_
  rw [Function.comp_apply, ← indentation_append_newline, (hsource line hline).body_append]

theorem outdented_body_append {line : Text} (hline : line ∈ source) :
    outdented (source.map body) (body line) ++ [newline] = outdented source line := by
  have hbody := (hsource line hline).body_append
  have hshared := map_indentation_body hsource
  by_cases hprefix : shortest (source.map indentation) <+: body line
  · obtain ⟨rest, hrest⟩ := hprefix
    have hwhole : line = shortest (source.map indentation) ++ (rest ++ [newline]) := by
      rw [← List.append_assoc, hrest, hbody]
    rw [outdented_append (hshared.symm ▸ hrest.symm), outdented_append hwhole]
  · have hwhole : ¬ shortest (source.map indentation) <+: line := by
      rw [← hbody, List.prefix_concat_iff]
      rintro (heq | h)
      · have hblank : isIndent newline = true := isIndent_of_mem_shortest (by rw [heq]; simp)
        exact absurd hblank (by decide)
      · exact hprefix h
    rw [outdented_eq_self (hshared.symm ▸ hprefix), outdented_eq_self hwhole, hbody]

/-- **The lines that are left** are the finished lines, each moved to the left. -/
theorem lines_movedLeft : Text.lines (movedLeft source) = dedent source := by
  have hsingle : ∀ row ∈ dedent (source.map body), newline ∉ row := by
    intro row hrow
    rw [dedent_eq_map, List.map_map] at hrow
    obtain ⟨line, -, rfl⟩ := List.mem_map.1 hrow
    exact fun hmem => Text.newline_notMem_body line (outdented_subset _ _ hmem)
  rw [movedLeft, Text.lines_unlines hsingle, dedent_eq_map, dedent_eq_map, List.map_map,
    List.map_map]
  exact List.map_congr_left fun line hline => outdented_body_append hsource hline

theorem isFinished_of_mem_dedent {line : Text} (h : line ∈ dedent source) : IsFinished line := by
  rw [dedent_eq_map] at h
  obtain ⟨whole, hwhole, rfl⟩ := List.mem_map.1 h
  rw [← outdented_body_append hsource hwhole]
  exact ⟨_, fun hmem => Text.newline_notMem_body whole (outdented_subset _ _ hmem), rfl⟩

/-- **Finished lines that have been moved** stay where they are. -/
theorem movedLeft_dedent : movedLeft (dedent source) = movedLeft source := by
  rw [← Text.lines_flatten (movedLeft (dedent source)),
    lines_movedLeft fun _ => isFinished_of_mem_dedent hsource, dedent_dedent,
    ← lines_movedLeft hsource, Text.lines_flatten]

end

/-- **`shared` is taken off** the finished lines `source`, and `text` is left. It is the first of the
shortest indentations; each line loses it or stays, and still ends with its newline. If all
indentations start with it, as they do where all indentation is of one character, every line is
`shared` and what is left of it. A line is left that is not indented. -/
structure TakesOff (shared : Text) (source : List Text) (text : Text) : Prop where
  blank : ∀ c ∈ shared, c = ' ' ∨ c = '\t' ∨ c = '\r'
  first_shortest : source ≠ [] → IsFirstShortest shared (source.map indentation)
  lines_eq : Text.lines text =
    source.map fun line => if shared <+: line then line.drop shared.length else line
  finished : ∀ line ∈ Text.lines text, IsFinished line
  starts_of_same : (∃ blank, ∀ line ∈ source, ∀ c ∈ indentation line, c = blank) →
    ∀ line ∈ source, shared <+: indentation line
  aligned : (∀ line ∈ source, shared <+: indentation line) →
    source = (Text.lines text).map (shared ++ ·)
  not_indented : source ≠ [] →
    ∃ line ∈ Text.lines text, ∀ c ∈ line.head?, c ≠ ' ' ∧ c ≠ '\t' ∧ c ≠ '\r'

/-- **Moving lines to the left takes off shared indentation only**, and moving what is left changes
nothing. -/
theorem movedLeft_takes_off_indentation {source : List Text}
    (hsource : ∀ line ∈ source, IsFinished line) :
    TakesOff (shortest (source.map indentation)) source (movedLeft source) ∧
      movedLeft (Text.lines (movedLeft source)) = movedLeft source := by
  have hlines := lines_movedLeft hsource
  constructor
  · constructor
    case blank => exact fun c hc => isIndent_iff.1 (isIndent_of_mem_shortest hc)
    case first_shortest => exact fun hne => isFirstShortest_shortest (mt List.map_eq_nil_iff.1 hne)
    case lines_eq =>
      rw [hlines, dedent_eq_map]
      refine List.map_congr_left fun line _ => ?_
      split
      · next hprefix => exact outdented_append (List.prefix_iff_eq_append.1 hprefix).symm
      · next hstays => exact outdented_eq_self hstays
    case finished =>
      rw [hlines]
      exact fun _ => isFinished_of_mem_dedent hsource
    case starts_of_same =>
      rintro ⟨blank, hblank⟩
      exact shortest_prefix_of_same hblank
    case aligned =>
      intro hprefix
      rw [hlines, map_append_dedent hprefix]
    case not_indented =>
      intro hne
      obtain ⟨line, hline, hnil⟩ := exists_not_indented hne
      refine ⟨line, hlines ▸ hline, fun c hc => ?_⟩
      have hc := indentation_eq_nil_iff.1 hnil c hc
      rw [Bool.eq_false_iff, Ne, isIndent_iff] at hc
      tauto
  · rw [hlines, movedLeft_dedent hsource]

/-- Of two shortest indentations the tab comes first; a line with blanks and one with a carriage
return stay. -/
theorem movedLeft_takes_off_indentation_mixed :
    let source := ["  b\r\n".toList, "\tif a\n".toList, "\t  c\n".toList, "\r\n".toList]
    let left := "  b\r\nif a\n  c\n\r\n".toList
    TakesOff ['\t'] source left ∧ movedLeft (Text.lines left) = left := by
  intro source left
  have hshared : shortest (source.map indentation) = ['\t'] := by decide
  have hleft : movedLeft source = left := by decide
  have h := @movedLeft_takes_off_indentation source (by decide)
  rwa [hshared, hleft] at h

end ErrorReport.Window
