/-
# ErrorReport.Proofs.Occurrence — which occurrences of its token a window shows reversed.

The row of the location is searched for the token after it has been coloured. Where only the path
matters it is searched once more without its colours, and then every occurrence in the source is
found. Where the code matters, the occurrences are found that the colours do not cut
(`occurrences_reversed_iff`); `cut_occurrence_not_reversed` is one that they do.

A message with newlines in it spreads over several rows. Only the beginning of the first of them
stands in the row of the location, so these are taken as the rows here.
-/
import ErrorReport.Proofs.Found
import ErrorReport.Proofs.Highlight

namespace ErrorReport

open Text (escape newline unlines covered)
open Terminal (Theme Style Cell Closed Flat Mark Shows display found strip)
open Source (Cuts)

namespace Terminal

/-- **What is found is shown reversed**, and nothing else. -/
theorem map_reversed_display_pointed {θ : Theme} {token t : Text} (hθ : θ.paints = true)
    (hne : token ≠ []) (htoken : escape ∉ token) (h : Flat false t) :
    (display {} {} (θ.pointed token t)).1.map (·.style.reversed) = found token t := by
  have hmarked : ∀ (ms : List Mark) (cells : List Cell), ms.length = cells.length →
      (∀ cell ∈ cells, cell.style.reversed = false) →
      (List.zipWith (Mark.apply {}) ms cells).map (·.style.reversed) = ms.map Mark.token := by
    intro ms
    induction ms with
    | nil => intro cells _ _; rfl
    | cons m ms ih =>
      intro cells hlength hcells
      cases cells with
      | nil => simp at hlength
      | cons cell cells =>
        obtain ⟨hcell, hcells⟩ := List.forall_mem_cons.1 hcells
        have hreversed : (m.style {} cell.style).reversed = m.token := by
          unfold Mark.style
          cases m.token <;> cases m.bare <;> simp [Style.within, Style.highlight, hcell]
        rw [List.zipWith_cons_cons, List.map_cons, List.map_cons, Mark.apply, hreversed,
          ih cells (by simpa using hlength) hcells]
  have hlength : (marks token t).length = (display {} {} t).1.length := by
    rw [length_marks hne, ← map_char_display {} {}, List.length_map]
  rw [h.display_pointed hθ hne htoken fun _ => rfl, hmarked _ _ hlength (h.not_reversed rfl rfl),
    map_token_marks]

end Terminal

namespace Window

variable {θ : Theme} {v : View} {w : Window}

/-! ## Rows of a message -/

/-- **The rows of a window with its message.** The first row of the message stands behind the row of
the location. -/
theorem exists_unlines_annotate {before after : List Text} {row : Text}
    (hrows : ∀ r ∈ before ++ row :: after, newline ∉ r) (htarget : w.target? = some before.length) :
    ∃ (note : Text) (below : List Text),
      unlines (w.annotate θ (before ++ row :: after)) =
        unlines (before ++ (row ++ note) :: below) ∧
      (∀ r ∈ before ++ (row ++ note) :: below, newline ∉ r) ∧
      (note = [] ∨ ∃ more, note = ' ' :: more) := by
  have hannotate : w.annotate θ (before ++ row :: after) = before ++ w.noted θ row :: after := by
    rw [annotate_eq, htarget]
    dsimp only
    rw [Text.modify_append_cons]
  have hbefore : ∀ r ∈ before, newline ∉ r := fun r hr => hrows r (List.mem_append_left _ hr)
  have hrow : newline ∉ row := hrows row (List.mem_append_right _ (List.mem_cons_self ..))
  rw [hannotate]
  unfold noted
  cases w.message with
  | none => exact ⟨[], after, by rw [List.append_nil], by rwa [List.append_nil], .inl rfl⟩
  | some message =>
    -- the message and what follows it are rows, the first of which starts with a space
    have hblock := (Text.isBlock_append_newline (' ' :: θ.paint .scream message)).append
      (Text.isBlock_unlines after)
    obtain ⟨below, hbelow, heq⟩ := hblock
    cases below with
    | nil => simp [unlines] at heq
    | cons note below =>
      obtain ⟨hnote, hbelow⟩ := List.forall_mem_cons.1 hbelow
      rw [Text.unlines_cons] at heq
      refine ⟨note, below, ?_, ?_, ?_⟩
      · rw [Text.unlines_append, Text.unlines_append, Text.unlines_cons, Text.unlines_cons,
          List.append_assoc row note, ← heq]
        simp
      · rw [List.forall_mem_append, List.forall_mem_cons]
        exact ⟨hbefore, List.not_mem_append hrow hnote, hbelow⟩
      · cases note with
        | nil => simp [newline] at heq
        | cons c note =>
          obtain ⟨rfl, -⟩ := List.cons.inj heq
          exact .inr ⟨note, rfl⟩

/-! ## Lines in rows -/

/-- A line stands in a flat row behind `front`, and `flags` are its characters that are found to
belong to the token. -/
structure Stands (token front line : Text) (flags : List Bool) (row : Text) : Prop where
  flat : Flat false row
  shown : ∃ behind, strip row = front ++ (line ++ behind)
  found : ∃ before behind, found token row = before ++ (flags ++ behind) ∧
    before.length = front.length
  length_eq : flags.length = line.length

/-- **The characters of a line in a row** that are found are shown reversed. -/
theorem Stands.exists_cells {token front line row : Text} {flags : List Bool}
    (hθ : θ.paints = true) (hne : token ≠ []) (htoken : escape ∉ token)
    (h : Stands token front line flags row) :
    ∃ before source behind : List Cell,
      (display {} {} (θ.pointed token row)).1 = before ++ (source ++ behind) ∧
      before.map Cell.char = front ∧ source.map Cell.char = line ∧
      source.map (·.style.reversed) = flags := by
  obtain ⟨tail, hshown⟩ := h.shown
  obtain ⟨flagsBefore, flagsBehind, hfound, hlength⟩ := h.found
  have hchars : (display {} {} (θ.pointed token row)).1.map Cell.char = front ++ (line ++ tail) := by
    rw [Terminal.map_char_display, Terminal.strip_pointed hθ htoken h.flat.clean, hshown]
  have hreversed := Terminal.map_reversed_display_pointed hθ hne htoken h.flat
  rw [hfound] at hreversed
  obtain ⟨before, rest, hcells, hbefore, hrest⟩ := List.map_eq_append_iff.1 hchars
  obtain ⟨source, behind, rfl, hsource, -⟩ := List.map_eq_append_iff.1 hrest
  refine ⟨before, source, behind, hcells, hbefore, hsource, ?_⟩
  rw [hcells, List.map_append, List.map_append] at hreversed
  have hbeforeLength : (before.map (·.style.reversed)).length = flagsBefore.length := by
    rw [hlength, ← hbefore, List.length_map, List.length_map]
  have hsourceLength : (source.map (·.style.reversed)).length = flags.length := by
    rw [h.length_eq, ← hsource, List.length_map, List.length_map]
  have hbehind := List.append_inj_right hreversed hbeforeLength
  exact List.append_inj_left hbehind hsourceLength

section

variable {line : Text} (hθ : θ.paints = true) (hne : w.token ≠ []) (hspace : ' ' ∉ w.token)
  (hline : escape ∉ line) (width : Nat) (n : UInt64)

include hne hspace hline

/-- A line in its row, searched with its colours. -/
theorem stands_row :
    Stands w.token (gutter width (w.mark && n = w.location.line) n ++ [' ']) line
      (found w.token (θ.coloured line)) (w.row θ width n (θ.coloured line)) := by
  have hshows := shows_row θ w width n hline
  have hgutter : escape ∉ gutter width (w.mark && n = w.location.line) n :=
    notMem_gutter (by decide) (by decide) width _ n
  -- the painted gutter shows the gutter
  obtain ⟨painted, hrow, hpainted⟩ : ∃ painted,
      w.row θ width n (θ.coloured line) = painted ++ ' ' :: θ.coloured line ∧
        Shows θ painted (gutter width (w.mark && n = w.location.line) n) := by
    unfold row
    dsimp only
    split
    · exact ⟨_, rfl, ((Shows.refl hgutter).paint _).paint _⟩
    · exact ⟨_, rfl, (Shows.refl hgutter).paint _⟩
  constructor
  case flat => exact flat_row θ w width n hline
  case shown =>
    refine ⟨[], ?_⟩
    rw [hshows.strip_eq, plainRow]
    simp
  case found =>
    refine ⟨found w.token painted ++ [false], [], ?_, ?_⟩
    · rw [hrow, Terminal.found_append_cons hne hspace (by decide) (by decide)]
      simp
    · rw [List.length_append, Terminal.length_found hne, hpainted.strip_eq, List.length_append]
      rfl
  case length_eq =>
    rw [Terminal.length_found hne, (Shows.coloured (θ := θ) hline).strip_eq]

include hθ in
/-- A line in its settled row where only the path matters, with what stands behind it. It has lost
its colours. -/
theorem stands_settled (hpath : w.emphasis = .path) {note : Text}
    (hnote : note = [] ∨ ∃ more, note = ' ' :: more)
    (hclean : escape ∉ strip (w.row θ width n (θ.coloured line) ++ note)) :
    Stands w.token (margin ++ (gutter width (w.mark && n = w.location.line) n ++ [' '])) line
      (covered w.token line) (w.settled θ (w.row θ width n (θ.coloured line) ++ note)) := by
  have hrow : strip (w.row θ width n (θ.coloured line)) = w.plainRow width n line :=
    (shows_row θ w width n hline).strip_eq
  have hflat : Flat false (w.row θ width n (θ.coloured line)) := flat_row θ w width n hline
  -- behind the line stands nothing, or a space and more
  obtain ⟨behind, hbehind, hstrip⟩ : ∃ behind : Text, (behind = [] ∨ ∃ more, behind = ' ' :: more) ∧
      strip (w.row θ width n (θ.coloured line) ++ note) = w.plainRow width n line ++ behind := by
    rw [Terminal.strip_append hflat.clean, hrow]
    refine ⟨strip note, ?_, rfl⟩
    rcases hnote with rfl | ⟨more, rfl⟩
    · exact .inl Terminal.strip_nil
    · exact .inr ⟨strip more, Terminal.strip_cons fun h => absurd h (by decide)⟩
  have hsettled : w.settled θ (w.row θ width n (θ.coloured line) ++ note) =
      θ.paint .faint (margin ++ (w.plainRow width n line ++ behind)) := by
    simp only [settled, hpath, Theme.dulled, Theme.name_eq_ansi hθ]
    rw [Terminal.strip_append_of_notMem (by decide), hstrip]
  have hnone : escape ∉ margin ++ (w.plainRow width n line ++ behind) := by
    rw [← hstrip]
    exact List.not_mem_append (by decide) hclean
  obtain ⟨flagsBehind, hflags⟩ : ∃ flagsBehind,
      covered w.token (line ++ behind) = covered w.token line ++ flagsBehind := by
    rcases hbehind with rfl | ⟨more, rfl⟩
    · exact ⟨[], by rw [List.append_nil, List.append_nil]⟩
    · exact ⟨_, Text.covered_append_cons hne hspace line more⟩
  rw [hsettled]
  constructor
  case flat => exact Flat.paint θ rfl hnone
  case shown =>
    refine ⟨behind, ?_⟩
    rw [((Shows.refl hnone).paint (θ := θ) .faint).strip_eq, plainRow]
    simp
  case found =>
    refine ⟨covered w.token (margin ++ gutter width (w.mark && n = w.location.line) n) ++ [false],
      flagsBehind, ?_, ?_⟩
    · have hplain : margin ++ (w.plainRow width n line ++ behind) =
          (margin ++ gutter width (w.mark && n = w.location.line) n) ++ ' ' :: (line ++ behind) := by
        simp [plainRow]
      rw [Theme.paint, if_pos hθ, Terminal.found_paint (by decide) hnone, hplain,
        Text.covered_append_cons hne hspace, hflags]
      simp
    · rw [List.length_append, Text.length_covered hne]
      simp only [List.length_append, List.length_singleton]
      omega
  case length_eq => exact Text.length_covered hne line

end

/-! ## The row of the location -/

/-- What the plain theme writes in front of a line in the row of the location. -/
def plainLead (w : Window) (width : Nat) : Text :=
  w.lead ++ (gutter width w.mark w.location.line ++ [' '])

/-- **The line of the location is searched** with its colours where the code matters and without
them where only the path matters. What is pointed out behind it makes no difference. -/
theorem exists_stands (hθ : θ.paints = true) (hne : w.token ≠ []) (hspace : ' ' ∉ w.token)
    {line : Text} (hline : escape ∉ line) (width : Nat) {note : Text}
    (hnote : note = [] ∨ ∃ more, note = ' ' :: more)
    (hclean : escape ∉ strip (w.row θ width w.location.line (θ.coloured line) ++ note)) :
    ∃ (searched behind : Text) (flags : List Bool),
      θ.pointed w.token (w.settled θ (w.row θ width w.location.line (θ.coloured line) ++ note)) =
        θ.pointed w.token searched ++ behind ∧
      Stands w.token (w.plainLead width) line flags searched ∧
      (flags = covered w.token line ↔
        ¬ (w.emphasis = .code ∧ Cuts w.token [] (Source.lexemes line))) := by
  have hmarked : (w.mark && decide (w.location.line = w.location.line)) = w.mark := by simp
  cases hemphasis : w.emphasis with
  | code =>
    have hstands := stands_row (θ := θ) hne hspace hline width w.location.line
    have hlead : w.plainLead width = gutter width w.mark w.location.line ++ [' '] := by
      rw [plainLead, lead, hemphasis, List.nil_append]
    rw [hmarked, ← hlead] at hstands
    obtain ⟨behind, hbehind⟩ : ∃ behind,
        θ.pointed w.token (w.row θ width w.location.line (θ.coloured line) ++ note) =
          θ.pointed w.token (w.row θ width w.location.line (θ.coloured line)) ++ behind := by
      rcases hnote with rfl | ⟨more, rfl⟩
      · exact ⟨[], by rw [List.append_nil, List.append_nil]⟩
      · exact ⟨_, Theme.pointed_append_cons hspace (by decide) (by decide) _ more⟩
    refine ⟨_, behind, _, ?_, hstands, ?_⟩
    · rw [settled_of_code hemphasis, id, hbehind]
    · rw [Terminal.found_coloured_iff hθ hne hline]
      simp
  | path =>
    have hstands := stands_settled hθ hne hspace hline width w.location.line hemphasis hnote hclean
    have hlead : w.plainLead width = margin ++ (gutter width w.mark w.location.line ++ [' ']) := by
      rw [plainLead, lead, hemphasis]
    rw [hmarked, ← hlead] at hstands
    exact ⟨_, [], _, (List.append_nil _).symm, hstands, by simp⟩

/-- What the plain theme writes in front of the line of the location, where it is the `i`th that is
shown: the rows above, and what stands in front of the line in its row. -/
def plainAbove (w : Window) (lines : List Text) (i : Nat) : Text :=
  unlines (((w.shown lines).take i).map fun (n, line) =>
    w.lead ++ w.plainRow (w.width lines) n line) ++ w.plainLead (w.width lines)

/-- **The window around the line of the location**: the heading and the rows above as they are, and
the line in a row that is searched for the token. -/
theorem exists_render_eq {octets : Text.Octets} {i : Nat} {line : Text}
    (hθ : v.theme.paints = true) (hfile : v.files w.location.path = some octets)
    (hsource : escape ∉ Text.Utf8.decode octets) (hmessage : ∀ message ∈ w.message, escape ∉ message)
    (htoken : escape ∉ w.token) (hne : w.token ≠ []) (hspace : ' ' ∉ w.token)
    (hnewline : newline ∉ w.token)
    (hline : (w.shown (sourceLines octets))[i]? = some (w.location.line, line)) :
    ∃ (searched behind : Text) (flags : List Bool),
      w.render v = w.heading v ++ newline :: (unlines (((w.shown (sourceLines octets)).take i).map
        (w.besideRow v.theme (sourceLines octets))) ++ (v.theme.pointed w.token searched ++ behind)) ∧
      Stands w.token (w.plainLead (w.width (sourceLines octets))) line flags searched ∧
      (flags = covered w.token line ↔
        ¬ (w.emphasis = .code ∧ Cuts w.token [] (Source.lexemes line))) := by
  obtain ⟨hi, hnumber, -⟩ := of_getElem?_shown hline
  have htarget : w.target? = some i := target?_of_number hi hnumber.symm
  obtain ⟨before, after, hshown, rfl, -⟩ := exists_split_of_getElem? hline
  have hrows : w.rows v.theme (sourceLines octets) =
      before.map (w.rowOf v.theme (sourceLines octets)) ++
        w.rowOf v.theme (sourceLines octets) (w.location.line, line) ::
          after.map (w.rowOf v.theme (sourceLines octets)) := by
    rw [rows_eq_map_rowOf, hshown, List.map_append, List.map_cons]
  have hplace : w.target? = some (before.map (w.rowOf v.theme (sourceLines octets))).length := by
    rw [List.length_map, htarget]
  obtain ⟨note, below, hunlines, hsingle, hnote⟩ := exists_unlines_annotate (θ := v.theme)
    (fun r hr => newline_notMem_of_mem_rows v.theme w octets r (hrows ▸ hr)) hplace
  rw [← hrows] at hunlines
  have hblock : w.block v = w.pointOut v.theme (unlines
      (before.map (w.rowOf v.theme (sourceLines octets)) ++
        (w.rowOf v.theme (sourceLines octets) (w.location.line, line) ++ note) :: below)) := by
    unfold block
    rw [hfile]
    dsimp only
    rw [hunlines]
  have hclean : escape ∉
      strip (w.rowOf v.theme (sourceLines octets) (w.location.line, line) ++ note) := by
    have hclosed : Closed (unlines (w.annotate v.theme (w.rows v.theme (sourceLines octets)))) :=
      .unlines (closed_of_mem_annotate v.theme hsource hmessage)
    have hwhole := hclosed.clean
    rw [hunlines, Terminal.strip_unlines, List.map_append, List.map_cons, Text.unlines_append,
      Text.unlines_cons] at hwhole
    exact fun hmem => hwhole (List.mem_append_right _ (List.mem_append_left _ hmem))
  have hclear : escape ∉ line := notMem_of_mem_shown hsource (List.mem_of_getElem? hline)
  obtain ⟨searched, behind, flags, hpointed, hstands, hflags⟩ :=
    exists_stands hθ hne hspace hclear (w.width (sourceLines octets)) hnote hclean
  have htake : (w.shown (sourceLines octets)).take before.length = before := by
    rw [hshown, List.take_left]
  refine ⟨searched, behind ++ newline :: unlines (below.map (w.settled v.theme)), flags, ?_,
    hstands, hflags⟩
  rw [render_eq_pointed hθ hblock hplace htoken hnewline hsingle hclean, map_settled_rowOf, htake,
    Text.unlines_append, Text.unlines_cons, rowOf, hpointed, List.append_assoc]

/-- **An occurrence of the token is shown reversed, unless the colours cut it.** In a window that
can be read and shows the line of its location, with a token without spaces and newlines and no
escape character in source, message and token: of the characters of that line exactly those are
shown reversed that belong to an occurrence, counted from the left and without overlap, unless the
code matters and an occurrence goes beyond an end of a lexeme that is painted. If one does, other
characters are shown reversed. -/
theorem occurrences_reversed_iff {octets : Text.Octets} {i : Nat} {line : Text}
    (hθ : v.theme.paints = true) (hfile : v.files w.location.path = some octets)
    (hsource : escape ∉ Text.Utf8.decode octets) (hmessage : ∀ message ∈ w.message, escape ∉ message)
    (htoken : escape ∉ w.token) (hne : w.token ≠ []) (hspace : ' ' ∉ w.token)
    (hnewline : newline ∉ w.token)
    (hline : (w.shown (sourceLines octets))[i]? = some (w.location.line, line)) :
    ∃ front source back : List Cell,
      (display {} {} (w.render v)).1 = front ++ (source ++ back) ∧
      front.map Cell.char =
        strip (w.heading v) ++ newline :: w.plainAbove (sourceLines octets) i ∧
      source.map Cell.char = line ∧
      (source.map (·.style.reversed) = covered w.token line ↔
        ¬ (w.emphasis = .code ∧ Cuts w.token [] (Source.lexemes line))) := by
  obtain ⟨searched, behind, flags, hrender, hstands, hflags⟩ :=
    exists_render_eq hθ hfile hsource hmessage htoken hne hspace hnewline hline
  obtain ⟨before, source, rest, hcells, hbefore, hsourceChars, hreversed⟩ :=
    hstands.exists_cells hθ hne htoken
  have hclear : ∀ x ∈ w.shown (sourceLines octets), escape ∉ x.2 := fun _ hx =>
    notMem_of_mem_shown hsource hx
  -- the rows above are closed texts that show the plain rows
  have habove : Closed (unlines (((w.shown (sourceLines octets)).take i).map
      (w.besideRow v.theme (sourceLines octets)))) := by
    refine .unlines (List.forall_mem_map.2 fun x hx => ?_)
    have hx := hclear x (List.mem_of_mem_take hx)
    exact (flat_settled hθ (flat_row v.theme w _ x.1 hx)).closed
  have hplain : strip (unlines (((w.shown (sourceLines octets)).take i).map
      (w.besideRow v.theme (sourceLines octets)))) =
        unlines (((w.shown (sourceLines octets)).take i).map fun (n, line) =>
          w.lead ++ w.plainRow (w.width (sourceLines octets)) n line) := by
    rw [Terminal.strip_unlines, List.map_map]
    refine congrArg unlines (List.map_congr_left fun x hx => ?_)
    have hx := hclear x (List.mem_of_mem_take hx)
    exact (shows_settled (shows_row v.theme w _ x.1 hx)).strip_eq
  have hsearched : escape ∉ strip (v.theme.pointed w.token searched) :=
    (Terminal.NoBrighter.pointed htoken hstands.flat.clean).clean_left
  refine ⟨(display {} {} (w.heading v)).1 ++ ⟨newline, {}⟩ :: ((display {} {} (unlines
    (((w.shown (sourceLines octets)).take i).map
      (w.besideRow v.theme (sourceLines octets))))).1 ++ before), source,
    rest ++ (display {} (display {} {} (v.theme.pointed w.token searched)).2 behind).1, ?_, ?_,
    hsourceChars, ?_⟩
  · rw [hrender, display_heading_append hθ, habove.display_append,
      Terminal.display_append hsearched, hcells]
    simp only [List.append_assoc, List.cons_append]
  · rw [List.map_append, List.map_cons, List.map_append, Terminal.map_char_display,
      Terminal.map_char_display, hplain, hbefore, plainAbove]
  · rw [hreversed, hflags]

/-- A token beside a keyword, with a message of two lines. -/
theorem occurrences_reversed_iff_call :
    let v : View := {
      theme := {}
      directory := ⟨"/app".toList⟩
      files := fun _ => some [102, 111, 111, 32, 110, 105, 108, 10] }
    let w : Window := {
      location := ⟨⟨"/app/a.rb".toList⟩, 1, "m".toList⟩
      range := ⟨-1, 1⟩
      highlight := some "foo".toList
      message := some "foo is\nundefined".toList }
    ∃ front source back : List Cell,
      (display {} {} (w.render v)).1 = front ++ (source ++ back) ∧
      front.map Cell.char = "./a.rb:1\n-> 1: ".toList ∧ source.map Cell.char = "foo nil".toList ∧
      source.map (·.style.reversed) = [true, true, true, false, false, false, false] := by
  intro v w
  have hline : (w.shown (sourceLines [102, 111, 111, 32, 110, 105, 108, 10]))[0]? =
      some (1, "foo nil".toList) := by decide +kernel
  have hfront : strip (w.heading v) ++
      newline :: w.plainAbove (sourceLines [102, 111, 111, 32, 110, 105, 108, 10]) 0 =
        "./a.rb:1\n-> 1: ".toList := by decide +kernel
  have hlexemes : Source.lexemes "foo nil".toList =
      [⟨none, ['f']⟩, ⟨none, ['o']⟩, ⟨none, ['o']⟩, ⟨none, [' ']⟩, ⟨some .keyword, "nil".toList⟩] := by
    decide +kernel
  have hcuts : ¬ Cuts "foo".toList [] (Source.lexemes "foo nil".toList) := by
    rw [hlexemes]
    simp only [Source.cuts_cons, Source.not_cuts_nil]
    -- only the keyword is painted: it starts with another letter and ends the line
    rintro (⟨h, -⟩ | ⟨h, -⟩ | ⟨h, -⟩ | ⟨h, -⟩ | ⟨-, h | h⟩ | h)
    · exact h rfl
    · exact h rfl
    · exact h rfl
    · exact h rfl
    · exact Text.not_splits_cons (by decide) (by decide) _ _ h
    · obtain ⟨-, back, -, -, hback, -, hprefix⟩ := h.exists_parts (by decide)
      exact hback (List.prefix_nil.1 hprefix)
    · exact h
  obtain ⟨front, source, back, hcells, hchars, hsource, hreversed⟩ :=
    occurrences_reversed_iff (v := v) (w := w) rfl rfl (by decide) (by decide) (by decide)
      (by decide) (by decide) (by decide) hline
  refine ⟨front, source, back, hcells, hchars.trans hfront, hsource, ?_⟩
  exact hreversed.2 fun h => hcuts h.2

/-- **Colours can hide an occurrence.** The keyword in the name of a method is painted, and so the
name is not found where the code matters. -/
theorem cut_occurrence_not_reversed :
    ¬ ∀ (v : View) (w : Window) (octets : Text.Octets) (i : Nat) (line : Text),
      v.theme.paints = true → v.files w.location.path = some octets →
      escape ∉ Text.Utf8.decode octets → (∀ message ∈ w.message, escape ∉ message) →
      escape ∉ w.token → w.token ≠ [] → (∀ c ∈ w.token, Text.isBlank c = false) →
      w.emphasis = .code → (w.shown (sourceLines octets))[i]? = some (w.location.line, line) →
      ∀ front source back : List Cell,
        (display {} {} (w.render v)).1 = front ++ (source ++ back) →
        front.map Cell.char =
          strip (w.heading v) ++ newline :: w.plainAbove (sourceLines octets) i →
        source.map Cell.char = line →
        source.map (·.style.reversed) = covered w.token line := by
  intro hfound
  let v : View := {
    theme := {}
    directory := ⟨"/app".toList⟩
    files := fun _ => some [120, 46, 110, 105, 108, 63, 10] }
  let w : Window := {
    location := ⟨⟨"/app/a.rb".toList⟩, 1, "m".toList⟩
    range := ⟨0, 0⟩
    highlight := some "nil?".toList }
  have hline : (w.shown (sourceLines [120, 46, 110, 105, 108, 63, 10]))[0]? =
      some (1, "x.nil?".toList) := by decide +kernel
  have hcells : (display {} {} (w.render v)).1 =
      ((display {} {} (w.render v)).1).take 15 ++
        (Terminal.lay {} "x.".toList ++
            (Terminal.lay (Terminal.lexemeStyle .keyword) "nil".toList ++
              Terminal.lay {} "?".toList) ++
          Terminal.lay {} [newline]) := by
    decide +kernel
  have hfront : ((display {} {} (w.render v)).1.take 15).map Cell.char =
      strip (w.heading v) ++
        newline :: w.plainAbove (sourceLines [120, 46, 110, 105, 108, 63, 10]) 0 := by
    decide +kernel
  have hblank : ∀ c ∈ w.token, Text.isBlank c = false :=
    List.forall_iff_forall_mem.1 (by decide)
  have hreversed := hfound v w _ 0 _ rfl rfl (by decide) (by decide) (by decide) (by decide)
    hblank rfl hline _ _ _ hcells hfront (by decide)
  exact absurd hreversed (by decide)

end Window

end ErrorReport
