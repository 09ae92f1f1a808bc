/-
# ErrorReport.Proofs.Highlight — what pointing out a token changes in a window.

The rows of a window are flat: a painted gutter, the painted lexemes of a line, a painted message,
or all of it faint (`flat_noted`, `flat_settled`). So the law of `ErrorReport.Proofs.Pointing` says
how the row of the location looks, and everything around it looks as it does without the token.

What changes besides the token is the rest of the stretch that it is found in. `ChangedByToken` says
so character by character; `message_loses_its_style` is a window in which that is a message.
-/
import ErrorReport.Proofs.Leak

namespace ErrorReport

open Text (escape newline unlines)
open Terminal (Theme Style Cell Closed Flat Mark Shows display marks strip)

namespace Window

variable {θ : Theme} {v : View} {w : Window}

/-! ## Headings -/

/-- A heading leaves the terminal without attributes, whatever the path holds. -/
theorem display_heading_snd (hθ : v.theme.paints = true) :
    (display {} {} (w.heading v)).2 = {} := by
  have hlit : Terminal.lit true (w.heading v) = false := by
    unfold heading
    cases w.emphasis with
    | code =>
      have hsplit : header v w.location =
          (v.theme.paint .directory ((directoryFrom v.directory w.location.path).text ++ ['/']) ++
            v.theme.paint .fileName w.location.fileName ++ [':']) ++
          Style.lineNumber.paint (Text.ofNat w.location.line.toNat) := by
        simp [header, Theme.paint, hθ]
      dsimp only
      rw [hsplit, Terminal.lit_append_paint (by decide)]
    | path =>
      dsimp only
      rw [Theme.paint, if_pos hθ, Terminal.lit_paint (by decide)]
  exact Terminal.display_snd_of_lit (fun hon => by cases hon) hlit

theorem display_heading_append (hθ : v.theme.paints = true) (block : Text) :
    display {} {} (w.heading v ++ newline :: block) =
      ((display {} {} (w.heading v)).1 ++ ⟨newline, {}⟩ :: (display {} {} block).1,
        (display {} {} block).2) := by
  rw [Terminal.display_append_cons (by decide) (by decide), display_heading_snd hθ]

/-! ## Rows -/

theorem flat_settled (hθ : θ.paints = true) {row : Text} (h : Flat false row) :
    Flat false (w.settled θ row) := by
  unfold settled
  cases w.emphasis with
  | code => exact h
  | path =>
    have hclean : escape ∉ strip (margin ++ row) := by
      rw [Terminal.strip_append_of_notMem (by decide)]
      exact List.not_mem_append (by decide) h.clean
    simp only [Theme.dulled, Theme.name_eq_ansi hθ]
    exact Flat.paint θ rfl hclean

/-- Settling takes out what pointing out a token has put in. -/
theorem settled_pointed (hθ : θ.paints = true) (hpath : w.emphasis = .path) {row : Text}
    (htoken : escape ∉ w.token) (h : escape ∉ strip row) :
    w.settled θ (θ.pointed w.token row) = w.settled θ row := by
  simp only [settled, hpath, Theme.dulled, Theme.name_eq_ansi hθ]
  rw [Terminal.strip_append_of_notMem (by decide), Terminal.strip_pointed hθ htoken h,
    Terminal.strip_append_of_notMem (by decide)]

/-- **A window with a row that is pointed at**: where only the path matters, settling takes out what
was pointed out before, so in both emphases the token is pointed out in the settled row. -/
theorem render_eq_pointed {before after : List Text} {row : Text} (hθ : v.theme.paints = true)
    (hblock : w.block v = w.pointOut v.theme (unlines (before ++ row :: after)))
    (htarget : w.target? = some before.length) (htoken : escape ∉ w.token)
    (hline : newline ∉ w.token) (hrows : ∀ r ∈ before ++ row :: after, newline ∉ r)
    (hrow : escape ∉ strip row) :
    w.render v = w.heading v ++ newline :: unlines (before.map (w.settled v.theme) ++
      v.theme.pointed w.token (w.settled v.theme row) :: after.map (w.settled v.theme)) := by
  rw [render_eq_of_block hblock htarget hline hrows]
  cases hemphasis : w.emphasis with
  | code =>
    dsimp only
    rw [Text.modify_append_cons, settled_of_code hemphasis, List.map_id, List.map_id, id]
  | path =>
    have hlength : before.length = (before.map (w.settled v.theme)).length := by
      rw [List.length_map]
    dsimp only
    rw [Text.modify_append_cons, List.map_append, List.map_cons, hlength, Text.modify_append_cons,
      settled_pointed hθ hemphasis htoken hrow]

/-! ## The window around the row of the location -/

/-- The window with nothing to point out. -/
def tokenless (w : Window) : Window := { w with highlight := some [] }

theorem Legible.tokenless {octets : Text.Octets} (hw : w.Legible octets) :
    w.tokenless.Legible octets where
  source := hw.source
  token := List.not_mem_nil
  message := hw.message
  tokenLine := List.not_mem_nil
  messageLine := hw.messageLine

/-- What is shown in front of the row of the location: the heading and the rows above. -/
def frontCells (v : View) (w : Window) (before : List Text) : List Cell :=
  (display {} {} (w.heading v ++ newline :: unlines (before.map (w.settled v.theme)))).1

/-- What is shown behind the row of the location: its newline and the rows below. -/
def backCells (v : View) (w : Window) (after : List Text) : List Cell :=
  (display {} {} (newline :: unlines (after.map (w.settled v.theme)))).1

/-- **A legible window** is shown as its heading and its rows, the row of the location with the
token pointed out, and leaves the terminal without attributes. -/
theorem display_render {octets : Text.Octets} {before after : List Text} {row : Text}
    (hθ : v.theme.paints = true) (hfile : v.files w.location.path = some octets)
    (hw : w.Legible octets) (htarget : w.target? = some before.length)
    (hrows : w.rows v.theme (sourceLines octets) = before ++ row :: after) :
    display {} {} (w.render v) =
      (w.frontCells v before ++ (display {} {} (v.theme.pointed w.token
        (w.settled v.theme (w.noted v.theme row)))).1 ++ w.backCells v after, {}) := by
  have hflat := flat_of_mem_rows v.theme w hw.source
  have hsingle := newline_notMem_of_mem_rows v.theme w octets
  rw [hrows] at hflat hsingle
  have hnoted : Flat false (w.noted v.theme row) :=
    flat_noted hw.message (hflat row (List.mem_append_right _ (List.mem_cons_self ..)))
  have hblock : w.block v =
      w.pointOut v.theme (unlines (before ++ w.noted v.theme row :: after)) := by
    unfold block
    rw [hfile]
    dsimp only
    rw [annotate_eq, htarget, hrows]
    dsimp only
    rw [Text.modify_append_cons]
  have hnotedSingle : ∀ r ∈ before ++ w.noted v.theme row :: after, newline ∉ r := by
    rw [← Text.modify_append_cons]
    exact Text.forall_mem_modify hsingle (fun _ => newline_notMem_noted hw.messageLine) _
  -- around the row of the location stand closed texts
  have hsettled : ∀ rows : List Text, (∀ r ∈ rows, Flat false r) →
      Closed (unlines (rows.map (w.settled v.theme))) := fun rows hrows =>
    .unlines (List.forall_mem_map.2 fun r hr => (flat_settled hθ (hrows r hr)).closed)
  have hbefore := hsettled before fun r hr => hflat r (List.mem_append_left _ hr)
  have hafter := hsettled after fun r hr =>
    hflat r (List.mem_append_right _ (List.mem_cons_of_mem row hr))
  have hrow : Closed (v.theme.pointed w.token (w.settled v.theme (w.noted v.theme row))) := by
    have hsettled := (flat_settled (w := w) hθ hnoted).closed
    exact (Terminal.NoBrighter.pointed hw.token hsettled.clean).closed hsettled
  have hback : Closed (newline :: unlines (after.map (w.settled v.theme))) :=
    hafter.cons (by decide)
  rw [render_eq_pointed hθ hblock htarget hw.token hw.tokenLine hnotedSingle hnoted.clean,
    Text.unlines_append, Text.unlines_cons, display_heading_append hθ, hbefore.display_append,
    hrow.display_append, hback.display_snd, frontCells, display_heading_append hθ, backCells]
  simp only [List.append_assoc, List.cons_append]

/-- A window without a row that is pointed at, or without a token, has nothing to point out. -/
theorem render_eq_tokenless {octets : Text.Octets}
    (hfile : v.files w.location.path = some octets) (hw : w.Legible octets)
    (h : w.token = [] ∨
      ∀ target ∈ w.target?, (w.rows v.theme (sourceLines octets)).length ≤ target) :
    w.render v = w.tokenless.render v := by
  cases htarget : w.target? with
  | none =>
    have htarget' : w.tokenless.target? = none := htarget
    unfold render block pointOut
    simp only [annotate_eq, htarget, htarget']
    rfl
  | some target =>
    have htarget' : w.tokenless.target? = some target := htarget
    rw [render_eq hfile htarget hw.tokenLine hw.messageLine,
      render_eq (w := w.tokenless) hfile htarget' hw.tokenless.tokenLine hw.messageLine]
    rcases h with htoken | hlength
    · have hlit : w.lit v.theme = w.tokenless.lit v.theme := by
        funext row
        rw [lit, htoken]
        rfl
      unfold finished
      rw [hlit, htoken]
      rfl
    · have hle := hlength target htarget
      have hle' : (w.tokenless.rows v.theme (sourceLines octets)).length ≤ target := hle
      rw [finished_of_length_le hle, finished_of_length_le hle']
      rfl

/-! ## What the token changes -/

/-- **What a token changes in a window.** Without it the window shows `row` between `front` and
`back`. With it every character of the row is changed by its mark and everything else is shown as
before, so a character outside the token is shown as before exactly if no occurrence stands in front
of it in its stretch or it has no style to lose. -/
structure ChangedByToken (v : View) (w : Window) (front : List Cell) (row : Text)
    (back : List Cell) : Prop where
  single : newline ∉ row
  tokenless : display {} {} (w.tokenless.render v) = (front ++ (display {} {} row).1 ++ back, {})
  render : display {} {} (w.render v) =
    (front ++ List.zipWith (Mark.apply {}) (marks w.token row) (display {} {} row).1 ++ back, {})
  length_eq : (marks w.token row).length = (display {} {} row).1.length
  kept_iff : ∀ (i : Nat) (m : Mark) (cell : Cell), (marks w.token row)[i]? = some m →
    (display {} {} row).1[i]? = some cell → m.token = false →
    ((List.zipWith (Mark.apply {}) (marks w.token row) (display {} {} row).1)[i]? = some cell ↔
      (m.bare = true → cell.style = {}))

theorem changedByToken {octets : Text.Octets} {before after : List Text} {row : Text}
    (hθ : v.theme.paints = true) (hfile : v.files w.location.path = some octets)
    (hw : w.Legible octets) (htoken : w.token ≠ []) (htarget : w.target? = some before.length)
    (hrows : w.rows v.theme (sourceLines octets) = before ++ row :: after) :
    w.ChangedByToken v (w.frontCells v before) (w.settled v.theme (w.noted v.theme row))
      (w.backCells v after) := by
  have hmem : row ∈ w.rows v.theme (sourceLines octets) := by
    rw [hrows]
    exact List.mem_append_right _ (List.mem_cons_self ..)
  have hnoted : Flat false (w.noted v.theme row) :=
    flat_noted hw.message (flat_of_mem_rows v.theme w hw.source row hmem)
  have hflat : Flat false (w.settled v.theme (w.noted v.theme row)) := flat_settled hθ hnoted
  have hlength : (marks w.token (w.settled v.theme (w.noted v.theme row))).length =
      (display {} {} (w.settled v.theme (w.noted v.theme row))).1.length := by
    rw [Terminal.length_marks htoken, ← Terminal.map_char_display {} {}, List.length_map]
  constructor
  case single =>
    exact newline_notMem_settled (newline_notMem_noted hw.messageLine
      (newline_notMem_of_mem_rows v.theme w octets row hmem))
  case tokenless =>
    have hnothing : v.theme.pointed w.tokenless.token
        (w.settled v.theme (w.noted v.theme row)) = w.settled v.theme (w.noted v.theme row) :=
      Theme.pointed_nil v.theme _
    have hshown := display_render (w := w.tokenless) hθ hfile hw.tokenless htarget hrows
    exact hshown.trans (congrArg (fun t => (w.frontCells v before ++ (display {} {} t).1 ++
      w.backCells v after, _)) hnothing)
  case render =>
    rw [display_render hθ hfile hw htarget hrows,
      hflat.display_pointed hθ htoken hw.token fun _ => rfl]
  case length_eq => exact hlength
  case kept_iff =>
    intro i m cell hm hcell hother
    rw [List.getElem?_zipWith, hm, hcell, ← Mark.apply_eq_iff hother]
    exact Option.some_inj

/-- **Pointing out a token changes the token and the rest of its stretch.** In a window that can be
read, with the message and the token within one line and no escape character anywhere but in the
path and the directory: if there is no token or no row of the location, nothing is changed.
Otherwise only the row of the location is, and in that row a character outside the token is shown as
without the token exactly if no occurrence stands in front of it in its stretch or it has no style
to lose. -/
theorem token_changes_its_stretches {v : View} {w : Window} {octets : Text.Octets}
    (hθ : v.theme.paints = true) (hfile : v.files w.location.path = some octets)
    (hw : w.Legible octets) :
    ((w.token = [] ∨
        ∀ target ∈ w.target?, (w.rows v.theme (sourceLines octets)).length ≤ target) →
      w.render v = w.tokenless.render v) ∧
    ∀ (target : Nat) (row : Text), w.token ≠ [] → w.target? = some target →
      (w.rows v.theme (sourceLines octets))[target]? = some row →
      ∃ front back, w.ChangedByToken v front (w.settled v.theme (w.noted v.theme row)) back := by
  refine ⟨render_eq_tokenless hfile hw, ?_⟩
  intro target row htoken htarget hrow
  obtain ⟨before, after, hrows, rfl, -⟩ := exists_split_of_getElem? hrow
  exact ⟨_, _, changedByToken hθ hfile hw htoken htarget hrows⟩

/-- A message with the token at its beginning, where only the path matters. -/
theorem token_changes_its_stretches_faint :
    let v : View := {
      theme := {}
      directory := ⟨"/app".toList⟩
      files := fun _ => some [102, 111, 111, 10] }
    let w : Window := {
      location := ⟨⟨"/app/a.rb".toList⟩, 1, "m".toList⟩
      range := ⟨0, 0⟩
      highlight := some "foo".toList
      message := some "foo is undefined".toList
      emphasis := .path }
    let row : Text := "\x1b[33m\x1b[1;91m-> 1:\x1b[0m\x1b[33m\x1b[0m foo".toList
    ∃ front back, w.ChangedByToken v front (w.settled {} (w.noted {} row)) back := by
  intro v w row
  have hw : w.Legible [102, 111, 111, 10] :=
    ⟨by decide, by decide, by decide, by decide, by decide⟩
  have hrow : (w.rows v.theme (sourceLines [102, 111, 111, 10]))[0]? = some row := by
    decide +kernel
  exact (token_changes_its_stretches rfl rfl hw).2 0 row (by decide) (by decide) hrow

/-- **A message loses its style behind the token.** Without a token the last word of the message is
bright white on red; with the first word as token it has no style, though it is no part of it. -/
theorem message_loses_its_style :
    ¬ ∀ (v : View) (w : Window) (octets : Text.Octets), v.theme.paints = true →
      escape ∉ v.directory.text → escape ∉ w.location.path.text →
      v.files w.location.path = some octets → w.Legible octets →
      ∀ (i : Nat) (before after : Cell), (display {} {} (w.tokenless.render v)).1[i]? = some before →
        (display {} {} (w.render v)).1[i]? = some after → after.style.reversed = false →
        after = before := by
  intro hkept
  let v : View := {
    theme := {}
    directory := ⟨"/app".toList⟩
    files := fun _ => some [102, 111, 111, 10] }
  let w : Window := {
    location := ⟨⟨"/app/a.rb".toList⟩, 1, "m".toList⟩
    range := ⟨0, 0⟩
    highlight := some "foo".toList
    message := some "foo is undefined".toList }
  have hw : w.Legible [102, 111, 111, 10] :=
    ⟨by decide, by decide, by decide, by decide, by decide⟩
  have hbefore : (display {} {} (w.tokenless.render v)).1[26]? = some ⟨'u', .scream⟩ := by
    decide +kernel
  have hafter : (display {} {} (w.render v)).1[26]? = some ⟨'u', {}⟩ := by
    decide +kernel
  have hsame := hkept v w _ rfl (by decide) (by decide) rfl hw 26 _ _ hbefore hafter rfl
  exact absurd (congrArg Cell.style hsame) (by decide)

end Window

end ErrorReport
