/-
# ErrorReport.Proofs.Lines — laws of lines.

A text is taken apart at its newlines by one induction principle, `lineInduction`: it is empty, or a
last line that lacks its newline, or a line in front of another text. A block of finished rows is
the text `unlines rows` of rows without newlines; what the themes do to blocks line by line is then
done to the rows, and the newlines stay where they are.
-/
import ErrorReport.Text.Cut
import Mathlib.Data.List.Basic
import Mathlib.Data.List.TakeWhile

namespace ErrorReport.Text

/-! ## Taking a text apart -/

/-- Induction along the lines of a text. -/
@[elab_as_elim]
theorem lineInduction {motive : Text → Prop} (nil : motive [])
    (last : ∀ b, b ≠ [] → newline ∉ b → motive b)
    (line : ∀ b t, newline ∉ b → motive t → motive (b ++ newline :: t)) (t : Text) : motive t := by
  -- each character joins the line that follows it, so the first line grows from its end
  have key : ∀ b : Text, newline ∉ b → motive (b ++ t) := by
    induction t with
    | nil =>
      intro b hb
      rw [List.append_nil]
      by_cases hne : b = []
      · exact hne ▸ nil
      · exact last b hne hb
    | cons c t ih =>
      intro b hb
      by_cases hc : c = newline
      · subst hc
        exact line b t hb (ih [] (by simp))
      · have := ih (b ++ [c]) (by simp [hb, Ne.symm hc])
        rwa [List.append_assoc, List.singleton_append] at this
  exact key [] (by simp)

/-- A line with its newline is cut off as it is. -/
theorem lines_append_newline {b : Text} (h : newline ∉ b) (t : Text) :
    lines (b ++ newline :: t) = (b ++ [newline]) :: lines t := by
  induction b with
  | nil => simp [lines]
  | cons c b ih =>
    obtain ⟨hc, hb⟩ := List.ne_and_not_mem_of_not_mem_cons h
    rw [List.cons_append, lines, if_neg (Ne.symm hc), ih hb]
    rfl

theorem lines_of_notMem {b : Text} (h : newline ∉ b) (hne : b ≠ []) : lines b = [b] := by
  induction b with
  | nil => exact absurd rfl hne
  | cons c b ih =>
    obtain ⟨hc, hb⟩ := List.ne_and_not_mem_of_not_mem_cons h
    rw [lines, if_neg (Ne.symm hc)]
    by_cases hnil : b = []
    · simp [hnil, lines]
    · rw [ih hb hnil]

theorem body_append_newline {b : Text} (h : newline ∉ b) (t : Text) :
    body (b ++ newline :: t) = b := by
  have hall : ∀ c ∈ b, (c != newline) = true := by
    intro c hc
    have hne : c ≠ newline := fun heq => h (heq ▸ hc)
    simpa using hne
  rw [body, List.takeWhile_append_of_pos hall]
  simp

theorem body_of_notMem {b : Text} (h : newline ∉ b) : body b = b := by
  refine List.takeWhile_eq_self_iff.2 fun c hc => bne_iff_ne.2 ?_
  rintro rfl
  exact h hc

theorem ending_append_newline {b : Text} (h : newline ∉ b) (t : Text) :
    ending (b ++ newline :: t) = newline :: t := by
  have hsplit := body_append_ending (b ++ newline :: t)
  rw [body_append_newline h] at hsplit
  exact List.append_cancel_left hsplit

theorem newline_notMem_body (line : Text) : newline ∉ body line := by
  intro h
  simpa using List.mem_takeWhile_imp h

theorem body_subset (line : Text) : body line ⊆ line := (List.takeWhile_sublist _).subset

/-- The first line is what stands before the first newline, but for a carriage return at its end. -/
theorem exists_firstLine? {t : Text} (hne : t ≠ []) :
    ∃ first ret, firstLine? t = some first ∧ body t = first ++ ret ∧ (ret = [] ∨ ret = ['\r']) := by
  unfold firstLine?
  induction t using lineInduction with
  | nil => exact absurd rfl hne
  | last b hb hline =>
    have hending : ending b = [] := by
      have hsplit := body_append_ending b
      rwa [body_of_notMem hline, List.append_right_eq_self] at hsplit
    refine ⟨b, [], ?_, by rw [body_of_notMem hline, List.append_nil], .inl rfl⟩
    rw [lines_of_notMem hline hb, List.head?_cons, Option.map_some, hending]
    rfl
  | line b t hline =>
    have hhead : (lines (b ++ newline :: t)).head? = some (b ++ [newline]) := by
      rw [lines_append_newline hline, List.head?_cons]
    rw [hhead, Option.map_some, ending_append_newline hline, body_append_newline hline,
      body_append_newline hline]
    by_cases hlast : b.getLast? = some '\r'
    · refine ⟨b.dropLast, ['\r'], by simp [hlast], ?_, .inr rfl⟩
      exact (List.dropLast_append_getLast? '\r' hlast).symm
    · exact ⟨b, [], by simp [hlast], by rw [List.append_nil], .inl rfl⟩

theorem subset_of_mem_lines {t line : Text} (h : line ∈ lines t) : line ⊆ t := by
  intro c hc
  rw [← lines_flatten t]
  exact List.mem_flatten.2 ⟨line, h, hc⟩

/-! ## Blocks of rows -/

variable {rows : List Text}

theorem unlines_cons (row : Text) (rows : List Text) :
    unlines (row :: rows) = row ++ newline :: unlines rows := by
  simp [unlines]

theorem unlines_append (rows rows' : List Text) :
    unlines (rows ++ rows') = unlines rows ++ unlines rows' := by
  simp [unlines]

/-- The lines of a block are its rows with their newlines. -/
theorem lines_unlines (h : ∀ row ∈ rows, newline ∉ row) :
    lines (unlines rows) = rows.map (· ++ [newline]) := by
  induction rows with
  | nil => rfl
  | cons row rows ih =>
    obtain ⟨hrow, hrows⟩ := List.forall_mem_cons.1 h
    rw [unlines_cons, lines_append_newline hrow, ih hrows, List.map_cons]

/-- **Changing bodies changes rows.** -/
theorem mapBodies_unlines (f : Text → Text) (h : ∀ row ∈ rows, newline ∉ row) :
    mapBodies f (unlines rows) = unlines (rows.map f) := by
  rw [mapBodies, lines_unlines h, List.flatMap_map, unlines, List.flatMap_map]
  apply List.flatMap_congr
  intro row hrow
  rw [body_append_newline (h row hrow), ending_append_newline (h row hrow)]

/-- Putting a margin in front of the lines of a block puts it in front of the rows. -/
theorem mapLines_unlines (margin : Text) (h : ∀ row ∈ rows, newline ∉ row) :
    mapLines (margin ++ ·) (unlines rows) = unlines (rows.map (margin ++ ·)) := by
  rw [mapLines, lines_unlines h, List.flatMap_map, unlines, List.flatMap_map]
  simp only [List.append_assoc]

theorem mapIdx_ite_eq_modify (f : Text → Text) (index : Nat) (ts : List Text) :
    (ts.mapIdx fun i t => if i = index then f t else t) = ts.modify index f := by
  apply List.ext_getElem?
  intro i
  rw [List.getElem?_mapIdx, List.getElem?_modify]
  by_cases hi : i = index
  · simp [hi]
  · simp [hi, Ne.symm hi]

theorem modify_append_cons (f : Text → Text) (before : List Text) (t : Text)
    (after : List Text) :
    (before ++ t :: after).modify before.length f = before ++ f t :: after := by
  induction before with
  | nil => rfl
  | cons u before ih =>
    rw [List.cons_append, List.length_cons, List.modify_succ_cons, ih, List.cons_append]

/-- What every row satisfies and the change of a row keeps, every row satisfies after the change of
one of them. -/
theorem forall_mem_modify {P : Text → Prop} {f : Text → Text} (h : ∀ row ∈ rows, P row)
    (hf : ∀ row, P row → P (f row)) (index : Nat) : ∀ row ∈ rows.modify index f, P row := by
  induction rows generalizing index with
  | nil => simp
  | cons row rows ih =>
    obtain ⟨hrow, hrows⟩ := List.forall_mem_cons.1 h
    cases index with
    | zero => exact List.forall_mem_cons.2 ⟨hf row hrow, hrows⟩
    | succ index => exact List.forall_mem_cons.2 ⟨hrow, ih hrows index⟩

/-- What the change of one element keeps is the same of all of them together. -/
theorem flatMap_modify {f g : Text → Text} (h : ∀ t, g (f t) = g t) (index : Nat)
    (ts : List Text) : (ts.modify index f).flatMap g = ts.flatMap g := by
  induction ts generalizing index with
  | nil => simp
  | cons t ts ih =>
    cases index with
    | zero => rw [List.modify_zero_cons, List.flatMap_cons, List.flatMap_cons, h]
    | succ index => rw [List.modify_succ_cons, List.flatMap_cons, List.flatMap_cons, ih]

/-- **Changing one line of a block changes one row.** -/
theorem mapLineAt_unlines {f g : Text → Text} (index : Nat) (h : ∀ row ∈ rows, newline ∉ row)
    (hfg : ∀ row ∈ rows, f (row ++ [newline]) = g row ++ [newline]) :
    mapLineAt index f (unlines rows) = unlines (rows.modify index g) := by
  rw [mapLineAt, mapIdx_ite_eq_modify, lines_unlines h, unlines, List.flatMap_def]
  congr 1
  apply List.ext_getElem?
  intro i
  simp only [List.getElem?_modify, List.getElem?_map]
  cases hrow : rows[i]? with
  | none => rfl
  | some row =>
    have := hfg row (List.mem_of_getElem? hrow)
    by_cases hi : index = i
    · simp [hi, this]
    · simp [hi]

theorem mapLineAt_of_length_le {t : Text} {index : Nat} (h : (lines t).length ≤ index)
    (f : Text → Text) : mapLineAt index f t = t := by
  rw [mapLineAt, mapIdx_ite_eq_modify, List.modify_eq_self h, lines_flatten]

/-- **Changing one line of a text changes one of its lines**, if finished lines stay finished and
what the text ends with stays a last line. -/
theorem lines_mapLineAt {f : Text → Text}
    (hline : ∀ b, newline ∉ b → ∃ b', newline ∉ b' ∧ f (b ++ [newline]) = b' ++ [newline])
    (hlast : ∀ b, b ≠ [] → newline ∉ b → f b ≠ [] ∧ newline ∉ f b) (index : Nat) (t : Text) :
    lines (mapLineAt index f t) = (lines t).modify index f := by
  rw [mapLineAt, mapIdx_ite_eq_modify]
  induction t using lineInduction generalizing index with
  | nil => simp [lines]
  | last b hne hb =>
    rw [lines_of_notMem hb hne]
    cases index with
    | zero =>
      obtain ⟨hne', hb'⟩ := hlast b hne hb
      simpa using lines_of_notMem hb' hne'
    | succ index => simpa using lines_of_notMem hb hne
  | line b t hb ih =>
    rw [lines_append_newline hb]
    cases index with
    | zero =>
      obtain ⟨b', hb', hf⟩ := hline b hb
      rw [List.modify_zero_cons, List.flatten_cons, hf, lines_flatten, ← List.append_cons,
        lines_append_newline hb']
    | succ index =>
      rw [List.modify_succ_cons, List.flatten_cons, ← List.append_cons, lines_append_newline hb, ih]

/-- Changing the line behind some rows of a block leaves the rows around it as they are. -/
theorem mapLineAt_unlines_append_cons {before after : List Text} {row : Text}
    (h : ∀ r ∈ before ++ row :: after, newline ∉ r) (f : Text → Text) :
    mapLineAt before.length f (unlines (before ++ row :: after)) =
      unlines before ++ (f (row ++ [newline]) ++ unlines after) := by
  have hlength : before.length = (before.map (· ++ [newline])).length := by rw [List.length_map]
  rw [mapLineAt, mapIdx_ite_eq_modify, lines_unlines h, List.map_append, List.map_cons, hlength,
    modify_append_cons, List.flatten_append, List.flatten_cons]
  rfl

theorem mapLineAt_single {row : Text} (h : newline ∉ row) (f : Text → Text) (index : Nat) :
    mapLineAt index f (row ++ [newline]) =
      if index = 0 then f (row ++ [newline]) else row ++ [newline] := by
  rw [mapLineAt, lines_append_newline h]
  simp [lines, eq_comm]

/-! ## Blocks in general -/

/-- A text that is made of finished lines only. -/
def IsBlock (t : Text) : Prop :=
  ∃ rows : List Text, (∀ row ∈ rows, newline ∉ row) ∧ t = unlines rows

theorem IsBlock.append {s t : Text} (hs : IsBlock s) (ht : IsBlock t) : IsBlock (s ++ t) := by
  obtain ⟨rows, hrows, rfl⟩ := hs
  obtain ⟨rows', hrows', rfl⟩ := ht
  refine ⟨rows ++ rows', ?_, (unlines_append rows rows').symm⟩
  intro row hrow
  rcases List.mem_append.1 hrow with hrow | hrow
  · exact hrows row hrow
  · exact hrows' row hrow

theorem isBlock_append_newline (t : Text) : IsBlock (t ++ [newline]) := by
  induction t using lineInduction with
  | nil => exact ⟨[[]], by simp, rfl⟩
  | last b _ hb => exact ⟨[b], by simpa using hb, by simp [unlines]⟩
  | line b t hb ih =>
    have hline : IsBlock (b ++ [newline]) := ⟨[b], by simpa using hb, by simp [unlines]⟩
    have := hline.append ih
    simpa using this

/-- Rows form a block, also if some of them hold newlines. -/
theorem isBlock_unlines (rows : List Text) : IsBlock (unlines rows) := by
  induction rows with
  | nil => exact ⟨[], by simp, rfl⟩
  | cons row rows ih =>
    rw [unlines_cons, List.append_cons]
    exact (isBlock_append_newline row).append ih

end ErrorReport.Text
