/-
# ErrorReport.Proofs.Components — where a path leads after it was joined or cut.

What a path means is the list of its components. The functions on paths work on texts and pieces
instead, because they keep the spelling. This module says what each of them does to the components:
joining appends them, the parent loses the last one, and what leads from one path to another below
it is what the second has more. None of these laws looks at a spelling again.

They rest on one observation. Apart from its head, a path is read piece by piece, so the steps of a
text that was put together around a slash are the steps of its two parts, whatever stands at the
seam. `steps` reads any text in this way, `stepsOf` a list of pieces.
-/
import ErrorReport.Path.Basic
import ErrorReport.Proofs.Path

namespace ErrorReport.Path

variable {base p : Path} {ps : List Text} {s t : Text}

/-! ## Steps -/

/-- The components that pieces stand for. -/
def stepsOf (ps : List Text) : List Component := (ps.filter (!isFiller ·)).map Component.ofPiece

/-- The components that the pieces of a text stand for. -/
def steps (t : Text) : List Component := stepsOf (t.splitOn separator)

@[simp]
theorem stepsOf_nil : stepsOf [] = [] := rfl

@[simp]
theorem stepsOf_append (ps qs : List Text) : stepsOf (ps ++ qs) = stepsOf ps ++ stepsOf qs := by
  rw [stepsOf, List.filter_append, List.map_append, stepsOf, stepsOf]

theorem stepsOf_cons_of_isFiller {piece : Text} (h : isFiller piece = true) (ps : List Text) :
    stepsOf (piece :: ps) = stepsOf ps := by
  rw [stepsOf, List.filter_cons_of_neg (by simp [h]), stepsOf]

theorem stepsOf_cons {piece : Text} (h : isFiller piece = false) (ps : List Text) :
    stepsOf (piece :: ps) = .ofPiece piece :: stepsOf ps := by
  rw [stepsOf, List.filter_cons_of_pos (by simp [h]), List.map_cons, stepsOf]

theorem stepsOf_eq_nil (h : ∀ piece ∈ ps, isFiller piece = true) : stepsOf ps = [] := by
  rw [stepsOf, List.filter_eq_nil_iff.2 fun piece hpiece => by simp [h piece hpiece], List.map_nil]

@[simp]
theorem steps_nil : steps [] = [] := rfl

/-- **The steps around a slash** are the steps in front of it and the steps behind it. -/
@[simp]
theorem steps_append_separator (s t : Text) :
    steps (s ++ separator :: t) = steps s ++ steps t := by
  rw [steps, List.splitOn_append_cons_self, stepsOf_append, steps, steps]

@[simp]
theorem steps_separator_cons (t : Text) : steps (separator :: t) = steps t :=
  steps_append_separator [] t

theorem steps_of_notMem (h : separator ∉ t) : steps t = stepsOf [t] := by
  rw [steps, List.splitOn_eq_singleton h]

theorem separator_notMem {piece : Text} (h : piece ∈ t.splitOn separator) : separator ∉ piece := by
  induction t generalizing piece with
  | nil =>
    rw [List.splitOn_nil, List.mem_singleton] at h
    exact h ▸ List.not_mem_nil
  | cons c t ih =>
    rw [List.splitOn_cons_eq_if_modifyHead] at h
    split at h
    · rcases List.mem_cons.1 h with rfl | h
      · exact List.not_mem_nil
      · exact ih h
    · next hc =>
      -- the character stands in front of the first piece of the rest
      obtain ⟨first, pieces, hsplit⟩ := List.exists_cons_of_ne_nil (List.splitOn_ne_nil separator t)
      rw [hsplit] at ih h
      rcases List.mem_cons.1 h with rfl | h
      · exact List.not_mem_cons_of_ne_of_not_mem (fun heq => hc (by simp [heq]))
          (ih List.mem_cons_self)
      · exact ih (List.mem_cons_of_mem _ h)

/-- Joined pieces are read as they were. -/
theorem steps_joinPieces (h : ∀ piece ∈ ps, separator ∉ piece) :
    steps (joinPieces ps) = stepsOf ps := by
  by_cases hps : ps = []
  · subst hps
    rfl
  · rw [steps, joinPieces, List.splitOn_intercalate separator h hps]

/-! ## Cutting pieces -/

theorem dropFillersAtEnd_append (ps : List Text) :
    dropFillersAtEnd ps ++ (ps.reverse.takeWhile isFiller).reverse = ps := by
  rw [dropFillersAtEnd, ← List.reverse_append, List.takeWhile_append_dropWhile,
    List.reverse_reverse]

@[simp]
theorem stepsOf_dropFillersAtEnd (ps : List Text) : stepsOf (dropFillersAtEnd ps) = stepsOf ps := by
  have hfillers : stepsOf (ps.reverse.takeWhile isFiller).reverse = [] :=
    stepsOf_eq_nil fun piece hpiece =>
      List.all_eq_true.1 List.all_takeWhile piece (List.mem_reverse.1 hpiece)
  calc stepsOf (dropFillersAtEnd ps)
      = stepsOf (dropFillersAtEnd ps ++ (ps.reverse.takeWhile isFiller).reverse) := by
        rw [stepsOf_append, hfillers, List.append_nil]
    _ = stepsOf ps := by rw [dropFillersAtEnd_append]

@[simp]
theorem stepsOf_afterPieces (n : Nat) (ps : List Text) :
    stepsOf (afterPieces n ps) = (stepsOf ps).drop n := by
  fun_induction afterPieces n ps with
  | case1 n => rw [stepsOf_nil, List.drop_nil]
  | case2 n piece ps h ih => rw [ih, stepsOf_cons_of_isFiller h]
  | case3 piece ps h => rfl
  | case4 piece ps h n ih => rw [ih, stepsOf_cons (by simpa using h), List.drop_succ_cons]

theorem isFiller_head_afterPieces {n : Nat} {piece : Text}
    (h : (afterPieces n ps).head? = some piece) : isFiller piece = false := by
  fun_induction afterPieces n ps with
  | case1 => cases h
  | case2 n first ps _ ih => exact ih h
  | case3 first ps hfirst =>
    obtain rfl := Option.some.inj h
    simpa using hfirst
  | case4 first ps _ n ih => exact ih h

/-! ## The components of a text -/

/-- **The components of a path** are its head and the steps of its whole text. -/
theorem components_eq (p : Path) : p.components = p.headComponents ++ steps p.text := by
  -- the head is a slash or a filler, and in front of a slash
  have htail : steps p.tail = steps p.text := by
    unfold tail head
    split
    · next rest heq =>
      rw [heq]
      exact (steps_separator_cons rest).symm
    · next heq =>
      rw [heq]
      rfl
    · next rest heq =>
      have hsteps : steps ('.' :: separator :: rest) = steps rest := steps_append_separator ['.'] rest
      rw [heq]
      exact (steps_separator_cons rest).trans hsteps.symm
    · rfl
  rw [components, ← htail]
  rfl

theorem isAbsolute_iff : p.isAbsolute = true ↔ ∃ t, p.text = separator :: t := by
  rw [isAbsolute, decide_eq_true_iff, List.head?_eq_some_iff]

theorem text_ne_nil_of_isAbsolute (h : p.isAbsolute = true) : p.text ≠ [] := by
  obtain ⟨t, ht⟩ := isAbsolute_iff.1 h
  rw [ht]
  exact List.cons_ne_nil _ _

theorem head_of_isAbsolute (h : p.isAbsolute = true) : p.head = [separator] := by
  obtain ⟨t, ht⟩ := isAbsolute_iff.1 h
  rw [head, ht]
  rfl

/-- The components of an absolute path are the root and the steps of its text. -/
theorem components_of_isAbsolute (h : p.isAbsolute = true) :
    p.components = .root :: steps p.text := by
  rw [components_eq, headComponents, head_of_isAbsolute h]
  rfl

theorem components_of_pieces (h : p.isAbsolute = true) :
    p.components = .root :: stepsOf p.pieces := by
  rw [components, headComponents, head_of_isAbsolute h]
  rfl

/-- What stands behind a slash does not change the head in front of it. -/
theorem head_append_separator (hs : s ≠ []) (t : Text) :
    head ⟨s ++ separator :: t⟩ = head ⟨s⟩ := by
  match s with
  | [c] =>
    by_cases hdot : c = '.'
    · subst hdot
      rfl
    · unfold head
      split <;> simp_all [separator]
  | c :: d :: rest =>
    unfold head
    split <;> simp_all [separator]

theorem components_append_separator (hs : s ≠ []) (t : Text) :
    components ⟨s ++ separator :: t⟩ = components ⟨s⟩ ++ steps t := by
  rw [components_eq, components_eq, headComponents, head_append_separator hs, headComponents,
    steps_append_separator, List.append_assoc]

theorem steps_name (h : .name t ∈ p.components) : steps t = [.name t] := by
  obtain ⟨hpiece, hfiller, hup⟩ := name_mem_pieces h
  rw [steps_of_notMem (separator_notMem hpiece), stepsOf_cons hfiller, stepsOf_nil,
    Component.ofPiece, if_neg hup]

/-! ## Joining -/

theorem join_of_isAbsolute (h : p.isAbsolute = true) : base.join p = p := if_pos h

/-- **Joining appends** the steps of a relative path to the components of the directory. -/
theorem components_join (hbase : base.text ≠ []) (hp : p.isAbsolute = false) :
    (base.join p).components = base.components ++ steps p.text := by
  rw [join, if_neg (by simp [hp])]
  by_cases hslash : base.text.getLast? = some separator
  · -- the slash that the directory ends with stands at the seam
    obtain ⟨front, hfront⟩ := List.getLast?_eq_some_iff.1 hslash
    have hwhole : base.text ++ p.text = front ++ separator :: p.text := by
      rw [hfront, List.append_assoc, List.singleton_append]
    have hdirectory : base = ⟨front ++ [separator]⟩ := congrArg Path.mk hfront
    rw [if_pos (by simp [hslash]), hwhole, hdirectory]
    rcases eq_or_ne front [] with rfl | hne
    · exact components_of_isAbsolute rfl
    · rw [components_append_separator hne, components_append_separator hne, steps_nil,
        List.append_nil]
  · rw [if_neg (by simp [hbase, hslash]), components_append_separator hbase]

theorem isAbsolute_join (hbase : base.isAbsolute = true) (p : Path) :
    (base.join p).isAbsolute = true := by
  obtain ⟨t, ht⟩ := isAbsolute_iff.1 hbase
  unfold join
  split
  · assumption
  · split
    · exact isAbsolute_iff.2 ⟨t ++ p.text, by rw [ht, List.cons_append]⟩
    · exact isAbsolute_iff.2 ⟨t ++ separator :: p.text, by rw [ht, List.cons_append]⟩

/-! ## The parent -/

/-- Cutting the last piece that is no filler cuts the last step. -/
theorem stepsOf_of_cut {last : Text} {front : List Text}
    (h : ps.reverse.dropWhile isFiller = last :: front) :
    stepsOf ps = stepsOf (front.dropWhile isFiller).reverse ++ [.ofPiece last] := by
  have hlast : isFiller last = false := by
    have := List.head_dropWhile_not isFiller (l := ps.reverse) (by simp [h])
    simpa [h] using this
  have hcut : dropFillersAtEnd ps = front.reverse ++ [last] := by
    rw [dropFillersAtEnd, h, List.reverse_cons]
  have hfront : dropFillersAtEnd front.reverse = (front.dropWhile isFiller).reverse := by
    rw [dropFillersAtEnd, List.reverse_reverse]
  rw [← stepsOf_dropFillersAtEnd ps, hcut, stepsOf_append, ← hfront, stepsOf_dropFillersAtEnd,
    stepsOf_cons hlast, stepsOf_nil]

/-- **The parent** of an absolute path that has steps is absolute and has all but the last one. -/
theorem exists_parent? (hp : p.isAbsolute = true) {front : List Component} {last : Component}
    (h : p.components = .root :: front ++ [last]) :
    ∃ parent, p.parent? = some parent ∧ parent.isAbsolute = true ∧
      parent.components = .root :: front := by
  have hsteps : stepsOf p.pieces = front ++ [last] :=
    (List.cons.inj ((components_of_pieces hp).symm.trans h)).2
  unfold parent?
  split
  · next lastPiece pieces hcut =>
    have habsolute : isAbsolute ⟨p.head ++ joinPieces (pieces.dropWhile isFiller).reverse⟩ := by
      rw [head_of_isAbsolute hp]
      rfl
    have hseparate : ∀ piece ∈ (pieces.dropWhile isFiller).reverse, separator ∉ piece :=
      fun piece hpiece => separator_notMem (mem_of_mem_cut hcut hpiece)
    have hfront : stepsOf (pieces.dropWhile isFiller).reverse = front := by
      rw [stepsOf_of_cut hcut] at hsteps
      exact (List.append_inj' hsteps rfl).1
    refine ⟨_, rfl, habsolute, ?_⟩
    rw [components_of_isAbsolute habsolute, head_of_isAbsolute hp, List.singleton_append,
      steps_separator_cons, steps_joinPieces hseparate, hfront]
  · next hcut =>
    -- if there is no piece to cut, all of them are fillers and there is no step
    have hnil : stepsOf p.pieces = [] := by
      rw [← stepsOf_dropFillersAtEnd, dropFillersAtEnd, hcut]
      rfl
    rw [hnil] at hsteps
    exact absurd hsteps.symm (List.append_ne_nil_of_right_ne_nil _ (List.cons_ne_nil _ _))

/-! ## The way down -/

theorem exists_joinPieces_cons (piece : Text) (ps : List Text) :
    ∃ rest, joinPieces (piece :: ps) = piece ++ rest := by
  cases ps with
  | nil => exact ⟨[], by rw [joinPieces, List.intercalate_singleton, List.append_nil]⟩
  | cons next ps =>
    exact ⟨[separator] ++ joinPieces (next :: ps), by
      rw [joinPieces, List.intercalate_cons_cons, List.append_assoc, joinPieces]⟩

theorem isAbsolute_joinPieces_afterPieces (n : Nat) (h : ∀ piece ∈ ps, separator ∉ piece) :
    isAbsolute ⟨joinPieces (dropFillersAtEnd (afterPieces n ps))⟩ = false := by
  cases hleft : dropFillersAtEnd (afterPieces n ps) with
  | nil => rfl
  | cons piece pieces =>
    have hhead : (afterPieces n ps).head? = some piece := by
      rw [← dropFillersAtEnd_append (afterPieces n ps), hleft, List.cons_append, List.head?_cons]
    have hpiece : separator ∉ piece := h piece (mem_of_mem_afterPieces (List.mem_of_head? hhead))
    obtain ⟨rest, hrest⟩ := exists_joinPieces_cons piece pieces
    rw [hrest]
    cases piece with
    | nil => cases isFiller_head_afterPieces hhead
    | cons c piece =>
      obtain ⟨hc, -⟩ := List.ne_and_not_mem_of_not_mem_cons hpiece
      simpa [isAbsolute] using Ne.symm hc

/-- **What leads to a path** from a directory that it lies below is relative, and its steps are
those that the path has more. -/
theorem components_of_relativeTo? (hp : p.isAbsolute = true) (hbase : base.isAbsolute = true)
    {below : Path} (h : p.relativeTo? base = some below) :
    below.isAbsolute = false ∧ p.components = base.components ++ steps below.text := by
  unfold relativeTo? at h
  split at h
  · next hstarts =>
    obtain rfl := Option.some.inj h
    obtain ⟨more, hmore⟩ := List.isPrefixOf_iff_prefix.1 hstarts
    have hlength : base.components.length = (steps base.text).length + 1 := by
      rw [components_of_isAbsolute hbase, List.length_cons]
    have hrest : (stepsOf p.pieces).drop (steps base.text).length = more := by
      rw [components_of_isAbsolute hbase, components_of_pieces hp] at hmore
      rw [← (List.cons.inj hmore).2]
      exact List.drop_left
    have hbelow : p.afterComponents base.components.length =
        ⟨joinPieces (dropFillersAtEnd (afterPieces (steps base.text).length p.pieces))⟩ := by
      rw [hlength, afterComponents, head_of_isAbsolute hp]
      rfl
    rw [hbelow]
    refine ⟨isAbsolute_joinPieces_afterPieces _ fun _ => separator_notMem, ?_⟩
    have hseparate : ∀ piece ∈ dropFillersAtEnd (afterPieces (steps base.text).length p.pieces),
        separator ∉ piece := fun piece hpiece =>
      separator_notMem (mem_of_mem_afterPieces (mem_of_mem_dropFillersAtEnd hpiece))
    rw [steps_joinPieces hseparate, stepsOf_dropFillersAtEnd, stepsOf_afterPieces, hrest, hmore]
  · cases h

end ErrorReport.Path
