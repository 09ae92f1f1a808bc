/-
# ErrorReport.Proofs.Path — the characters of a path that was put together.

Paths are joined, cut and written out before they are shown. None of that invents characters: apart
from slashes and dots, a path that was put together holds what the paths it was made from hold. So a
character that is neither a slash nor a dot and does not occur in those does not occur in it.
-/
import ErrorReport.Path.Basic
import ErrorReport.Project
import ErrorReport.Proofs.Text

namespace ErrorReport.Path

variable {c : Char} {base p : Path}

/-! ## Pieces -/

theorem subset_of_mem_pieces {piece : Text} (h : piece ∈ p.pieces) : piece ⊆ p.text := by
  have htail : piece ⊆ p.tail := by
    have := Text.subset_intercalate [separator] h
    rwa [pieces, List.intercalate_splitOn] at this
  rw [← p.head_append_tail]
  exact List.subset_append_of_subset_right _ htail

theorem head_subset (p : Path) : p.head ⊆ p.text := by
  rw [← p.head_append_tail]
  exact List.subset_append_left _ _

/-- Joining pieces adds slashes only. -/
theorem notMem_joinPieces (hslash : c ≠ separator) {ps : List Text}
    (h : ∀ piece ∈ ps, c ∉ piece) : c ∉ joinPieces ps := by
  intro hmem
  rcases Text.mem_intercalate hmem with hc | ⟨piece, hpiece, hc⟩
  · exact hslash (List.mem_singleton.1 hc)
  · exact h piece hpiece hc

theorem mem_of_mem_dropFillersAtEnd {piece : Text} {ps : List Text}
    (h : piece ∈ dropFillersAtEnd ps) : piece ∈ ps := by
  rw [dropFillersAtEnd, List.mem_reverse] at h
  exact List.mem_reverse.1 ((List.dropWhile_sublist _).subset h)

theorem mem_of_mem_afterPieces {piece : Text} {n : Nat} {ps : List Text}
    (h : piece ∈ afterPieces n ps) : piece ∈ ps := by
  fun_induction afterPieces n ps with
  | case1 => simp at h
  | case2 n first ps _ ih => exact List.mem_cons_of_mem first (ih h)
  | case3 first ps _ => exact h
  | case4 first ps _ n ih => exact List.mem_cons_of_mem first (ih h)

theorem mem_of_mem_cut {piece last : Text} {ps front : List Text}
    (h : ps.reverse.dropWhile isFiller = last :: front)
    (hpiece : piece ∈ (front.dropWhile isFiller).reverse) : piece ∈ ps := by
  have hfront : piece ∈ front := (List.dropWhile_sublist _).subset (List.mem_reverse.1 hpiece)
  have hcut : piece ∈ ps.reverse.dropWhile isFiller := h ▸ List.mem_cons_of_mem last hfront
  exact List.mem_reverse.1 ((List.dropWhile_sublist _).subset hcut)

/-! ## Joining and cutting -/

theorem notMem_join (hslash : c ≠ separator) (hbase : c ∉ base.text) (hp : c ∉ p.text) :
    c ∉ (base.join p).text := by
  unfold join
  split
  · exact hp
  · split
    · exact List.not_mem_append hbase hp
    · exact List.not_mem_append hbase (List.not_mem_cons_of_ne_of_not_mem hslash hp)

theorem notMem_parent? (hslash : c ≠ separator) (hp : c ∉ p.text) {parent : Path}
    (h : p.parent? = some parent) : c ∉ parent.text := by
  unfold parent? at h
  split at h
  · next last front hdrop =>
    obtain rfl := Option.some.inj h
    refine List.not_mem_append (fun hmem => hp (p.head_subset hmem)) ?_
    apply notMem_joinPieces hslash
    intro piece hpiece hc
    exact hp (subset_of_mem_pieces (mem_of_mem_cut hdrop hpiece) hc)
  · split at h
    · obtain rfl := Option.some.inj h
      exact List.not_mem_nil
    · cases h

theorem notMem_afterComponents (hslash : c ≠ separator) (hp : c ∉ p.text) (n : Nat) :
    c ∉ (p.afterComponents n).text := by
  have hpieces : ∀ ps : List Text, ps ⊆ p.pieces → c ∉ joinPieces (dropFillersAtEnd ps) := by
    intro ps hps
    apply notMem_joinPieces hslash
    intro piece hpiece hc
    exact hp (subset_of_mem_pieces (hps (mem_of_mem_dropFillersAtEnd hpiece)) hc)
  cases n with
  | zero =>
    exact List.not_mem_append (fun hmem => hp (p.head_subset hmem))
      (hpieces _ (List.Subset.refl _))
  | succ n => exact hpieces _ fun _ => mem_of_mem_afterPieces

theorem notMem_relativeTo? (hslash : c ≠ separator) (hp : c ∉ p.text) {below : Path}
    (h : p.relativeTo? base = some below) : c ∉ below.text := by
  unfold relativeTo? at h
  split at h
  · obtain rfl := Option.some.inj h
    exact notMem_afterComponents hslash hp _
  · cases h

/-! ## Components -/

/-- A component that is a name is a piece of the path, and no filler nor a step up. -/
theorem name_mem_pieces {t : Text} (h : .name t ∈ p.components) :
    t ∈ p.pieces ∧ isFiller t = false ∧ t ≠ ['.', '.'] := by
  rcases List.mem_append.1 h with h | h
  · unfold headComponents at h
    split at h <;> simp at h
  · obtain ⟨piece, hpiece, heq⟩ := List.mem_map.1 h
    obtain ⟨hmem, hfiller⟩ := List.mem_filter.1 hpiece
    unfold Component.ofPiece at heq
    split at heq
    · cases heq
    · next hup =>
      obtain rfl := Component.name.inj heq
      exact ⟨hmem, by simpa using hfiller, hup⟩

/-- A step of a path, written as a path of its own, is a piece of it or made of slashes and dots. -/
theorem notMem_toPath (hslash : c ≠ separator) (hdot : c ≠ '.') (hp : c ∉ p.text)
    {step : Component} (h : step ∈ p.components) : c ∉ step.toPath.text := by
  cases step with
  | root => simpa [Component.toPath] using hslash
  | here => simpa [Component.toPath, here] using hdot
  | up => simpa [Component.toPath] using hdot
  | name t => exact fun hc => hp (subset_of_mem_pieces (name_mem_pieces h).1 hc)

theorem notMem_fileName (hslash : c ≠ separator) (hdot : c ≠ '.') (hp : c ∉ p.text) :
    c ∉ p.fileName := by
  unfold fileName
  split
  · next t hlast => exact notMem_toPath hslash hdot hp (List.mem_of_getLast? hlast)
  · exact List.not_mem_nil

theorem notMem_foldl_join (hslash : c ≠ separator) {steps : List Component} {q : Path}
    (hsteps : ∀ step ∈ steps, c ∉ step.toPath.text) (hq : c ∉ q.text) :
    c ∉ (steps.foldl (fun q step => q.join step.toPath) q).text := by
  induction steps generalizing q with
  | nil => exact hq
  | cons step steps ih =>
    obtain ⟨hstep, hsteps⟩ := List.forall_mem_cons.1 hsteps
    exact ih hsteps (notMem_join hslash hq hstep)

/-- **A path written out** is made of the steps of the path and of the directory. -/
theorem notMem_absoluteFrom (hslash : c ≠ separator) (hdot : c ≠ '.') (hbase : c ∉ base.text)
    (hp : c ∉ p.text) : c ∉ (absoluteFrom base p).text := by
  -- a dot at the start of the path is left out, everything else is walked along
  have hsteps : ∀ step ∈ ((p.relativeTo? here).getD p).components, c ∉ step.toPath.text := by
    intro step hstep
    refine notMem_toPath hslash hdot ?_ hstep
    cases hbelow : p.relativeTo? here with
    | none => exact hp
    | some below => exact notMem_relativeTo? hslash hp hbelow
  unfold absoluteFrom
  split
  · exact hp
  · have hdouble : c ∉ [separator, separator] := by simpa using hslash
    have hstart : c ∉ (if p.isAbsolute then empty else base).text := by
      split
      · exact List.not_mem_nil
      · exact hbase
    have hwhole : c ∉ (if p.hasDoubleRoot then
        ((p.relativeTo? here).getD p).components.tail.foldl
          (fun q step => q.join step.toPath) ⟨['/', '/']⟩
      else ((p.relativeTo? here).getD p).components.foldl
        (fun q step => q.join step.toPath) (if p.isAbsolute then empty else base)).text := by
      split
      · exact notMem_foldl_join hslash (fun step h => hsteps step (List.mem_of_mem_tail h)) hdouble
      · exact notMem_foldl_join hslash hsteps hstart
    dsimp only
    by_cases hends : p.text.getLast? = some separator
    · rw [if_pos hends]
      exact notMem_join hslash hwhole List.not_mem_nil
    · rw [if_neg hends]
      exact hwhole

end ErrorReport.Path

namespace ErrorReport.Project

/-- **A resolved path** is a path itself, a loaded file, or read from the root. -/
theorem notMem_resolve {c : Char} (hslash : c ≠ Path.separator) {project : Project} {path : Path}
    (hroot : ∀ root ∈ project.root, c ∉ root.text)
    (hfiles : ∀ file ∈ project.loadedFiles.toList, c ∉ file.text) (hpath : c ∉ path.text) :
    c ∉ (project.resolve path).text := by
  unfold resolve
  split
  · exact hpath
  · split
    · next file hfind => exact hfiles file (List.mem_of_find?_eq_some hfind)
    · cases hproject : project.root with
      | none => exact hpath
      | some root => exact Path.notMem_join hslash (hroot root hproject) hpath

end ErrorReport.Project
