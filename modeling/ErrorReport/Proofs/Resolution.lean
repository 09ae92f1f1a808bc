/-
# ErrorReport.Proofs.Resolution — which file a path in a frame stands for.

Loaded files are kept in the order of paths, so the first of them that ends with a path is the least
one (`IsLeastEnding`). That is a property of the files and not of the way they were put together:
up to their spelling, a set holds the same paths in whatever order they were added (`Holds`), so a
path stands for the same file.

The emphasis of a frame and the file that its window shows are decided separately, each with a
resolution of its own. Both resolve the same path, so the emphasis can be read off the path that is
shown.
-/
import ErrorReport.Config.Basic
import ErrorReport.Proofs.Components
import ErrorReport.Proofs.Tree

namespace ErrorReport

/-! ## The order of paths -/

namespace Path

variable {p q : Path}

theorem Component.rank_injective : Function.Injective Component.rank := by
  intro a b h
  cases a <;> cases b <;> simp [rank] at h ⊢
  -- two names are left
  exact List.map_injective_iff.2 (fun _ _ => Char.toNat_inj.1) h

theorem rank_eq_iff : p.rank = q.rank ↔ p.components = q.components :=
  ⟨fun h => Component.rank_injective.list_map h, fun h => congrArg (List.map Component.rank) h⟩

theorem components_eq_of_not_before (h : ¬ p.before q) (h' : ¬ q.before p) :
    p.components = q.components := by
  by_contra hne
  exact h' (before_of_not h fun hrank => hne (rank_eq_iff.1 hrank))

/-- Where a path stands depends on its steps only. -/
theorem before_congr {p' q' : Path} (hp : p.components = p'.components)
    (hq : q.components = q'.components) : p.before q ↔ p'.before q' := by
  rw [before, rank_eq_iff.2 hp, rank_eq_iff.2 hq, before]

theorem not_before_of_before (h : p.before q) : ¬ q.before p := List.lt_asymm h

end Path

/-! ## Sets of paths -/

namespace PathSet

variable {s : PathSet} {p q : Path}

/-- The set holds a spelling of the path. -/
def Holds (s : PathSet) (p : Path) : Prop := ∃ q ∈ s.toList, q.components = p.components

/-- An insertion adds the new path and keeps the old ones, up to spelling. -/
theorem exists_mem_insertWith {choose : Path → Path → Path}
    (hchoose : ∀ p q, choose p q = p ∨ choose p q = q) {qs : List Path} :
    (∃ r ∈ insertWith choose p qs, r.components = q.components) ↔
      p.components = q.components ∨ ∃ r ∈ qs, r.components = q.components := by
  induction qs with
  | nil => rw [insertWith, List.exists_mem_cons_iff]
  | cons first qs ih =>
    rw [insertWith]
    split
    · rw [List.exists_mem_cons_iff]
    · split
      · next hrank =>
        have hsame : p.components = first.components := Path.rank_eq_iff.1 hrank
        have hchosen : (choose first p).components = first.components := by
          rcases hchoose first p with h | h
          · rw [h]
          · rw [h, hsame]
        rw [List.exists_mem_cons_iff, List.exists_mem_cons_iff, hchosen, hsame, ← or_assoc, or_self]
      · rw [List.exists_mem_cons_iff, ih, List.exists_mem_cons_iff, or_left_comm]

theorem holds_insert : (s.insert p).Holds q ↔ p.components = q.components ∨ s.Holds q :=
  exists_mem_insertWith fun _ _ => .inl rfl

/-- A set holds what is put into it in the place of another spelling. -/
theorem holds_replace : (s.replace p).Holds q ↔ p.components = q.components ∨ s.Holds q :=
  exists_mem_insertWith fun _ _ => .inr rfl

/-- **A set holds what was added to it**, in whatever order and by whichever rule for spellings. -/
theorem holds_foldl {add : PathSet → Path → PathSet}
    (hadd : ∀ s p q, (add s p).Holds q ↔ p.components = q.components ∨ s.Holds q)
    (files : List Path) (s : PathSet) (q : Path) :
    (files.foldl add s).Holds q ↔ (∃ p ∈ files, p.components = q.components) ∨ s.Holds q := by
  induction files generalizing s with
  | nil => simp
  | cons p files ih =>
    rw [List.foldl_cons, ih, hadd, List.exists_mem_cons_iff, or_left_comm, or_assoc]

/-- A member that ends with a path, where no member that does comes before it. -/
structure IsLeastEnding (s : PathSet) (path file : Path) : Prop where
  mem : file ∈ s.toList
  ending : path.components <:+ file.components
  least : ∀ other ∈ s.toList, path.components <:+ other.components → ¬ other.before file

/-- **The first member that ends with a path is the least one.** -/
theorem find?_endsWith_eq_some {path file : Path} :
    s.toList.find? (·.endsWith path) = some file ↔ s.IsLeastEnding path file := by
  have hends : ∀ p : Path, p.endsWith path = true ↔ path.components <:+ p.components :=
    fun _ => List.isSuffixOf_iff_suffix
  constructor
  · intro h
    obtain ⟨hfile, front, back, hlist, hfront⟩ := List.find?_eq_some_iff_append.1 h
    refine ⟨List.mem_of_find?_eq_some h, (hends file).1 hfile, ?_⟩
    intro other hother hending hbefore
    have hascending := s.ascending
    rw [hlist, List.pairwise_append, List.pairwise_cons] at hascending
    rw [hlist, List.mem_append, List.mem_cons] at hother
    rcases hother with hother | rfl | hother
    · -- the members in front of it do not end with the path
      have hnot := hfront other hother
      rw [(hends other).2 hending] at hnot
      cases hnot
    · exact Path.not_before_of_before hbefore hbefore
    · exact Path.not_before_of_before (hascending.2.1.1 other hother) hbefore
  · rintro ⟨hmem, hending, hleast⟩
    obtain ⟨front, back, hlist⟩ := List.append_of_mem hmem
    have hascending := s.ascending
    rw [hlist, List.pairwise_append] at hascending
    refine List.find?_eq_some_iff_append.2 ⟨(hends file).2 hending, front, back, hlist, ?_⟩
    intro other hother
    rw [Bool.not_eq_true', Bool.eq_false_iff, Ne, hends]
    intro hending'
    have hmem' : other ∈ s.toList := hlist ▸ List.mem_append_left _ hother
    exact hleast other hmem' hending' (hascending.2.2 other hother file List.mem_cons_self)

/-- Members that end with a path and that no other set's such member comes before: in sets that hold
the same paths, the least members that end with a path are the same path. -/
theorem IsLeastEnding.components_eq {s' : PathSet} {path file file' : Path}
    (h : s.IsLeastEnding path file) (h' : s'.IsLeastEnding path file')
    (hsame : ∀ p, s.Holds p ↔ s'.Holds p) : file.components = file'.components := by
  have key : ∀ {s s' : PathSet} {file file' : Path}, s.IsLeastEnding path file →
      s'.IsLeastEnding path file' → (s'.Holds file' → s.Holds file') → ¬ file'.before file := by
    intro s s' file file' h h' hholds hbefore
    -- the first set has a spelling of the second file, which cannot come before its least member
    obtain ⟨other, hother, hspelling⟩ := hholds ⟨file', h'.mem, rfl⟩
    refine h.least other hother (hspelling ▸ h'.ending) ?_
    exact (Path.before_congr hspelling rfl).2 hbefore
  exact Path.components_eq_of_not_before (key h' h (hsame file).1) (key h h' (hsame file').2)

end PathSet

/-! ## Resolution -/

namespace Project

open PathSet (Holds IsLeastEnding)

variable {project : Project} {root path : Path}

theorem resolve_of_isAbsolute (h : path.isAbsolute = true) : project.resolve path = path := if_pos h

/-- **A relative path stands for a loaded file that ends with it**, the least one, and if there is
none for the file it leads to from the root, or without a root for itself. -/
theorem resolve_cases (project : Project) (h : path.isAbsolute = false) :
    project.loadedFiles.IsLeastEnding path (project.resolve path) ∨
      (∀ file ∈ project.loadedFiles.toList, ¬ path.components <:+ file.components) ∧
        project.resolve path = (project.root.map (·.join path)).getD path := by
  rw [resolve, if_neg (by simp [h])]
  split
  · next file hfind => exact .inl (PathSet.find?_endsWith_eq_some.1 hfind)
  · next hfind =>
    refine .inr ⟨fun file hfile hending => ?_, rfl⟩
    exact List.find?_eq_none.1 hfind file hfile (List.isSuffixOf_iff_suffix.2 hending)

/-- **A path belongs to the project** if there is no root, or the file it stands for has the steps
of the root in front. -/
theorem contains_iff :
    project.contains path = true ↔
      ∀ root ∈ project.root, root.components <+: (project.resolve path).components := by
  rw [contains, Option.all_eq_true]
  exact forall₂_congr fun root _ => List.isPrefixOf_iff_prefix

/-- **The order of loaded files does not matter.** Two projects with the same root whose files are
the same paths resolve a path to the same steps. -/
theorem components_resolve_congr {project' : Project} (hroot : project.root = project'.root)
    (hfiles : ∀ p, project.loadedFiles.Holds p ↔ project'.loadedFiles.Holds p) (path : Path) :
    (project.resolve path).components = (project'.resolve path).components := by
  have hnone : ∀ {s s' : PathSet} {file : Path}, s.IsLeastEnding path file →
      (s.Holds file → s'.Holds file) →
      ¬ ∀ other ∈ s'.toList, ¬ path.components <:+ other.components := by
    intro s s' file h hholds hnone
    obtain ⟨other, hother, hspelling⟩ := hholds ⟨file, h.mem, rfl⟩
    exact hnone other hother (hspelling ▸ h.ending)
  cases habsolute : path.isAbsolute with
  | true => rw [resolve_of_isAbsolute habsolute, resolve_of_isAbsolute habsolute]
  | false =>
    rcases resolve_cases project habsolute with hleast | ⟨hnot, heq⟩
    · rcases resolve_cases project' habsolute with hleast' | ⟨hnot', -⟩
      · exact hleast.components_eq hleast' hfiles
      · exact absurd hnot' (hnone hleast (hfiles _).1)
    · rcases resolve_cases project' habsolute with hleast' | ⟨-, heq'⟩
      · exact absurd hnot (hnone hleast' (hfiles _).2)
      · rw [heq, heq', hroot]

section

variable (hroot : project.root = some root) (habsolute : root.isAbsolute = true)
  (hfiles : ∀ file ∈ project.loadedFiles.toList, file.isAbsolute = true)

include hroot habsolute hfiles

/-- With an absolute root and absolute files every path stands for an absolute one. -/
theorem isAbsolute_resolve (path : Path) : (project.resolve path).isAbsolute = true := by
  cases hpath : path.isAbsolute with
  | true => rwa [resolve_of_isAbsolute hpath]
  | false =>
    rcases resolve_cases project hpath with hleast | ⟨-, heq⟩
    · exact hfiles _ hleast.mem
    · rw [heq, hroot]
      exact Path.isAbsolute_join habsolute path

theorem resolve_resolve (path : Path) :
    project.resolve (project.resolve path) = project.resolve path :=
  resolve_of_isAbsolute (isAbsolute_resolve hroot habsolute hfiles path)

/-- What a path stands for belongs to the project exactly if the path does. -/
theorem contains_resolve (path : Path) :
    project.contains (project.resolve path) = project.contains path := by
  rw [contains, resolve_resolve hroot habsolute hfiles, contains]

end

end Project

/-! ## The windows of a backtrace -/

namespace Diagnosis

variable {project : Project}

theorem length_frameWindows (called : Text) (ls : List Location) :
    (frameWindows project called ls).length = ls.length := by
  induction ls generalizing called with
  | nil => rfl
  | cons l ls ih => rw [frameWindows, List.length_cons, ih, List.length_cons]

/-- The window of a frame stands where the frame stands. -/
theorem exists_frameWindow (project : Project) (called : Text) {ls : List Location} {i : Nat}
    {l : Location} (h : ls[i]? = some l) :
    ∃ called', (frameWindows project called ls)[i]? = some (frameWindow project called' l) := by
  induction ls generalizing i called with
  | nil => cases h
  | cons first ls ih =>
    cases i with
    | zero =>
      obtain rfl := Option.some.inj h
      exact ⟨called, rfl⟩
    | succ i => exact ih first.methodName h

/-- The emphasis of a frame is on its code exactly if its path belongs to the project. -/
theorem emphasis_frameWindow (called : Text) (l : Location) :
    (frameWindow project called l).emphasis = .code ↔ project.contains l.path = true := by
  rw [frameWindow]
  cases project.contains l.path with
  | true => exact iff_of_true rfl rfl
  | false => exact iff_of_false (by simp) (by simp)

end Diagnosis

namespace Project

open PathSet (IsLeastEnding)

/-- **Resolution and emphasis agree.** In every backtrace, the window of a frame shows the frame's
line and label under the path that its path stands for, and its emphasis is on the code exactly if
there is no root or the path shown lies below it. A relative path stands for the least loaded file
that ends with it, and if none does for the path read from the root, or without a root for itself.
That does not depend on the order in which loaded files are given, neither to a project nor in
settings. And with an absolute root and absolute files, every path stands for an absolute one, which
stands for itself and belongs to the project exactly if the path does. -/
theorem resolution_agrees_with_emphasis :
    (∀ d : Diagnosis, d.backtrace.windows.length = d.failure.backtrace.length ∧
      ∀ (i : Nat) (l : Location), d.failure.backtrace[i]? = some l →
        ∃ w : Window, d.backtrace.windows[i]? = some w ∧
          w.location = { l with path := d.project.resolve l.path } ∧
          (w.emphasis = .code ↔
            ∀ root ∈ d.project.root, root.components <+: w.location.path.components)) ∧
    (∀ (project : Project) (path : Path), path.isAbsolute = false →
      project.loadedFiles.IsLeastEnding path (project.resolve path) ∨
        (∀ file ∈ project.loadedFiles.toList, ¬ path.components <:+ file.components) ∧
          project.resolve path = (project.root.map (·.join path)).getD path) ∧
    (∀ (files files' : List Path), (∀ file, file ∈ files ↔ file ∈ files') →
      (∀ (project : Project) (path : Path),
        ((project.withLoadedFiles files).resolve path).components =
          ((project.withLoadedFiles files').resolve path).components) ∧
      ∀ (s : Settings) (path : Path),
        ((Config.ofSettings { s with loadedFiles := files }).project.resolve path).components =
          ((Config.ofSettings { s with loadedFiles := files' }).project.resolve path).components) ∧
    ∀ (project : Project) (root : Path), project.root = some root → root.isAbsolute = true →
      (∀ file ∈ project.loadedFiles.toList, file.isAbsolute = true) →
      ∀ path, (project.resolve path).isAbsolute = true ∧
        project.resolve (project.resolve path) = project.resolve path ∧
        project.contains (project.resolve path) = project.contains path := by
  refine ⟨fun d => ?_, fun project path => resolve_cases project, fun files files' hsame => ?_,
    fun project root hroot habsolute hfiles path =>
      ⟨isAbsolute_resolve hroot habsolute hfiles path,
        resolve_resolve hroot habsolute hfiles path,
        contains_resolve hroot habsolute hfiles path⟩⟩
  · have hwindows : d.backtrace.windows =
        Diagnosis.frameWindows d.project [] d.failure.backtrace := by
      rw [Diagnosis.backtrace, Node.windows, Node.windowsAll_map_code]
    rw [hwindows]
    refine ⟨Diagnosis.length_frameWindows [] _, fun i l hl => ?_⟩
    obtain ⟨called, hwindow⟩ := Diagnosis.exists_frameWindow d.project [] hl
    refine ⟨_, hwindow, rfl, ?_⟩
    rw [Diagnosis.emphasis_frameWindow, contains_iff]
    rfl
  · have hspellings : ∀ q : Path, (∃ p ∈ files, p.components = q.components) ↔
        ∃ p ∈ files', p.components = q.components :=
      fun q => exists_congr fun p => and_congr_left' (hsame p)
    refine ⟨fun project path => components_resolve_congr (by rfl) (fun q => ?_) path,
      fun s path => components_resolve_congr (by rfl) (fun q => ?_) path⟩
    · exact (PathSet.holds_foldl (fun _ _ _ => PathSet.holds_insert) files _ q).trans
        ((or_congr_left (hspellings q)).trans
          (PathSet.holds_foldl (fun _ _ _ => PathSet.holds_insert) files' _ q).symm)
    · exact (PathSet.holds_foldl (fun _ _ _ => PathSet.holds_replace) files _ q).trans
        ((or_congr_left (hspellings q)).trans
          (PathSet.holds_foldl (fun _ _ _ => PathSet.holds_replace) files' _ q).symm)

/-- Three loaded files end with the path of the first frame, two of them spellings of one path below
the root. The other file is that of the second frame. -/
theorem resolution_agrees_with_emphasis_candidates :
    let files : List Path := [⟨"/gems/rake/lib/task.rb".toList⟩, ⟨"/app/./lib/task.rb".toList⟩,
      ⟨"/app//lib/task.rb".toList⟩]
    let project : Project := withLoadedFiles { root := some ⟨"/app".toList⟩ } files
    let reordered : Project := withLoadedFiles { root := some ⟨"/app".toList⟩ } files.reverse
    let path : Path := ⟨"lib/task.rb".toList⟩
    let d : Diagnosis := {
      heuristic := .exception
      failure := {
        classname := "E".toList
        explanation := []
        backtrace := [⟨path, 3, "a".toList⟩, ⟨⟨"/gems/rake/lib/task.rb".toList⟩, 9, "b".toList⟩]
        details := .generic }
      project }
    project.resolve path = ⟨"/app/./lib/task.rb".toList⟩ ∧
      reordered.resolve path = ⟨"/app//lib/task.rb".toList⟩ ∧
      (project.resolve path).components = (reordered.resolve path).components ∧
      (∃ w : Window, d.backtrace.windows[0]? = some w ∧ w.emphasis = .code) ∧
      (∃ w : Window, d.backtrace.windows[1]? = some w ∧ w.emphasis ≠ .code) ∧
      project.loadedFiles.IsLeastEnding path ⟨"/app/./lib/task.rb".toList⟩ ∧
      project.contains (project.resolve path) = project.contains path := by
  intro files project reordered path d
  obtain ⟨hwindows, hleast, horder, habsolute⟩ := resolution_agrees_with_emphasis
  have hresolved : project.resolve path = ⟨"/app/./lib/task.rb".toList⟩ := by decide
  have hreordered : reordered.resolve path = ⟨"/app//lib/task.rb".toList⟩ := by decide
  refine ⟨hresolved, hreordered, ?_, ?_, ?_, ?_, ?_⟩
  · exact (horder files files.reverse fun _ => List.mem_reverse.symm).1
      { root := some ⟨"/app".toList⟩ } path
  · obtain ⟨w, hw, hlocation, hemphasis⟩ := (hwindows d).2 0 _ rfl
    refine ⟨w, hw, hemphasis.2 ?_⟩
    rw [hlocation]
    decide
  · obtain ⟨w, hw, hlocation, hemphasis⟩ := (hwindows d).2 1 _ rfl
    refine ⟨w, hw, fun hcode => ?_⟩
    have hbelow := hemphasis.1 hcode ⟨"/app".toList⟩ rfl
    rw [hlocation] at hbelow
    revert hbelow
    decide
  · rcases hleast project path (by decide) with hfirst | ⟨hnone, -⟩
    · rwa [hresolved] at hfirst
    · exact absurd (by decide) (hnone ⟨"/app/./lib/task.rb".toList⟩ (by decide))
  · exact (habsolute project ⟨"/app".toList⟩ rfl (by decide) (by decide) path).2.2

end Project

end ErrorReport
