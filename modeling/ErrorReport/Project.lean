/-
# ErrorReport.Project — where the user's own code lives.

Backtraces mix the user's files with those of libraries. A project has a root directory and a set
of files known to be loaded; `resolve` turns the path of a frame into the path of a file, and
`contains` says whether that file lies below the root. Without a root every file is the user's own.

Loaded files are kept in order. Paths are compared step by step: the root comes first, then a leading
dot, then `..`, then names by their characters. Spellings of one path are equal in this order, so a
set holds only one of them; `insert` keeps the spelling that is already there and `replace` puts the
new one in its place. `PathSet` carries the proof that its list is strictly ascending, so the first
member with a property is the least one.
-/
import ErrorReport.Path.Basic

namespace ErrorReport

/-! ## The order of paths -/

/-- Where a component stands among all components, as a list of numbers to be compared from the
left. -/
def Path.Component.rank : Path.Component → List Nat
  | .root => [0]
  | .here => [1]
  | .up => [2]
  | .name t => 3 :: t.map Char.toNat

/-- Where a path stands among all paths. -/
def Path.rank (p : Path) : List (List Nat) := p.components.map Path.Component.rank

/-- One path comes before another. -/
def Path.before (p q : Path) : Prop := p.rank < q.rank

instance (p q : Path) : Decidable (p.before q) :=
  inferInstanceAs (Decidable (p.rank < q.rank))

theorem Path.before_trans {p q r : Path} (h₁ : p.before q) (h₂ : q.before r) : p.before r :=
  List.lt_trans h₁ h₂

/-- Of two paths, one comes before the other unless they have the same steps. -/
theorem Path.before_of_not {p q : Path} (h : ¬ p.before q) (hne : p.rank ≠ q.rank) :
    q.before p := by
  rcases List.le_iff_lt_or_eq.1 (List.not_lt.1 h) with h | h
  · exact h
  · exact absurd h.symm hne

/-! ## Sets of paths -/

/-- A set of paths, in ascending order. -/
structure PathSet where
  toList : List Path
  ascending : toList.Pairwise Path.before

namespace PathSet

/-- The set without members. -/
def empty : PathSet := ⟨[], .nil⟩

instance : Inhabited PathSet := ⟨empty⟩

/-- Puts a path into its place in an ascending list. Where the list has a spelling of it already,
`choose` picks from the old and the new one. -/
def insertWith (choose : Path → Path → Path) (p : Path) : List Path → List Path
  | [] => [p]
  | q :: qs =>
    if p.before q then p :: q :: qs
    else if p.rank = q.rank then choose q p :: qs
    else q :: insertWith choose p qs

/-- The members of a list after an insertion are spellings of the new path and old members. -/
theorem rank_of_mem_insertWith {choose : Path → Path → Path}
    (hchoose : ∀ p q, choose p q = p ∨ choose p q = q) {p r : Path} {qs : List Path}
    (h : r ∈ insertWith choose p qs) : r.rank = p.rank ∨ r ∈ qs := by
  induction qs with
  | nil => simp [insertWith] at h; simp [h]
  | cons q qs ih =>
    rw [insertWith] at h
    split at h
    · rcases List.mem_cons.1 h with rfl | h
      · exact .inl rfl
      · exact .inr h
    · split at h
      · next hrank =>
        rcases List.mem_cons.1 h with rfl | h
        · rcases hchoose q p with hc | hc
          · exact .inl (by rw [hc]; exact hrank.symm)
          · exact .inl (by rw [hc])
        · exact .inr (List.mem_cons_of_mem _ h)
      · rcases List.mem_cons.1 h with rfl | h
        · exact .inr (List.mem_cons_self ..)
        · exact (ih h).imp id (List.mem_cons_of_mem _)

theorem insertWith_ascending {choose : Path → Path → Path}
    (hchoose : ∀ p q, choose p q = p ∨ choose p q = q) (p : Path) {qs : List Path}
    (h : qs.Pairwise Path.before) : (insertWith choose p qs).Pairwise Path.before := by
  induction qs with
  | nil => simp [insertWith]
  | cons q qs ih =>
    obtain ⟨hq, hqs⟩ := List.pairwise_cons.1 h
    rw [insertWith]
    split
    · next hpq =>
      refine List.pairwise_cons.2 ⟨fun r hr => ?_, h⟩
      rcases List.mem_cons.1 hr with rfl | hr
      · exact hpq
      · exact Path.before_trans hpq (hq r hr)
    · next hpq =>
      split
      · next hrank =>
        refine List.pairwise_cons.2 ⟨fun r hr => ?_, hqs⟩
        rcases hchoose q p with hc | hc <;> rw [hc]
        · exact hq r hr
        · have := hq r hr
          rwa [Path.before, ← hrank] at this
      · next hrank =>
        refine List.pairwise_cons.2 ⟨fun r hr => ?_, ih hqs⟩
        rcases rank_of_mem_insertWith hchoose hr with hr | hr
        · have := Path.before_of_not hpq hrank
          rwa [Path.before, ← hr] at this
        · exact hq r hr

/-- Adds a path unless a spelling of it is there already. -/
def insert (s : PathSet) (p : Path) : PathSet :=
  ⟨insertWith (fun old _ => old) p s.toList,
    insertWith_ascending (fun _ _ => .inl rfl) p s.ascending⟩

/-- Adds a path, in the place of a spelling of it that is there already. -/
def replace (s : PathSet) (p : Path) : PathSet :=
  ⟨insertWith (fun _ new => new) p s.toList,
    insertWith_ascending (fun _ _ => .inr rfl) p s.ascending⟩

end PathSet

/-! ## Projects -/

/-- The user's own code. -/
structure Project where
  root : Option Path := none
  /-- The files that the interpreter has loaded. -/
  loadedFiles : PathSet := .empty
  deriving Inhabited

namespace Project

/-- Adds loaded files. Of several spellings of one path the first stays. -/
def withLoadedFiles (project : Project) (files : List Path) : Project :=
  { project with loadedFiles := files.foldl PathSet.insert project.loadedFiles }

/-- The file that a path in a frame stands for. An absolute path stands for itself. A relative one
is the end of a loaded file's path, the first in the order of paths; if there is none, it is read
from the root. -/
def resolve (project : Project) (path : Path) : Path :=
  if path.isAbsolute then path
  else
    match project.loadedFiles.toList.find? (·.endsWith path) with
    | some file => file
    | none => (project.root.map (·.join path)).getD path

/-- A path belongs to the project if the file it stands for lies below the root. -/
def contains (project : Project) (path : Path) : Bool :=
  project.root.all fun root => (project.resolve path).startsWith root

end Project

end ErrorReport
