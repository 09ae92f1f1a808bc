/-
# ErrorReport.Proofs.Lexical — where a path leads if its steps up are carried out.

Paths are compared step by step as they are written, and a step up is a step like any other. So a
path that goes up again behind the root of a project still starts with the root and belongs to the
project, although it leads out of it, and a path that comes to the root on a way round does not.

`lexical` carries the steps up out. How far that leads away from what is written is seen from the
steps that follow the root: altogether they go up some directories from the root and then down again
(`Course`). They stay below the root exactly if they enter all directories again that they left
(`ComesBack`). Paths without steps up are not touched by any of this.
-/
import ErrorReport.Proofs.Resolution

namespace ErrorReport

namespace Path

variable {p : Path} {way base rest steps : List Component}

/-! ## Carrying out steps up -/

/-- The directories that one has gone down into after further steps. A step up leaves the last one;
at the root of the file system it leads nowhere. -/
def walk : List Component → List Component → List Component
  | way, [] => way
  | way, .up :: steps => walk way.dropLast steps
  | way, .name t :: steps => walk (way ++ [.name t]) steps
  | way, _ :: steps => walk way steps

/-- The components of an absolute path with its steps up carried out. -/
def lexical (p : Path) : List Component := .root :: walk [] p.components

/-- One after the other, steps lead where they lead together. -/
theorem walk_append (way steps more : List Component) :
    walk way (steps ++ more) = walk (walk way steps) more := by
  fun_induction walk way steps with
  | case1 way => rfl
  | case2 way steps ih => exact ih
  | case3 way t steps ih => exact ih
  | case4 way step steps hup hname ih =>
    cases step with
    | up => exact absurd rfl hup
    | name t => exact absurd rfl (hname t)
    | root => exact ih
    | here => exact ih

theorem walk_of_names (h : ∀ step ∈ steps, ∃ t, step = .name t) (way : List Component) :
    walk way steps = way ++ steps := by
  induction steps generalizing way with
  | nil => rw [walk, List.append_nil]
  | cons step steps ih =>
    obtain ⟨⟨t, rfl⟩, hsteps⟩ := List.forall_mem_cons.1 h
    rw [walk, ih hsteps, List.append_assoc, List.singleton_append]

/-! ## Up and down -/

/-- What steps amount to: so many directories up from where they start, and then down. -/
structure Course where
  up : Nat
  down : List Component
  deriving DecidableEq

/-- A course with one more step. -/
def Course.step (c : Course) : Component → Course
  | .up => if c.down = [] then { c with up := c.up + 1 } else { c with down := c.down.dropLast }
  | .name t => { c with down := c.down ++ [.name t] }
  | _ => c

/-- The course of steps. -/
def courseOf (steps : List Component) : Course := steps.foldl Course.step ⟨0, []⟩

/-- Steps behind some of the names of a directory lead back below it: all names that they leave are
entered again. -/
def ComesBack (base rest : List Component) : Prop :=
  base.drop (base.length - (courseOf rest).up) <+: (courseOf rest).down

instance (base rest : List Component) : Decidable (ComesBack base rest) :=
  inferInstanceAs (Decidable (_ <+: _))

/-- **A walk follows the course of its steps**, as far as there are directories to leave. -/
theorem walk_eq (way steps : List Component) :
    walk way steps =
      way.take (way.length - (courseOf steps).up) ++ (courseOf steps).down := by
  have key : ∀ (steps : List Component) (c : Course),
      walk (way.take (way.length - c.up) ++ c.down) steps =
        way.take (way.length - (steps.foldl Course.step c).up) ++
          (steps.foldl Course.step c).down := by
    intro steps
    induction steps with
    | nil => exact fun c => walk.eq_1 _
    | cons step steps ih =>
      intro c
      rw [List.foldl_cons, ← ih]
      cases step with
      | up =>
        rw [walk, Course.step]
        split
        · next hdown =>
          -- one directory more is left
          have htake : (way.take (way.length - c.up)).dropLast =
              way.take (way.length - (c.up + 1)) := by
            rw [List.dropLast_eq_take, List.length_take, List.take_take]
            congr 1
            omega
          rw [hdown, List.append_nil, List.append_nil, htake]
        · next hdown => rw [List.dropLast_append_of_ne_nil hdown]
      | name t => rw [walk, Course.step, List.append_assoc]
      | root => rfl
      | here => rfl
  have := key steps ⟨0, []⟩
  simpa [courseOf] using this

/-- A walk from a directory ends below it exactly if it comes back. -/
theorem prefix_walk_iff : base <+: walk base rest ↔ ComesBack base rest := by
  rw [walk_eq, ComesBack]
  conv => lhs; lhs; rw [← List.take_append_drop (base.length - (courseOf rest).up) base]
  exact List.prefix_append_right_inj _

/-! ## Absolute paths -/

theorem eq_up_or_name_of_mem_steps {t : Text} {step : Component} (h : step ∈ Path.steps t) :
    step = .up ∨ ∃ name, step = .name name := by
  obtain ⟨piece, -, rfl⟩ := List.mem_map.1 h
  unfold Component.ofPiece
  split
  · exact .inl rfl
  · exact .inr ⟨piece, rfl⟩

/-- What the root of the file system and the way down from it are carried out to. -/
theorem lexical_eq (h : p.isAbsolute = true) :
    p.lexical = .root :: walk [] (Path.steps p.text) := by
  rw [lexical, components_of_isAbsolute h]
  rfl

/-- What an absolute path is carried out to are the names that its course goes down. -/
theorem lexical_eq_down (p : Path) : p.lexical = .root :: (courseOf p.components).down := by
  rw [lexical, walk_eq, List.take_nil, List.nil_append]

/-- **A path without steps up** is carried out as it is written. -/
theorem lexical_eq_components (h : p.isAbsolute = true) (hup : .up ∉ p.components) :
    p.lexical = p.components := by
  have hnames : ∀ step ∈ Path.steps p.text, ∃ t, step = .name t := by
    intro step hstep
    rcases eq_up_or_name_of_mem_steps hstep with rfl | hname
    · rw [components_of_isAbsolute h] at hup
      exact absurd (List.mem_cons_of_mem _ hstep) hup
    · exact hname
  rw [lexical_eq h, walk_of_names hnames, List.nil_append, components_of_isAbsolute h]

/-- **A path that starts with a directory leads below it** exactly if what follows comes back. -/
theorem prefix_lexical_iff {root : Path} (hroot : root.isAbsolute = true)
    (hup : .up ∉ root.components) (hp : p.isAbsolute = true)
    (hrest : p.components = root.components ++ rest) :
    root.components <+: p.lexical ↔ ComesBack (Path.steps root.text) rest := by
  have hsteps : Path.steps p.text = Path.steps root.text ++ rest := by
    rw [components_of_isAbsolute hp, components_of_isAbsolute hroot, List.cons_append] at hrest
    exact (List.cons.inj hrest).2
  have hwalk : walk [] (Path.steps root.text) = Path.steps root.text := by
    have hlexical := lexical_eq_components hroot hup
    rw [lexical_eq hroot, components_of_isAbsolute hroot] at hlexical
    exact (List.cons.inj hlexical).2
  rw [lexical_eq hp, components_of_isAbsolute hroot, List.cons_prefix_cons, hsteps, walk_append,
    hwalk, prefix_walk_iff]
  exact and_iff_right rfl

end Path

/-! ## Projects -/

namespace Project

open ErrorReport.Path (ComesBack courseOf)

variable {project : Project} {root path : Path}

/-- **Which files count as below the root.** In a project with absolute files and an absolute root
without steps up, a path belongs to the project exactly if what it stands for leads below the root
when its steps up are carried out, with two exceptions: the path starts with the root and goes up
again without coming back, or it does not start with the root and all in all goes down into it.
There are none among the paths whose files are written without steps up. -/
theorem contains_iff_lexically_below_iff (hroot : project.root = some root)
    (habsolute : root.isAbsolute = true) (hup : .up ∉ root.components)
    (hfiles : ∀ file ∈ project.loadedFiles.toList, file.isAbsolute = true) :
    ((project.contains path = true ↔ root.components <+: (project.resolve path).lexical) ↔
      (∀ rest, (project.resolve path).components = root.components ++ rest →
        ComesBack (Path.steps root.text) rest) ∧
      (¬ root.components <+: (project.resolve path).components →
        ¬ Path.steps root.text <+: (courseOf (project.resolve path).components).down)) ∧
    (.up ∉ (project.resolve path).components →
      (project.contains path = true ↔ root.components <+: (project.resolve path).lexical)) := by
  have hresolved : (project.resolve path).isAbsolute = true :=
    isAbsolute_resolve hroot habsolute hfiles path
  have hcontains : project.contains path = true ↔
      root.components <+: (project.resolve path).components := by
    rw [contains_iff, hroot]
    exact ⟨fun h => h root rfl, fun h _ heq => Option.some.inj heq ▸ h⟩
  have hdown : root.components <+: (project.resolve path).lexical ↔
      Path.steps root.text <+: (courseOf (project.resolve path).components).down := by
    rw [Path.lexical_eq_down, Path.components_of_isAbsolute habsolute, List.cons_prefix_cons]
    exact and_iff_right rfl
  rw [hcontains]
  constructor
  · constructor
    · intro hagree
      refine ⟨fun rest hrest => ?_, fun hnot hbelow => hnot (hagree.2 (hdown.2 hbelow))⟩
      exact (Path.prefix_lexical_iff habsolute hup hresolved hrest).1 (hagree.1 ⟨rest, hrest.symm⟩)
    · rintro ⟨hback, hround⟩
      constructor
      · rintro ⟨rest, hrest⟩
        exact (Path.prefix_lexical_iff habsolute hup hresolved hrest.symm).2
          (hback rest hrest.symm)
      · intro hbelow
        by_contra hnot
        exact hround hnot (hdown.1 hbelow)
  · intro hplain
    rw [Path.lexical_eq_components hresolved hplain]

/-- A relative path that leads out of the root and back, and a loaded file that does not. -/
theorem contains_iff_lexically_below_iff_returning :
    let root : Path := ⟨"/app/src".toList⟩
    let project : Project := withLoadedFiles { root := some root } [⟨"/app/src/../b.rb".toList⟩]
    (project.contains ⟨"../../app/src/a.rb".toList⟩ = true ↔
      root.components <+: (project.resolve ⟨"../../app/src/a.rb".toList⟩).lexical) ∧
    ¬ (project.contains ⟨"b.rb".toList⟩ = true ↔
      root.components <+: (project.resolve ⟨"b.rb".toList⟩).lexical) := by
  intro root project
  have hfiles : ∀ file ∈ project.loadedFiles.toList, file.isAbsolute = true := by decide
  constructor
  · refine (contains_iff_lexically_below_iff rfl (by decide) (by decide) hfiles).1.2 ⟨?_, ?_⟩
    · intro rest hrest
      have hsteps : (project.resolve ⟨"../../app/src/a.rb".toList⟩).components =
          root.components ++ [.up, .up, .name "app".toList, .name "src".toList,
            .name "a.rb".toList] := by decide
      obtain rfl := List.append_cancel_left (hrest.symm.trans hsteps)
      decide
    · intro hnot
      exact absurd (by decide) hnot
  · intro hagree
    have hback := ((contains_iff_lexically_below_iff rfl (by decide) (by decide) hfiles).1.1
      hagree).1 [.up, .name "b.rb".toList] (by decide)
    revert hback
    decide

/-- **A path can leave the root by a step up and still count as below it.** -/
theorem ascending_path_contained :
    ¬ ∀ (project : Project) (root path : Path), project.root = some root →
      root.isAbsolute = true → .up ∉ root.components →
      (∀ file ∈ project.loadedFiles.toList, file.isAbsolute = true) →
      (project.contains path = true ↔ root.components <+: (project.resolve path).lexical) := by
  intro hagree
  have hbelow := (hagree { root := some ⟨"/app".toList⟩ } ⟨"/app".toList⟩
    ⟨"/app/../gems/x.rb".toList⟩ rfl (by decide) (by decide) (by decide)).1 (by decide)
  revert hbelow
  decide

end Project

end ErrorReport
