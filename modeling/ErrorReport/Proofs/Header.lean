/-
# ErrorReport.Proofs.Header — the header of a window names its file.

A header shows a path by the directory it lies in, as seen from the current directory, and by its
file name. Read from the current directory again, what is shown leads where the path itself leads:
component by component, whatever dots and slashes the path was written with. The shown directory is
relative exactly if it lies below the current one.

The other half goes from the text to the path. A painted piece ends at the first reset that its
style is not opened again behind, so the pieces of a header can be told apart in every theme, also
if there are escape characters in a path. Two files with one header are therefore one file.
-/
import ErrorReport.Proofs.Components
import ErrorReport.Proofs.Display
import ErrorReport.Window.Render

namespace ErrorReport

/-! ## Telling painted pieces apart -/

namespace Terminal

open Text (escape)

variable {s t s' t' u : Text}

/-- Text without escape characters stands in front of a text with repeated sequences only if it
stands in front of the text itself. -/
theorem prefix_of_prefix_reopen {opening : Text} (hu : escape ∉ u)
    (h : u <+: Style.reopen opening s ++ (reset ++ t)) : u <+: s := by
  induction u generalizing s with
  | nil => exact List.nil_prefix
  | cons a u ih =>
    obtain ⟨ha, hu⟩ := List.ne_and_not_mem_of_not_mem_cons hu
    cases s using resetInduction with
    | nil => exact absurd (List.cons_prefix_cons.1 h).1.symm ha
    | reset s =>
      rw [reopen_reset] at h
      exact absurd (List.cons_prefix_cons.1 h).1.symm ha
    | cons c s hc =>
      rw [reopen_cons_of_not_reset opening hc, List.cons_append] at h
      obtain ⟨rfl, hrest⟩ := List.cons_prefix_cons.1 h
      exact List.cons_prefix_cons.2 ⟨rfl, ih hu hrest⟩

theorem not_prefix_cons_reopen {opening : Text} {c : Char} (h : ¬ reset <+: c :: s) :
    ¬ reset <+: c :: (Style.reopen opening s ++ (reset ++ t)) := by
  intro hreset
  obtain ⟨rfl, hrest⟩ := List.cons_prefix_cons.1 hreset
  exact h (List.cons_prefix_cons.2 ⟨rfl, prefix_of_prefix_reopen (by decide) hrest⟩)

/-- **Where repeated sequences end.** The first reset that the repeated sequence does not follow is
the one behind the text, so the text and what follows it can be read off. -/
theorem reopen_append_reset_inj {opening : Text} (ht : ¬ opening <+: t) (ht' : ¬ opening <+: t')
    (h : Style.reopen opening s ++ (reset ++ t) = Style.reopen opening s' ++ (reset ++ t')) :
    s = s' ∧ t = t' := by
  induction s using resetInduction generalizing s' with
  | nil =>
    cases s' using resetInduction with
    | nil => exact ⟨rfl, List.append_cancel_left h⟩
    | reset s' =>
      rw [reopen_reset, List.append_assoc, List.append_assoc] at h
      have hrest : t = opening ++ (Style.reopen opening s' ++ (reset ++ t')) :=
        List.append_cancel_left h
      exact absurd ⟨_, hrest.symm⟩ ht
    | cons c s' hc =>
      rw [reopen_cons_of_not_reset opening hc, List.cons_append] at h
      exact absurd ⟨t, h⟩ (not_prefix_cons_reopen hc)
  | reset s ih =>
    cases s' using resetInduction with
    | nil =>
      rw [reopen_reset, List.append_assoc, List.append_assoc] at h
      exact absurd ⟨_, List.append_cancel_left h⟩ ht'
    | reset s' =>
      rw [reopen_reset, reopen_reset] at h
      simp only [List.append_assoc] at h
      obtain ⟨rfl, hrest⟩ := ih (List.append_cancel_left (List.append_cancel_left h))
      exact ⟨rfl, hrest⟩
    | cons c s' hc =>
      rw [reopen_reset, reopen_cons_of_not_reset opening hc, List.cons_append,
        List.append_assoc] at h
      exact absurd ⟨_, h⟩ (not_prefix_cons_reopen hc)
  | cons c s hc ih =>
    cases s' using resetInduction with
    | nil =>
      rw [reopen_cons_of_not_reset opening hc, List.cons_append] at h
      exact absurd ⟨t', h.symm⟩ (not_prefix_cons_reopen hc)
    | reset s' =>
      rw [reopen_reset, reopen_cons_of_not_reset opening hc, List.cons_append,
        List.append_assoc] at h
      exact absurd ⟨_, h.symm⟩ (not_prefix_cons_reopen hc)
    | cons d s' hd =>
      rw [reopen_cons_of_not_reset opening hc, reopen_cons_of_not_reset opening hd] at h
      obtain ⟨rfl, hbehind⟩ := List.cons.inj h
      obtain ⟨rfl, hrest⟩ := ih hbehind
      exact ⟨rfl, hrest⟩

/-- **A painted piece can be read off** in front of text that does not open its style again. -/
theorem Style.paint_append_inj {a : Style} (ha : a ≠ {}) (ht : ¬ a.opening <+: t)
    (ht' : ¬ a.opening <+: t') (h : a.paint s ++ t = a.paint s' ++ t') : s = s' ∧ t = t' := by
  rw [Style.paint, if_neg ha, Style.paint, if_neg ha] at h
  simp only [List.append_assoc] at h
  exact reopen_append_reset_inj ht ht' (List.append_cancel_left h)

end Terminal

/-! ## The shown path -/

namespace Path

/-- The last step of a path is the name of a file. -/
def NamesFile (p : Path) : Prop := ∃ name, p.components.getLast? = some (.name name)

variable {base p : Path}

/-- **A path that names a file** ends with the file's name wherever it is read from. -/
theorem NamesFile.components_join (hbase : base.isAbsolute = true) (hp : p.NamesFile) :
    ∃ front, (base.join p).components = .root :: front ++ [.name p.fileName] := by
  obtain ⟨name, hlast⟩ := hp
  have hname : p.fileName = name := by rw [fileName, hlast]
  -- the last component is a step of the text, since no head is a name
  have hsteps : ∃ front, steps p.text = front ++ [.name name] := by
    rw [components_eq, List.getLast?_append, Option.or_eq_some_iff] at hlast
    rcases hlast with hlast | ⟨-, hlast⟩
    · exact List.getLast?_eq_some_iff.1 hlast
    · unfold headComponents at hlast
      split at hlast <;> simp at hlast
  obtain ⟨front, hfront⟩ := hsteps
  rw [hname]
  cases habsolute : p.isAbsolute with
  | true =>
    refine ⟨front, ?_⟩
    rw [join_of_isAbsolute habsolute, components_of_isAbsolute habsolute, hfront,
      List.cons_append]
  | false =>
    refine ⟨steps base.text ++ front, ?_⟩
    rw [Path.components_join (text_ne_nil_of_isAbsolute hbase) habsolute,
      components_of_isAbsolute hbase, hfront, List.cons_append, List.cons_append,
      List.append_assoc]

end Path

namespace Window

open ErrorReport.Path Terminal

variable {base path : Path} {v : View} {l l' : Location}

/-- The path that a header shows: a directory, a slash, and a file name. -/
def shownPath (base path : Path) : Path :=
  ⟨(directoryFrom base path).text ++ separator :: path.fileName⟩

/-- The directory of a file is the way down to its parent if that lies below the current directory,
and the parent itself if not. -/
theorem directoryFrom_cases (hbase : base.isAbsolute = true) (hpath : path.NamesFile) :
    ∃ parent, (base.join path).parent? = some parent ∧ parent.isAbsolute = true ∧
      (base.join path).components = parent.components ++ [.name path.fileName] ∧
      (base.components <+: parent.components ∧ (directoryFrom base path).text ≠ [] ∧
          (directoryFrom base path).isAbsolute = false ∧
          parent.components = base.components ++ steps (directoryFrom base path).text ∨
        ¬ base.components <+: parent.components ∧ directoryFrom base path = parent) := by
  obtain ⟨front, hwhole⟩ := hpath.components_join hbase
  obtain ⟨parent, hparent, habsolute, hfront⟩ := exists_parent? (isAbsolute_join hbase path) hwhole
  refine ⟨parent, hparent, habsolute, by rw [hwhole, hfront], ?_⟩
  cases hbelow : parent.relativeTo? base with
  | some below =>
    left
    obtain ⟨hrelative, hsteps⟩ := components_of_relativeTo? habsolute hbase hbelow
    have hdirectory : directoryFrom base path = if below.text = [] then .here else below := by
      simp only [directoryFrom, hparent, Option.getD_some, hbelow]
    refine ⟨⟨_, hsteps.symm⟩, ?_⟩
    rw [hdirectory]
    split
    · next hnil =>
      -- the dot of the current directory is no step
      rw [hnil] at hsteps
      exact ⟨List.cons_ne_nil _ _, rfl, hsteps⟩
    · next hne => exact ⟨hne, hrelative, hsteps⟩
  | none =>
    right
    have hdirectory : directoryFrom base path = parent := by
      simp only [directoryFrom, hparent, Option.getD_some, hbelow]
    refine ⟨fun hstarts => ?_, hdirectory⟩
    have hbegins : parent.startsWith base = true := List.isPrefixOf_iff_prefix.2 hstarts
    rw [relativeTo?, if_pos hbegins] at hbelow
    cases hbelow

/-- **What is shown leads to the file.** Read from the current directory, the shown path has the
components of the path itself. -/
theorem components_join_shownPath (hbase : base.isAbsolute = true) (hpath : path.NamesFile) :
    (base.join (shownPath base path)).components = (base.join path).components := by
  obtain ⟨parent, -, hparent, hwhole, hdirectory⟩ := directoryFrom_cases hbase hpath
  have hname : steps path.fileName = [.name path.fileName] :=
    steps_name (p := base.join path) (by simp [hwhole])
  rcases hdirectory with ⟨-, hne, hrelative, hsteps⟩ | ⟨-, heq⟩
  · have hshown : (shownPath base path).isAbsolute = false := by
      rw [isAbsolute, shownPath, List.head?_append_of_ne_nil _ hne]
      exact hrelative
    rw [components_join (text_ne_nil_of_isAbsolute hbase) hshown, shownPath,
      steps_append_separator, hname, hwhole, hsteps, List.append_assoc]
  · have hne : parent.text ≠ [] := text_ne_nil_of_isAbsolute hparent
    have hshown : (shownPath base path).isAbsolute = true := by
      rw [isAbsolute, shownPath, heq, List.head?_append_of_ne_nil _ hne]
      exact hparent
    rw [join_of_isAbsolute hshown, shownPath, heq, components_append_separator hne, hname, hwhole]

/-! ## The text of a header -/

/-- A header without colours is the shown path and the line, with a colon between them. -/
theorem header_of_not_paints (h : v.theme.paints = false) :
    header v l =
      (shownPath v.directory l.path).text ++ ':' :: Text.ofNat l.line.toNat := by
  simp [header, Theme.paint, h, shownPath, Location.fileName, separator]

/-- The style of directories is not opened by a file name. -/
theorem fileName_opens_no_directory (name t : Text) :
    ¬ Style.directory.opening <+: Style.fileName.paint name ++ t := by
  intro h
  rw [Style.paint, if_neg (by decide), List.append_assoc, List.append_assoc] at h
  have hopening : Style.directory.opening <+: Style.fileName.opening :=
    List.prefix_of_prefix_length_le h (List.prefix_append _ _) (by decide)
  revert hopening
  decide

theorem colon_opens_no_fileName (t : Text) : ¬ Style.fileName.opening <+: ':' :: t := by
  intro h
  have hescape : Style.fileName.opening = Text.escape :: "[1;96m".toList := by decide
  rw [hescape] at h
  exact absurd (List.cons_prefix_cons.1 h).1 (by decide)

/-- **A header can be read back**, in every theme: it tells the shown path and the line. -/
theorem header_inj (h : header v l = header v l') :
    shownPath v.directory l.path = shownPath v.directory l'.path ∧ l.line = l'.line := by
  cases hpaints : v.theme.paints with
  | false =>
    rw [header_of_not_paints hpaints, header_of_not_paints hpaints] at h
    obtain ⟨hpath, hline⟩ := Text.append_cons_inj_of_notMem (Text.notMem_ofNat (by decide) _)
      (Text.notMem_ofNat (by decide) _) h
    exact ⟨congrArg Path.mk hpath, Text.ofNat_toNat_inj hline⟩
  | true =>
    simp only [header, Theme.paint, hpaints, if_true, List.append_assoc] at h
    -- the pieces are read off one after the other
    obtain ⟨hdirectory, hbehind⟩ := Style.paint_append_inj (by decide)
      (fileName_opens_no_directory _ _) (fileName_opens_no_directory _ _) h
    obtain ⟨hname, hcolon⟩ := Style.paint_append_inj (by decide)
      (colon_opens_no_fileName _) (colon_opens_no_fileName _) hbehind
    have hnumber : Style.lineNumber.paint (Text.ofNat l.line.toNat) ++ [] =
        Style.lineNumber.paint (Text.ofNat l'.line.toNat) ++ [] :=
      congrArg (· ++ []) (List.cons.inj hcolon).2
    obtain ⟨hline, -⟩ := Style.paint_append_inj (by decide) (by decide) (by decide) hnumber
    refine ⟨?_, Text.ofNat_toNat_inj hline⟩
    have hparts (path : Path) : shownPath v.directory path =
        ⟨((directoryFrom v.directory path).text ++ ['/']) ++ path.fileName⟩ := by
      simp [shownPath, separator]
    have hfile : l.path.fileName = l'.path.fileName := hname
    rw [hparts, hparts, hdirectory, hfile]

/-- **The header names the file.** From an absolute directory, for every path that names a file:
the shown path, read from the directory, has the components of the path itself. The directory in
it is relative exactly if the parent of the file lies below the current directory, and is that
parent otherwise. And two locations with one header are the same line of one file. -/
theorem header_names_file (hbase : v.directory.isAbsolute = true) (hpath : l.path.NamesFile) :
    (v.directory.join (shownPath v.directory l.path)).components =
        (v.directory.join l.path).components ∧
      (∃ parent, (v.directory.join l.path).parent? = some parent ∧
        (v.directory.join l.path).components = parent.components ++ [.name l.path.fileName] ∧
        ((directoryFrom v.directory l.path).isAbsolute = false ↔
          v.directory.components <+: parent.components) ∧
        (¬ v.directory.components <+: parent.components →
          directoryFrom v.directory l.path = parent ∧ parent.isAbsolute = true)) ∧
      ∀ l' : Location, l'.path.NamesFile → header v l = header v l' →
        (v.directory.join l.path).components = (v.directory.join l'.path).components ∧
          l.line = l'.line := by
  refine ⟨components_join_shownPath hbase hpath, ?_, ?_⟩
  · obtain ⟨parent, hparent, habsolute, hwhole, hdirectory⟩ := directoryFrom_cases hbase hpath
    refine ⟨parent, hparent, hwhole, ?_⟩
    rcases hdirectory with ⟨hstarts, -, hrelative, -⟩ | ⟨hnot, heq⟩
    · exact ⟨⟨fun _ => hstarts, fun _ => hrelative⟩, fun hnot => absurd hstarts hnot⟩
    · refine ⟨⟨fun hrelative => ?_, fun hstarts => absurd hstarts hnot⟩, fun _ => ⟨heq, habsolute⟩⟩
      rw [heq, habsolute] at hrelative
      cases hrelative
  · intro l' hpath' hheader
    obtain ⟨hshown, hline⟩ := header_inj hheader
    refine ⟨?_, hline⟩
    rw [← components_join_shownPath hbase hpath, ← components_join_shownPath hbase hpath', hshown]

/-- A file above the current directory is shown by the way there, and under another spelling of its
path just so: a step up lies below the directory it starts from. -/
theorem header_names_file_above :
    let v : View := ⟨{}, ⟨"/app//./".toList⟩, fun _ => none⟩
    let l : Location := { path := ⟨"../lib/./a.rb".toList⟩, line := 7 }
    let l' : Location := { path := ⟨"/app/../lib//a.rb/".toList⟩, line := 7 }
    shownPath v.directory l.path = ⟨"../lib/a.rb".toList⟩ ∧
      (v.directory.join (shownPath v.directory l.path)).components =
        (v.directory.join l.path).components ∧
      (v.directory.join l.path).components = (v.directory.join l'.path).components := by
  intro v l l'
  have hpath : l.path.NamesFile := ⟨"a.rb".toList, by decide⟩
  have hpath' : l'.path.NamesFile := ⟨"a.rb".toList, by decide⟩
  have hheader : header v l = header v l' := by decide
  obtain ⟨hshown, -, hsame⟩ := header_names_file (v := v) (by decide) hpath
  exact ⟨by decide, hshown, (hsame l' hpath' hheader).1⟩

end Window

end ErrorReport
