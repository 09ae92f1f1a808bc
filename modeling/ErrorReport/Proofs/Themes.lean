/-
# ErrorReport.Proofs.Themes — both themes print the same text.

The ansi theme writes what the plain theme writes, with escape sequences in between. The proof
follows the report: each part shows the same in both themes (`ErrorReport.Proofs.Shows`) if its own
parts do. Windows carry the argument. Their rows are cut, coloured, numbered, annotated and searched
separately in the two themes, and where only the path matters the block has to be made of finished
lines before it is moved to the right, which is why the token must stay within its line there.
-/
import ErrorReport.Proofs.Explain
import ErrorReport.Proofs.Request
import ErrorReport.Proofs.Rows
import ErrorReport.Proofs.Shows

namespace ErrorReport

open Text (escape newline)
open Terminal (Theme Shows strip)

/-- A view in the plain theme. -/
def View.plain (v : View) : View := { v with theme := { name := .plain } }

namespace Window

/-! ## Windows -/

/-- Nothing that a window shows holds the escape character. -/
structure EscapeFree (files : Files) (w : Window) : Prop where
  path : escape ∉ w.location.path.text
  token : escape ∉ w.token
  message : ∀ message ∈ w.message, escape ∉ message
  source : ∀ octets ∈ files w.location.path, escape ∉ Text.Utf8.decode octets

variable {θ : Theme} {v : View} {w : Window}

theorem shows_header {l : Location} (hdirectory : escape ∉ v.directory.text)
    (hpath : escape ∉ l.path.text) : Shows v.theme (header v l) (header v.plain l) := by
  have hfrom : escape ∉ (directoryFrom v.directory l.path).text ++ ['/'] :=
    List.not_mem_append (notMem_directoryFrom (by decide) (by decide) hdirectory hpath) (by decide)
  have hname : escape ∉ l.fileName := Path.notMem_fileName (by decide) (by decide) hpath
  have hnumber : escape ∉ Text.ofNat l.line.toNat := Text.notMem_ofNat (by decide) _
  have hfront := ((Shows.refl hfrom).paint .directory).append
    ((Shows.refl hname).paint (θ := v.theme) .fileName)
  exact hfront.append (((Shows.refl hnumber).paint .lineNumber).cons (by decide))

/-! ## Blocks -/

/-- The rows of a window as the plain theme writes them, with the message of the window. -/
def plainRows (w : Window) (lines : List Text) : List Text :=
  let rows := (w.shown lines).map fun (n, line) => w.plainRow (w.width lines) n line
  match w.target? with
  | some target => rows.modify target (· ++ w.plainNote)
  | none => rows

/-- **The rows of a window** are shown as its plain rows. -/
theorem shows_annotate {lines : List Text} (hlines : ∀ line ∈ lines, escape ∉ line)
    (hmessage : ∀ message ∈ w.message, escape ∉ message) :
    List.Forall₂ (Shows θ) (w.annotate θ (w.rows θ lines)) (w.plainRows lines) := by
  have hrows : List.Forall₂ (Shows θ) (w.rows θ lines)
      ((w.shown lines).map fun (n, line) => w.plainRow (w.width lines) n line) := by
    rw [rows_eq, List.forall₂_map_left_iff, List.forall₂_map_right_iff, List.forall₂_same]
    rintro ⟨n, line⟩ hshown
    obtain ⟨source, hsource, hsub⟩ := exists_of_mem_shown hshown
    exact shows_row θ w _ n fun hmem => hlines source hsource (hsub hmem)
  unfold plainRows
  simp only [annotate_eq]
  cases w.target? with
  | none => exact hrows
  | some target => exact Shows.modify target (fun _ _ => shows_noted hmessage) hrows

theorem shows_pointOut {a p : Text} (htoken : escape ∉ w.token) (h : Shows θ a p) :
    Shows θ (w.pointOut θ a) p := by
  unfold pointOut
  cases w.target? with
  | none => exact h
  | some target => exact h.highlight target htoken

/-- **A block is shown as the plain block.** -/
theorem shows_block (hw : w.EscapeFree v.files) :
    Shows v.theme (w.block v) (w.block v.plain) := by
  have hfiles : v.plain.files = v.files := rfl
  unfold block
  rw [hfiles]
  cases hfile : v.files w.location.path with
  | none => exact Shows.refl (show escape ∉ placeholder by decide)
  | some octets =>
    have hlines : ∀ line ∈ sourceLines octets, escape ∉ line := by
      intro line hline hmem
      exact hw.source octets hfile (subset_of_mem_sourceLines hline hmem)
    exact Shows.of_forall (fun θ => shows_pointOut hw.token
      (Shows.unlines (shows_annotate (θ := θ) hlines hw.message))) v.theme

/-- If its token stays within one line, the block of a window is made of finished lines. -/
theorem isBlock_block (htoken : newline ∉ w.token) : Text.IsBlock (w.block v) := by
  unfold block
  cases v.files w.location.path with
  | none => exact Text.isBlock_append_newline "Can't find code".toList
  | some octets =>
    show Text.IsBlock (w.pointOut v.theme _)
    unfold pointOut
    cases w.target? with
    | none => exact Text.isBlock_unlines _
    | some target => exact Theme.isBlock_highlight target htoken (Text.isBlock_unlines _)

/-- **A window is shown as the plain window.** -/
theorem shows_render (hdirectory : escape ∉ v.directory.text) (hw : w.EscapeFree v.files)
    (htoken : w.emphasis = .path → newline ∉ w.token) :
    Shows v.theme (w.render v) (w.render v.plain) := by
  have hheader := shows_header hdirectory hw.path
  have hblock := shows_block hw
  unfold render
  cases hemphasis : w.emphasis with
  | code => exact hheader.append (hblock.cons (by decide))
  | path =>
    have hindented := hblock.indented (show escape ∉ margin by decide)
      (isBlock_block (htoken hemphasis))
    have hpointed := shows_pointOut hw.token hindented.faded
    have hplain : ∀ a, w.pointOut v.plain.theme a = a := by
      intro a
      unfold pointOut
      cases w.target? with
      | none => rfl
      | some target => rfl
    show Shows v.theme (v.theme.paint .header _ ++ newline :: _)
      (header v.plain w.location ++ newline :: w.pointOut v.plain.theme _)
    rw [hplain]
    exact (hheader.paint .header).append (hpointed.cons (by decide))

end Window

/-! ## Trees -/

theorem Terminal.shows_rule (θ : Theme) : Shows θ θ.rule ({ name := .plain } : Theme).rule := by
  have hline : escape ∉ List.replicate Theme.ruleWidth '=' := by decide
  exact ((Shows.refl hline).paint .rule).append (Shows.refl (by decide))

theorem Wrapper.shows_apply {θ : Theme} {a p : Text} (wrapper : Wrapper) (h : Shows θ a p) :
    Shows θ (wrapper.apply θ a) (wrapper.apply { name := .plain } p) := by
  cases wrapper with
  | summary => exact (Terminal.shows_rule θ).append h
  | heuristic => exact (Terminal.shows_rule θ).append h
  | classname => exact h.paint _
  | message => exact h.paint _
  | explanation => exact h.paint _
  | context => exact h.paint _
  | details => exact h.paint _

namespace Node

variable {v : View} {node : Node}

/-- Nothing in a tree holds the escape character. -/
structure EscapeFree (files : Files) (node : Node) : Prop where
  texts : ∀ t ∈ node.texts, escape ∉ t
  windows : ∀ w ∈ node.windows, w.EscapeFree files

/-- **A tree is shown as the plain tree** if its windows are. -/
theorem shows_render (htexts : ∀ t ∈ node.texts, escape ∉ t)
    (hwindows : ∀ w ∈ node.windows, Shows v.theme (w.render v) (w.render v.plain)) :
    Shows v.theme (node.render v) (node.render v.plain) := by
  -- what the induction gives for the parts of a node
  have hall : ∀ {parts : List Node},
      (∀ part ∈ parts, (∀ t ∈ part.texts, escape ∉ t) →
        (∀ w ∈ part.windows, Shows v.theme (w.render v) (w.render v.plain)) →
        Shows v.theme (part.render v) (part.render v.plain)) →
      (∀ t ∈ textsAll parts, escape ∉ t) →
      (∀ w ∈ windowsAll parts, Shows v.theme (w.render v) (w.render v.plain)) →
      List.Forall₂ (Shows v.theme) (renderAll v parts) (renderAll v.plain parts) := by
    intro parts ih htexts hwindows
    rw [renderAll_eq_map, renderAll_eq_map, List.forall₂_map_left_iff, List.forall₂_map_right_iff,
      List.forall₂_same]
    intro part hpart
    apply ih part hpart
    · exact fun t ht => htexts t (mem_textsAll.2 ⟨part, hpart, ht⟩)
    · exact fun w hw => hwindows w (mem_windowsAll.2 ⟨part, hpart, hw⟩)
  induction node using treeInduction with
  | text t => exact Shows.refl (htexts t (List.mem_singleton_self t))
  | seq parts ih => exact Shows.flatten (hall ih htexts hwindows)
  | wrap wrapper content ih => exact wrapper.shows_apply (ih htexts hwindows)
  | backtrace frames ih =>
    apply (Terminal.shows_rule v.theme).append
    split
    · exact (Shows.refl (by decide)).paint _
    · exact Shows.flatten (hall ih htexts hwindows)
  | separator => exact Terminal.shows_rule v.theme
  | columns cells ih =>
    have hdivider : Shows v.theme (v.theme.paint .rule " | ".toList) " | ".toList :=
      (Shows.refl (by decide)).paint _
    exact (hdivider.intercalate (hall ih htexts hwindows)).append (Shows.refl (by decide))
  | code window => exact hwindows window (List.mem_singleton_self window)
  | null => exact Shows.refl List.not_mem_nil

end Node

/-! ## Reports -/

/-- What is printed differs between the themes only by escape sequences: without them the ansi theme
prints what the plain theme prints, which has none, and with colours off it prints just that. -/
structure Terminal.ThemesAgree (printed : Theme → Text) : Prop where
  strip_ansi : strip (printed { name := .ansi }) = printed { name := .plain }
  clean : escape ∉ printed { name := .plain }
  colours_off : printed { name := .ansi, colours := false } = printed { name := .plain }

/-- What every theme shows as the plain theme does differs only by escape sequences. -/
theorem Terminal.themesAgree_of_shows {printed : Theme → Text}
    (h : ∀ θ, Shows θ (printed θ) (printed { name := .plain })) : ThemesAgree printed where
  strip_ansi := (h { name := .ansi }).strip_eq
  clean := (h { name := .plain }).clean
  colours_off := (h { name := .ansi, colours := false }).eq_of_not_paints rfl

/-- **A tree prints the same text in both themes.** -/
theorem Node.themesAgree_render {files : Files} {directory : Path} {node : Node}
    (hdirectory : escape ∉ directory.text) (hnode : node.EscapeFree files)
    (htokens : ∀ w ∈ node.windows, w.emphasis = .path → newline ∉ w.token) :
    Terminal.ThemesAgree fun θ => node.render { theme := θ, directory, files } := by
  apply Terminal.themesAgree_of_shows
  intro θ
  exact shows_render hnode.texts fun w hw =>
    Window.shows_render (v := { theme := θ, directory, files }) hdirectory (hnode.windows w hw)
      (htokens w hw)

/-- The report of a diagnosis holds no escape character if nothing it is made from does. -/
theorem Diagnosis.escapeFree_report {d : Diagnosis} {files : Files} (hloc : d.failure.Located)
    (hf : d.failure.EscapeFree) (hproject : d.project.EscapeFree)
    (hfiles : ∀ w ∈ d.report.windows, ∀ octets ∈ files w.location.path,
      escape ∉ Text.Utf8.decode octets) : d.report.EscapeFree files where
  texts := escape_notMem_texts hf
  windows w hw :=
    have hasks := asks_of_mem_report hw
    { path := hasks.escape_notMem_path hf hproject
      token := hasks.escape_notMem_token hloc hf
      message := hasks.escape_notMem_message hf
      source := hfiles w hw }

/-- **Both themes print the same text.** Take any tree in which nothing holds the escape character
and, where only the path matters, no token holds a newline: what the ansi theme prints differs from
what the plain theme prints only by escape sequences. The same is true of the report of every
exception, with any configuration; there the tokens need no condition, since what was read from a
frame has no newlines. -/
theorem Terminal.themes_print_same_text :
    (∀ (files : Files) (directory : Path) (node : Node), escape ∉ directory.text →
      node.EscapeFree files →
      (∀ w ∈ node.windows, w.emphasis = .path → newline ∉ w.token) →
      ThemesAgree fun θ => node.render { theme := θ, directory, files }) ∧
    (∀ (c : Config) (host : Host) (raised : Raised) (site : RaiseSite) (directory : Path),
      raised.EscapeFree → site.EscapeFree → c.project.EscapeFree →
      escape ∉ host.workingDirectory.text → escape ∉ directory.text →
      (∀ d, c.diagnose raised site = .ok d → ∀ w ∈ d.report.windows,
        ∀ octets ∈ host.files w.location.path, escape ∉ Text.Utf8.decode octets) →
      (∀ θ, { c with theme := θ }.explain host raised site directory = .ok none) ∨
      ∃ report : Theme → Text,
        (∀ θ, { c with theme := θ }.explain host raised site directory =
          .ok (some (report θ))) ∧
        ThemesAgree report) := by
  constructor
  · intro files directory node hdirectory hnode htokens
    exact Node.themesAgree_render hdirectory hnode htokens
  · intro c host raised site directory hraised hsite hproject hworking hdirectory hfiles
    -- the theme has no part in the diagnosis
    have hexplain : ∀ θ, { c with theme := θ }.explain host raised site directory =
        .ok ((c.diagnose raised site).toOption.map
          ({ c with theme := θ }.format host directory)) := by
      intro θ
      exact Config.explain_eq host directory
    cases hd : c.diagnose raised site with
    | error e =>
      left
      intro θ
      rw [hexplain, hd]
      rfl
    | ok d =>
      right
      refine ⟨fun θ => { c with theme := θ }.format host directory d, ?_, ?_⟩
      · intro θ
        rw [hexplain, hd]
        rfl
      · obtain ⟨hread, -, -, hsame⟩ := Config.diagnose_eq_ok.1 hd
        have hloc := Failure.ofRaised_located hread
        have hf := Failure.ofRaised_escapeFree hraised hsite hread
        have hfrom : escape ∉ (Path.absoluteFrom host.workingDirectory directory).text :=
          Path.notMem_absoluteFrom (by decide) (by decide) hworking hdirectory
        have hreport : d.report.EscapeFree host.files :=
          Diagnosis.escapeFree_report hloc hf (hsame ▸ hproject) (hfiles d hd)
        exact Node.themesAgree_render hfrom hreport fun w hw =>
          (Diagnosis.asks_of_mem_report hw).newline_notMem_token_of_path hloc

/-- A window on a call, underlined and moved to the right, and the report of an exception raised
there. -/
theorem Terminal.themes_print_same_text_call :
    (ThemesAgree fun θ => Node.render {
        theme := θ
        directory := ⟨"/app".toList⟩
        files := fun _ => some [109, 10] } (.code {
          location := ⟨⟨"b.rb".toList⟩, 1, "m".toList⟩
          range := ⟨0, 0⟩
          emphasis := .path })) ∧
      ∃ report : Theme → Text,
        (∀ θ, { ({} : Config) with theme := θ }.explain
            { workingDirectory := ⟨"/app".toList⟩, files := fun _ => some [109, 10] }
            ⟨"E".toList, some "boom".toList, some ["b.rb:1:in 'm'".toList]⟩ {} ⟨[]⟩ =
          .ok (some (report θ))) ∧
        ThemesAgree report := by
  have hsource : ∀ octets ∈ some [109, 10], escape ∉ Text.Utf8.decode octets := by
    rintro _ ⟨⟩
    decide
  constructor
  · refine themes_print_same_text.1 _ _ _ (by decide) ⟨by simp [Node.texts], ?_⟩ ?_
    · intro w hw
      obtain rfl := List.mem_singleton.1 hw
      exact ⟨by decide, by decide, by simp, hsource⟩
    · intro w hw _
      obtain rfl := List.mem_singleton.1 hw
      decide
  · have haccepts : ({} : Config).accepts
        ⟨"E".toList, some "boom".toList, some ["b.rb:1:in 'm'".toList]⟩ {} = true := by rfl
    have hagree := themes_print_same_text.2 {}
      { workingDirectory := ⟨"/app".toList⟩, files := fun _ => some [109, 10] }
      ⟨"E".toList, some "boom".toList, some ["b.rb:1:in 'm'".toList]⟩ {} ⟨[]⟩
      ⟨by decide, by decide, by decide⟩ (fun _ h => by cases h)
      ⟨fun _ h => (by cases h), by simp [PathSet.empty]⟩ (by decide) (by decide)
      fun _ _ _ _ => hsource
    rcases hagree with hnone | hsome
    · -- the exception is accepted, so there is a report
      obtain ⟨f, h, hf, hlisted, hmatch⟩ := Config.accepts_eq_true.1 haccepts
      have hd := Config.diagnose_of_firstMatch? hf hlisted hmatch
      cases (hnone {}).symm.trans (Config.explain_eq_some.2 ⟨_, hd, rfl⟩)
    · exact hsome

end ErrorReport
