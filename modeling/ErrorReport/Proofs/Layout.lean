/-
# ErrorReport.Proofs.Layout — the shape of every report.

`headline`, `infoWindows` and `traceWindows` say what stands in a report in terms of the exception
alone: its class, its message and the locations of its frames. No heuristic occurs in them. With all
heuristics in the catalogue, the plain theme puts every report together from these parts
(`explain_layout`); the heuristics, which one fits and what it presents, are a detail of how the
report is made.
-/
import ErrorReport.Proofs.Explain
import ErrorReport.Proofs.Origin
import Mathlib.Data.List.Basic

namespace ErrorReport

open Text (newline)

namespace Layout

/-! ## The parts of a report -/

/-- A rule as the plain theme draws it. -/
def rule : Text := List.replicate 70 '=' ++ [newline]

/-- What a report says beside the class of an exception. Counts of arguments come first, whatever
the class; the other wordings count only in the class that uses them. -/
def headline (classname message : Text) : Text :=
  match Failure.arity? message with
  | some counts =>
    "Wrong number of arguments (expected ".toList ++ Text.ofNat counts.expected.toNat ++
      ", sent ".toList ++ Text.ofNat counts.received.toNat ++ [')']
  | none =>
    if classname = Failure.loadError then
      ((Failure.unloadable? message).map ("Couldn't load ".toList ++ ·)).getD message
    else if classname = Failure.syntaxError then
      ((Failure.brokenSource? message).map Prod.snd).getD message
    else message

/-- A window onto the lines from `first` to `last` around a location, in the file that its path
stands for in a project. -/
def windowOn (project : Project) (l : Location) (first last : Int64) (token message : Option Text) :
    Window where
  location := { l with path := project.resolve l.path }
  range := ⟨first, last⟩
  highlight := token
  message := message

/-- The window around the innermost frame, if there is one. -/
def innermostWindow (project : Project) (frames : List Location) (token : Text)
    (message : Option Text) : List Window :=
  frames.head?.toList.map fun l => windowOn project l (-5) 5 (some token) message

/-- The method that was running in the innermost frame. -/
def innermostMethod (frames : List Location) : Text :=
  (frames.head?.map Location.methodName).getD []

/-- The windows on a call with a wrong number of arguments: what was called, and from where. -/
def callWindows (project : Project) (counts : Failure.Arity) : List Location → List Window
  | [] => []
  | definition :: callers =>
    let method := some definition.methodName
    let expected := "EXPECTED ".toList ++ Text.ofNat counts.expected.toNat
    let sent := "SENT ".toList ++ Text.ofNat counts.received.toNat
    windowOn project definition 0 5 method (some expected) ::
      callers.head?.toList.map fun call => windowOn project call (-5) 5 method (some sent)

/-- The windows that explain an exception. -/
def infoWindows (project : Project) (classname message : Text) (frames : List Location) :
    List Window :=
  match Failure.arity? message with
  | some counts => callWindows project counts frames
  | none =>
    if classname = Failure.noMethodError then
      match Failure.undefinedMethod? message with
      | some name =>
        innermostWindow project frames name (some (name ++ " is undefined".toList))
      | none => innermostWindow project frames (innermostMethod frames) none
    else if classname = Failure.loadError then
      match Failure.unloadable? message with
      | some path =>
        innermostWindow project frames path (some (path ++ " could not be loaded".toList))
      | none => innermostWindow project frames [] none
    else if classname = Failure.syntaxError then
      match Failure.brokenSource? message with
      | some (l, reason) => [windowOn project l (-5) 5 none (some reason)]
      | none => innermostWindow project frames (innermostMethod frames) none
    else innermostWindow project frames (innermostMethod frames) none

/-- The window of one frame: its line, with the method called from it. Outside the project only the
path matters. -/
def traceWindow (project : Project) (called : Text) (l : Location) : Window :=
  { windowOn project l 0 0 (some called) none with
    emphasis := if project.contains l.path then .code else .path }

/-- The windows of all frames. The method called from a frame is that of the frame before it, and
nothing is called from the first. -/
def traceWindows (project : Project) (frames : List Location) : List Window :=
  List.zipWith (traceWindow project) ([] :: frames.map Location.methodName) frames

/-- Windows below each other. -/
def windowsText (v : View) (ws : List Window) : Text := (ws.map (Window.render v)).flatten

/-- The section with the windows that explain an exception, behind a rule. It is missing if there
are none. -/
def info (v : View) (ws : List Window) : Text :=
  if ws = [] then [] else rule ++ windowsText v ws

/-- The section with the frames, without its rule. -/
def trace (v : View) (project : Project) (frames : List Location) : Text :=
  if frames = [] then "No backtrace available".toList
  else windowsText v (traceWindows project frames)

/-- The report of an exception. -/
def report (v : View) (project : Project) (classname message : Text) (frames : List Location) :
    Text :=
  rule ++ (classname ++ " | ".toList ++ headline classname message ++ [newline]) ++
    info v (infoWindows project classname message frames) ++ (rule ++ trace v project frames)

/-! ## The backtrace -/

/-- The windows of a backtrace, when something is called from the first frame. -/
theorem frameWindows_eq (project : Project) (called : Text) (frames : List Location) :
    Diagnosis.frameWindows project called frames =
      List.zipWith (traceWindow project) (called :: frames.map Location.methodName) frames := by
  induction frames generalizing called with
  | nil => rfl
  | cons l frames ih =>
    rw [Diagnosis.frameWindows, ih, List.map_cons, List.zipWith_cons_cons]
    rfl

/-- Every window has a line of its own for its header. -/
theorem newline_mem_render (v : View) (w : Window) : newline ∈ w.render v := by
  unfold Window.render
  cases w.emphasis with
  | code => simp
  | path => simp

/-- **A backtrace says that it is not available** exactly if there are no frames. -/
theorem trace_eq_iff (v : View) (project : Project) (frames : List Location) :
    trace v project frames = "No backtrace available".toList ↔ frames = [] := by
  constructor
  · intro h
    by_contra hne
    obtain ⟨l, frames, rfl⟩ := List.exists_cons_of_ne_nil hne
    have hmem : newline ∈ trace v project (l :: frames) := by
      rw [trace, if_neg hne]
      exact List.mem_flatten.2 ⟨_, List.mem_cons_self .., newline_mem_render v _⟩
    rw [h] at hmem
    exact absurd hmem (by decide)
  · intro h
    rw [trace, if_pos h]

/-! ## Rendering in the plain theme -/

variable {v : View} (hplain : v.theme.name = .plain)

include hplain

theorem paint_eq (s : Terminal.Style) (t : Text) : v.theme.paint s t = t := by
  unfold Terminal.Theme.paint Terminal.Theme.paints
  rw [hplain]
  rfl

theorem rule_eq : v.theme.rule = rule := by
  rw [Terminal.Theme.rule, paint_eq hplain]
  rfl

/-- Windows side by side are rendered below each other, behind a rule. -/
theorem render_windows (ws : List Window) :
    (Node.wrap .heuristic (.seq (ws.map .code))).render v = rule ++ windowsText v ws := by
  show v.theme.rule ++ (Node.renderAll v (ws.map .code)).flatten = _
  rw [rule_eq hplain, Node.renderAll_eq_map, List.map_map]
  rfl

theorem render_raisedWindow (d : Diagnosis) (token : Text) (message : Option Text) :
    (d.raisedWindow token message).render v =
      info v (innermostWindow d.project d.failure.backtrace token message) := by
  unfold Diagnosis.raisedWindow Failure.raisedAt? innermostWindow
  cases d.failure.backtrace.head? with
  | none => rfl
  | some l =>
    show v.theme.rule ++ Window.render v _ = rule ++ ([Window.render v _]).flatten
    rw [rule_eq hplain, List.flatten_singleton]
    rfl

theorem render_callWindows (d : Diagnosis) :
    d.callWindows.render v = info v (callWindows d.project d.counts d.failure.backtrace) := by
  unfold Diagnosis.callWindows
  cases d.failure.backtrace with
  | nil => rfl
  | cons definition callers =>
    dsimp only
    rw [render_windows hplain]
    cases callers with
    | nil => rfl
    | cons call callers => rfl

theorem render_backtrace (d : Diagnosis) :
    d.backtrace.render v = rule ++ trace v d.project d.failure.backtrace := by
  have hframes : Diagnosis.frameWindows d.project [] d.failure.backtrace =
      traceWindows d.project d.failure.backtrace := frameWindows_eq d.project [] _
  unfold Diagnosis.backtrace
  rw [hframes, Node.render, rule_eq hplain, paint_eq hplain, Node.renderAll_eq_map, List.map_map]
  unfold trace
  cases hfailure : d.failure.backtrace with
  | nil => rfl
  | cons l frames => rfl

theorem render_summary (d : Diagnosis) :
    d.summary.render v =
      rule ++ (d.failure.classname ++ " | ".toList ++ d.headline.render v ++ [newline]) := by
  show v.theme.rule ++ (((v.theme.paint .rule " | ".toList).intercalate
    [v.theme.paint .classname d.failure.classname, d.headline.render v]) ++ [newline]) = _
  rw [rule_eq hplain, paint_eq hplain, paint_eq hplain]
  simp [List.intercalate]

/-- The explanation, with the counts of arguments behind it if that is what it is about. -/
theorem render_headline (d : Diagnosis) :
    d.headline.render v = d.explanation ++
      if d.heuristic = .wrongNumberOfArguments then ' ' :: Diagnosis.countsText d.counts
      else [] := by
  have hexplanation : (Node.wrap .explanation (.text d.explanation)).render v =
      d.explanation ++ [] := by
    rw [List.append_nil]
    exact paint_eq hplain _ _
  unfold Diagnosis.headline
  cases d.heuristic with
  | wrongNumberOfArguments =>
    show v.theme.paint .explanation ([d.explanation ++ [' '],
      v.theme.paint .details (Diagnosis.countsText d.counts)].flatten) = _
    rw [paint_eq hplain, paint_eq hplain]
    simp
  | noMethodError => exact hexplanation
  | loadError => exact hexplanation
  | syntaxError => exact hexplanation
  | exception => exact hexplanation

/-! ## Which heuristic presents a message -/

omit hplain

/-- The failure that is read out of a class, a message and frames. -/
def read (classname message : Text) (frames : List Location) : Failure where
  classname := classname
  explanation := Failure.explanationOf message (Failure.detailsOf classname message)
  backtrace := frames
  details := Failure.detailsOf classname message

/-- **The first heuristic that fits**, of all there are. -/
theorem firstMatch?_all (f : Failure) :
    Heuristic.firstMatch? Heuristic.all f = some (
      if f.counts?.isSome then .wrongNumberOfArguments
      else if f.classname = Failure.noMethodError then .noMethodError
      else if f.classname = Failure.loadError then .loadError
      else if f.brokenPlace?.isSome then .syntaxError
      else .exception) := by
  unfold Heuristic.firstMatch? Heuristic.all
  simp only [List.find?_cons, Heuristic.fits]
  cases f.counts?.isSome with
  | true => rfl
  | false =>
    by_cases hno : f.classname = Failure.noMethodError
    · simp [hno]
    · by_cases hload : f.classname = Failure.loadError
      · -- the two classes exclude each other, so the earlier heuristic does not fit
        have hne : Failure.loadError ≠ Failure.noMethodError := by decide
        simp [hload, hne]
      · cases f.brokenPlace?.isSome with
        | true => simp [hno, hload]
        | false => simp [hno, hload]

/-- The heuristic that presents a class and details, if all heuristics are tried. -/
def presenter (classname : Text) : Failure.Details → Heuristic
  | .arity _ => .wrongNumberOfArguments
  | details =>
    if classname = Failure.noMethodError then .noMethodError
    else if classname = Failure.loadError then .loadError
    else
      match details with
      | .brokenSource _ _ => .syntaxError
      | _ => .exception

/-- **Class and details decide** which heuristic presents a failure. -/
theorem presenter_of_details {classname message : Text} {frames : List Location}
    {details : Failure.Details} {h : Heuristic}
    (hdetails : Failure.detailsOf classname message = details)
    (hmatch : Heuristic.firstMatch? Heuristic.all (read classname message frames) = some h) :
    read classname message frames =
        ⟨classname, Failure.explanationOf message details, frames, details⟩ ∧
      h = presenter classname details := by
  have hread : read classname message frames =
      ⟨classname, Failure.explanationOf message details, frames, details⟩ := by
    unfold read
    rw [hdetails]
  rw [hread, firstMatch?_all] at hmatch
  refine ⟨hread, ?_⟩
  rw [← Option.some.inj hmatch]
  -- for each kind of details the heuristics look at nothing but the class
  cases details <;> rfl

/-! ## The report of a message -/

/-- The sections of a diagnosis that depend on the heuristic are those of a class and a message. -/
def Presents (v : View) (d : Diagnosis) (classname message : Text) : Prop :=
  d.headline.render v = headline classname message ∧
    d.windows.render v = info v (infoWindows d.project classname message d.failure.backtrace)

section

variable {classname message : Text} {frames : List Location} {h : Heuristic}
  (hmatch : Heuristic.firstMatch? Heuristic.all (read classname message frames) = some h)
  (project : Project)

include hplain hmatch

/-- A message about a number of arguments is presented as such, whatever the class. -/
theorem presents_of_arity {counts : Failure.Arity} (harity : Failure.arity? message = some counts) :
    Presents v ⟨h, read classname message frames, project⟩ classname message := by
  have hdetails : Failure.detailsOf classname message = .arity counts := by
    unfold Failure.detailsOf
    rw [harity]
    rfl
  obtain ⟨hread, rfl⟩ := presenter_of_details hdetails hmatch
  unfold Presents headline infoWindows
  rw [render_headline hplain, hread, harity]
  constructor
  · show "Wrong number of arguments".toList ++ (' ' :: Diagnosis.countsText counts) = _
    unfold Diagnosis.countsText
    simp
  · exact render_callWindows hplain _

variable (harity : Failure.arity? message = none)

include harity

theorem presents_of_noMethodError (hclass : classname = Failure.noMethodError) :
    Presents v ⟨h, read classname message frames, project⟩ classname message := by
  have hdetails : Failure.detailsOf classname message =
      (Failure.undefinedMethod? message).elim .generic .undefinedMethod := by
    unfold Failure.detailsOf Failure.classDetails
    rw [harity, if_pos hclass]
    rfl
  obtain ⟨hread, hh⟩ := presenter_of_details hdetails hmatch
  obtain rfl : h = .noMethodError := by
    cases hname : Failure.undefinedMethod? message <;> simpa [presenter, hname, hclass] using hh
  have hload : classname ≠ Failure.loadError := hclass ▸ by decide
  have hsource : classname ≠ Failure.syntaxError := hclass ▸ by decide
  unfold Presents headline infoWindows
  rw [render_headline hplain, hread, harity]
  simp only [if_pos hclass, if_neg hload, if_neg hsource]
  cases hname : Failure.undefinedMethod? message with
  | some name => exact ⟨List.append_nil _, render_raisedWindow hplain _ _ _⟩
  | none => exact ⟨List.append_nil _, render_raisedWindow hplain _ _ _⟩

theorem presents_of_loadError (hclass : classname = Failure.loadError) :
    Presents v ⟨h, read classname message frames, project⟩ classname message := by
  have hno : classname ≠ Failure.noMethodError := hclass ▸ by decide
  have hdetails : Failure.detailsOf classname message =
      (Failure.unloadable? message).elim .generic .unloadable := by
    unfold Failure.detailsOf Failure.classDetails
    rw [harity, if_neg hno, if_pos hclass]
    rfl
  obtain ⟨hread, hh⟩ := presenter_of_details hdetails hmatch
  obtain rfl : h = .loadError := by
    cases hpath : Failure.unloadable? message <;>
      simpa [presenter, hpath, if_pos hclass, if_neg hno] using hh
  unfold Presents headline infoWindows
  rw [render_headline hplain, hread, harity]
  simp only [if_pos hclass, if_neg hno]
  cases hpath : Failure.unloadable? message with
  | some path => exact ⟨List.append_nil _, render_raisedWindow hplain _ _ _⟩
  | none => exact ⟨List.append_nil _, render_raisedWindow hplain _ _ _⟩

/-- A message that gives nothing away, presented by the catchall. -/
theorem presents_of_generic (hno : classname ≠ Failure.noMethodError)
    (hload : classname ≠ Failure.loadError)
    (hsource : classname = Failure.syntaxError → Failure.brokenSource? message = none) :
    Presents v ⟨h, read classname message frames, project⟩ classname message := by
  have hdetails : Failure.detailsOf classname message = .generic := by
    unfold Failure.detailsOf Failure.classDetails
    rw [harity, if_neg hno, if_neg hload]
    by_cases hclass : classname = Failure.syntaxError
    · rw [if_pos hclass, hsource hclass]
      rfl
    · rw [if_neg hclass]
      rfl
  obtain ⟨hread, hh⟩ := presenter_of_details hdetails hmatch
  obtain rfl : h = .exception := by simpa [presenter, hno, hload] using hh
  unfold Presents headline infoWindows
  rw [render_headline hplain, hread, harity]
  simp only [if_neg hno, if_neg hload]
  by_cases hclass : classname = Failure.syntaxError
  · simp only [if_pos hclass, hsource hclass]
    exact ⟨List.append_nil _, render_raisedWindow hplain _ _ _⟩
  · simp only [if_neg hclass]
    exact ⟨List.append_nil _, render_raisedWindow hplain _ _ _⟩

theorem presents_of_brokenSource (hclass : classname = Failure.syntaxError) {l : Location}
    {reason : Text} (hplace : Failure.brokenSource? message = some (l, reason)) :
    Presents v ⟨h, read classname message frames, project⟩ classname message := by
  have hno : classname ≠ Failure.noMethodError := hclass ▸ by decide
  have hload : classname ≠ Failure.loadError := hclass ▸ by decide
  have hdetails : Failure.detailsOf classname message = .brokenSource l reason := by
    unfold Failure.detailsOf Failure.classDetails
    rw [harity, if_neg hno, if_neg hload, if_pos hclass, hplace]
    rfl
  obtain ⟨hread, hh⟩ := presenter_of_details hdetails hmatch
  obtain rfl : h = .syntaxError := by simpa [presenter, hno, hload] using hh
  unfold Presents headline infoWindows
  rw [render_headline hplain, hread, harity]
  simp only [if_neg hno, if_neg hload, if_pos hclass, hplace]
  refine ⟨List.append_nil _, ?_⟩
  show v.theme.rule ++ Window.render v _ = rule ++ [Window.render v _].flatten
  rw [rule_eq hplain, List.flatten_singleton]
  rfl

omit harity

/-- **Whatever the class and the message**, the heuristic presents what they say. -/
theorem presents_read :
    Presents v ⟨h, read classname message frames, project⟩ classname message := by
  cases harity : Failure.arity? message with
  | some counts => exact presents_of_arity hplain hmatch project harity
  | none =>
    by_cases hno : classname = Failure.noMethodError
    · exact presents_of_noMethodError hplain hmatch project harity hno
    · by_cases hload : classname = Failure.loadError
      · exact presents_of_loadError hplain hmatch project harity hload
      · by_cases hsource : classname = Failure.syntaxError
        · cases hplace : Failure.brokenSource? message with
          | none =>
            exact presents_of_generic hplain hmatch project harity hno hload fun _ => hplace
          | some place =>
            exact presents_of_brokenSource hplain hmatch project harity hsource hplace
        · exact presents_of_generic hplain hmatch project harity hno hload
            fun hclass => absurd hclass hsource

/-- **A report is put together** from what its message and its frames say. -/
theorem render_report :
    (Diagnosis.mk h (read classname message frames) project).report.render v =
      report v project classname message frames := by
  obtain ⟨hheadline, hwindows⟩ := presents_read hplain hmatch project
  show [(Diagnosis.mk h (read classname message frames) project).summary.render v,
    (Diagnosis.mk h (read classname message frames) project).windows.render v,
    (Diagnosis.mk h (read classname message frames) project).backtrace.render v].flatten = _
  rw [render_summary hplain, render_backtrace hplain, hheadline, hwindows]
  simp [report, read]

end

end Layout

namespace Config

/-- **The shape of every report.** With all heuristics in the catalogue and the plain theme, take
any exception that has a report. It has a message, and its frames are those of its own backtrace, if
it has one, and otherwise those of its callers; frames that cannot be read are left out. The report
is a rule, the class and the headline on one line, the section with the windows that explain the
exception, and another rule with the windows of the frames. These say that there is no backtrace
exactly if there are no frames. -/
theorem explain_layout {c : Config} {host : Host} {raised : Raised} {site : RaiseSite}
    {directory : Path} {report : Text} (hplain : c.theme.name = .plain)
    (hall : c.heuristics = Heuristic.all)
    (h : c.explain host raised site directory = .ok (some report)) :
    ∃ message raw, raised.message = some message ∧
      (raised.backtrace = some raw ∨ raised.backtrace = none ∧ site.callers = some raw) ∧
      let frames := raw.filterMap fun frame => (Location.parse frame).toOption
      let v : View := {
        theme := c.theme
        directory := Path.absoluteFrom host.workingDirectory directory
        files := host.files }
      report = Layout.rule ++
          (raised.classname ++ " | ".toList ++ Layout.headline raised.classname message ++
            [newline]) ++
          Layout.info v (Layout.infoWindows c.project raised.classname message frames) ++
          (Layout.rule ++ Layout.trace v c.project frames) ∧
        (Layout.trace v c.project frames = "No backtrace available".toList ↔ frames = []) := by
  obtain ⟨⟨heuristic, f, project⟩, hd, rfl⟩ := explain_eq_some.1 h
  obtain ⟨hread, -, hmatch, rfl⟩ := diagnose_eq_ok.1 hd
  obtain ⟨message, raw, hmessage, hframes, rfl⟩ := Failure.ofRaised_eq_ok.1 hread
  rw [hall] at hmatch
  exact ⟨message, raw, hmessage, Failure.frames?_eq_some.1 hframes,
    Layout.render_report hplain hmatch c.project, Layout.trace_eq_iff _ _ _⟩

/-- A wrong number of arguments, with one frame that can be read and one that cannot. -/
theorem explain_layout_arity :
    let v : View := {
      theme := { name := .plain }
      directory := Path.absoluteFrom ⟨"/app".toList⟩ ⟨[]⟩
      files := fun _ => none }
    let message := "wrong number of arguments (1 for 0)".toList
    let frames : List Location := [⟨⟨"b.rb".toList⟩, 9, "n".toList⟩]
    Layout.rule ++ "E | Wrong number of arguments (expected 0, sent 1)\n".toList ++ Layout.rule ++
        "./b.rb:9\nCan't find code\n".toList ++ Layout.rule ++
        "./b.rb:9\nCan't find code\n".toList =
      Layout.rule ++ ("E | ".toList ++ Layout.headline "E".toList message ++ [newline]) ++
        Layout.info v (Layout.infoWindows {} "E".toList message frames) ++
        (Layout.rule ++ Layout.trace v {} frames) := by
  intro v message frames
  have hexplain : { theme := { name := .plain } : Config }.explain
      ⟨⟨"/app".toList⟩, fun _ => none⟩
      ⟨"E".toList, some message, some ["?".toList, "b.rb:9:in 'n'".toList]⟩ {} ⟨[]⟩ =
        .ok (some (Layout.rule ++ "E | Wrong number of arguments (expected 0, sent 1)\n".toList ++
          Layout.rule ++ "./b.rb:9\nCan't find code\n".toList ++ Layout.rule ++
          "./b.rb:9\nCan't find code\n".toList)) := by decide +kernel
  obtain ⟨_, raw, hmessage, hraw, hreport, -⟩ := explain_layout rfl rfl hexplain
  obtain rfl := Option.some.inj hmessage
  rcases hraw with hown | ⟨hnone, -⟩
  · obtain rfl := Option.some.inj hown
    exact hreport
  · cases hnone

end Config

end ErrorReport
