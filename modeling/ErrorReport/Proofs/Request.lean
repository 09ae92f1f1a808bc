/-
# ErrorReport.Proofs.Request — the windows that a report asks for.

Whatever the heuristic, a report shows three kinds of windows: one line for a frame, the code around
a frame, and the code around the place that a message names. `Asks` lists them,
`asks_of_mem_windows` says that there are no others, and what all windows of all reports have in
common is read off the three kinds: they are marked, their range holds their own line, that line is
counted from one, and the token they look for stays within one line.
-/
import ErrorReport.Heuristic
import ErrorReport.Proofs.Origin
import ErrorReport.Proofs.Path
import ErrorReport.Proofs.Tree

namespace ErrorReport

open Text (escape newline)

namespace Diagnosis

/-! ## Kinds of windows -/

/-- A token is the method that was running in some frame, or empty. -/
def IsMethod (f : Failure) (token : Text) : Prop :=
  token = [] ∨ ∃ l ∈ f.backtrace, token = l.methodName

/-- What a window at a frame looks for, and what it says there. -/
inductive Remark (f : Failure) : Text → Option Text → Prop
  | silent {token : Text} (htoken : IsMethod f token) : Remark f token none
  | expected {token : Text} (htoken : IsMethod f token) (n : Nat) :
      Remark f token (some ("EXPECTED ".toList ++ Text.ofNat n))
  | sent {token : Text} (htoken : IsMethod f token) (n : Nat) :
      Remark f token (some ("SENT ".toList ++ Text.ofNat n))
  | undefinedMethod {name : Text} (hname : f.undefinedMethodName? = some name) :
      Remark f name (some (name ++ " is undefined".toList))
  | unloadable {path : Text} (hpath : f.unloadablePath? = some path) :
      Remark f path (some (path ++ " could not be loaded".toList))

/-- The windows that a diagnosis can ask for. -/
inductive Asks (d : Diagnosis) : Window → Prop
  /-- The line of a frame, where the method called from it is pointed out. -/
  | frame {l : Location} {called : Text} (hl : l ∈ d.failure.backtrace)
      (hcalled : IsMethod d.failure called) : Asks d (frameWindow d.project called l)
  /-- The code around a frame. -/
  | place {l : Location} {range : LineRange} {token : Text} {message : Option Text}
      (hl : l ∈ d.failure.backtrace) (hrange : range = around ∨ range = downward)
      (hremark : Remark d.failure token message) :
      Asks d { windowAt d.project l range with highlight := some token, message }
  /-- The code around the place that the message names. -/
  | broken {l : Location} {reason : Text} (hplace : d.failure.brokenPlace? = some (l, reason)) :
      Asks d { windowAt d.project l around with message := some reason }

variable {d : Diagnosis} {w : Window}

/-! ## There are no others -/

theorem asks_of_mem_frameWindows {called : Text} {ls : List Location}
    (hls : ls ⊆ d.failure.backtrace) (hcalled : IsMethod d.failure called)
    (h : w ∈ frameWindows d.project called ls) : d.Asks w := by
  induction ls generalizing called with
  | nil => cases h
  | cons l ls ih =>
    obtain ⟨hl, hls⟩ := List.cons_subset.1 hls
    rcases List.mem_cons.1 h with rfl | h
    · exact .frame hl hcalled
    · exact ih hls (.inr ⟨l, hl, rfl⟩) h

/-- The method that raised the exception runs in the innermost frame. -/
theorem isMethod_raisedMethod (d : Diagnosis) : IsMethod d.failure d.raisedMethod := by
  unfold raisedMethod Failure.raisedAt?
  cases h : d.failure.backtrace.head? with
  | none => exact .inl rfl
  | some l => exact .inr ⟨l, List.mem_of_mem_head? h, rfl⟩

theorem asks_of_mem_raisedWindow {token : Text} {message : Option Text}
    (hremark : Remark d.failure token message)
    (h : w ∈ (d.raisedWindow token message).windows) : d.Asks w := by
  unfold raisedWindow Failure.raisedAt? at h
  split at h
  · next l hl =>
    obtain rfl := List.mem_singleton.1 h
    exact .place (List.mem_of_mem_head? hl) (.inl rfl) hremark
  · cases h

theorem asks_of_mem_callWindows (h : w ∈ d.callWindows.windows) : d.Asks w := by
  unfold callWindows at h
  split at h
  · cases h
  · next definition callers hbacktrace =>
    have hmethod : IsMethod d.failure definition.methodName :=
      .inr ⟨definition, by simp [hbacktrace], rfl⟩
    simp only [Node.windows, Node.windowsAll_map_code, List.mem_cons, Option.mem_toList,
      Option.map_eq_some_iff] at h
    rcases h with rfl | ⟨call, hcall, rfl⟩
    · exact .place (by simp [hbacktrace]) (.inr rfl) (.expected hmethod _)
    · refine .place ?_ (.inl rfl) (.sent hmethod _)
      rw [hbacktrace]
      exact List.mem_cons_of_mem _ (List.mem_of_mem_head? hcall)

/-- **The windows of a report** are of the three kinds. -/
theorem asks_of_mem_windows (h : w ∈ d.windows.windows ∨ w ∈ d.backtrace.windows) : d.Asks w := by
  rcases h with h | h
  · unfold windows at h
    split at h
    · exact asks_of_mem_callWindows h
    · split at h
      · next name hname => exact asks_of_mem_raisedWindow (.undefinedMethod hname) h
      · exact asks_of_mem_raisedWindow (.silent (isMethod_raisedMethod d)) h
    · split at h
      · next path hpath => exact asks_of_mem_raisedWindow (.unloadable hpath) h
      · exact asks_of_mem_raisedWindow (.silent (.inl rfl)) h
    · split at h
      · next l reason hplace =>
        obtain rfl := List.mem_singleton.1 h
        exact .broken hplace
      · cases h
    · exact asks_of_mem_raisedWindow (.silent (isMethod_raisedMethod d)) h
  · rw [backtrace, Node.windows, Node.windowsAll_map_code] at h
    exact asks_of_mem_frameWindows (List.Subset.refl _) (.inl rfl) h

/-- A report has no windows but those of its last two sections. -/
theorem asks_of_mem_report (h : w ∈ d.report.windows) : d.Asks w := by
  have hsummary : d.summary.windows = [] := by
    unfold summary headline
    split
    · rfl
    · rfl
  simp only [report, Node.windows, Node.windowsAll, hsummary, List.nil_append, List.append_nil,
    List.mem_append] at h
  exact asks_of_mem_windows h

/-! ## What all windows have in common -/

theorem Asks.mark_eq_true (h : d.Asks w) : w.mark = true := by
  cases h with
  | frame => rfl
  | place => rfl
  | broken => rfl

/-- **The range of a window holds its own line.** -/
theorem Asks.range_bounds (h : d.Asks w) : w.range.first ≤ 0 ∧ 0 ≤ w.range.last := by
  have haround : around.first ≤ 0 ∧ 0 ≤ around.last := by decide
  have hdownward : downward.first ≤ 0 ∧ 0 ≤ downward.last := by decide
  have honlyLine : onlyLine.first ≤ 0 ∧ 0 ≤ onlyLine.last := by decide
  cases h with
  | frame => exact honlyLine
  | place _ hrange =>
    rcases hrange with rfl | rfl
    · exact haround
    · exact hdownward
  | broken => exact haround

/-- **The line of a window is counted from one.** -/
theorem Asks.line_ne_zero (hf : d.failure.Located) (h : d.Asks w) : w.location.line ≠ 0 := by
  cases h with
  | @frame l _ hl => exact hf.line l hl
  | @place l _ _ _ hl => exact hf.line l hl
  | @broken l reason hplace => exact hf.brokenLine l reason hplace

theorem IsMethod.notMem {f : Failure} {token : Text} {c : Char} (h : IsMethod f token)
    (hlabels : ∀ l ∈ f.backtrace, c ∉ l.label) : c ∉ token := by
  rcases h with rfl | ⟨l, hl, rfl⟩
  · exact List.not_mem_nil
  · exact fun hmem => hlabels l hl (l.methodName_subset hmem)

/-- **The token of a window stays within one line** if its message does. -/
theorem Asks.newline_notMem_token (hf : d.failure.Located) (h : d.Asks w)
    (hmessage : ∀ message ∈ w.message, newline ∉ message) : newline ∉ w.token := by
  cases h with
  | frame _ hcalled => exact hcalled.notMem hf.label
  | place _ _ hremark =>
    cases hremark with
    | silent htoken => exact htoken.notMem hf.label
    | expected htoken => exact htoken.notMem hf.label
    | sent htoken => exact htoken.notMem hf.label
    | undefinedMethod hname =>
      intro hmem
      exact hmessage _ rfl (List.mem_append_left _ hmem)
    | unloadable hpath => exact hf.unloadable _ hpath
  | @broken l reason hplace =>
    show newline ∉ l.label
    rw [hf.brokenLabel l reason hplace]
    exact List.not_mem_nil

/-- Where only the path matters, the token is the method called from a frame. -/
theorem Asks.newline_notMem_token_of_path (hf : d.failure.Located) (h : d.Asks w)
    (hpath : w.emphasis = .path) : newline ∉ w.token := by
  cases h with
  | frame _ hcalled => exact hcalled.notMem hf.label
  | place => cases hpath
  | broken => cases hpath

/-! ## Escape characters -/

/-- A remark is made of numbers, fixed words and what the failure tells. -/
theorem Remark.escape_notMem {f : Failure} {token : Text} {message : Option Text}
    (hf : f.EscapeFree) (h : Remark f token message) :
    escape ∉ token ∧ ∀ t ∈ message, escape ∉ t := by
  have hnumber : ∀ n, escape ∉ Text.ofNat n := Text.notMem_ofNat (by decide)
  cases h with
  | silent htoken =>
    exact ⟨htoken.notMem hf.label, by simp⟩
  | expected htoken n =>
    refine ⟨htoken.notMem hf.label, ?_⟩
    rintro _ ⟨⟩
    exact List.not_mem_append (by decide) (hnumber n)
  | sent htoken n =>
    refine ⟨htoken.notMem hf.label, ?_⟩
    rintro _ ⟨⟩
    exact List.not_mem_append (by decide) (hnumber n)
  | undefinedMethod hname =>
    have := hf.undefinedMethod _ hname
    refine ⟨this, ?_⟩
    rintro _ ⟨⟩
    exact List.not_mem_append this (by decide)
  | unloadable hpath =>
    have := hf.unloadable _ hpath
    refine ⟨this, ?_⟩
    rintro _ ⟨⟩
    exact List.not_mem_append this (by decide)

theorem Asks.escape_notMem_token (hloc : d.failure.Located) (hf : d.failure.EscapeFree)
    (h : d.Asks w) : escape ∉ w.token := by
  cases h with
  | frame _ hcalled => exact hcalled.notMem hf.label
  | place _ _ hremark => exact (hremark.escape_notMem hf).1
  | @broken l reason hplace =>
    show escape ∉ l.label
    rw [hloc.brokenLabel l reason hplace]
    exact List.not_mem_nil

theorem Asks.escape_notMem_message (hf : d.failure.EscapeFree) (h : d.Asks w) :
    ∀ message ∈ w.message, escape ∉ message := by
  cases h with
  | frame =>
    rintro _ ⟨⟩
  | place _ _ hremark => exact (hremark.escape_notMem hf).2
  | broken hplace =>
    rintro _ ⟨⟩
    exact hf.brokenReason _ _ hplace

end Diagnosis

/-- No path of a project holds the escape character. -/
structure Project.EscapeFree (project : Project) : Prop where
  root : ∀ root ∈ project.root, escape ∉ root.text
  loadedFiles : ∀ file ∈ project.loadedFiles.toList, escape ∉ file.text

namespace Diagnosis

variable {d : Diagnosis} {w : Window}

theorem Asks.escape_notMem_path (hf : d.failure.EscapeFree) (hproject : d.project.EscapeFree)
    (h : d.Asks w) : escape ∉ w.location.path.text := by
  have hresolve : ∀ path : Path, escape ∉ path.text → escape ∉ (d.project.resolve path).text :=
    fun _ => Project.notMem_resolve (by decide) hproject.root hproject.loadedFiles
  cases h with
  | frame hl => exact hresolve _ (hf.path _ hl)
  | place hl => exact hresolve _ (hf.path _ hl)
  | broken hplace => exact hresolve _ (hf.brokenPath _ _ hplace)

theorem escape_notMem_explanation (hf : d.failure.EscapeFree) : escape ∉ d.explanation := by
  unfold explanation
  split
  · split
    · next path hpath => exact List.not_mem_append (by decide) (hf.unloadable _ hpath)
    · exact hf.explanation
  · split
    · next l reason hplace => exact hf.brokenReason _ _ hplace
    · exact hf.explanation
  · exact hf.explanation

theorem escape_notMem_countsText (counts : Failure.Arity) : escape ∉ countsText counts := by
  have hnumber : ∀ n, escape ∉ Text.ofNat n := Text.notMem_ofNat (by decide)
  unfold countsText
  refine List.not_mem_append (List.not_mem_append ?_ (hnumber _)) (by decide)
  exact List.not_mem_append (List.not_mem_append (by decide) (hnumber _)) (by decide)

theorem escape_notMem_headline_texts (hf : d.failure.EscapeFree) :
    ∀ t ∈ d.headline.texts, escape ∉ t := by
  unfold headline
  split
  · simp only [Node.texts, Node.textsAll, List.mem_append, List.mem_singleton, List.not_mem_nil,
      or_false]
    rintro t (rfl | rfl)
    · exact List.not_mem_append (escape_notMem_explanation hf) (by decide)
    · exact escape_notMem_countsText _
  · simp only [Node.texts, List.mem_singleton]
    rintro t rfl
    exact escape_notMem_explanation hf

/-- The windows of a diagnosis are all there is in their section. -/
theorem texts_windows (d : Diagnosis) : d.windows.texts = [] := by
  have hraised : ∀ token message, (d.raisedWindow token message).texts = [] := by
    intro token message
    unfold raisedWindow
    split
    · rfl
    · rfl
  unfold windows
  split
  · unfold callWindows
    split
    · rfl
    · exact Node.textsAll_map_code _
  · split <;> exact hraised _ _
  · split <;> exact hraised _ _
  · split <;> rfl
  · exact hraised _ _

/-- The texts of a report, apart from its windows, hold no escape character if the failure does
not. -/
theorem escape_notMem_texts (hf : d.failure.EscapeFree) :
    ∀ t ∈ d.report.texts, escape ∉ t := by
  have hbacktrace : d.backtrace.texts = [] := Node.textsAll_map_code _
  intro t ht
  simp only [report, summary, Node.texts, Node.textsAll, texts_windows, hbacktrace,
    List.append_nil, List.mem_append, List.mem_singleton] at ht
  rcases ht with rfl | ht
  · exact hf.classname
  · exact escape_notMem_headline_texts hf t ht

end Diagnosis

end ErrorReport
