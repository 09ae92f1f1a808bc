/-
# ErrorReport.Proofs.Acceptance — which exceptions are explained, and by which heuristic.

An exception goes through a configuration in three ways: one can ask whether it is accepted, have it
diagnosed, and have it explained. Each of the three reads the exception and tries the heuristics
anew. `entry_points_agree` says that they come to the same: what is accepted is diagnosed and
explained, and what is not accepted is refused for that reason and no other. So a catalogue without
the catchall, or an exception without a message, never shows as a failure of its own.

The conditions for reading an exception are checked twice as well, once in advance and once while it
is read; `exists_ofRaised_eq_ok` says that the first check is exact.
-/
import ErrorReport.Proofs.Explain
import ErrorReport.Proofs.Origin

namespace ErrorReport

/-! ## Readable exceptions -/

namespace Failure

variable {raised : Raised} {site : RaiseSite}

/-- An exception is readable if it has a message, and it or the place where it was raised has a list
of frames. -/
theorem isReadable_iff :
    isReadable raised site = true ↔
      raised.message.isSome = true ∧
        (raised.backtrace.isSome = true ∨ site.callers.isSome = true) := by
  simp [isReadable, Raised.frames?]

/-- **Readable exceptions** are those that can be read. -/
theorem exists_ofRaised_eq_ok :
    (∃ f, ofRaised raised site = .ok f) ↔ isReadable raised site = true := by
  unfold ofRaised isReadable
  cases raised.message with
  | none => simp
  | some message =>
    cases raised.frames? site with
    | none => simp
    | some frames => simp

theorem classname_of_ofRaised {f : Failure} (h : ofRaised raised site = .ok f) :
    f.classname = raised.classname := by
  obtain ⟨message, frames, -, -, rfl⟩ := ofRaised_eq_ok.1 h
  rfl

end Failure

/-! ## Catalogues -/

namespace Heuristic

variable {catalogue : List Heuristic} {h : Heuristic} {f : Failure}

/-- A heuristic of a catalogue that fits a failure, while none before it does. -/
def IsFirstFit (catalogue : List Heuristic) (f : Failure) (h : Heuristic) : Prop :=
  h.fits f = true ∧ ∃ before after, catalogue = before ++ h :: after ∧
    ∀ earlier ∈ before, earlier.fits f = false

theorem firstMatch?_eq_some : firstMatch? catalogue f = some h ↔ IsFirstFit catalogue f h := by
  simp [firstMatch?, IsFirstFit, List.find?_eq_some_iff_append]

theorem exists_firstMatch?_eq_some :
    (∃ h, firstMatch? catalogue f = some h) ↔ ∃ h ∈ catalogue, h.fits f = true := by
  rw [← Option.isSome_iff_exists, firstMatch?, List.find?_isSome]

/-- The catchall fits every failure, so some heuristic among all of them does. -/
theorem exists_mem_all_fits (f : Failure) : ∃ h ∈ all, h.fits f = true :=
  ⟨.exception, by decide, rfl⟩

end Heuristic

/-! ## Accepting, diagnosing, explaining -/

namespace Config

variable {c : Config} {raised : Raised} {site : RaiseSite}

theorem isBlacklisted_eq_false {f : Failure} :
    c.isBlacklisted f = false ↔ f.classname ∉ c.blacklist := by
  simp [isBlacklisted]

/-- **What is accepted**: an exception that can be read, whose class is not left alone, and that
some heuristic fits. -/
theorem accepts_iff :
    c.accepts raised site = true ↔
      Failure.isReadable raised site = true ∧ raised.classname ∉ c.blacklist ∧
        ∃ f, Failure.ofRaised raised site = .ok f ∧ ∃ h ∈ c.heuristics, h.fits f = true := by
  rw [accepts_eq_true]
  constructor
  · rintro ⟨f, h, hread, hlisted, hmatch⟩
    rw [isBlacklisted_eq_false, Failure.classname_of_ofRaised hread] at hlisted
    exact ⟨Failure.exists_ofRaised_eq_ok.1 ⟨f, hread⟩, hlisted, f, hread,
      Heuristic.exists_firstMatch?_eq_some.1 ⟨h, hmatch⟩⟩
  · rintro ⟨-, hlisted, f, hread, hfits⟩
    obtain ⟨h, hmatch⟩ := Heuristic.exists_firstMatch?_eq_some.2 hfits
    rw [← Failure.classname_of_ofRaised hread] at hlisted
    exact ⟨f, h, hread, isBlacklisted_eq_false.2 hlisted, hmatch⟩

/-- With all heuristics in the catalogue nothing but the class can be in the way of an exception
that can be read. -/
theorem accepts_iff_of_all (hall : c.heuristics = Heuristic.all) :
    c.accepts raised site = true ↔
      Failure.isReadable raised site = true ∧ raised.classname ∉ c.blacklist := by
  rw [accepts_iff, hall]
  constructor
  · rintro ⟨hreadable, hlisted, -⟩
    exact ⟨hreadable, hlisted⟩
  · rintro ⟨hreadable, hlisted⟩
    obtain ⟨f, hread⟩ := Failure.exists_ofRaised_eq_ok.2 hreadable
    exact ⟨hreadable, hlisted, f, hread, Heuristic.exists_mem_all_fits f⟩

/-- Exactly the accepted exceptions have a diagnosis. -/
theorem exists_diagnose_eq_ok :
    (∃ d, c.diagnose raised site = .ok d) ↔ c.accepts raised site = true := by
  rw [accepts_eq_true]
  constructor
  · rintro ⟨d, hd⟩
    obtain ⟨hread, hlisted, hmatch, -⟩ := diagnose_eq_ok.1 hd
    exact ⟨d.failure, d.heuristic, hread, hlisted, hmatch⟩
  · rintro ⟨f, h, hread, hlisted, hmatch⟩
    exact ⟨_, diagnose_of_firstMatch? hread hlisted hmatch⟩

/-- **The only failure** of a diagnosis is that the exception is not accepted. -/
theorem diagnose_eq_error {e : Error} :
    c.diagnose raised site = .error e ↔
      c.accepts raised site = false ∧ e = .notAccepted raised.classname := by
  constructor
  · intro herror
    cases haccepts : c.accepts raised site with
    | false =>
      rw [diagnose_of_not_accepts haccepts] at herror
      exact ⟨rfl, (Except.error.inj herror).symm⟩
    | true =>
      obtain ⟨d, hd⟩ := exists_diagnose_eq_ok.2 haccepts
      rw [hd] at herror
      cases herror
  · rintro ⟨haccepts, rfl⟩
    exact diagnose_of_not_accepts haccepts

/-- **A diagnosis** is that of an accepted exception, by the first heuristic that fits. -/
theorem diagnose_eq_ok_iff_isFirstFit {d : Diagnosis} :
    c.diagnose raised site = .ok d ↔
      c.accepts raised site = true ∧ Failure.ofRaised raised site = .ok d.failure ∧
        Heuristic.IsFirstFit c.heuristics d.failure d.heuristic ∧ d.project = c.project := by
  constructor
  · intro hd
    obtain ⟨hread, -, hmatch, hproject⟩ := diagnose_eq_ok.1 hd
    exact ⟨exists_diagnose_eq_ok.1 ⟨d, hd⟩, hread, Heuristic.firstMatch?_eq_some.1 hmatch,
      hproject⟩
  · rintro ⟨haccepts, hread, hfirst, hproject⟩
    obtain ⟨-, hlisted, -⟩ := accepts_iff.1 haccepts
    rw [← Failure.classname_of_ofRaised hread] at hlisted
    exact diagnose_eq_ok.2 ⟨hread, isBlacklisted_eq_false.2 hlisted,
      Heuristic.firstMatch?_eq_some.2 hfirst, hproject⟩

/-- **Explaining never fails**, and gives a report for what is accepted. -/
theorem exists_explain_eq_ok (host : Host) (directory : Path) :
    ∃ report?, c.explain host raised site directory = .ok report? ∧
      (report?.isSome = true ↔ c.accepts raised site = true) := by
  refine ⟨_, explain_eq host directory, ?_⟩
  rw [← exists_diagnose_eq_ok]
  cases c.diagnose raised site with
  | error e => simp [Except.toOption]
  | ok d => simp [Except.toOption]

/-- Exactly the accepted exceptions have a report. -/
theorem exists_explain_eq_some (host : Host) (directory : Path) :
    (∃ report, c.explain host raised site directory = .ok (some report)) ↔
      c.accepts raised site = true := by
  have hok : ∃ report?, c.explain host raised site directory = .ok report? ∧
      (report?.isSome = true ↔ c.accepts raised site = true) :=
    exists_explain_eq_ok host directory
  obtain ⟨report?, hexplain, hreport⟩ := hok
  rw [hexplain, ← hreport, Option.isSome_iff_exists]
  simp

/-- **Accepting, diagnosing and explaining agree**, for every configuration and every exception.

An exception is accepted if it has a message, it or the place where it was raised has a list of
frames, its class is not left alone and some heuristic of the catalogue fits it. Exactly then it has
a diagnosis, by the first heuristic that fits and in the project of the configuration. An exception
that is not accepted is refused for that reason, and there is no other failure. Explaining never
fails and gives a report exactly for what is accepted. With the default configuration and with every
configuration from settings, these are the exceptions that can be read and whose class is neither
`SystemExit` nor named in the settings. -/
theorem entry_points_agree (c : Config) (host : Host) (raised : Raised) (site : RaiseSite)
    (directory : Path) :
    (c.accepts raised site = true ↔
      (raised.message.isSome = true ∧
        (raised.backtrace.isSome = true ∨ site.callers.isSome = true)) ∧
        raised.classname ∉ c.blacklist ∧
        ∃ f, Failure.ofRaised raised site = .ok f ∧ ∃ h ∈ c.heuristics, h.fits f = true) ∧
    ((∃ d, c.diagnose raised site = .ok d) ↔ c.accepts raised site = true) ∧
    (∀ d, c.diagnose raised site = .ok d ↔
      c.accepts raised site = true ∧ Failure.ofRaised raised site = .ok d.failure ∧
        Heuristic.IsFirstFit c.heuristics d.failure d.heuristic ∧ d.project = c.project) ∧
    (∀ e, c.diagnose raised site = .error e ↔
      c.accepts raised site = false ∧ e = .notAccepted raised.classname) ∧
    (∃ report?, c.explain host raised site directory = .ok report? ∧
      (report?.isSome = true ↔ c.accepts raised site = true)) ∧
    (∀ θ, (∃ report, { ({} : Config) with theme := θ }.explain host raised site directory =
        .ok (some report)) ↔
      Failure.isReadable raised site = true ∧ raised.classname ≠ "SystemExit".toList) ∧
    (∀ (s : Settings) (θ : Terminal.Theme),
      (∃ report, { ofSettings s with theme := θ }.explain host raised site directory =
        .ok (some report)) ↔
      Failure.isReadable raised site = true ∧ raised.classname ≠ "SystemExit".toList ∧
        raised.classname ∉ s.blacklist) := by
  refine ⟨?_, exists_diagnose_eq_ok, fun d => diagnose_eq_ok_iff_isFirstFit,
    fun e => diagnose_eq_error, exists_explain_eq_ok host directory, ?_, ?_⟩
  · rw [accepts_iff, Failure.isReadable_iff]
  · intro θ
    rw [exists_explain_eq_some, accepts_iff_of_all rfl]
    simp
  · intro s θ
    rw [exists_explain_eq_some, accepts_iff_of_all rfl]
    simp [ofSettings]

end Config

end ErrorReport
