/-
# ErrorReport.Proofs.Explain — explaining is diagnosing and formatting.

An exception has a diagnosis if it can be read, its class is not left alone, and some heuristic fits
it; the first that fits makes the diagnosis (`diagnose_eq_ok`). `explain` formats the diagnosis if
there is one and never fails (`explain_eq`).
-/
import ErrorReport.Config.Basic

namespace ErrorReport.Config

variable {c : Config} {raised : Raised} {site : RaiseSite}

/-- **An accepted exception** can be read, is not left alone and fits some heuristic. -/
theorem accepts_eq_true :
    c.accepts raised site = true ↔
      ∃ f h, Failure.ofRaised raised site = .ok f ∧ c.isBlacklisted f = false ∧
        Heuristic.firstMatch? c.heuristics f = some h := by
  unfold accepts
  cases Failure.ofRaised raised site with
  | error e => simp
  | ok f => simp [Option.isSome_iff_exists]

theorem diagnose_of_not_accepts (h : c.accepts raised site = false) :
    c.diagnose raised site = .error (.notAccepted raised.classname) := by
  unfold diagnose
  rw [h]
  rfl

theorem diagnose_of_firstMatch? {f : Failure} {h : Heuristic}
    (hf : Failure.ofRaised raised site = .ok f) (hlisted : c.isBlacklisted f = false)
    (hmatch : Heuristic.firstMatch? c.heuristics f = some h) :
    c.diagnose raised site = .ok { heuristic := h, failure := f, project := c.project } := by
  have haccepts : c.accepts raised site = true := accepts_eq_true.2 ⟨f, h, hf, hlisted, hmatch⟩
  simp only [diagnose, haccepts, hf, bind, Except.bind, hmatch]
  rfl

/-- **A diagnosis** is made by the first heuristic that fits an accepted exception. -/
theorem diagnose_eq_ok {d : Diagnosis} :
    c.diagnose raised site = .ok d ↔
      Failure.ofRaised raised site = .ok d.failure ∧ c.isBlacklisted d.failure = false ∧
        Heuristic.firstMatch? c.heuristics d.failure = some d.heuristic ∧
        d.project = c.project := by
  constructor
  · intro hd
    cases haccepts : c.accepts raised site with
    | false =>
      rw [diagnose_of_not_accepts haccepts] at hd
      cases hd
    | true =>
      obtain ⟨f, h, hf, hlisted, hmatch⟩ := accepts_eq_true.1 haccepts
      rw [diagnose_of_firstMatch? hf hlisted hmatch] at hd
      obtain rfl := Except.ok.inj hd
      exact ⟨hf, hlisted, hmatch, rfl⟩
  · rintro ⟨hf, hlisted, hmatch, hproject⟩
    rw [diagnose_of_firstMatch? hf hlisted hmatch, ← hproject]

/-- **Explaining never fails.** It formats the diagnosis, if there is one. -/
theorem explain_eq (host : Host) (directory : Path) :
    c.explain host raised site directory =
      .ok ((c.diagnose raised site).toOption.map (c.format host directory)) := by
  unfold explain
  cases haccepts : c.accepts raised site with
  | false =>
    rw [diagnose_of_not_accepts haccepts]
    rfl
  | true =>
    obtain ⟨f, h, hf, hlisted, hmatch⟩ := accepts_eq_true.1 haccepts
    rw [diagnose_of_firstMatch? hf hlisted hmatch]
    rfl

/-- **A report** is the text of the diagnosis. -/
theorem explain_eq_some {host : Host} {directory : Path} {report : Text} :
    c.explain host raised site directory = .ok (some report) ↔
      ∃ d, c.diagnose raised site = .ok d ∧ c.format host directory d = report := by
  rw [explain_eq]
  cases c.diagnose raised site with
  | error e => simp [Except.toOption]
  | ok d => simp [Except.toOption]

end ErrorReport.Config
