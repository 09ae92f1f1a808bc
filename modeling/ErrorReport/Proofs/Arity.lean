/-
# ErrorReport.Proofs.Arity — the counts in messages about a wrong number of arguments.

Two wordings are known. One has the counts in parentheses at its end, the other has them behind the
name of the method; `inParentheses` and `behindName` write them out. `arity_recognised` says that
messages of these wordings give their counts, in the right order, and that no other message gives
any.

The counts in parentheses are the last ones, whatever stands before them. The name is the shortest
behind which counts are given, so it must not give a count itself (`GivesNoCount`). Otherwise names
and the text between are free: they may hold parentheses, digits or pieces of either wording.
-/
import ErrorReport.Heuristic
import ErrorReport.Proofs.Origin
import Mathlib.Data.List.Infix

namespace ErrorReport.Failure

open Text (isDigit newline apostrophe IsDigitRun IsNumeral)

/-! ## The two wordings -/

/-- A message with the counts in parentheses at its end. -/
def inParentheses (filler received expected : Text) : Text :=
  "wrong number of arguments".toList ++ filler ++
    '(' :: received ++ " for ".toList ++ expected ++ [')']

/-- A message with the counts behind the name of the method. -/
def behindName (name received filler expected : Text) : Text :=
  "method '".toList ++ name ++ "': given ".toList ++ received ++ filler ++
    " expected ".toList ++ expected

/-- A name that is not followed by a count within itself. -/
def GivesNoCount (name : Text) : Prop :=
  ∀ front digit back, isDigit digit = true → name ≠ front ++ "': given ".toList ++ digit :: back

/-- Whether a name gives no count can be seen from its ends. -/
theorem givesNoCount_iff {name : Text} :
    GivesNoCount name ↔ ∀ t ∈ name.tails,
      ((Text.after? "': given ".toList t).bind List.head?).all (fun c => !isDigit c) = true := by
  unfold GivesNoCount
  generalize "': given ".toList = given
  constructor
  · intro h t ht
    rw [Option.all_eq_true]
    intro digit hdigit
    obtain ⟨rest, hrest, hhead⟩ := Option.bind_eq_some_iff.1 hdigit
    obtain ⟨front, rfl⟩ := (List.mem_tails _ _).1 ht
    obtain rfl := Text.after?_eq_some.1 hrest
    obtain ⟨back, rfl⟩ := List.head?_eq_some_iff.1 hhead
    rw [Bool.not_eq_true', Bool.eq_false_iff]
    intro hd
    exact h front digit back hd (List.append_assoc ..).symm
  · rintro h front digit back hdigit rfl
    have hend : given ++ digit :: back ∈ (front ++ given ++ digit :: back).tails :=
      (List.mem_tails _ _).2 ⟨front, (List.append_assoc ..).symm⟩
    have hafter : Text.after? given (given ++ digit :: back) = some (digit :: back) :=
      Text.after?_eq_some.2 rfl
    have hlast := h _ hend
    rw [hafter, Option.bind_some, List.head?_cons, Option.all_some, hdigit] at hlast
    cases hlast

instance : DecidablePred GivesNoCount := fun _ => decidable_of_iff _ givesNoCount_iff.symm

/-- No message has both wordings. -/
theorem inParentheses_ne_behindName (filler received expected name received' filler'
    expected' : Text) :
    inParentheses filler received expected ≠ behindName name received' filler' expected' := by
  intro h
  have hwrong : "wrong number of arguments".toList = 'w' :: "rong number of arguments".toList := by
    rfl
  have hmethod : "method '".toList = 'm' :: "ethod '".toList := by rfl
  unfold inParentheses behindName at h
  rw [hwrong, hmethod] at h
  simp only [List.cons_append] at h
  exact absurd (List.cons.inj h).1 (by decide)

theorem newline_mem_inParentheses {filler received expected : Text}
    (hreceived : IsDigitRun received) (hexpected : IsDigitRun expected) :
    newline ∈ inParentheses filler received expected ↔ newline ∈ filler := by
  have hdigit : isDigit newline = false := by decide
  have hlead : newline ∉ "wrong number of arguments".toList := by decide
  have hopening : newline ≠ '(' := by decide
  have hfor : newline ∉ " for ".toList := by decide
  have hclosing : newline ≠ ')' := by decide
  unfold inParentheses
  generalize "wrong number of arguments".toList = lead at hlead ⊢
  generalize " for ".toList = word at hfor ⊢
  simp only [List.mem_append, List.mem_cons, List.not_mem_nil, hlead, hopening, hfor, hclosing,
    hreceived.notMem hdigit, hexpected.notMem hdigit, false_or, or_false]

theorem newline_mem_behindName {name received filler expected : Text}
    (hreceived : IsDigitRun received) (hexpected : IsDigitRun expected) :
    newline ∈ behindName name received filler expected ↔ newline ∈ name ∨ newline ∈ filler := by
  have hdigit : isDigit newline = false := by decide
  have hlead : newline ∉ "method '".toList := by decide
  have hgiven : newline ∉ "': given ".toList := by decide
  have hword : newline ∉ " expected ".toList := by decide
  unfold behindName
  generalize "method '".toList = lead at hlead ⊢
  generalize "': given ".toList = given at hgiven ⊢
  generalize " expected ".toList = word at hword ⊢
  simp only [List.mem_append, hlead, hgiven, hword, hreceived.notMem hdigit,
    hexpected.notMem hdigit, false_or, or_false]

/-! ## Counts in parentheses -/

theorem countsAtEnd?_eq_some {t received expected : Text} :
    countsAtEnd? t = some (received, expected) ↔
      IsDigitRun received ∧ IsDigitRun expected ∧
        t = '(' :: received ++ " for ".toList ++ expected ++ [')'] := by
  simp only [countsAtEnd?, bind, Option.bind_eq_some_iff, Text.after?_eq_some, Prod.exists,
    Text.leadingDigits_eq_some, Option.ite_none_right_eq_some, Option.some.injEq, Prod.mk.injEq]
  constructor
  · rintro ⟨_, rfl, _, _, ⟨rfl, hne, hall, -⟩, _, rfl, _, _, ⟨rfl, hne', hall', -⟩, rfl, rfl, rfl⟩
    exact ⟨⟨hne, hall⟩, ⟨hne', hall'⟩, by simp⟩
  · rintro ⟨⟨hne, hall⟩, ⟨hne', hall'⟩, rfl⟩
    refine ⟨_, rfl, received, " for ".toList ++ expected ++ [')'], ⟨by simp, hne, hall, ?_⟩, _,
      by simp, expected, [')'], ⟨rfl, hne', hall', ?_⟩, rfl, rfl, rfl⟩
    · rintro _ ⟨⟩
      decide
    · rintro _ ⟨⟩
      decide

/-- No counts are read from a place before their parenthesis: it would be among what follows. -/
theorem countsAtEnd?_eq_none {piece rest : Text} (hpiece : piece ≠ []) :
    countsAtEnd? (piece ++ '(' :: rest) = none := by
  rw [Option.eq_none_iff_forall_ne_some]
  rintro ⟨received, expected⟩ h
  obtain ⟨hreceived, hexpected, heq⟩ := countsAtEnd?_eq_some.1 h
  cases piece with
  | nil => exact hpiece rfl
  | cons c piece =>
    have htail : piece ++ '(' :: rest = received ++ (" for ".toList ++ (expected ++ [')'])) := by
      simpa using (List.cons.inj heq).2
    have hmem : '(' ∈ received ++ (" for ".toList ++ (expected ++ [')'])) := by
      rw [← htail]
      exact List.mem_append_right _ (List.mem_cons_self ..)
    have hnot : '(' ∉ received ++ (" for ".toList ++ (expected ++ [')'])) :=
      List.not_mem_append (hreceived.notMem (by decide)) (List.not_mem_append (by decide)
        (List.not_mem_append (hexpected.notMem (by decide)) (by decide)))
    exact hnot hmem

/-- **Counts in parentheses** are those of the last parenthesis, whatever stands before it. -/
theorem cutAt_countsAtEnd?_eq_some {t filler received expected : Text} :
    Text.cutAt countsAtEnd? t = some (filler, received, expected) ↔
      IsDigitRun received ∧ IsDigitRun expected ∧
        t = filler ++ ('(' :: received ++ " for ".toList ++ expected ++ [')']) := by
  constructor
  · intro h
    obtain ⟨_, rfl, hread, -⟩ := Text.cutAt_eq_some.1 h
    obtain ⟨hreceived, hexpected, rfl⟩ := countsAtEnd?_eq_some.1 hread
    exact ⟨hreceived, hexpected, rfl⟩
  · rintro ⟨hreceived, hexpected, rfl⟩
    refine Text.cutAt_append (countsAtEnd?_eq_some.2 ⟨hreceived, hexpected, rfl⟩) ?_
    intro _ piece _ hpiece
    simpa only [List.cons_append] using countsAtEnd?_eq_none hpiece

theorem countsInParentheses?_eq_some {message received expected : Text} :
    countsInParentheses? message = some (received, expected) ↔
      IsDigitRun received ∧ IsDigitRun expected ∧
        ∃ filler, message = inParentheses filler received expected := by
  unfold countsInParentheses? inParentheses
  generalize "wrong number of arguments".toList = lead
  simp only [bind, pure, Option.bind_eq_some_iff, Text.after?_eq_some, Prod.exists,
    cutAt_countsAtEnd?_eq_some, Option.some.injEq, Prod.mk.injEq]
  constructor
  · rintro ⟨_, rfl, filler, _, _, ⟨hreceived, hexpected, rfl⟩, rfl, rfl⟩
    exact ⟨hreceived, hexpected, filler, by simp only [List.append_assoc]⟩
  · rintro ⟨hreceived, hexpected, filler, rfl⟩
    exact ⟨filler ++ ('(' :: received ++ " for ".toList ++ expected ++ [')']),
      by simp only [List.append_assoc], filler, received, expected,
      ⟨hreceived, hexpected, rfl⟩, rfl, rfl⟩

/-! ## Counts behind a name -/

theorem expectedAtEnd?_eq_some {t expected : Text} :
    expectedAtEnd? t = some expected ↔
      IsDigitRun expected ∧ t = " expected ".toList ++ expected := by
  simp only [expectedAtEnd?, bind, Option.bind_eq_some_iff, Text.after?_eq_some, Prod.exists,
    Text.leadingDigits_eq_some, Option.ite_none_right_eq_some, Option.some.injEq]
  constructor
  · rintro ⟨_, rfl, _, _, ⟨rfl, hne, hall, -⟩, rfl, rfl⟩
    exact ⟨⟨hne, hall⟩, by simp⟩
  · rintro ⟨⟨hne, hall⟩, rfl⟩
    exact ⟨_, rfl, expected, [], ⟨by simp, hne, hall, by simp⟩, rfl, rfl⟩

/-- No count is read from a place before its word: the word and its blanks would be among the
digits. -/
theorem expectedAtEnd?_eq_none {piece expected : Text} (hpiece : piece ≠ []) :
    expectedAtEnd? (piece ++ (" expected ".toList ++ expected)) = none := by
  rw [Option.eq_none_iff_forall_ne_some]
  intro expected' h
  obtain ⟨hexpected', heq⟩ := expectedAtEnd?_eq_some.1 h
  cases piece with
  | nil => exact hpiece rfl
  | cons c piece =>
    have hlead : " expected ".toList = ' ' :: ("expected".toList ++ [' ']) := by rfl
    rw [hlead] at heq
    have htail : "expected".toList ++ ' ' :: expected' =
        piece ++ ' ' :: ("expected ".toList ++ expected) := by
      simpa using (List.cons.inj heq).2.symm
    obtain ⟨-, -, rfl⟩ := (List.append_cons_inj_of_notMem (by decide)
      (hexpected'.notMem (by decide))).1 htail
    exact hexpected'.notMem (show isDigit 'e' = false by decide) (by simp)

/-- The expected count is the one at the end, whatever stands before it. -/
theorem cutAt_expectedAtEnd?_eq_some {t filler expected : Text} :
    Text.cutAt expectedAtEnd? t = some (filler, expected) ↔
      IsDigitRun expected ∧ t = filler ++ (" expected ".toList ++ expected) := by
  constructor
  · intro h
    obtain ⟨_, rfl, hread, -⟩ := Text.cutAt_eq_some.1 h
    obtain ⟨hexpected, rfl⟩ := expectedAtEnd?_eq_some.1 hread
    exact ⟨hexpected, rfl⟩
  · rintro ⟨hexpected, rfl⟩
    exact Text.cutAt_append (expectedAtEnd?_eq_some.2 ⟨hexpected, rfl⟩)
      fun _ _ _ hpiece => expectedAtEnd?_eq_none hpiece

/-- The counts that follow a name, part by part. All digits of the first belong to it. -/
theorem givenAtEnd?_eq_some {t received expected : Text} :
    givenAtEnd? t = some (received, expected) ↔
      IsDigitRun received ∧ IsDigitRun expected ∧
        ∃ filler : Text, (∀ c ∈ filler.head?, isDigit c = false) ∧
          t = "': given ".toList ++ received ++ filler ++ " expected ".toList ++ expected := by
  simp only [givenAtEnd?, bind, pure, Option.bind_eq_some_iff, Text.after?_eq_some, Prod.exists,
    Text.leadingDigits_eq_some, cutAt_expectedAtEnd?_eq_some, Option.some.injEq, Prod.mk.injEq]
  constructor
  · rintro ⟨_, rfl, _, _, ⟨rfl, hne, hall, hhead⟩, filler, _, ⟨hexpected, rfl⟩, rfl, rfl⟩
    refine ⟨⟨hne, hall⟩, hexpected, filler, ?_, by simp⟩
    intro c hc
    exact hhead c (by simp [Option.mem_def.1 hc])
  · rintro ⟨⟨hne, hall⟩, hexpected, filler, hhead, rfl⟩
    refine ⟨received ++ (filler ++ (" expected ".toList ++ expected)),
      by simp only [List.append_assoc], received, filler ++ (" expected ".toList ++ expected),
      ⟨rfl, hne, hall, ?_⟩, filler, expected, ⟨hexpected, rfl⟩, rfl, rfl⟩
    cases filler with
    | nil =>
      rintro _ ⟨⟩
      decide
    | cons c filler => simpa using hhead

/-- No place within a name is taken for its end if the name gives no count, not even one whose count
would lie beyond the name. -/
theorem givenAtEnd?_eq_none {front piece rest : Text} (hname : GivesNoCount (front ++ piece))
    (hpiece : piece ≠ []) : givenAtEnd? (piece ++ apostrophe :: rest) = none := by
  rw [Option.eq_none_iff_forall_ne_some]
  rintro ⟨received, expected⟩ h
  obtain ⟨hreceived, -, filler, -, heq⟩ := givenAtEnd?_eq_some.1 h
  cases received with
  | nil => exact hreceived.1 rfl
  | cons digit received =>
    have hdigit : isDigit digit = true := hreceived.2 digit (by simp)
    have heq : ("': given ".toList ++ [digit]) ++
        (received ++ (filler ++ (" expected ".toList ++ expected))) =
          piece ++ apostrophe :: rest := by
      simpa using heq.symm
    rcases List.append_eq_append_iff.1 heq with ⟨back, rfl, -⟩ | ⟨more, hmore, hrest⟩
    · -- the count lies within the name
      exact hname front digit back hdigit (by simp)
    · cases more with
      | nil =>
        have hpiece : piece = "': given ".toList ++ [digit] := by simpa using hmore.symm
        exact hname front digit [] hdigit (by rw [hpiece, List.append_assoc])
      | cons c more =>
        -- the apostrophe behind the name would be among what follows the one that is read
        obtain ⟨rfl, -⟩ := List.cons.inj hrest
        cases piece with
        | nil => exact hpiece rfl
        | cons d piece =>
          have htail := (List.cons.inj hmore).2
          have hne : apostrophe ≠ digit := by
            rintro rfl
            revert hdigit
            decide
          have hmem : apostrophe ∈ ": given ".toList ++ [digit] := by
            rw [show ": given ".toList ++ [digit] = piece ++ apostrophe :: more from htail]
            simp
          exact absurd hmem (List.not_mem_append (by decide)
            (List.not_mem_cons_of_ne_of_not_mem hne List.not_mem_nil))

/-- What is read behind a name: the name ends where counts are first given. -/
theorem countsAfterName?_eq_some {message received expected : Text} :
    countsAfterName? message = some (received, expected) ↔
      ∃ name rest, message = "method '".toList ++ rest ∧
        Text.cutAt givenAtEnd? rest = some (name, received, expected) := by
  unfold countsAfterName?
  generalize "method '".toList = lead
  simp only [bind, pure, Option.bind_eq_some_iff, Text.after?_eq_some, Prod.exists,
    Option.some.injEq, Prod.mk.injEq]
  constructor
  · rintro ⟨rest, rfl, name, _, _, hcut, rfl, rfl⟩
    exact ⟨name, rest, rfl, hcut⟩
  · rintro ⟨name, rest, rfl, hcut⟩
    exact ⟨rest, rfl, name, received, expected, hcut, rfl, rfl⟩

theorem countsAfterName?_isBehindName {message received expected : Text}
    (h : countsAfterName? message = some (received, expected)) :
    ∃ name filler : Text, IsDigitRun received ∧ IsDigitRun expected ∧
      (∀ c ∈ filler.head?, isDigit c = false) ∧
      message = behindName name received filler expected := by
  obtain ⟨name, _, rfl, hcut⟩ := countsAfterName?_eq_some.1 h
  obtain ⟨_, rfl, hgiven, -⟩ := Text.cutAt_eq_some.1 hcut
  obtain ⟨hreceived, hexpected, filler, hfiller, rfl⟩ := givenAtEnd?_eq_some.1 hgiven
  refine ⟨name, filler, hreceived, hexpected, hfiller, ?_⟩
  unfold behindName
  simp only [List.append_assoc]

/-- **Counts behind a name** that gives none itself are the ones that are read. -/
theorem countsAfterName?_behindName {name received filler expected : Text}
    (hname : GivesNoCount name) (hreceived : IsDigitRun received)
    (hfiller : ∀ c ∈ filler.head?, isDigit c = false) (hexpected : IsDigitRun expected) :
    countsAfterName? (behindName name received filler expected) = some (received, expected) := by
  have hcut : Text.cutAt givenAtEnd?
      (name ++ ("': given ".toList ++ received ++ filler ++ " expected ".toList ++ expected)) =
        some (name, received, expected) := by
    refine Text.cutAt_append (givenAtEnd?_eq_some.2 ⟨hreceived, hexpected, filler, hfiller, rfl⟩) ?_
    rintro front piece rfl hpiece
    exact givenAtEnd?_eq_none hname hpiece
  refine countsAfterName?_eq_some.2 ⟨name, _, ?_, hcut⟩
  unfold behindName
  simp only [List.append_assoc]

/-! ## The counts of a message -/

theorem ofDigits?_eq_some {digits : Text × Text} {counts : Arity} :
    Arity.ofDigits? digits = some counts ↔
      IsNumeral digits.1 counts.received ∧ IsNumeral digits.2 counts.expected := by
  obtain ⟨received, expected⟩ := counts
  simp only [Arity.ofDigits?, bind, pure, Option.bind_eq_some_iff, Text.toWord?_eq_some,
    Option.some.injEq, Arity.mk.injEq]
  constructor
  · rintro ⟨_, hreceived, _, hexpected, rfl, rfl⟩
    exact ⟨hreceived, hexpected⟩
  · rintro ⟨hreceived, hexpected⟩
    exact ⟨_, hreceived, _, hexpected, rfl, rfl⟩

/-- The counts of a message are those that one of the readers finds. -/
theorem of_arity?_eq_some {message : Text} {counts : Arity} (h : arity? message = some counts) :
    newline ∉ message ∧ ∃ received expected,
      (countsInParentheses? message = some (received, expected) ∨
        countsAfterName? message = some (received, expected)) ∧
      IsNumeral received counts.received ∧ IsNumeral expected counts.expected := by
  obtain ⟨hline, h⟩ := Option.ite_none_right_eq_some.1 h
  refine ⟨Text.isOneLine_iff.1 hline, ?_⟩
  rw [Option.orElse_eq_orElse, Option.orElse_eq_or, Option.or_eq_some_iff] at h
  rcases h with h | ⟨-, h⟩
  · obtain ⟨⟨received, expected⟩, hread, hcounts⟩ := Option.bind_eq_some_iff.1 h
    exact ⟨received, expected, .inl hread, ofDigits?_eq_some.1 hcounts⟩
  · obtain ⟨⟨received, expected⟩, hread, hcounts⟩ := Option.bind_eq_some_iff.1 h
    exact ⟨received, expected, .inr hread, ofDigits?_eq_some.1 hcounts⟩

/-- **Counts in parentheses are the counts of the message**, if they are words at all. -/
theorem arity?_inParentheses {filler received expected : Text} {counts : Arity}
    (hfiller : newline ∉ filler) (hreceived : IsDigitRun received)
    (hexpected : IsDigitRun expected) :
    arity? (inParentheses filler received expected) = some counts ↔
      IsNumeral received counts.received ∧ IsNumeral expected counts.expected := by
  have hread : countsInParentheses? (inParentheses filler received expected) =
      some (received, expected) :=
    countsInParentheses?_eq_some.2 ⟨hreceived, hexpected, filler, rfl⟩
  have hother : countsAfterName? (inParentheses filler received expected) = none := by
    rw [Option.eq_none_iff_forall_ne_some]
    rintro ⟨received', expected'⟩ h
    obtain ⟨name, filler', -, -, -, heq⟩ := countsAfterName?_isBehindName h
    exact inParentheses_ne_behindName _ _ _ _ _ _ _ heq
  have hline : Text.isOneLine (inParentheses filler received expected) = true :=
    Text.isOneLine_iff.2 (mt (newline_mem_inParentheses hreceived hexpected).1 hfiller)
  rw [arity?, if_pos hline, hread, hother, Option.bind_eq_bind, Option.bind_some,
    Option.bind_none, Option.orElse_eq_orElse, Option.orElse_eq_or, Option.or_none,
    ofDigits?_eq_some]

/-- **Counts behind a name are the counts of the message**, if they are words at all and the name
gives none. -/
theorem arity?_behindName {name received filler expected : Text} {counts : Arity}
    (hnameLine : newline ∉ name) (hname : GivesNoCount name) (hreceived : IsDigitRun received)
    (hfillerLine : newline ∉ filler) (hfiller : ∀ c ∈ filler.head?, isDigit c = false)
    (hexpected : IsDigitRun expected) :
    arity? (behindName name received filler expected) = some counts ↔
      IsNumeral received counts.received ∧ IsNumeral expected counts.expected := by
  have hread : countsAfterName? (behindName name received filler expected) =
      some (received, expected) :=
    countsAfterName?_behindName hname hreceived hfiller hexpected
  have hother : countsInParentheses? (behindName name received filler expected) = none := by
    rw [Option.eq_none_iff_forall_ne_some]
    rintro ⟨received', expected'⟩ h
    obtain ⟨-, -, filler', heq⟩ := countsInParentheses?_eq_some.1 h
    exact inParentheses_ne_behindName _ _ _ _ _ _ _ heq.symm
  have hline : Text.isOneLine (behindName name received filler expected) = true :=
    Text.isOneLine_iff.2 (mt (newline_mem_behindName hreceived hexpected).1
      (not_or_intro hnameLine hfillerLine))
  rw [arity?, if_pos hline, hread, hother, Option.bind_eq_bind, Option.bind_none,
    Option.bind_some, Option.orElse_eq_orElse, Option.orElse_eq_or, Option.none_or,
    ofDigits?_eq_some]

/-- **A message that gives counts** has one of the two wordings, with those counts. -/
theorem wording_of_arity?_eq_some {message : Text} {counts : Arity}
    (h : arity? message = some counts) :
    (∃ filler received expected, newline ∉ filler ∧ IsNumeral received counts.received ∧
      IsNumeral expected counts.expected ∧ message = inParentheses filler received expected) ∨
    ∃ name received filler expected, newline ∉ name ∧ newline ∉ filler ∧
      (∀ c ∈ filler.head?, isDigit c = false) ∧ IsNumeral received counts.received ∧
      IsNumeral expected counts.expected ∧
      message = behindName name received filler expected := by
  obtain ⟨hline, received, expected, hread | hread, hreceived, hexpected⟩ := of_arity?_eq_some h
  · obtain ⟨-, -, filler, rfl⟩ := countsInParentheses?_eq_some.1 hread
    rw [newline_mem_inParentheses hreceived.isDigitRun hexpected.isDigitRun] at hline
    exact .inl ⟨filler, received, expected, hline, hreceived, hexpected, rfl⟩
  · obtain ⟨name, filler, -, -, hfiller, rfl⟩ := countsAfterName?_isBehindName hread
    rw [newline_mem_behindName hreceived.isDigitRun hexpected.isDigitRun, not_or] at hline
    exact .inr ⟨name, received, filler, expected, hline.1, hline.2, hfiller, hreceived, hexpected,
      rfl⟩

/-! ## The counts of a failure -/

theorem classDetails_ne_arity (classname message : Text) (counts : Arity) :
    classDetails classname message ≠ .arity counts := by
  unfold classDetails
  split
  · cases undefinedMethod? message <;> simp
  · split
    · cases unloadable? message <;> simp
    · split
      · cases brokenSource? message <;> simp
      · simp

/-- Details are counts exactly if the message gives them. -/
theorem detailsOf_eq_arity {classname message : Text} {counts : Arity} :
    detailsOf classname message = .arity counts ↔ arity? message = some counts := by
  unfold detailsOf
  cases arity? message with
  | some counts' => simp
  | none => simp [classDetails_ne_arity]

theorem counts?_eq_some {f : Failure} {counts : Arity} :
    f.counts? = some counts ↔ f.details = .arity counts := by
  unfold counts?
  cases f.details <;> simp

/-- **The counts of a failure** are those of its message, whatever the class. -/
theorem counts?_of_ofRaised {raised : Raised} {site : RaiseSite} {f : Failure} {message : Text}
    (hread : ofRaised raised site = .ok f) (hmessage : raised.message = some message) :
    f.counts? = arity? message := by
  obtain ⟨message', frames, hmessage', -, rfl⟩ := ofRaised_eq_ok.1 hread
  obtain rfl := Option.some.inj (hmessage'.symm.trans hmessage)
  apply Option.ext
  intro counts
  rw [counts?_eq_some, detailsOf_eq_arity]

/-- **Counts of arguments are recognised exactly**, and in their order.

The digits of the two wordings are the counts if they are ASCII digits that stand for words, and
otherwise the message has none: of counts in parentheses whatever stands before them, and of counts
behind a name if the name gives none itself and all digits are read. Any message that gives counts
has one of the wordings. And an exception with any class is known by the heuristic for them exactly
if its message gives counts, and then both what was read of it and its diagnosis have these. -/
theorem arity_recognised :
    (∀ (filler received expected : Text) (counts : Arity), newline ∉ filler →
      IsDigitRun received → IsDigitRun expected →
      (arity? (inParentheses filler received expected) = some counts ↔
        IsNumeral received counts.received ∧ IsNumeral expected counts.expected)) ∧
    (∀ (name received filler expected : Text) (counts : Arity), newline ∉ name →
      GivesNoCount name → newline ∉ filler → (∀ c ∈ filler.head?, isDigit c = false) →
      IsDigitRun received → IsDigitRun expected →
      (arity? (behindName name received filler expected) = some counts ↔
        IsNumeral received counts.received ∧ IsNumeral expected counts.expected)) ∧
    (∀ (message : Text) (counts : Arity), arity? message = some counts →
      (∃ filler received expected, newline ∉ filler ∧ IsNumeral received counts.received ∧
        IsNumeral expected counts.expected ∧ message = inParentheses filler received expected) ∨
      ∃ name received filler expected, newline ∉ name ∧ newline ∉ filler ∧
        (∀ c ∈ filler.head?, isDigit c = false) ∧ IsNumeral received counts.received ∧
        IsNumeral expected counts.expected ∧
        message = behindName name received filler expected) ∧
    (∀ (raised : Raised) (site : RaiseSite) (f : Failure) (message : Text),
      ofRaised raised site = .ok f → raised.message = some message →
      (Heuristic.wrongNumberOfArguments.fits f = true ↔ (arity? message).isSome = true) ∧
      f.counts? = arity? message ∧
      ∀ project counts, arity? message = some counts →
        (Diagnosis.mk .wrongNumberOfArguments f project).counts = counts) := by
  refine ⟨fun filler received expected counts hfiller hreceived hexpected =>
      arity?_inParentheses hfiller hreceived hexpected,
    fun name received filler expected counts hnameLine hname hfillerLine hfiller hreceived
        hexpected =>
      arity?_behindName hnameLine hname hreceived hfillerLine hfiller hexpected,
    fun message counts h => wording_of_arity?_eq_some h, ?_⟩
  intro raised site f message hread hmessage
  have hcounts : f.counts? = arity? message := counts?_of_ofRaised hread hmessage
  refine ⟨?_, hcounts, ?_⟩
  · rw [Heuristic.fits, hcounts]
  · intro project counts h
    rw [Diagnosis.counts, hcounts, h, Option.getD_some]

/-- Counts are recognised behind a name and after a text that hold pieces of the wordings, and in an
exception of another class. -/
theorem arity_recognised_tricky :
    arity? (inParentheses " (1 for 2) for (3 for".toList "007".toList "0".toList) =
      some ⟨7, 0⟩ ∧
    arity? (behindName "a': given x expected 9".toList "18446744073709551615".toList
      ", expected 2 or expected".toList "3".toList) = some ⟨18446744073709551615, 3⟩ ∧
    arity? (inParentheses [] "18446744073709551616".toList "1".toList) = none ∧
    ∃ f, ofRaised (.ofMessage "NoMethodError".toList
        (inParentheses [] "1".toList "2".toList)) {} = .ok f ∧
      Heuristic.wrongNumberOfArguments.fits f = true ∧
      (Diagnosis.mk .wrongNumberOfArguments f {}).counts = ⟨1, 2⟩ := by
  obtain ⟨hparentheses, hname, -, hfailure⟩ := arity_recognised
  refine ⟨?_, ?_, ?_, ?_⟩
  · exact (hparentheses _ _ _ _ (by decide) (by decide) (by decide)).2 (by decide)
  · have hfiller : ∀ c ∈ ", expected 2 or expected".toList.head?, isDigit c = false := by
      rintro _ ⟨⟩
      decide
    exact (hname _ _ _ _ _ (by decide) (by decide) (by decide) hfiller (by decide)
      (by decide)).2 (by decide)
  · rw [Option.eq_none_iff_forall_ne_some]
    intro counts h
    obtain ⟨hreceived, -⟩ := (hparentheses _ _ _ _ (by decide) (by decide) (by decide)).1 h
    have hlt := counts.received.toNat_lt
    rw [← hreceived.value] at hlt
    exact absurd hlt (by decide)
  · have hcounts : arity? (inParentheses [] "1".toList "2".toList) = some ⟨1, 2⟩ :=
      (hparentheses _ _ _ _ (by decide) (by decide) (by decide)).2 (by decide)
    obtain ⟨hfits, -, hdiagnosis⟩ := hfailure (.ofMessage "NoMethodError".toList
      (inParentheses [] "1".toList "2".toList)) {} _ _ rfl rfl
    exact ⟨_, rfl, hfits.2 (by rw [hcounts, Option.isSome_some]), hdiagnosis _ _ hcounts⟩

end ErrorReport.Failure
