import Mathlib.Data.List.TakeWhile

/-!
# Runs of characters

A scanner takes the longest run of characters that pass a test. It finds the end of a run if what
follows begins with a character that does not pass.

- `Text.Ends`: texts at which a run ends.
- `Text.Ends.takeWhile_append`, `Text.Ends.dropWhile_append`: a run at the front of a text is the
  same whatever follows there.
- `Text.run_inj`: a text is split in one way into a run and what follows.
-/

namespace DecisionFlow.Text

variable {test : Char → Bool} {run run' rest rest' : List Char}

/-- A text at which a run of characters that pass the test ends. -/
def Ends (test : Char → Bool) (rest : List Char) : Prop :=
  ∀ c tail, rest = c :: tail → test c = false

theorem ends_nil : Ends test [] := fun _ _ h => nomatch h

theorem ends_cons {c : Char} (h : test c = false) : Ends test (c :: rest) := by
  intro c' tail heq
  cases heq
  exact h

/-- What follows does not change the run at the front of a text. -/
theorem Ends.takeWhile_append (h : Ends test rest) (chars : List Char) :
    (chars ++ rest).takeWhile test = chars.takeWhile test := by
  induction chars with
  | nil =>
    cases rest with
    | nil => rfl
    | cons c tail =>
      rw [List.nil_append, List.takeWhile_cons, h c tail rfl, if_neg Bool.false_ne_true]; rfl
  | cons c chars ih => rw [List.cons_append, List.takeWhile_cons, List.takeWhile_cons, ih]

/-- What is dropped ends inside a run that ends. -/
theorem Ends.dropWhile_append (h : Ends test rest) (chars : List Char) :
    (chars ++ rest).dropWhile test = chars.dropWhile test ++ rest := by
  induction chars with
  | nil =>
    cases rest with
    | nil => rfl
    | cons c tail =>
      rw [List.nil_append, List.dropWhile_cons, h c tail rfl, if_neg Bool.false_ne_true]; rfl
  | cons c chars ih =>
    rw [List.cons_append, List.dropWhile_cons, List.dropWhile_cons, ih]
    cases test c <;> rfl

/-- A run is taken whole. -/
theorem Ends.takeWhile_run (h : Ends test rest) (hrun : ∀ c ∈ run, test c = true) :
    (run ++ rest).takeWhile test = run := by
  rw [h.takeWhile_append, List.takeWhile_eq_self_iff.mpr hrun]

theorem Ends.dropWhile_run (h : Ends test rest) (hrun : ∀ c ∈ run, test c = true) :
    (run ++ rest).dropWhile test = rest := by
  rw [h.dropWhile_append, List.dropWhile_eq_nil_iff.mpr hrun, List.nil_append]

/-- A run of more ends where a run of less does. -/
theorem Ends.mono {test' : Char → Bool} (h : Ends test rest)
    (himp : ∀ c, test' c = true → test c = true) : Ends test' rest := by
  intro c tail heq
  have hc := h c tail heq
  cases hc' : test' c with
  | false => rfl
  | true =>
    rw [himp c hc'] at hc
    cases hc

/-- A text is split in one way into a run and what follows. -/
theorem run_inj (hrun : ∀ c ∈ run, test c = true) (hrun' : ∀ c ∈ run', test c = true)
    (hrest : Ends test rest) (hrest' : Ends test rest') (h : run ++ rest = run' ++ rest') :
    run = run' ∧ rest = rest' := by
  have htake := congrArg (List.takeWhile test) h
  have hdrop := congrArg (List.dropWhile test) h
  rw [hrest.takeWhile_run hrun, hrest'.takeWhile_run hrun'] at htake
  rw [hrest.dropWhile_run hrun, hrest'.dropWhile_run hrun'] at hdrop
  exact ⟨htake, hdrop⟩

end DecisionFlow.Text
