import Mathlib.Data.List.Forall2

/-!
# Steps that may fail

A sequence of steps gives the results of all of them, or the failure of the first that fails.
-/

namespace GoScaffold

variable {ε α β : Type}

theorem bind_eq_ok_iff {result : Except ε α} {next : α → Except ε β} {b : β} :
    (result >>= next) = .ok b ↔ ∃ a, result = .ok a ∧ next a = .ok b := by
  cases result with
  | ok a =>
    constructor
    · intro h
      exact ⟨a, rfl, h⟩
    · rintro ⟨_, ⟨⟩, h⟩
      exact h
  | error failure =>
    constructor
    · intro h
      cases h
    · rintro ⟨_, ⟨⟩, _⟩

theorem bind_eq_error_iff {result : Except ε α} {next : α → Except ε β} {failure : ε} :
    (result >>= next) = .error failure ↔
      result = .error failure ∨ ∃ a, result = .ok a ∧ next a = .error failure := by
  cases result with
  | ok a =>
    constructor
    · intro h
      exact .inr ⟨a, rfl, h⟩
    · intro h
      rcases h with h | ⟨_, hok, h⟩
      · cases h
      · cases hok
        exact h
  | error other =>
    constructor
    · intro h
      cases h
      exact .inl rfl
    · intro h
      rcases h with h | ⟨_, hok, -⟩
      · cases h
        rfl
      · cases hok

variable {step : α → Except ε β}

theorem mapM_eq_ok_iff {inputs : List α} {outputs : List β} :
    inputs.mapM step = .ok outputs ↔
      List.Forall₂ (fun input output => step input = .ok output) inputs outputs := by
  induction inputs generalizing outputs with
  | nil =>
    rw [List.mapM_nil, List.forall₂_nil_left_iff]
    constructor
    · rintro ⟨⟩
      rfl
    · rintro rfl
      rfl
  | cons input inputs ih =>
    rw [List.mapM_cons, List.forall₂_cons_left_iff, bind_eq_ok_iff]
    apply exists_congr
    intro output
    constructor
    · rintro ⟨hfirst, hrest⟩
      obtain ⟨others, hothers, ⟨⟩⟩ := bind_eq_ok_iff.1 hrest
      exact ⟨others, hfirst, ih.1 hothers, rfl⟩
    · rintro ⟨others, hfirst, hothers, rfl⟩
      exact ⟨hfirst, bind_eq_ok_iff.2 ⟨others, ih.2 hothers, rfl⟩⟩

/-- The first failure is the failure of the whole, whatever comes behind it. -/
theorem mapM_eq_error_iff {inputs : List α} {failure : ε} :
    inputs.mapM step = .error failure ↔
      ∃ before input after, inputs = before ++ input :: after ∧
        (∀ earlier ∈ before, ∃ output, step earlier = .ok output) ∧ step input = .error failure := by
  induction inputs with
  | nil =>
    rw [List.mapM_nil]
    constructor
    · rintro ⟨⟩
    · rintro ⟨before, input, after, heq, -⟩
      exact absurd heq (by simp)
  | cons first inputs ih =>
    rw [List.mapM_cons, bind_eq_error_iff]
    constructor
    · rintro (hfirst | ⟨output, hfirst, hrest⟩)
      · exact ⟨[], first, inputs, rfl, List.forall_mem_nil _, hfirst⟩
      · rcases bind_eq_error_iff.1 hrest with hothers | ⟨others, -, ⟨⟩⟩
        obtain ⟨before, input, after, rfl, hbefore, hinput⟩ := ih.1 hothers
        exact ⟨first :: before, input, after, rfl, List.forall_mem_cons.2 ⟨⟨output, hfirst⟩, hbefore⟩, hinput⟩
    · rintro ⟨before, input, after, heq, hbefore, hinput⟩
      cases before with
      | nil =>
        obtain ⟨rfl, rfl⟩ := List.cons.inj heq
        exact .inl hinput
      | cons earlier before =>
        obtain ⟨rfl, rfl⟩ := List.cons.inj heq
        obtain ⟨⟨output, hfirst⟩, hothers⟩ := List.forall_mem_cons.1 hbefore
        have hrest := ih.2 ⟨before, input, after, rfl, hothers, hinput⟩
        exact .inr ⟨output, hfirst, bind_eq_error_iff.2 (.inl hrest)⟩

theorem exists_mapM_eq_ok {inputs : List α} (h : ∀ input ∈ inputs, ∃ output, step input = .ok output) :
    ∃ outputs, inputs.mapM step = .ok outputs := by
  cases hall : inputs.mapM step with
  | ok outputs => exact ⟨outputs, rfl⟩
  | error failure =>
    obtain ⟨before, input, after, rfl, -, hinput⟩ := mapM_eq_error_iff.1 hall
    obtain ⟨output, hok⟩ := h input (List.mem_append_right _ List.mem_cons_self)
    rw [hinput] at hok
    cases hok

end GoScaffold
