import Mathlib.Data.List.Forall2

namespace Screener

namespace Fallible

variable {ε ε' α β : Type} {x : Except ε α} {f : α → Except ε β} {values : List α}

theorem map_eq_ok {g : α → β} {b : β} : x.map g = .ok b ↔ ∃ a, x = .ok a ∧ g a = b := by
  cases x <;> simp [Except.map]

theorem bind_eq_ok {b : β} : x.bind f = .ok b ↔ ∃ a, x = .ok a ∧ f a = .ok b := by
  cases x <;> simp [Except.bind]

theorem bind_eq_error {error : ε} :
    x.bind f = .error error ↔ x = .error error ∨ ∃ a, x = .ok a ∧ f a = .error error := by
  cases x <;> simp [Except.bind]

theorem mapError_eq_ok {g : ε → ε'} {a : α} : x.mapError g = .ok a ↔ x = .ok a := by
  cases x <;> simp [Except.mapError]

theorem mapM_eq_ok {results : List β} :
    values.mapM f = .ok results ↔ List.Forall₂ (fun value result => f value = .ok result) values results := by
  induction values generalizing results with
  | nil => simp [pure, Except.pure, eq_comm]
  | cons value rest ih =>
    rw [List.mapM_cons, List.forall₂_cons_left_iff]
    simp only [← ih]
    cases f value with
    | error error => simp [bind, Except.bind]
    | ok first => cases rest.mapM f <;> simp [bind, Except.bind, pure, Except.pure, eq_comm]

theorem exists_results_iff :
    (∃ results, List.Forall₂ (fun value result => f value = .ok result) values results) ↔
      ∀ value ∈ values, ∃ result, f value = .ok result := by
  induction values with
  | nil => simp
  | cons value rest ih =>
    rw [List.forall_mem_cons, ← ih]
    simp only [List.forall₂_cons_left_iff]
    constructor
    · rintro ⟨_, result, results, hfirst, hrest, rfl⟩
      exact ⟨⟨result, hfirst⟩, results, hrest⟩
    · rintro ⟨⟨result, hfirst⟩, results, hrest⟩
      exact ⟨_, result, results, hfirst, hrest, rfl⟩

theorem mapM_eq_error {error : ε} :
    values.mapM f = .error error ↔ ∃ before value after results, values = before ++ value :: after ∧
      List.Forall₂ (fun value result => f value = .ok result) before results ∧ f value = .error error := by
  induction values with
  | nil => simp [pure, Except.pure]
  | cons first rest ih =>
    rw [List.mapM_cons]
    cases hfirst : f first with
    | error other =>
      simp only [bind, Except.bind, Except.error.injEq]
      constructor
      · rintro rfl
        exact ⟨[], first, rest, [], rfl, .nil, hfirst⟩
      · rintro ⟨before, value, after, results, hsplit, hbefore, herror⟩
        cases hbefore with
        | nil =>
          cases hsplit
          exact Except.error.inj (hfirst.symm.trans herror)
        | cons hok =>
          cases hsplit
          cases hfirst.symm.trans hok
    | ok result =>
      -- Once the first has succeeded, only the rest can fail.
      have hrest : ((Except.ok result >>= fun result => rest.mapM f >>= fun results => pure (result :: results)) :
          Except ε (List β)) = .error error ↔ rest.mapM f = .error error := by
        cases rest.mapM f <;> simp [bind, Except.bind, pure, Except.pure]
      rw [hrest, ih]
      constructor
      · rintro ⟨before, value, after, results, rfl, hbefore, herror⟩
        exact ⟨first :: before, value, after, result :: results, rfl, .cons hfirst hbefore, herror⟩
      · rintro ⟨before, value, after, results, hsplit, hbefore, herror⟩
        cases hbefore with
        | nil =>
          cases hsplit
          cases hfirst.symm.trans herror
        | cons _ hbefore =>
          cases hsplit
          exact ⟨_, value, after, _, rfl, hbefore, herror⟩

end Fallible

end Screener
