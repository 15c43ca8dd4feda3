import Screener.Text.Basic

namespace Screener

abbrev Entries (α : Type) (κ : Type := Text) := List (κ × α)

namespace Entries

variable {α κ : Type} [DecidableEq κ]

def names (entries : Entries α κ) : List κ := entries.map (·.1)

def put : Entries α κ → κ → α → Entries α κ
  | [], name, value => [(name, value)]
  | (other, old) :: rest, name, value =>
    if other = name then (name, value) :: rest else (other, old) :: put rest name value

/-- Of a repeated name the first place and the last value count. -/
def ofList (entries : List (κ × α)) : Entries α κ :=
  entries.foldl (fun seen (name, value) => put seen name value) []

theorem names_put_of_mem {entries : Entries α κ} {name : κ} (value : α)
    (h : name ∈ names entries) : names (put entries name value) = names entries := by
  induction entries with
  | nil => simp [names] at h
  | cons first rest ih =>
    obtain ⟨other, old⟩ := first
    by_cases heq : other = name
    · simp [names, put, heq]
    · have hrest : name ∈ names rest := by
        simp only [names, List.map_cons, List.mem_cons] at h
        exact h.resolve_left fun h => heq h.symm
      have := ih hrest
      simp only [names] at this
      simp [names, put, heq, this]

theorem put_of_not_mem {entries : Entries α κ} {name : κ} (value : α)
    (h : name ∉ names entries) : put entries name value = entries ++ [(name, value)] := by
  induction entries with
  | nil => rfl
  | cons first rest ih =>
    obtain ⟨other, old⟩ := first
    simp only [names, List.map_cons, List.mem_cons, not_or] at h
    simp [put, Ne.symm h.1, ih (by simpa [names] using h.2)]

variable [BEq κ] [LawfulBEq κ]

theorem lookup_cons (name : κ) (value : α) (rest : Entries α κ) (other : κ) :
    ((name, value) :: rest).lookup other = if other = name then some value else rest.lookup other := by
  by_cases h : other = name
  · simp [h]
  · simp [List.lookup_cons, h, beq_eq_false_iff_ne.2 h]

theorem lookup_put (entries : Entries α κ) (name : κ) (value : α) (other : κ) :
    (put entries name value).lookup other =
      if other = name then some value else entries.lookup other := by
  induction entries with
  | nil => rw [put, lookup_cons]
  | cons first rest ih =>
    obtain ⟨key, old⟩ := first
    by_cases hk : key = name
    · subst hk
      simp only [put, if_true, lookup_cons]
      split <;> rfl
    · simp only [put, if_neg hk, lookup_cons, ih]
      by_cases ho : other = key
      · simp [ho, hk]
      · simp [ho]

end Entries

end Screener
