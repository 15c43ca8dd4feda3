import Screener.Proofs.Changes

namespace Screener

namespace Formula

variable {catalog : Catalog} {formula changed : Formula}

theorem IsPlaced.delete_iff {front back : List Token.Kind} {kind : Token.Kind}
    (h : IsPlaced (front ++ kind :: back)) :
    IsPlaced (front ++ back) ↔ ∀ next ∈ back.head?, allowsAtEnd front next := by
  have hneighbours := h.neighbours
  rw [List.isChain_append, List.isChain_cons] at hneighbours
  obtain ⟨hfront, ⟨-, hback⟩, -⟩ := hneighbours
  have hone : (front ++ back).count .comparison ≤ 1 := by
    refine le_trans (List.Sublist.count_le _ ?_) h.oneComparison
    exact (List.Sublist.refl front).append (List.sublist_cons_self kind back)
  cases front using List.reverseRecOn with
  | nil => exact ⟨fun hplaced => hplaced.startsWithOperand, fun hnext => ⟨hnext, hback, hone⟩⟩
  | append_singleton front last =>
    have hlast : allowsAtEnd (front ++ [last]) = last.allowsNext := by
      funext next
      simp [allowsAtEnd]
    have hstart : ∀ kind ∈ (front ++ [last] ++ back).head?, kind.isOperand := by
      have := h.startsWithOperand
      cases front with
      | nil => exact this
      | cons first front => exact this
    rw [hlast]
    constructor
    · intro hplaced
      exact (List.isChain_append.1 hplaced.neighbours).2.2 last (by simp)
    · intro hnext
      exact ⟨hstart, List.isChain_append.2 ⟨hfront, hback, by simpa using hnext⟩, hone⟩

def exposesNumber (formula : Formula) (index : Nat) : Bool :=
  formula[index]?.any Token.isSymbol && formula[index + 1]?.any (·.kind == .number)

def exposesSymbol (formula : Formula) (index : Nat) : Bool :=
  formula[index]?.any Token.isOperand && formula[index + 1]?.any Token.isSymbol
    && (index == 0 || formula[index - 1]?.any Token.isSymbol)

/-- What came after the deleted token may not stand after what came before it in two situations only. -/
theorem allowsAtEnd_eq_false_iff {front : List Token.Kind} {kind next : Token.Kind}
    (hkind : allowsAtEnd front kind) (hnext : kind.allowsNext next) :
    allowsAtEnd front next = false ↔
      kind.isSymbol ∧ next = .number ∨
        kind.isOperand ∧ next.isSymbol ∧ ∀ last ∈ front.getLast?, last.isSymbol := by
  unfold allowsAtEnd at hkind ⊢
  generalize front.getLast? = last at hkind ⊢
  cases last with
  | none =>
    cases kind <;> cases next <;>
      simp_all [Token.Kind.allowsNext, Token.Kind.isSymbol, Token.Kind.isOperand]
  | some last =>
    cases last <;> cases kind <;> cases next <;>
      simp_all [Token.Kind.allowsNext, Token.Kind.isSymbol, Token.Kind.isOperand]

variable (front : Formula) (token next : Token) (back : Formula)

theorem exposesNumber_append :
    (front ++ token :: next :: back).exposesNumber front.length ↔ token.isSymbol ∧ next.kind = .number := by
  simp [exposesNumber]

theorem exposesSymbol_append :
    (front ++ token :: next :: back).exposesSymbol front.length ↔
      token.isOperand ∧ next.isSymbol ∧ ∀ kind ∈ (kinds front).getLast?, kind.isSymbol := by
  have htoken : (front ++ token :: next :: back)[front.length]? = some token := by simp
  have hnext : (front ++ token :: next :: back)[front.length + 1]? = some next := by simp
  rw [exposesSymbol, htoken, hnext]
  cases front using List.reverseRecOn with
  | nil => simp [kinds]
  | append_singleton front last =>
    have hlast : (front ++ [last] ++ token :: next :: back)[(front ++ [last]).length - 1]? = some last := by
      simp
    rw [hlast]
    simp [kinds, and_assoc, Token.isOperand, Token.Kind.isSymbol]

theorem isPlaced_eraseIdx_iff {index : Nat} (hplaced : IsPlaced formula.kinds) (hlt : index < formula.length) :
    IsPlaced (kinds (formula.eraseIdx index)) ↔
      ¬ (formula.exposesNumber index ∨ formula.exposesSymbol index) := by
  obtain ⟨front, token, back, rfl, rfl⟩ :
      ∃ (front : Formula) (token : Token) (back : Formula),
        formula = front ++ token :: back ∧ index = front.length := by
    refine ⟨formula.take index, formula[index], formula.drop (index + 1), ?_, ?_⟩
    · rw [← List.drop_eq_getElem_cons hlt, List.take_append_drop]
    · rw [List.length_take, Nat.min_eq_left hlt.le]
  have hkinds : kinds (front ++ token :: back) = front.kinds ++ token.kind :: back.kinds := by simp [kinds]
  have herase : kinds ((front ++ token :: back).eraseIdx front.length) = front.kinds ++ back.kinds := by
    simp [kinds, List.eraseIdx_append_of_length_le]
  rw [hkinds] at hplaced
  have hkind : allowsAtEnd front.kinds token.kind := by
    have hfront : IsPlaced (front.kinds ++ [token.kind]) := by
      apply @IsPlaced.of_append _ back.kinds
      simpa using hplaced
    exact ((hfront.of_append.append_singleton_iff token.kind).1 hfront).1
  rw [herase, hplaced.delete_iff]
  cases back with
  | nil => simp [exposesNumber, exposesSymbol, kinds]
  | cons next back =>
    have hnext : token.kind.allowsNext next.kind := by
      have hneighbours := hplaced.neighbours
      rw [List.isChain_append, List.isChain_cons] at hneighbours
      exact hneighbours.2.1.1 next.kind rfl
    have hhead : (∀ kind ∈ (kinds (next :: back)).head?, allowsAtEnd front.kinds kind) ↔
        ¬ allowsAtEnd front.kinds next.kind = false := by simp [kinds]
    rw [hhead, allowsAtEnd_eq_false_iff hkind hnext, exposesNumber_append, exposesSymbol_append]
    rfl

/-- The adjacency rules survive every edit that applies but a deletion, and a deletion unless it exposes a number to
an operand, or a symbol to the start or to another symbol. -/
theorem adjacencyProblem_apply (hkinded : formula.IsKinded) (hplaced : formula.adjacencyProblem = none) :
    (∀ (edit : Edit) (changed : Formula), edit.isDeletion = false → edit.apply catalog formula = .ok changed →
        changed.adjacencyProblem = none) ∧
      ∀ index : Nat, index < formula.length →
        (Edit.delete index).apply catalog formula = .ok (formula.eraseIdx index) ∧
          (adjacencyProblem (formula.eraseIdx index) = none ↔
            ¬ (formula.exposesNumber index ∨ formula.exposesSymbol index)) := by
  rw [adjacencyProblem_eq_none_iff hkinded] at hplaced
  constructor
  · intro edit changed hedit happly
    rw [adjacencyProblem_eq_none_iff (isKinded_apply happly hkinded)]
    exact isPlaced_apply happly hedit hplaced
  · intro index hlt
    have happly : (Edit.delete index).apply catalog formula = .ok (formula.eraseIdx index) :=
      apply_delete hlt
    refine ⟨happly, ?_⟩
    rw [adjacencyProblem_eq_none_iff (isKinded_apply happly hkinded)]
    exact isPlaced_eraseIdx_iff hplaced hlt

/-- In `F() - 1 > G()` the comparison may be deleted, but neither the operator nor the number after it. -/
theorem adjacencyProblem_apply_difference :
    let formula : Formula :=
      [⟨.function, "F()"⟩, ⟨.operator, "-"⟩, ⟨.number, "1"⟩, ⟨.comparison, ">"⟩, ⟨.function, "G()"⟩]
    formula.IsKinded ∧ formula.adjacencyProblem = none ∧
      adjacencyProblem (formula.set 1 ⟨.operator, "/"⟩) = none ∧
      adjacencyProblem (formula.eraseIdx 3) = none ∧
      adjacencyProblem (formula.eraseIdx 1) ≠ none ∧ adjacencyProblem (formula.eraseIdx 2) ≠ none := by
  intro formula
  have hkinded : formula.IsKinded := by decide
  have hplaced : formula.adjacencyProblem = none := by decide
  obtain ⟨hedits, hdeletions⟩ := @adjacencyProblem_apply .empty formula hkinded hplaced
  refine ⟨hkinded, hplaced, hedits (.setOperator 1 "/") _ rfl (by decide), ?_, ?_, ?_⟩
  · exact (hdeletions 3 (by decide)).2.2 (by decide)
  · exact fun hnone => (hdeletions 1 (by decide)).2.1 hnone (.inl (by decide))
  · exact fun hnone => (hdeletions 2 (by decide)).2.1 hnone (.inr (by decide))

end Formula

end Screener
