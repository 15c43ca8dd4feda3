import Mathlib.Data.List.Chain
import Screener.Formula.Assess

namespace Screener

def Token.Kind.allowsNext (kind : Kind) : Kind → Bool
  | .function => true
  | .number => kind.isSymbol
  | .operator | .comparison => kind.isOperand

/-- Symbols have the kind that their text makes, numbers are decimals; `isCall` says which texts calls have. -/
def Token.HasText (isCall : Text → Prop) (token : Token) : Prop :=
  match token.kind with
  | .function => isCall token.text
  | .number => isDecimal token.text
  | .operator | .comparison => classify token.text = some token.kind

def Token.IsKinded (token : Token) : Prop :=
  token.isSymbol → classify token.text = some token.kind

instance (token : Token) : Decidable token.IsKinded :=
  inferInstanceAs (Decidable (token.isSymbol → classify token.text = some token.kind))

theorem Token.HasText.imp {isCall other : Text → Prop} {token : Token} (himp : ∀ text, isCall text → other text)
    (h : token.HasText isCall) : token.HasText other := by
  obtain ⟨kind, text⟩ := token
  cases kind with
  | function => exact himp text h
  | number => exact h
  | operator => exact h
  | comparison => exact h

theorem Token.HasText.isKinded {isCall : Text → Prop} {token : Token} (h : token.HasText isCall) :
    token.IsKinded := by
  intro hsymbol
  obtain ⟨kind, text⟩ := token
  cases kind with
  | function => cases hsymbol
  | number => cases hsymbol
  | operator => exact h
  | comparison => exact h

namespace Formula

def IsKinded (formula : Formula) : Prop := ∀ token ∈ formula, token.IsKinded

instance (formula : Formula) : Decidable formula.IsKinded :=
  inferInstanceAs (Decidable (∀ token ∈ formula, token.IsKinded))

def allowsAtEnd (kinds : List Token.Kind) (kind : Token.Kind) : Bool :=
  match kinds.getLast? with
  | none => kind.isOperand
  | some last => last.allowsNext kind

structure IsPlaced (kinds : List Token.Kind) : Prop where
  startsWithOperand : ∀ kind ∈ kinds.head?, kind.isOperand
  neighbours : kinds.IsChain fun kind next => kind.allowsNext next
  oneComparison : kinds.count .comparison ≤ 1

theorem isPlaced_nil : IsPlaced [] := ⟨by simp, by simp, by simp⟩

theorem IsPlaced.of_append {kinds more : List Token.Kind} (h : IsPlaced (kinds ++ more)) :
    IsPlaced kinds := by
  refine ⟨?_, (List.isChain_append.1 h.neighbours).1, ?_⟩
  · cases kinds with
    | nil => simp
    | cons kind rest => simpa using h.startsWithOperand
  · have := h.oneComparison
    rw [List.count_append] at this
    omega

theorem count_append_singleton_le_one {kinds : List Token.Kind} {kind : Token.Kind} (h : kinds.count .comparison ≤ 1) :
    (kinds ++ [kind]).count .comparison ≤ 1 ↔ (kind = .comparison → .comparison ∉ kinds) := by
  rw [List.count_append, ← List.count_eq_zero]
  by_cases hkind : kind = .comparison
  · simp [hkind]
  · simp [hkind, h]

theorem IsPlaced.append_singleton_iff {kinds : List Token.Kind} (h : IsPlaced kinds)
    (kind : Token.Kind) :
    IsPlaced (kinds ++ [kind]) ↔
      allowsAtEnd kinds kind ∧ (kind = .comparison → .comparison ∉ kinds) := by
  have hneighbours : (∀ first ∈ (kinds ++ [kind]).head?, first.isOperand) ∧
      (kinds ++ [kind]).IsChain (fun kind next => kind.allowsNext next) ↔
        allowsAtEnd kinds kind := by
    rw [List.isChain_append, allowsAtEnd]
    cases kinds using List.reverseRecOn with
    | nil => simp
    | append_singleton front last =>
      have hhead := h.startsWithOperand
      have hchain := h.neighbours
      simp_all
  rw [← count_append_singleton_le_one h.oneComparison, ← hneighbours]
  exact ⟨fun h => ⟨⟨h.1, h.2⟩, h.3⟩, fun h => ⟨h.1.1, h.1.2, h.2⟩⟩

theorem hasComparison_iff {formula : Formula} :
    formula.hasComparison ↔ .comparison ∈ formula.kinds := by
  simp [hasComparison, kinds, Token.isComparison]

theorem getLast?_kinds (formula : Formula) :
    formula.kinds.getLast? = formula.getLast?.map Token.kind := by simp [kinds]

theorem allowsAtEnd_function (kinds : List Token.Kind) : allowsAtEnd kinds .function = true := by
  unfold allowsAtEnd
  cases kinds.getLast? <;> rfl

theorem allowsAtEnd_number (formula : Formula) :
    allowsAtEnd formula.kinds .number = formula.canAppendNumber := by
  rw [allowsAtEnd, getLast?_kinds, canAppendNumber, endsWithOperand]
  cases formula.getLast? <;> rfl

theorem allowsAtEnd_symbol (formula : Formula) {kind : Token.Kind} (h : kind.isSymbol) :
    allowsAtEnd formula.kinds kind = formula.endsWithOperand := by
  rw [allowsAtEnd, getLast?_kinds, endsWithOperand]
  cases kind with
  | function => cases h
  | number => cases h
  | operator => cases formula.getLast? <;> rfl
  | comparison => cases formula.getLast? <;> rfl

theorem operatorRejection_eq_none_iff {formula : Formula} {symbol : Text} {kind : Token.Kind}
    (h : classify symbol = some kind) :
    formula.operatorRejection symbol = none ↔
      formula.endsWithOperand ∧ (kind = .comparison → .comparison ∉ formula.kinds) := by
  rw [← hasComparison_iff]
  simp only [operatorRejection, h, endsWithSymbol, endsWithOperand]
  cases formula using List.reverseRecOn with
  | nil => simp
  | append_singleton front last => cases hlast : last.isOperand <;> simp [hlast]

theorem misplacement?_eq_none_iff {formula : Formula} {token : Token} (h : token.IsKinded) :
    formula.misplacement? token = none ↔
      allowsAtEnd formula.kinds token.kind ∧
        (token.kind = .comparison → .comparison ∉ formula.kinds) := by
  unfold misplacement?
  cases hsymbol : token.isSymbol with
  | true =>
    rw [if_pos rfl, operatorRejection_eq_none_iff (h hsymbol), allowsAtEnd_symbol formula hsymbol]
  | false =>
    cases hkind : token.kind with
    | function => simp [allowsAtEnd_function]
    | number => simp [allowsAtEnd_number]
    | operator => simp [Token.isSymbol, hkind, Token.Kind.isSymbol, Token.Kind.isOperand] at hsymbol
    | comparison => simp [Token.isSymbol, hkind, Token.Kind.isSymbol, Token.Kind.isOperand] at hsymbol

theorem adjacencyProblemAfter_eq_none_iff {before formula : Formula}
    (hbefore : IsPlaced before.kinds) (h : formula.IsKinded) :
    adjacencyProblemAfter before formula = none ↔ IsPlaced (before ++ formula).kinds := by
  induction formula generalizing before with
  | nil => simp [adjacencyProblemAfter, hbefore]
  | cons token rest ih =>
    have htoken : before.misplacement? token = none ↔ IsPlaced (before ++ [token]).kinds := by
      rw [misplacement?_eq_none_iff (h token List.mem_cons_self), ← hbefore.append_singleton_iff]
      simp [kinds]
    rw [adjacencyProblemAfter]
    cases hmis : before.misplacement? token with
    | none =>
      have hnext := htoken.1 hmis
      simp only []
      rw [ih hnext fun token hmem => h token (List.mem_cons_of_mem _ hmem)]
      simp
    | some cause =>
      have hnot : ¬ IsPlaced (before ++ token :: rest).kinds := by
        intro hplaced
        have hfront : IsPlaced ((before ++ [token]).kinds ++ rest.map Token.kind) := by
          simpa [kinds] using hplaced
        simp [htoken.2 hfront.of_append] at hmis
      simp [hnot]

theorem adjacencyProblem_eq_none_iff {formula : Formula} (h : formula.IsKinded) :
    formula.adjacencyProblem = none ↔ IsPlaced formula.kinds := by
  exact @adjacencyProblemAfter_eq_none_iff [] formula isPlaced_nil h

theorem problem?_eq_none_iff {catalog : Catalog} {formula : Formula} (h : formula.IsKinded) :
    catalog.problem? formula = none ↔ formula.defect? = none ∧ IsPlaced formula.kinds ∧
      ∀ token ∈ formula, catalog.callProblem? token = none := by
  rw [Catalog.problem?, ← adjacencyProblem_eq_none_iff h]
  cases formula.defect? with
  | some defect => simp
  | none =>
    cases formula.adjacencyProblem with
    | some problem => simp
    | none => simp

end Formula

end Screener
