import Mathlib.Computability.RegularExpressions
import Screener.Proofs.Placement

/-!
The formulas that are complete and placed, as a regular pattern of kinds: on each side of one comparison
stand runs with operators between them, where a run is an operand followed by functions.
-/

open scoped Computability

namespace Screener.Formula

namespace Pattern

open RegularExpression

def run : RegularExpression Token.Kind :=
  (char .function + char .number) * (char Token.Kind.function).star

def side : RegularExpression Token.Kind := run * (char Token.Kind.operator * run).star

def comparison : RegularExpression Token.Kind := side * char .comparison * side

def afterOperand (ending : Language Token.Kind) : Language Token.Kind :=
  ({[.function]} : Language Token.Kind)∗ * (({[.operator]} * run.matches')∗ * ending)

def afterSymbol (ending : Language Token.Kind) : Language Token.Kind :=
  ({[.function]} + {[.number]}) * afterOperand ending

def after (kind : Token.Kind) (pending : Bool) : Language Token.Kind :=
  let ending := if pending then {[.comparison]} * afterSymbol 1 else 1
  if kind.isOperand then afterOperand ending else afterSymbol ending

theorem kstar_mul (l m : Language Token.Kind) : l∗ * m = m + l * (l∗ * m) := by
  conv_lhs => rw [← Language.one_add_self_mul_kstar_eq_kstar]
  rw [add_mul, one_mul, mul_assoc]

theorem nil_notMem_letter_mul {letter : Token.Kind} {l : Language Token.Kind} :
    [] ∉ ({[letter]} : Language Token.Kind) * l := by
  rw [Language.mem_mul]
  rintro ⟨_, rfl, _, _, h⟩
  cases h

theorem cons_mem_letter_mul {letter kind : Token.Kind} {kinds : List Token.Kind}
    {l : Language Token.Kind} :
    kind :: kinds ∈ ({[letter]} : Language Token.Kind) * l ↔ kind = letter ∧ kinds ∈ l := by
  rw [Language.mem_mul]
  constructor
  · rintro ⟨_, rfl, rest, hrest, h⟩
    cases h
    exact ⟨rfl, hrest⟩
  · rintro ⟨rfl, hrest⟩
    exact ⟨[kind], rfl, kinds, hrest, rfl⟩

theorem afterOperand_eq (ending : Language Token.Kind) :
    afterOperand ending =
      {[.function]} * afterOperand ending + ({[.operator]} * afterSymbol ending + ending) := by
  have hruns : ({[.operator]} * run.matches')∗ * ending =
      ending + {[.operator]} * afterSymbol ending := by
    rw [kstar_mul]
    simp only [afterSymbol, afterOperand, run, matches'_mul, matches'_add, matches'_char,
      matches'_star, mul_assoc]
  conv_lhs => rw [afterOperand, kstar_mul, ← afterOperand, hruns]
  rw [add_comm, add_comm ending]

theorem nil_mem_afterOperand {ending : Language Token.Kind} :
    [] ∈ afterOperand ending ↔ [] ∈ ending := by
  rw [afterOperand_eq, Language.mem_add, Language.mem_add]
  simp [nil_notMem_letter_mul]

theorem cons_mem_afterOperand {ending : Language Token.Kind} {kind : Token.Kind}
    {kinds : List Token.Kind} :
    kind :: kinds ∈ afterOperand ending ↔
      kind = .function ∧ kinds ∈ afterOperand ending ∨
        kind = .operator ∧ kinds ∈ afterSymbol ending ∨ kind :: kinds ∈ ending := by
  rw [afterOperand_eq, Language.mem_add, Language.mem_add, cons_mem_letter_mul,
    cons_mem_letter_mul, ← afterOperand_eq]

theorem nil_notMem_afterSymbol {ending : Language Token.Kind} : [] ∉ afterSymbol ending := by
  rw [afterSymbol, add_mul, Language.mem_add]
  simp [nil_notMem_letter_mul]

theorem cons_mem_afterSymbol {ending : Language Token.Kind} {kind : Token.Kind}
    {kinds : List Token.Kind} :
    kind :: kinds ∈ afterSymbol ending ↔ kind.isOperand ∧ kinds ∈ afterOperand ending := by
  rw [afterSymbol, add_mul, Language.mem_add, cons_mem_letter_mul, cons_mem_letter_mul]
  cases kind <;> simp [Token.Kind.isOperand]

theorem matches'_comparison :
    comparison.matches' = afterSymbol ({[.comparison]} * afterSymbol 1) := by
  simp only [comparison, side, run, afterSymbol, afterOperand, matches'_mul, matches'_add,
    matches'_char, matches'_star, mul_assoc, mul_one]

/-- From any kind on, the pattern demands neighbours that may stand side by side, as many comparisons as
are pending, and an operand at the end. -/
theorem mem_after_iff {kind : Token.Kind} {kinds : List Token.Kind} {pending : Bool} :
    kinds ∈ after kind pending ↔
      (kind :: kinds).IsChain (fun kind next => kind.allowsNext next) ∧
        kinds.count .comparison = pending.toNat ∧
          (kinds.getLast?.getD kind).isOperand := by
  induction kinds generalizing kind pending with
  | nil =>
    cases kind <;> cases pending <;>
      simp [after, Token.Kind.isOperand, nil_mem_afterOperand, nil_notMem_afterSymbol,
        nil_notMem_letter_mul]
  | cons next rest ih =>
    have hnext : next :: rest ∈ after kind pending ↔
        kind.allowsNext next ∧ (next = .comparison → pending) ∧
          rest ∈ after next (pending && decide (next ≠ .comparison)) := by
      cases kind <;> cases next <;> cases pending <;>
        simp [after, Token.Kind.isOperand, Token.Kind.allowsNext, Token.Kind.isSymbol,
          cons_mem_afterOperand, cons_mem_afterSymbol, cons_mem_letter_mul, Language.mem_one]
    rw [hnext, ih, List.isChain_cons_cons, List.getLast?_cons, List.count_cons]
    cases next <;> cases pending <;> simp [and_assoc]

end Pattern

theorem any_isOperand_take {formula : Formula} {index : Nat} (h : IsPlaced formula.kinds)
    (hlt : index < formula.length) (hcomparison : formula[index].isComparison) :
    (formula.take index).any Token.isOperand := by
  cases formula with
  | nil => cases hlt
  | cons first rest =>
    have hfirst : first.isOperand := h.startsWithOperand first.kind rfl
    cases index with
    | zero =>
      have : first.kind = .comparison := by simpa [Token.isComparison] using hcomparison
      simp [Token.isOperand, this, Token.Kind.isOperand] at hfirst
    | succ index => simp [hfirst]

theorem any_isOperand_drop {formula : Formula} {index : Nat} (hends : formula.endsWithOperand)
    (hlt : index < formula.length) (hcomparison : formula[index].isComparison) :
    (formula.drop (index + 1)).any Token.isOperand := by
  cases formula using List.reverseRecOn with
  | nil => cases hlt
  | append_singleton front last =>
    have hlast : last.isOperand := by simpa [endsWithOperand] using hends
    have hne : index ≠ front.length := by
      rintro rfl
      have : last.kind = .comparison := by simpa [Token.isComparison] using hcomparison
      simp [Token.isOperand, this, Token.Kind.isOperand] at hlast
    have hle : index + 1 ≤ front.length := by
      rw [List.length_append, List.length_singleton] at hlt
      omega
    simp [List.drop_append_of_le_length hle, hlast]

theorem endsWithSymbol_eq {formula : Formula} (h : formula ≠ []) :
    formula.endsWithSymbol = !formula.endsWithOperand := by
  cases formula using List.reverseRecOn with
  | nil => exact absurd rfl h
  | append_singleton front last => simp [endsWithSymbol, endsWithOperand]

/-- A placed formula lacks nothing if it has a comparison and ends with an operand: its first token and its
last one are then the operands on the two sides. -/
theorem IsPlaced.defect?_eq_none_iff {formula : Formula} (h : IsPlaced formula.kinds) :
    formula.defect? = none ↔ .comparison ∈ formula.kinds ∧ formula.endsWithOperand := by
  unfold defect?
  cases hindex : formula.comparisonIndex with
  | none =>
    have : .comparison ∉ formula.kinds := by
      simpa [comparisonIndex, kinds, Token.isComparison] using hindex
    cases formula <;> simp_all
  | some index =>
    obtain ⟨hlt, hcomparison, -⟩ := List.findIdx?_eq_some_iff_getElem.1 hindex
    have hmem : .comparison ∈ formula.kinds := by
      rw [← hasComparison_iff, hasComparison, List.any_eq_true]
      exact ⟨formula[index], List.getElem_mem hlt, hcomparison⟩
    have hne : formula ≠ [] := List.ne_nil_of_length_pos (Nat.zero_lt_of_lt hlt)
    have hleft := any_isOperand_take h hlt hcomparison
    have hright := fun hends => any_isOperand_drop hends hlt hcomparison
    simp only [List.isEmpty_iff, hne, if_false, hleft, Bool.not_true, endsWithSymbol_eq hne]
    cases hends : formula.endsWithOperand with
    | true => simp [hright hends, hmem]
    | false => cases (formula.drop (index + 1)).any Token.isOperand <;> simp

theorem kinds_mem_comparison_iff {formula : Formula} :
    formula.kinds ∈ Pattern.comparison.matches' ↔
      IsPlaced formula.kinds ∧ .comparison ∈ formula.kinds ∧ formula.endsWithOperand := by
  rw [Pattern.matches'_comparison]
  cases formula with
  | nil => simp [kinds, Pattern.nil_notMem_afterSymbol]
  | cons first rest =>
    have hafter : kinds (first :: rest) ∈ Pattern.afterSymbol ({[.comparison]} * Pattern.afterSymbol 1) ↔
        first.isOperand ∧ kinds rest ∈ Pattern.after first.kind true := by
      rw [kinds, List.map_cons, Pattern.cons_mem_afterSymbol]
      cases hfirst : first.isOperand <;> simp_all [Pattern.after, Token.isOperand, kinds]
    have hends : endsWithOperand (first :: rest) = ((kinds rest).getLast?.getD first.kind).isOperand := by
      rw [endsWithOperand, List.getLast?_cons, getLast?_kinds]
      cases List.getLast? rest <;> rfl
    have hcount (hfirst : first.isOperand) :
        (kinds (first :: rest)).count .comparison = (kinds rest).count .comparison := by
      apply List.count_cons_of_ne
      intro h
      rw [Token.isOperand, h] at hfirst
      cases hfirst
    rw [hafter, Pattern.mem_after_iff, hends, ← List.count_pos_iff]
    constructor
    · rintro ⟨hfirst, hchain, hone, hlast⟩
      rw [← hcount hfirst] at hone
      refine ⟨⟨?_, hchain, hone.le⟩, hone ▸ Nat.one_pos, hlast⟩
      rintro kind ⟨⟩
      exact hfirst
    · rintro ⟨⟨hfirst, hchain, hle⟩, hpos, hlast⟩
      have hfirst : first.isOperand := hfirst first.kind rfl
      exact ⟨hfirst, hchain, hcount hfirst ▸ Nat.le_antisymm hle hpos, hlast⟩

theorem complete_and_placed_iff_matches {formula : Formula} (h : formula.IsKinded) :
    formula.defect? = none ∧ formula.adjacencyProblem = none ↔
      formula.kinds ∈ Pattern.comparison.matches' := by
  rw [adjacencyProblem_eq_none_iff h, kinds_mem_comparison_iff]
  constructor
  · rintro ⟨hdefect, hplaced⟩
    exact ⟨hplaced, hplaced.defect?_eq_none_iff.1 hdefect⟩
  · rintro ⟨hplaced, hends⟩
    exact ⟨hplaced.defect?_eq_none_iff.2 hends, hplaced⟩

theorem operator_run_matches :
    IsKinded [⟨.function, "F()"⟩, ⟨.operator, "-"⟩, ⟨.number, "1"⟩, ⟨.comparison, ">="⟩, ⟨.number, "-5"⟩,
      ⟨.function, "G()"⟩] ∧
      kinds [⟨.function, "F()"⟩, ⟨.operator, "-"⟩, ⟨.number, "1"⟩, ⟨.comparison, ">="⟩, ⟨.number, "-5"⟩,
        ⟨.function, "G()"⟩] ∈ Pattern.comparison.matches' :=
  ⟨by decide, (complete_and_placed_iff_matches (by decide)).1 (by decide)⟩

end Screener.Formula
