import Mathlib.Data.List.Forall2
import Screener.Proofs.Fallible
import Screener.Proofs.Placement
import Screener.Proofs.Calls
import Screener.Session

namespace Screener

def Parameter.Admits (parameter : Parameter) (value : Text) : Prop :=
  match parameter.domain with
  | .number locked => isDecimal value ∧ (locked → value = parameter.default)
  | .source => value ∈ priceSeries
  | .select options => value ∈ options

theorem Parameter.check_eq_none_iff {parameter : Parameter} {value : Text} :
    parameter.check value = none ↔ parameter.Admits value := by
  unfold check Admits
  cases parameter.domain with
  | number locked => cases hdecimal : isDecimal value <;> simp
  | source => simp [Domain.options]
  | select options => simp [Domain.options]

theorem Parameter.Admits.cases {parameter : Parameter} {value : Text} (h : parameter.Admits value) :
    isDecimal value ∨ value ∈ priceSeries ∨ ∃ options, parameter.domain = .select options ∧ value ∈ options := by
  unfold Admits at h
  cases hdomain : parameter.domain with
  | number locked =>
    rw [hdomain] at h
    exact .inl h.1
  | source =>
    rw [hdomain] at h
    exact .inr (.inl h)
  | select options =>
    rw [hdomain] at h
    exact .inr (.inr ⟨options, rfl, h⟩)

/-- A value that a call can be given: accepted, and empty only as a default. -/
structure Parameter.Takes (parameter : Parameter) (value : Text) : Prop where
  accepted : parameter.check value = none
  default_of_empty : value = [] → parameter.default = []

namespace Signature

variable {signature : Signature} {values : List Text}

theorem resolve_eq_ok {given : List (Text × Argument)} :
    signature.resolve given = .ok values ↔
      List.Forall₂ (fun parameter value => parameter.resolve (given.lookup parameter.name) = .ok value)
        signature.parameters values := Fallible.mapM_eq_ok

theorem check_eq_none_iff (h : signature.parameters.length = values.length) :
    signature.check values = none ↔
      List.Forall₂ (fun parameter value => parameter.check value = none) signature.parameters values := by
  rw [List.forall₂_iff_zip, check, List.findSome?_eq_none_iff]
  constructor
  · intro hnone
    exact ⟨h, fun hmem => hnone _ hmem⟩
  · intro hall (parameter, value) hmem
    exact hall.2 hmem

end Signature

theorem Parameter.default_of_orDefault_empty {parameter : Parameter} {text : Text}
    (h : parameter.orDefault (some text) = []) : parameter.default = [] := by
  cases text with
  | nil => exact h
  | cons c rest => cases h

theorem Parameter.default_of_resolve_empty {parameter : Parameter} {given : Option Argument}
    (h : parameter.resolve given = .ok []) : parameter.default = [] := by
  unfold resolve at h
  split at h
  case h_1 => exact Except.ok.inj h
  case h_2 => exact Except.ok.inj h
  case h_3 =>
    obtain ⟨text, -, htext⟩ := Fallible.map_eq_ok.1 h
    exact default_of_orDefault_empty htext

def Catalog.Writes (catalog : Catalog) (text : Text) : Prop :=
  ∃ signature values, catalog.lookup signature.name = some signature ∧
    List.Forall₂ Parameter.Takes signature.parameters values ∧ text = Call.format signature.name values

def Token.IsBuilt (catalog : Catalog) (token : Token) : Prop := token.HasText catalog.Writes

namespace Formula

variable {catalog : Catalog} {formula changed : Formula}

theorem isBuilt_callToken {name : Text} {given : List (Text × Argument)} {token : Token}
    (h : callToken catalog name given = .ok token) : token.kind = .function ∧ token.IsBuilt catalog := by
  unfold callToken at h
  split at h
  case h_1 => cases h
  case h_2 signature hlookup =>
    split at h
    case h_1 => cases h
    case h_2 values hvalues =>
      split at h
      case h_1 => cases h
      case h_2 hcheck =>
        cases h
        have hresolved := Signature.resolve_eq_ok.1 hvalues
        have haccepted := (Signature.check_eq_none_iff hresolved.length_eq).1 hcheck
        refine ⟨rfl, signature, values, catalog.lookup_name hlookup, ?_, rfl⟩
        rw [List.forall₂_iff_zip] at hresolved haccepted ⊢
        refine ⟨hresolved.1, fun hmem => ⟨haccepted.2 hmem, ?_⟩⟩
        rintro rfl
        exact Parameter.default_of_resolve_empty (hresolved.2 hmem)

inductive Change (catalog : Catalog) (formula : Formula) : Formula → Prop
  | append {token : Token} : token.IsBuilt catalog → formula.misplacement? token = none →
      Change catalog formula (formula ++ [token])
  | sameKind {index : Nat} {old token : Token} : formula[index]? = some old → token.IsBuilt catalog →
      token.kind = old.kind → Change catalog formula (formula.set index token)
  | symbol {index : Nat} {old token : Token} : formula[index]? = some old → token.IsBuilt catalog →
      old.isSymbol → token.isSymbol →
        (token.isComparison → formula.hasComparisonBesides index = false) →
          Change catalog formula (formula.set index token)
  | truncate : Change catalog formula formula.dropLast
  | clear : Change catalog formula []

theorem at?_eq_some {index : Int} {token : Token} (h : formula.at? index = some token) :
    ∃ i : Nat, index = i ∧ formula[i]? = some token := by
  unfold at? at h
  split at h
  case isTrue hpos => exact ⟨index.toNat, (Int.toNat_of_nonneg hpos).symm, h⟩
  case isFalse => cases h

theorem at?_natCast (formula : Formula) (index : Nat) : formula.at? index = formula[index]? :=
  if_pos (Int.natCast_nonneg index)

theorem isBuilt_of_classify (catalog : Catalog) {symbol : Text} {kind : Token.Kind} (h : classify symbol = some kind) :
    kind.isSymbol ∧ Token.IsBuilt catalog ⟨kind, symbol⟩ := by
  have hkind : kind = .comparison ∨ kind = .operator := by
    unfold classify at h
    split at h
    case isTrue => exact .inl (Option.some.inj h).symm
    case isFalse =>
      split at h
      case isTrue => exact .inr (Option.some.inj h).symm
      case isFalse => cases h
  cases hkind with
  | inl hkind =>
    subst hkind
    exact ⟨rfl, h⟩
  | inr hkind =>
    subst hkind
    exact ⟨rfl, h⟩

theorem ne_ok_of_rejectAt (reason : Int → Rejection) (index : Int) : rejectAt reason index ≠ .ok changed := by
  unfold rejectAt
  split <;> nofun

theorem change_appendOperator {symbol : Text} (h : formula.appendOperator symbol = .ok changed) :
    Change catalog formula changed := by
  unfold appendOperator at h
  split at h
  case h_1 kind hclass hreject =>
    cases h
    obtain ⟨hsymbol, hbuilt⟩ := isBuilt_of_classify catalog hclass
    refine .append hbuilt ?_
    have htoken : Token.isSymbol ⟨kind, symbol⟩ := hsymbol
    rw [misplacement?, if_pos htoken]
    exact hreject
  all_goals cases h

theorem change_appendNumber {literal : Text} (h : formula.appendNumber literal = .ok changed) :
    Change catalog formula changed := by
  unfold appendNumber at h
  split at h
  case isTrue => cases h
  case isFalse hdecimal =>
    split at h
    case isTrue => cases h
    case isFalse happend =>
      cases h
      refine .append (by simpa [Token.IsBuilt, Token.HasText] using hdecimal) ?_
      simpa [misplacement?, Token.isOperand, Token.Kind.isOperand] using happend

theorem change_putCall {token : Token} {target : Option Int} (hkind : token.kind = .function)
    (hbuilt : token.IsBuilt catalog) (h : formula.putCall token target = .ok changed) :
    Change catalog formula changed := by
  unfold putCall at h
  split at h
  case h_1 =>
    cases h
    refine .append hbuilt ?_
    simp [misplacement?, Token.isOperand, Token.Kind.isOperand, hkind]
  case h_2 index =>
    split at h
    case h_1 old hold =>
      obtain ⟨i, rfl, hold⟩ := at?_eq_some hold
      split at h
      case isTrue hfunction =>
        cases h
        exact .sameKind hold hbuilt (hkind.trans hfunction.symm)
      case isFalse => exact absurd h (ne_ok_of_rejectAt _ _)
    case h_2 => exact absurd h (ne_ok_of_rejectAt _ _)

theorem change_setOperator {index : Int} {symbol : Text}
    (h : formula.setOperator index symbol = .ok changed) : Change catalog formula changed := by
  unfold setOperator at h
  split at h
  case h_1 => cases h
  case h_2 kind hclass =>
    obtain ⟨hsymbol, hbuilt⟩ := isBuilt_of_classify catalog hclass
    split at h
    case h_1 old hold =>
      split at h
      case isTrue => exact absurd h (ne_ok_of_rejectAt _ _)
      case isFalse hsymbolOld =>
        split at h
        case isTrue hset =>
          cases h
          rw [canSetOperator, hclass, hold] at hset
          obtain ⟨i, rfl, hold⟩ := at?_eq_some hold
          refine .symbol hold hbuilt (by simpa using hsymbolOld) hsymbol ?_
          intro hcomparison
          have hkind : kind = .comparison := by simpa [Token.isComparison] using hcomparison
          simpa [hkind] using (Bool.and_eq_true_iff.1 hset).2
        case isFalse => cases h
    case h_2 => exact absurd h (ne_ok_of_rejectAt _ _)

theorem change_setNumber {index : Int} {literal : Text}
    (h : formula.setNumber index literal = .ok changed) : Change catalog formula changed := by
  unfold setNumber at h
  split at h
  case h_1 old hold =>
    obtain ⟨i, rfl, hold⟩ := at?_eq_some hold
    split at h
    case isTrue => exact absurd h (ne_ok_of_rejectAt _ _)
    case isFalse hkind =>
      split at h
      case isTrue => cases h
      case isFalse hdecimal =>
        cases h
        have hnumber : old.kind = .number := not_not.1 hkind
        exact .sameKind hold (by simpa [Token.IsBuilt, Token.HasText] using hdecimal) hnumber.symm
  case h_2 => exact absurd h (ne_ok_of_rejectAt _ _)

theorem remove?_eq_some_iff {index : Int} :
    formula.remove? index = some changed ↔
      ∃ i : Nat, index = i ∧ i < formula.length ∧ changed = formula.eraseIdx i := by
  rw [remove?, Option.ite_none_right_eq_some, inRange_iff, Option.some.injEq]
  constructor
  · rintro ⟨⟨hpos, hlt⟩, rfl⟩
    exact ⟨index.toNat, by omega, by omega, rfl⟩
  · rintro ⟨i, rfl, hlt, rfl⟩
    exact ⟨⟨by omega, by omega⟩, rfl⟩

theorem mem_of_remove? {index : Int} (h : formula.remove? index = some changed) :
    ∀ token ∈ changed, token ∈ formula := by
  obtain ⟨i, -, -, rfl⟩ := remove?_eq_some_iff.1 h
  intro token hmem
  exact List.mem_of_mem_eraseIdx hmem

theorem apply_delete {index : Nat} (hlt : index < formula.length) :
    (Edit.delete index).apply catalog formula = .ok (formula.eraseIdx index) := by
  rw [Edit.apply, delete, remove?_eq_some_iff.2 ⟨index, rfl, hlt, rfl⟩]

end Formula

namespace Edit

variable {catalog : Catalog} {formula : Formula} {literal : Argument} {text : Text}

theorem apply_appendNumber (h : literalText literal = .ok text) :
    (appendNumber literal).apply catalog formula = formula.appendNumber text := by
  rw [apply, h]
  rfl

theorem apply_setNumber (h : literalText literal = .ok text) (index : Int) :
    (setNumber index literal).apply catalog formula = formula.setNumber index text := by
  rw [apply, h]
  rfl

end Edit

def Edit.isDeletion : Edit → Bool
  | .delete _ => true
  | _ => false

theorem Edit.apply_cases {catalog : Catalog} {formula changed : Formula} {edit : Edit}
    (h : edit.apply catalog formula = .ok changed) :
    Formula.Change catalog formula changed ∨
      ∃ index, edit = .delete index ∧ formula.remove? index = some changed := by
  cases edit with
  | appendOperator symbol => exact .inl (Formula.change_appendOperator h)
  | appendNumber literal =>
    obtain ⟨text, -, h⟩ := Fallible.bind_eq_ok.1 h
    exact .inl (Formula.change_appendNumber h)
  | putCall name values target =>
    obtain ⟨token, htoken, h⟩ := Fallible.bind_eq_ok.1 h
    obtain ⟨hkind, hbuilt⟩ := Formula.isBuilt_callToken htoken
    exact .inl (Formula.change_putCall hkind hbuilt h)
  | setOperator index symbol => exact .inl (Formula.change_setOperator h)
  | setNumber index literal =>
    obtain ⟨text, -, h⟩ := Fallible.bind_eq_ok.1 h
    exact .inl (Formula.change_setNumber h)
  | delete index =>
    rw [Edit.apply, Formula.delete] at h
    cases hremove : formula.remove? index with
    | none =>
      rw [hremove] at h
      exact absurd h (Formula.ne_ok_of_rejectAt _ _)
    | some rest =>
      rw [hremove] at h
      cases h
      exact .inr ⟨index, rfl, hremove⟩
  | truncate =>
    rw [Edit.apply, Formula.truncate] at h
    split at h
    case isTrue => cases h
    case isFalse =>
      cases h
      exact .inl .truncate
  | clear =>
    rw [Edit.apply, Formula.clear] at h
    split at h
    case isTrue => cases h
    case isFalse =>
      cases h
      exact .inl .clear

namespace Formula

variable {catalog : Catalog} {formula changed : Formula}

def IsBuilt (catalog : Catalog) (formula : Formula) : Prop := ∀ token ∈ formula, token.IsBuilt catalog

theorem Change.mem_or_isBuilt {token : Token} (h : Change catalog formula changed) (hmem : token ∈ changed) :
    token ∈ formula ∨ token.IsBuilt catalog := by
  cases h with
  | append hnew _ =>
    cases List.mem_append.1 hmem with
    | inl hmem => exact .inl hmem
    | inr hmem => exact .inr (List.mem_singleton.1 hmem ▸ hnew)
  | sameKind _ hnew _ =>
    cases List.mem_or_eq_of_mem_set hmem with
    | inl hmem => exact .inl hmem
    | inr heq => exact .inr (heq ▸ hnew)
  | symbol _ hnew _ _ _ =>
    cases List.mem_or_eq_of_mem_set hmem with
    | inl hmem => exact .inl hmem
    | inr heq => exact .inr (heq ▸ hnew)
  | truncate => exact .inl ((List.dropLast_sublist formula).subset hmem)
  | clear => cases hmem

theorem mem_or_isBuilt_apply {edit : Edit} {token : Token} (h : edit.apply catalog formula = .ok changed)
    (hmem : token ∈ changed) : token ∈ formula ∨ token.IsBuilt catalog := by
  cases Edit.apply_cases h with
  | inl hchange => exact hchange.mem_or_isBuilt hmem
  | inr hdelete =>
    obtain ⟨index, -, hremove⟩ := hdelete
    exact .inl (mem_of_remove? hremove token hmem)

theorem isBuilt_apply {edit : Edit} (h : edit.apply catalog formula = .ok changed)
    (hbuilt : formula.IsBuilt catalog) : changed.IsBuilt catalog := by
  intro token hmem
  cases mem_or_isBuilt_apply h hmem with
  | inl hold => exact hbuilt token hold
  | inr hnew => exact hnew

theorem isKinded_apply {edit : Edit} (h : edit.apply catalog formula = .ok changed)
    (hkinded : formula.IsKinded) : changed.IsKinded := by
  intro token hmem
  cases mem_or_isBuilt_apply h hmem with
  | inl hold => exact hkinded token hold
  | inr hnew => exact hnew.isKinded

theorem hasComparisonBesides_eq_false {index : Nat} :
    formula.hasComparisonBesides index = false ↔
      ∀ i token, formula[i]? = some token → token.isComparison → i = index := by
  simp only [hasComparisonBesides, List.any_eq_false, List.mem_zipIdx_iff_getElem?, Bool.and_eq_true,
    bne_iff_ne, ne_eq, not_and, not_not]
  constructor
  · intro h i token hget hcomparison
    exact Int.ofNat.inj (h (token, i) hget hcomparison)
  · intro h (token, i) hget hcomparison
    exact congrArg Int.ofNat (h i token hget hcomparison)

theorem allowsNext_symbol {kind : Token.Kind} (h : kind.isSymbol) (before : Token.Kind) :
    before.allowsNext kind = before.isOperand := by
  cases kind with
  | function => cases h
  | number => cases h
  | operator => rfl
  | comparison => rfl

theorem symbol_allowsNext {old kind : Token.Kind} (hold : old.isSymbol) (hkind : kind.isSymbol)
    (next : Token.Kind) : old.allowsNext next = kind.allowsNext next := by
  cases next with
  | function => rfl
  | number => exact hold.trans hkind.symm
  | operator => exact Bool.not_inj (hold.trans hkind.symm)
  | comparison => exact Bool.not_inj (hold.trans hkind.symm)

theorem IsPlaced.replace_symbol {front back : List Token.Kind} {old kind : Token.Kind}
    (h : IsPlaced (front ++ old :: back)) (hold : old.isSymbol) (hkind : kind.isSymbol)
    (hone : (front ++ kind :: back).count .comparison ≤ 1) : IsPlaced (front ++ kind :: back) := by
  refine ⟨?_, ?_, hone⟩
  · cases front with
    | nil =>
      have hoperand : old.isOperand := h.startsWithOperand old rfl
      rw [Token.Kind.isSymbol, hoperand] at hold
      cases hold
    | cons first front => exact h.startsWithOperand
  · have hneighbours := h.neighbours
    rw [List.isChain_append, List.isChain_cons] at hneighbours ⊢
    obtain ⟨hfront, ⟨hnext, hback⟩, hlast⟩ := hneighbours
    refine ⟨hfront, ⟨?_, hback⟩, ?_⟩
    · intro next hmem
      rw [← symbol_allowsNext hold hkind]
      exact hnext next hmem
    · rintro last hmem _ ⟨⟩
      rw [allowsNext_symbol hkind, ← allowsNext_symbol hold]
      exact hlast last hmem old rfl

theorem count_set_le_one {kinds : List Token.Kind} {index : Nat} {kind : Token.Kind}
    (h : kinds.count .comparison ≤ 1)
    (hone : kind = .comparison → ∀ i : Nat, kinds[i]? = some .comparison → i = index) :
    (kinds.set index kind).count .comparison ≤ 1 := by
  by_cases hlt : index < kinds.length
  · rw [List.count_set hlt]
    by_cases hkind : kind = .comparison
    · by_cases hmem : .comparison ∈ kinds
      · obtain ⟨i, hi⟩ := List.getElem?_of_mem hmem
        have hold : kinds[index] = .comparison := by
          rw [hone hkind i hi] at hi
          simpa [hlt] using hi
        simp only [hold, hkind, beq_self_eq_true, if_true]
        omega
      · simp [List.count_eq_zero.2 hmem, hkind]
    · have hbeq : (kind == .comparison) = false := by simpa using hkind
      rw [hbeq, if_neg Bool.false_ne_true]
      omega
  · rwa [List.set_eq_of_length_le (by omega)]

theorem IsPlaced.set_symbol {kinds : List Token.Kind} {index : Nat} {old kind : Token.Kind}
    (h : IsPlaced kinds) (hget : kinds[index]? = some old) (hold : old.isSymbol) (hkind : kind.isSymbol)
    (hone : kind = .comparison → ∀ i : Nat, kinds[i]? = some .comparison → i = index) :
    IsPlaced (kinds.set index kind) := by
  obtain ⟨hlt, rfl⟩ := List.getElem?_eq_some_iff.1 hget
  have hsplit : kinds = kinds.take index ++ kinds[index] :: kinds.drop (index + 1) := by
    rw [← List.drop_eq_getElem_cons hlt, List.take_append_drop]
  have hcount := count_set_le_one h.oneComparison hone
  rw [List.set_eq_take_append_cons_drop, if_pos hlt] at hcount ⊢
  rw [hsplit] at h
  exact h.replace_symbol hold hkind hcount

theorem getElem?_kinds (formula : Formula) (i : Nat) :
    formula.kinds[i]? = formula[i]?.map Token.kind := List.getElem?_map

theorem kinds_append_singleton (formula : Formula) (token : Token) :
    kinds (formula ++ [token]) = formula.kinds ++ [token.kind] := List.map_append

theorem kinds_set (formula : Formula) (index : Nat) (token : Token) :
    kinds (formula.set index token) = formula.kinds.set index token.kind := List.map_set

theorem kinds_set_of_kind_eq {index : Nat} {old token : Token} (hget : formula[index]? = some old)
    (hkind : token.kind = old.kind) : kinds (formula.set index token) = formula.kinds := by
  have hold : formula.kinds[index]? = some token.kind := by
    rw [getElem?_kinds, hget, hkind]
    rfl
  obtain ⟨hlt, hkinds⟩ := List.getElem?_eq_some_iff.1 hold
  rw [kinds_set, ← hkinds, List.set_getElem_self]

theorem eq_of_hasComparisonBesides {index : Nat} {token : Token}
    (h : token.isComparison → formula.hasComparisonBesides index = false) (hkind : token.kind = .comparison) (i : Nat)
    (hget : formula.kinds[i]? = some .comparison) : i = index := by
  rw [getElem?_kinds, Option.map_eq_some_iff] at hget
  obtain ⟨other, hother, hcomparison⟩ := hget
  have hbesides := hasComparisonBesides_eq_false.1 (h (by simp [Token.isComparison, hkind]))
  exact hbesides i other hother (by simp [Token.isComparison, hcomparison])

theorem Change.isPlaced (h : Change catalog formula changed) (hplaced : IsPlaced formula.kinds) :
    IsPlaced changed.kinds := by
  cases h with
  | @append token hnew hrules =>
    rw [misplacement?_eq_none_iff hnew.isKinded] at hrules
    rw [kinds_append_singleton, hplaced.append_singleton_iff]
    exact hrules
  | sameKind hold _ hkind => rwa [kinds_set_of_kind_eq hold hkind]
  | @symbol index old token hold _ hsymbolOld hsymbol hone =>
    rw [kinds_set]
    apply hplaced.set_symbol _ hsymbolOld hsymbol (eq_of_hasComparisonBesides hone)
    rw [getElem?_kinds, hold]
    rfl
  | truncate =>
    have hkinds : kinds formula.dropLast = formula.kinds.dropLast := List.map_dropLast
    rw [hkinds]
    cases hlast : formula.kinds using List.reverseRecOn with
    | nil => exact isPlaced_nil
    | append_singleton front last =>
      rw [hlast] at hplaced
      rw [List.dropLast_concat]
      exact hplaced.of_append
  | clear => exact isPlaced_nil

theorem isPlaced_apply {edit : Edit} (h : edit.apply catalog formula = .ok changed)
    (hedit : edit.isDeletion = false) (hplaced : IsPlaced formula.kinds) : IsPlaced changed.kinds := by
  cases Edit.apply_cases h with
  | inl hchange => exact hchange.isPlaced hplaced
  | inr hdelete =>
    obtain ⟨index, rfl, -⟩ := hdelete
    cases hedit

end Formula

namespace Session

variable {P : Formula → Prop}

theorem edit_cases (session : Session) (edit : Edit) :
    (session.edit edit).1.catalog = session.catalog ∧
      ((session.edit edit).1.formula = session.formula ∨
        edit.apply session.catalog session.formula = .ok (session.edit edit).1.formula) := by
  unfold Session.edit
  cases edit.apply session.catalog session.formula with
  | ok formula => exact ⟨rfl, .inr rfl⟩
  | error refusal => cases refusal <;> exact ⟨rfl, .inl rfl⟩

theorem run_cons (session : Session) (first : Edit) (rest : List Edit) :
    (session.run (first :: rest)).1 = ((session.edit first).1.run rest).1 := rfl

theorem run_induction {session : Session} {edits : List Edit}
    (hstep : ∀ edit ∈ edits, ∀ formula changed, P formula →
      edit.apply session.catalog formula = .ok changed → P changed)
    (h : P session.formula) : P (session.run edits).1.formula := by
  induction edits generalizing session with
  | nil => exact h
  | cons first rest ih =>
    obtain ⟨hcatalog, hformula⟩ := edit_cases session first
    rw [List.forall_mem_cons] at hstep
    rw [run_cons]
    apply ih
    · rw [hcatalog]
      exact hstep.2
    · cases hformula with
      | inl hformula => rwa [hformula]
      | inr hformula => exact hstep.1 _ _ h hformula

end Session

end Screener
