import Screener.Formula.Assess
import Screener.Proofs.Changes
import Screener.Proofs.Layout

/-!
What is accepted as text can be built by edits.  The tokens are put at the end one after the other; a call is put
with the values that its text is read with, so spacing, case, missing and superfluous arguments are gone.
-/

namespace Screener

def Edit.isAppend : Edit → Bool
  | .appendOperator _ | .appendNumber _ | .putCall _ _ none => true
  | _ => false

/-- Tokens of one kind that have the same text, or that are calls of one function with the same values. -/
def Token.Agrees (catalog : Catalog) (token other : Token) : Prop :=
  token.kind = other.kind ∧ (token.kind ≠ .function → token.text = other.text) ∧
    (token.kind = .function → ∃ reading again, catalog.decode? token.text = some reading ∧
      catalog.decode? other.text = some again ∧ reading.known ∧ again.known ∧
        reading.name = again.name ∧ reading.namedValues = again.namedValues)

def Catalog.HasPlainDefaults (catalog : Catalog) : Prop :=
  ∀ signature ∈ catalog.functions, ∀ parameter ∈ signature.parameters, parameter.default.IsArgument

theorem Catalog.hasPlainDefaults_builtIn : builtIn.HasPlainDefaults := by
  unfold Catalog.HasPlainDefaults
  decide +kernel

namespace Signature

variable {signature : Signature} {values : List Text}

def given (signature : Signature) (values : List Text) : List (Text × Argument) :=
  (signature.named values).map fun (name, value) => (name, .str value)

theorem lookup_given {parameter : Parameter} {value : Text}
    (h : (parameter, value) ∈ signature.parameters.zip values) :
    (signature.given values).lookup parameter.name = some (.str value) := by
  unfold given named parameterNames
  have hnodup := signature.nodup_names
  generalize signature.parameters = parameters at h hnodup
  induction parameters generalizing values with
  | nil => cases h
  | cons first rest ih =>
    cases values with
    | nil => cases h
    | cons head tail =>
      rw [List.map_cons, List.nodup_cons] at hnodup
      rw [List.map_cons, List.zip_cons_cons, List.map_cons, List.lookup_cons]
      cases List.mem_cons.1 h with
      | inl heq =>
        cases heq
        rw [beq_self_eq_true]
      | inr hmem =>
        have hne : parameter.name ≠ first.name := by
          intro hname
          exact hnodup.1 (hname ▸ List.mem_map_of_mem (List.of_mem_zip hmem).1)
        rw [beq_false_of_ne hne]
        exact ih hmem hnodup.2

theorem resolve_given_eq_settle (hlength : signature.parameters.length = values.length) :
    signature.resolve (signature.given values) = .ok (signature.settle values) := by
  have hgiven : List.Forall₂ (fun parameter value => (signature.given values).lookup parameter.name = some (.str value))
      signature.parameters values := List.forall₂_iff_zip.2 ⟨hlength, lookup_given⟩
  rw [resolve_eq_ok, settle]
  generalize signature.given values = given at hgiven ⊢
  clear hlength
  generalize signature.parameters = parameters at hgiven ⊢
  induction hgiven with
  | nil => exact .nil
  | cons hvalue _ ih =>
    refine .cons ?_ ih
    rw [hvalue]
    rfl

theorem resolve_given (h : List.Forall₂ Parameter.Keeps signature.parameters values) :
    signature.resolve (signature.given values) = .ok values := by
  rw [resolve_given_eq_settle h.length_eq, settle_of_keeps h]

end Signature

namespace Catalog

variable {catalog : Catalog}

theorem exists_call_of_accepted {token : Token} (hdefaults : catalog.HasPlainDefaults)
    (hkind : token.kind = .function) (h : catalog.callProblem? token = none) :
    ∃ name given other, Formula.callToken catalog name given = .ok other ∧ token.Agrees catalog other := by
  obtain ⟨call, signature, hcall, hlookup, hcheck⟩ := (callProblem?_eq_none_iff hkind).1 h
  have hkeeps := Signature.keeps_fill (hdefaults signature (mem_of_lookup hlookup)) hcall
  rw [Signature.settle_of_keeps hkeeps] at hcheck
  have hdecode : catalog.decode? token.text = some ⟨call, some signature⟩ := by
    rw [decode?, hcall, ← hlookup]
    rfl
  obtain ⟨again, hagain, hfunction, hvalues⟩ := decode?_format (lookup_name hlookup) hkeeps
  refine ⟨signature.name, signature.given (signature.fill call.arguments),
    ⟨.function, Call.format signature.name (signature.fill call.arguments)⟩, ?_, hkind, ?_, ?_⟩
  · simp [Formula.callToken, lookup_name hlookup, Signature.resolve_given hkeeps, hcheck]
  · intro hne
    exact absurd hkind hne
  · intro _
    have hknown : again.known := by
      rw [CallReading.known, hfunction]
      rfl
    have hname : again.name = signature.name := by rw [CallReading.name, hfunction]
    have hnamed : again.namedValues = signature.named again.values := by
      rw [CallReading.namedValues, hfunction]
    rw [hvalues] at hnamed
    exact ⟨_, again, hdecode, hagain, rfl, hknown, hname.symm, hnamed.symm⟩

end Catalog

namespace Formula

variable {catalog : Catalog}

theorem exists_append {built : Formula} {token : Token} (hdefaults : catalog.HasPlainDefaults)
    (hlexical : token.IsLexical) (hnext : built.misplacement? token = none)
    (haccepted : catalog.callProblem? token = none) :
    ∃ (edit : Edit) (other : Token), edit.isAppend ∧ edit.apply catalog built = .ok (built ++ [other]) ∧
      token.Agrees catalog other := by
  obtain ⟨kind, text⟩ := token
  have hsymbol (hkind : kind.isSymbol) (hclass : classify text = some kind) :
      Edit.apply catalog built (.appendOperator text) = .ok (built ++ [⟨kind, text⟩]) := by
    have htoken : Token.isSymbol ⟨kind, text⟩ := hkind
    rw [misplacement?, if_pos htoken] at hnext
    simp only [Edit.apply, appendOperator, hclass]
    rw [hnext]
    rfl
  cases kind with
  | function =>
    obtain ⟨name, given, other, hcall, hagrees⟩ := Catalog.exists_call_of_accepted hdefaults rfl haccepted
    refine ⟨.putCall name given none, other, rfl, ?_, hagrees⟩
    rw [Edit.apply, hcall]
    rfl
  | number =>
    have hdecimal : isDecimal text := hlexical
    have htrim : text.trim = text := Text.trim_of_isDecimal hdecimal
    have hend : built.canAppendNumber := by
      simpa [misplacement?, Token.isOperand, Token.Kind.isOperand] using hnext
    refine ⟨.appendNumber (.str text), ⟨.number, text⟩, rfl, ?_, rfl, fun _ => rfl, by simp⟩
    have hliteral : literalText (.str text) = .ok text := congrArg Except.ok htrim
    rw [Edit.apply_appendNumber hliteral]
    simp [appendNumber, hdecimal, hend, append]
  | operator => exact ⟨.appendOperator text, _, rfl, hsymbol rfl hlexical, rfl, fun _ => rfl, by simp⟩
  | comparison => exact ⟨.appendOperator text, _, rfl, hsymbol rfl hlexical, rfl, fun _ => rfl, by simp⟩

theorem exists_appends {built rest : Formula} (hdefaults : catalog.HasPlainDefaults)
    (hplaced : IsPlaced (built.kinds ++ rest.kinds)) (hlexical : ∀ token ∈ rest, token.IsLexical)
    (haccepted : ∀ token ∈ rest, catalog.callProblem? token = none) :
    ∃ (edits : List Edit) (others : Formula), edits.length = rest.length ∧ (∀ edit ∈ edits, edit.isAppend) ∧
      edits.foldlM (Edit.apply catalog) built = .ok (built ++ others) ∧
        List.Forall₂ (Token.Agrees catalog) rest others := by
  induction rest generalizing built with
  | nil => exact ⟨[], [], rfl, by simp, by simp [pure, Except.pure], .nil⟩
  | cons token rest ih =>
    rw [List.forall_mem_cons] at hlexical haccepted
    have hsplit : built.kinds ++ kinds (token :: rest) = built.kinds ++ [token.kind] ++ kinds rest := by
      simp [kinds]
    rw [hsplit] at hplaced
    have hfront := hplaced.of_append
    have hnext : built.misplacement? token = none := by
      rw [misplacement?_eq_none_iff hlexical.1.isKinded, ← hfront.of_append.append_singleton_iff]
      exact hfront
    obtain ⟨edit, other, happend, happly, hagrees⟩ :=
      exists_append hdefaults hlexical.1 hnext haccepted.1
    -- The rules look at kinds alone, so what may follow `token` may follow `other`.
    have hkinds : kinds (built ++ [other]) = built.kinds ++ [token.kind] := by simp [kinds, hagrees.1]
    rw [← hkinds] at hplaced
    obtain ⟨edits, others, hlength, happends, hfold, hall⟩ := ih hplaced hlexical.2 haccepted.2
    refine ⟨edit :: edits, other :: others, by simp [hlength], List.forall_mem_cons.2 ⟨happend, happends⟩, ?_,
      .cons hagrees hall⟩
    rw [List.append_assoc] at hfold
    rw [List.foldlM_cons, happly]
    exact hfold

end Formula

/-- For every text that is accepted there are edits that apply one after the other, each of which puts a token at the
end that agrees with the one that the text is read as. -/
theorem Catalog.exists_edits_of_check {catalog : Catalog} {text : Text} {formula : Formula}
    (hdefaults : catalog.HasPlainDefaults) (h : catalog.check text = .ok (formula, none)) :
    ∃ (edits : List Edit) (rebuilt : Formula), edits.length = formula.length ∧
      (∀ edit ∈ edits, edit.isAppend) ∧ edits.foldlM (Edit.apply catalog) [] = .ok rebuilt ∧
        List.Forall₂ (Token.Agrees catalog) formula rebuilt := by
  obtain ⟨read, hread, heq⟩ := Fallible.map_eq_ok.1 h
  obtain ⟨hformula, hproblem⟩ := Prod.mk.inj heq
  rw [hformula] at hread hproblem
  have hlexical := (Formula.isCanonical_of_ofEquation hread).1.lexical
  have hkinded : formula.IsKinded := fun token hmem => (hlexical token hmem).isKinded
  obtain ⟨-, hplaced, haccepted⟩ := (Formula.problem?_eq_none_iff hkinded).1 hproblem
  obtain ⟨edits, others, hlength, happends, hfold, hagrees⟩ :=
    @Formula.exists_appends catalog [] formula hdefaults hplaced hlexical haccepted
  exact ⟨edits, others, hlength, happends, hfold, hagrees⟩

/-- A name in other case, blank and missing arguments, and one too many. -/
theorem Catalog.exists_edits_of_check_builtIn :
    ∃ (edits : List Edit) (rebuilt : Formula), edits.length = 4 ∧ (∀ edit ∈ edits, edit.isAppend) ∧
      edits.foldlM (Edit.apply builtIn) [] = .ok rebuilt ∧
        List.Forall₂ (Token.Agrees builtIn) [⟨.function, "rsi( , 1 ,7, 9)"⟩, ⟨.function, "OBV()"⟩,
          ⟨.comparison, ">"⟩, ⟨.number, "-30"⟩] rebuilt := by
  have hcheck : builtIn.check "rsi( , 1 ,7, 9) OBV() > -30" =
      .ok ([⟨.function, "rsi( , 1 ,7, 9)"⟩, ⟨.function, "OBV()"⟩, ⟨.comparison, ">"⟩, ⟨.number, "-30"⟩], none) := by
    decide +kernel
  exact exists_edits_of_check hasPlainDefaults_builtIn hcheck

end Screener
