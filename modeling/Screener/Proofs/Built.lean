import Screener.Formula.Assess
import Screener.Proofs.Changes
import Screener.Proofs.Layout

namespace Screener

/-- A text that can be an argument as it is, and leaves the parentheses around it matched. -/
structure Text.IsPlainArgument (text : Text) : Prop where
  argument : text.IsArgument
  plain : text.IsPlain

def Catalog.HasPlainOptions (catalog : Catalog) : Prop :=
  ∀ signature ∈ catalog.functions, ∀ parameter ∈ signature.parameters,
    ∀ options, parameter.domain = .select options → ∀ option ∈ options, option.IsPlainArgument

def Catalog.HasArgumentOptions (catalog : Catalog) : Prop :=
  ∀ signature ∈ catalog.functions, ∀ parameter ∈ signature.parameters,
    ∀ options, parameter.domain = .select options → ∀ option ∈ options, option.IsArgument

theorem Catalog.HasPlainOptions.hasArgumentOptions {catalog : Catalog} (h : catalog.HasPlainOptions) :
    catalog.HasArgumentOptions := fun signature hsignature parameter hparameter options hdomain option hoption =>
  (h signature hsignature parameter hparameter options hdomain option hoption).argument

theorem Catalog.hasArgumentOptions_iff {catalog : Catalog} :
    catalog.HasArgumentOptions ↔ ∀ signature ∈ catalog.functions, ∀ parameter ∈ signature.parameters,
      ∀ option ∈ parameter.domain.options, option.IsArgument := by
  constructor
  · intro h signature hsignature parameter hparameter option hoption
    cases hdomain : parameter.domain with
    | number locked =>
      rw [hdomain] at hoption
      cases hoption
    | source =>
      rw [hdomain] at hoption
      have hseries : ∀ text ∈ priceSeries, text.IsArgument := by decide
      exact hseries option hoption
    | select options =>
      rw [hdomain] at hoption
      exact h signature hsignature parameter hparameter options hdomain option hoption
  · intro h signature hsignature parameter hparameter options hdomain option hoption
    apply h signature hsignature parameter hparameter
    rw [hdomain]
    exact hoption

instance (catalog : Catalog) : Decidable catalog.HasArgumentOptions :=
  decidable_of_iff _ Catalog.hasArgumentOptions_iff.symm

theorem Text.isPlainArgument_iff {text : Text} :
    text.IsPlainArgument ↔ text.IsArgument ∧ text.IsPlain :=
  ⟨fun h => ⟨h.argument, h.plain⟩, fun h => ⟨h.1, h.2⟩⟩

instance (text : Text) : Decidable text.IsPlainArgument :=
  decidable_of_iff (text.IsArgument ∧ (text.all fun c => c != '(' && c != ')') = true)
    (by simp [Text.isPlainArgument_iff, Text.IsPlain])

theorem Catalog.hasPlainOptions_builtIn : builtIn.HasPlainOptions := by
  have hall : ∀ signature ∈ builtIn.functions, ∀ parameter ∈ signature.parameters,
      ∀ option ∈ parameter.domain.options, option.IsPlainArgument := by
    decide +kernel
  intro signature hsignature parameter hparameter options hdomain option hoption
  apply hall signature hsignature parameter hparameter
  rw [hdomain]
  exact hoption

namespace Text

theorem isPlainArgument_of_isDecimal {text : Text} (h : isDecimal text) : text.IsPlainArgument := by
  have hall := all_of_isDecimal h
  refine ⟨⟨?_, ?_⟩, Lexeme.isPlain_of_forall (by decide) (by decide) hall⟩
  · intro hcomma
    exact absurd (hall _ hcomma) (by decide)
  · exact trim_of_isDecimal h

theorem isPlainArgument_of_mem_priceSeries {text : Text} (h : text ∈ priceSeries) :
    text.IsPlainArgument := by
  have hall : ∀ text ∈ priceSeries, text.IsPlainArgument := by decide
  exact hall text h

theorem isPlain_join {values : List Text} (h : ∀ value ∈ values, value.IsPlain) : IsPlain (join ", " values) :=
  forall_mem_join (by simp) h

end Text

namespace Parameter.Takes

variable {parameter : Parameter} {value : Text}

theorem isPlainArgument (h : parameter.Takes value)
    (hoptions : ∀ options, parameter.domain = .select options → ∀ option ∈ options, option.IsPlainArgument) :
    value.IsPlainArgument := by
  obtain hdecimal | hseries | ⟨options, hdomain, hoption⟩ := (check_eq_none_iff.1 h.accepted).cases
  · exact Text.isPlainArgument_of_isDecimal hdecimal
  · exact Text.isPlainArgument_of_mem_priceSeries hseries
  · exact hoptions options hdomain value hoption

theorem keeps (h : parameter.Takes value)
    (hoptions : ∀ options, parameter.domain = .select options → ∀ option ∈ options, option.IsArgument) :
    parameter.Keeps value := by
  refine ⟨?_, h.default_of_empty⟩
  obtain hdecimal | hseries | ⟨options, hdomain, hoption⟩ := (check_eq_none_iff.1 h.accepted).cases
  · exact (Text.isPlainArgument_of_isDecimal hdecimal).argument
  · exact (Text.isPlainArgument_of_mem_priceSeries hseries).argument
  · exact hoptions options hdomain value hoption

end Parameter.Takes

namespace Signature

variable {catalog : Catalog} {signature : Signature} {values : List Text}

theorem keeps_of_takes (hoptions : catalog.HasArgumentOptions) (hsignature : signature ∈ catalog.functions)
    (h : List.Forall₂ Parameter.Takes signature.parameters values) :
    List.Forall₂ Parameter.Keeps signature.parameters values := by
  rw [List.forall₂_iff_zip] at h ⊢
  exact ⟨h.1, fun hmem => (h.2 hmem).keeps (hoptions signature hsignature _ (List.of_mem_zip hmem).1)⟩

theorem plain_of_takes (hoptions : catalog.HasPlainOptions) (hsignature : signature ∈ catalog.functions)
    (h : List.Forall₂ Parameter.Takes signature.parameters values) :
    List.Forall₂ Parameter.Keeps signature.parameters values ∧ ∀ value ∈ values, value.IsPlain := by
  refine ⟨keeps_of_takes hoptions.hasArgumentOptions hsignature h, ?_⟩
  have hplain : List.Forall₂ (fun _ value => value.IsPlain) signature.parameters values := by
    rw [List.forall₂_iff_zip] at h ⊢
    refine ⟨h.1, fun hmem => ?_⟩
    exact ((h.2 hmem).isPlainArgument (hoptions signature hsignature _ (List.of_mem_zip hmem).1)).plain
  exact forall_mem_of_forall₂ hplain fun _ _ hvalue => hvalue

end Signature

namespace Formula

variable {catalog : Catalog}

theorem callee_format {name : Text} (h : isIdentifier name) (values : List Text) :
    Token.callee ⟨.function, Call.format name values⟩ = name := by
  rw [Call.format_eq, callee_of_isIdentifier h]

theorem isCall_format {name : Text} {values : List Text} (hname : isIdentifier name)
    (hvalues : ∀ value ∈ values, value.IsPlain) : Text.IsCall (Call.format name values) := by
  refine ⟨name, Text.join ", " values, hname, Text.openAfter_of_isPlain (Text.isPlain_join hvalues) 0, ?_⟩
  rw [Call.format_eq, List.append_assoc, List.cons_append]

theorem isLexical_of_isBuilt (hoptions : catalog.HasPlainOptions) {token : Token}
    (h : token.IsBuilt catalog) : token.IsLexical ∧ catalog.callProblem? token = none ∧
      (token.kind = .function → catalog.contains token.callee) := by
  obtain ⟨kind, text⟩ := token
  cases kind with
  | function =>
    obtain ⟨signature, values, hlookup, htakes, rfl⟩ := h
    obtain ⟨hkeeps, hplain⟩ := Signature.plain_of_takes hoptions (Catalog.mem_of_lookup hlookup) htakes
    have haccepted := htakes.imp fun _ _ hvalue => hvalue.accepted
    refine ⟨isCall_format signature.isIdentifier_name hplain, ?_, ?_⟩
    · rw [Catalog.callProblem?_format hlookup hkeeps, (Signature.check_eq_none_iff htakes.length_eq).2 haccepted]
      rfl
    · intro _
      rw [callee_format signature.isIdentifier_name, Catalog.contains, hlookup]
      rfl
  | number => exact ⟨h, rfl, by simp⟩
  | operator => exact ⟨h, rfl, by simp⟩
  | comparison => exact ⟨h, rfl, by simp⟩

theorem isCanonical_of_isPlaced {formula : Formula} (hlexical : ∀ token ∈ formula, token.IsLexical)
    (h : IsPlaced formula.kinds) : formula.IsCanonical := by
  refine ⟨hlexical, ?_⟩
  have hneighbours := (List.isChain_map _).1 h.neighbours
  apply hneighbours.imp
  intro token next hnext hsigned
  have hkind : next.kind = .number := by
    simpa using (Bool.and_eq_true_iff.1 hsigned).1
  rwa [hkind] at hnext

theorem check_equation_of_isBuilt {formula : Formula} (hoptions : catalog.HasPlainOptions)
    (hbuilt : formula.IsBuilt catalog) (hplaced : IsPlaced formula.kinds) (hcomplete : formula.defect? = none) :
    catalog.check formula.equation = .ok (formula, none) := by
  have hlexical := fun token hmem => isLexical_of_isBuilt hoptions (hbuilt token hmem)
  have hcanonical := isCanonical_of_isPlaced (fun token hmem => (hlexical token hmem).1) hplaced
  have hcalls : formula.Calls catalog.contains := fun token hmem => (hlexical token hmem).2.2
  have hread : catalog.read formula.equation = .ok formula :=
    ofEquation_of_layout (layout_equation formula) hcanonical hcalls
  have hkinded : formula.IsKinded := fun token hmem => (hbuilt token hmem).isKinded
  have hproblem : catalog.problem? formula = none :=
    (problem?_eq_none_iff hkinded).2 ⟨hcomplete, hplaced, fun token hmem => (hlexical token hmem).2.1⟩
  rw [Catalog.check, hread, ← hproblem]
  rfl

end Formula

/-- What a run of edits without deletions builds from the empty formula is read from its equation as it is, and
accepted if it lacks nothing. -/
theorem Session.check_equation_run {session : Session} {edits : List Edit}
    (hoptions : session.catalog.HasPlainOptions) (hempty : session.formula = [])
    (hedits : ∀ edit ∈ edits, edit.isDeletion = false)
    (hcomplete : (session.run edits).1.formula.defect? = none) :
    session.catalog.check (session.run edits).1.formula.equation =
      .ok ((session.run edits).1.formula, none) := by
  have hrun : (session.run edits).1.formula.IsBuilt session.catalog ∧
      Formula.IsPlaced (session.run edits).1.formula.kinds := by
    apply run_induction (P := fun formula => formula.IsBuilt session.catalog ∧ Formula.IsPlaced formula.kinds)
    · intro edit hmem formula changed ⟨hbuilt, hplaced⟩ happly
      exact ⟨Formula.isBuilt_apply happly hbuilt, Formula.isPlaced_apply happly (hedits edit hmem) hplaced⟩
    · rw [hempty]
      exact ⟨by simp [Formula.IsBuilt], Formula.isPlaced_nil⟩
  generalize (session.run edits).1.formula = formula at hcomplete hrun ⊢
  exact Formula.check_equation_of_isBuilt hoptions hrun.1 hrun.2 hcomplete

/-- A call with one value given and another left to its default, a rejected symbol, and two tokens replaced in place. -/
theorem Session.check_equation_run_builtIn :
    (Session.start .empty []).catalog.check "RSI(CLOSE, 0, 7) <= -30" =
      .ok ([⟨.function, "RSI(CLOSE, 0, 7)"⟩, ⟨.comparison, "<="⟩, ⟨.number, "-30"⟩], none) := by
  let session := Session.start .empty []
  let edits : List Edit := [.appendOperator ">", .putCall "rsi" [("period", .str " 7 ")] none,
    .appendOperator ">", .appendNumber (.str "70"), .setNumber 2 (.str "-30"), .setOperator 1 "<="]
  have hrun : (session.run edits).1.formula =
      [⟨.function, "RSI(CLOSE, 0, 7)"⟩, ⟨.comparison, "<="⟩, ⟨.number, "-30"⟩] := by decide +kernel
  have hcomplete : (session.run edits).1.formula.defect? = none := by
    rw [hrun]
    decide
  have hcheck := @Session.check_equation_run session edits Catalog.hasPlainOptions_builtIn rfl (by decide) hcomplete
  rw [hrun] at hcheck
  exact hcheck

end Screener
