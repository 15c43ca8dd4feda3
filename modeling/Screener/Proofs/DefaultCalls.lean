import Screener.Proofs.CanonicalCalls
import Screener.Proofs.Definitions

/-!
Calls that are given no values.  Each parameter then takes its default.  Definitions are refused for a default that a
series or option parameter does not offer, but a number parameter may have any text as its default.  So a function that
was accepted can be called without values unless one of its number parameters has a default that is not a decimal.
-/

namespace Screener

namespace Parameter

variable {parameter : Parameter}

def acceptsDefault (parameter : Parameter) : Bool :=
  match parameter.domain with
  | .number _ => isDecimal parameter.default
  | .source | .select _ => true

theorem acceptsDefault_iff :
    parameter.acceptsDefault ↔ ∀ locked, parameter.domain = .number locked → isDecimal parameter.default := by
  unfold acceptsDefault
  split
  case h_1 locked hdomain => simp [hdomain]
  case h_2 hdomain => simp [hdomain]
  case h_3 hdomain => simp [hdomain]

theorem not_acceptsDefault_iff :
    parameter.acceptsDefault = false ↔
      (∃ locked, parameter.domain = .number locked) ∧ isDecimal parameter.default = false := by
  rw [← Bool.not_eq_true, acceptsDefault_iff]
  simp only [not_forall, exists_prop, exists_and_right, Bool.not_eq_true]

theorem default_mem_options (parameter : Parameter) (h : ∀ locked, parameter.domain ≠ .number locked) :
    parameter.default ∈ parameter.domain.options := by
  obtain ⟨name, domain, default, description, hallows⟩ := parameter
  cases domain with
  | number locked => exact absurd rfl (h locked)
  | source => exact List.contains_iff_mem.1 hallows
  | select => exact List.contains_iff_mem.1 hallows

/-- A locked number is its own default, so that a default is wrong only as a number. -/
theorem check_default (parameter : Parameter) :
    parameter.check parameter.default =
      if parameter.acceptsDefault then none else some (.notNumber parameter.name parameter.default) := by
  obtain ⟨name, domain, default, description, hallows⟩ := parameter
  cases domain with
  | number locked => cases hdecimal : isDecimal default <;> simp [check, acceptsDefault, hdecimal]
  | source => exact if_pos hallows
  | select => exact if_pos hallows

end Parameter

namespace Signature

variable {signature : Signature} {parameter : Parameter}

def defaultValues (signature : Signature) : List Text := signature.parameters.map Parameter.default

def HasDecimalDefaults (signature : Signature) : Prop :=
  ∀ parameter ∈ signature.parameters, ∀ locked, parameter.domain = .number locked → isDecimal parameter.default

def FirstRefusing (signature : Signature) (parameter : Parameter) : Prop :=
  ∃ before after, signature.parameters = before ++ parameter :: after ∧
    ((∃ locked, parameter.domain = .number locked) ∧ isDecimal parameter.default = false) ∧
      ∀ other ∈ before, ∀ locked, other.domain = .number locked → isDecimal other.default

theorem resolve_nil (signature : Signature) : signature.resolve [] = .ok signature.defaultValues :=
  List.mapM_pure

theorem check_defaultValues (signature : Signature) :
    signature.check signature.defaultValues = (signature.parameters.find? (!·.acceptsDefault)).map fun parameter =>
      .notNumber parameter.name parameter.default := by
  rw [check, defaultValues]
  induction signature.parameters with
  | nil => rfl
  | cons parameter rest ih =>
    rw [List.map_cons, List.zip_cons_cons, List.findSome?_cons, List.find?_cons]
    simp only
    rw [Parameter.check_default, ih]
    cases parameter.acceptsDefault <;> rfl

theorem find?_eq_none_iff : signature.parameters.find? (!·.acceptsDefault) = none ↔ signature.HasDecimalDefaults := by
  simp only [List.find?_eq_none, Bool.not_eq_true', Bool.not_eq_false, Parameter.acceptsDefault_iff, HasDecimalDefaults]

theorem find?_eq_some_iff :
    signature.parameters.find? (!·.acceptsDefault) = some parameter ↔ signature.FirstRefusing parameter := by
  simp only [List.find?_eq_some_iff_append, Bool.not_eq_true', Bool.not_not, Parameter.acceptsDefault_iff,
    Parameter.not_acceptsDefault_iff, FirstRefusing]
  constructor
  · rintro ⟨hrefuses, before, after, hsplit, hbefore⟩
    exact ⟨before, after, hsplit, hrefuses, hbefore⟩
  · rintro ⟨before, after, hsplit, hrefuses, hbefore⟩
    exact ⟨hrefuses, before, after, hsplit, hbefore⟩

theorem hasDecimalDefaults_or (signature : Signature) :
    signature.HasDecimalDefaults ∨ ∃ parameter, signature.FirstRefusing parameter := by
  rw [← find?_eq_none_iff]
  cases hfind : signature.parameters.find? (!·.acceptsDefault) with
  | none => exact .inl rfl
  | some parameter => exact .inr ⟨parameter, find?_eq_some_iff.1 hfind⟩

end Signature

namespace Catalog

variable {catalog : Catalog} {signature : Signature} {parameter : Parameter} {name : Text}

theorem callToken_nil (hmem : signature ∈ catalog.functions) (hupper : name.upper = signature.name.upper) :
    Formula.callToken catalog name [] =
      match signature.check signature.defaultValues with
      | some problem => .error (.rejected (.badValue problem))
      | none => .ok ⟨.function, Call.format signature.name signature.defaultValues⟩ := by
  have hlookup := lookup_eq_some_iff.2 ⟨hmem, hupper.symm⟩
  cases hcheck : signature.check signature.defaultValues with
  | none => simp only [Formula.callToken, hlookup, signature.resolve_nil, hcheck]
  | some problem => simp only [Formula.callToken, hlookup, signature.resolve_nil, hcheck]

theorem apply_putCall_nil_of_decimal (hmem : signature ∈ catalog.functions) (hupper : name.upper = signature.name.upper)
    (h : signature.HasDecimalDefaults) (formula : Formula) (target : Option Int) :
    (Edit.putCall name [] target).apply catalog formula =
      formula.putCall ⟨.function, Call.format signature.name signature.defaultValues⟩ target := by
  rw [Edit.apply, callToken_nil hmem hupper, signature.check_defaultValues, Signature.find?_eq_none_iff.2 h]
  rfl

theorem apply_putCall_nil_of_refusing (hmem : signature ∈ catalog.functions)
    (hupper : name.upper = signature.name.upper) (h : signature.FirstRefusing parameter) (formula : Formula)
    (target : Option Int) :
    (Edit.putCall name [] target).apply catalog formula =
      .error (.rejected (.badValue (.notNumber parameter.name parameter.default))) := by
  rw [Edit.apply, callToken_nil hmem hupper, signature.check_defaultValues, Signature.find?_eq_some_iff.2 h]
  rfl

/-- What comes of putting a call without values in a formula: at its end, or in place of another call.  The defaults are
looked at before the place. -/
structure PutsDefaults (catalog : Catalog) (signature : Signature) (name : Text) (formula : Formula) : Prop where
  applied : ∀ changed, (Edit.putCall name [] none).apply catalog formula = .ok changed ↔
    signature.HasDecimalDefaults ∧
      changed = formula ++ [⟨.function, Call.format signature.name signature.defaultValues⟩]
  rejected : ∀ refusal, (Edit.putCall name [] none).apply catalog formula = .error refusal ↔
    ∃ parameter, signature.FirstRefusing parameter ∧
      refusal = .rejected (.badValue (.notNumber parameter.name parameter.default))
  put : signature.HasDecimalDefaults → ∃ text, catalog.encode name signature.defaultValues = .ok text ∧
    ∀ target, (Edit.putCall name [] target).apply catalog formula = formula.putCall ⟨.function, text⟩ target
  refused : ∀ parameter, signature.FirstRefusing parameter → ∀ target,
    (Edit.putCall name [] target).apply catalog formula =
      .error (.rejected (.badValue (.notNumber parameter.name parameter.default)))

theorem putsDefaults (hmem : signature ∈ catalog.functions) (hupper : name.upper = signature.name.upper)
    (formula : Formula) : catalog.PutsDefaults signature name formula := by
  have hput (h : signature.HasDecimalDefaults) := apply_putCall_nil_of_decimal hmem hupper h formula
  have hrefused (parameter : Parameter) (h : signature.FirstRefusing parameter) :=
    apply_putCall_nil_of_refusing hmem hupper h formula
  have hlookup := lookup_eq_some_iff.2 ⟨hmem, hupper.symm⟩
  refine ⟨fun changed => ⟨?_, ?_⟩, fun refusal => ⟨?_, ?_⟩, ?_, hrefused⟩
  · intro h
    obtain hdecimal | ⟨parameter, hfirst⟩ := signature.hasDecimalDefaults_or
    · rw [hput hdecimal] at h
      cases h
      exact ⟨hdecimal, rfl⟩
    · rw [hrefused parameter hfirst] at h
      cases h
  · rintro ⟨hdecimal, rfl⟩
    exact hput hdecimal none
  · intro h
    obtain hdecimal | ⟨parameter, hfirst⟩ := signature.hasDecimalDefaults_or
    · rw [hput hdecimal] at h
      cases h
    · rw [hrefused parameter hfirst] at h
      cases h
      exact ⟨parameter, hfirst, rfl⟩
  · rintro ⟨parameter, hfirst, rfl⟩
    exact hrefused parameter hfirst none
  · intro h
    exact ⟨_, encode_of_lookup hlookup (List.length_map _), hput h⟩

/-- A function of an accepted catalog is described by one of the definitions; its parameters have different names, and
those that offer series or options have one of them as their default.  A call of it without values can be put in any
formula exactly if the defaults of its number parameters are decimals, and else the first that is not is the reason. -/
theorem putsDefaults_of_ofDefinitions {definitions : List (Text × Json)} (h : ofDefinitions definitions = .ok catalog)
    (hmem : signature ∈ catalog.functions) :
    (∃ definition ∈ definitions, Signature.Describes definition signature) ∧
    signature.parameterNames.Nodup ∧
    (∀ parameter ∈ signature.parameters, parameter.domain = .source → parameter.default ∈ priceSeries) ∧
    (∀ parameter ∈ signature.parameters, ∀ options, parameter.domain = .select options → parameter.default ∈ options) ∧
    ∀ name formula, name.upper = signature.name.upper → catalog.PutsDefaults signature name formula := by
  refine ⟨(ofDefinitions_eq_ok.1 h).exists_of_mem hmem, signature.nodup_names, ?_, ?_,
    fun name formula hupper => putsDefaults hmem hupper formula⟩
  · intro parameter _ hdomain
    have hoffered := parameter.default_mem_options (by simp [hdomain])
    rwa [hdomain] at hoffered
  · intro parameter _ options hdomain
    have hoffered := parameter.default_mem_options (by simp [hdomain])
    rwa [hdomain] at hoffered

/-- A function whose last parameter is locked to a text that is no number. -/
theorem putsDefaults_lockedText :
    let definitions : List (Text × Json) := [("BAND", .obj [("params", .arr [
      .obj [("type", .str "source"), ("name", .str "SOURCE"), ("default", .str "CLOSE")],
      .obj [("type", .str "number"), ("name", .str "Length"), ("default", .int 20)],
      .obj [("type", .str "select"), ("name", .str "Side"), ("default", .null),
        ("options", .arr [.str "Upper", .str "None"])],
      .obj [("type", .str "number"), ("name", .str "Width"), ("default", .str "wide"), ("locked", .str "Yes")]])])]
    let width : Parameter := ⟨"Width", .number true, "wide", none, by decide⟩
    let band : Signature := ⟨"BAND", [BuiltIn.source, ⟨"Length", .number false, "20", none, by decide⟩,
      ⟨"Side", .select ["Upper", "None"], "None", none, by decide⟩, width], none, by decide, by decide⟩
    let bands : Catalog := ⟨[band], by decide⟩
    ofDefinitions definitions = .ok bands ∧ band ∈ bands.functions ∧ Text.upper "Band" = band.name.upper ∧
      band.FirstRefusing width ∧ ∀ formula, (Edit.putCall "Band" [] none).apply bands formula =
        .error (.rejected (.badValue (.notNumber "Width" "wide"))) := by
  intro definitions width band bands
  have hdefined : ofDefinitions definitions = .ok bands := by rfl
  have hmem : band ∈ bands.functions := List.mem_singleton_self band
  have hupper : Text.upper "Band" = band.name.upper := by decide +kernel
  have hfirst : band.FirstRefusing width := Signature.find?_eq_some_iff.1 (by decide +kernel)
  refine ⟨hdefined, hmem, hupper, hfirst, fun formula => ?_⟩
  have hputs := (putsDefaults_of_ofDefinitions hdefined hmem).2.2.2.2 "Band" formula hupper
  exact (hputs.rejected _).2 ⟨width, hfirst, rfl⟩

end Catalog

end Screener
