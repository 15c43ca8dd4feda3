import Screener.Catalog.Definition
import Screener.Proofs.Described
import Screener.Proofs.NameTables

namespace Screener

inductive Json.OptionalText : Option Json → Option Text → Prop
  | missing : OptionalText none none
  | null : OptionalText (some .null) none
  | given (text : Text) : OptionalText (some (.str text)) (some text)

theorem Json.optionalText_eq_ok {members : List (Text × Json)} {name : Text} {held : Option Text} :
    optionalText members name = .ok held ↔ OptionalText (member? name members) held := by
  constructor
  · intro h
    rw [optionalText] at h
    split at h
    case h_1 hmember =>
      cases h
      exact hmember ▸ .missing
    case h_2 hmember =>
      cases h
      exact hmember ▸ .null
    case h_3 value _ hmember =>
      cases value with
      | str text =>
        cases h
        exact hmember ▸ .given text
      | _ => cases h
  · intro h
    rw [optionalText]
    generalize member? name members = field at h
    cases h <;> rfl

namespace Definition

inductive DescribesFlag : Json → Bool → Prop
  | bool (flag : Bool) : DescribesFlag (.bool flag) flag
  | int (flag : Bool) : DescribesFlag (.int flag.toInt) flag
  | double {value : Double} {flag : Bool} : value.toInt? = some flag.toInt → DescribesFlag (.double value) flag
  | word {text : Text} {flag : Bool} : wordFlags.lookup (text.map Char.toLower) = some flag →
      DescribesFlag (.str text) flag

variable {members : List (Text × Json)} {value : Json} {flag : Bool} {tag : Tag} {text : Text}

theorem numberFlag_eq_ok {value : Int} {inRange : Bool} : numberFlag value inRange = .ok flag ↔ value = flag.toInt := by
  unfold numberFlag
  split
  case h_1 => cases flag <;> simp
  case h_2 => cases flag <;> simp
  case h_3 hzero hone =>
    simp only [Checked.fail, reduceCtorEq, false_iff]
    cases flag with
    | false => exact hzero
    | true => exact hone

theorem asFlag_eq_ok : asFlag value = .ok flag ↔ DescribesFlag value flag := by
  constructor
  · intro h
    cases value with
    | bool =>
      cases h
      exact .bool flag
    | int value =>
      rw [numberFlag_eq_ok.1 h]
      exact .int flag
    | double value =>
      rw [asFlag, doubleFlag] at h
      split at h
      case h_1 whole hwhole => exact .double (numberFlag_eq_ok.1 h ▸ hwhole)
      case h_2 => cases h
    | str text =>
      rw [asFlag] at h
      split at h
      case h_1 found hfound =>
        cases h
        exact .word hfound
      case h_2 => cases h
    | _ => cases h
  · intro h
    cases h with
    | bool => rfl
    | int => exact numberFlag_eq_ok.2 rfl
    | double hwhole =>
      rw [asFlag, doubleFlag, hwhole]
      exact numberFlag_eq_ok.2 rfl
    | word hfound => rw [asFlag, hfound]

theorem find?_tag_eq_some : [Tag.number, .source, .select].find? (·.name == text) = some tag ↔ text = tag.name := by
  constructor
  · intro h
    have hname := List.find?_some h
    rw [beq_iff_eq] at hname
    exact hname.symm
  · rintro rfl
    cases tag <;> decide

theorem tag_eq_ok :
    Definition.tag members = .ok tag ↔
      (Json.member? "kind" members).or (Json.member? "type" members) = some (.str tag.name) := by
  rw [Definition.tag]
  cases (Json.member? "kind" members).or (Json.member? "type" members) with
  | none => simp [Checked.fail]
  | some value =>
    cases value with
    | str name =>
      rw [Option.some.injEq, JsonOf.str.injEq, ← find?_tag_eq_some]
      simp only
      split
      case h_1 found hfound => rw [hfound, Except.ok.injEq, Option.some.injEq]
      case h_2 hnone => simp only [hnone, Checked.fail, reduceCtorEq]
    | _ => simp [Checked.fail]

theorem agrees_eq_ok {done : Unit} :
    agrees members tag = .ok done ↔ ∀ value, Json.member? "type" members = some value → value = .str tag.name := by
  rw [agrees]
  cases Json.member? "type" members with
  | none => simp
  | some value =>
    cases value with
    | str name => by_cases h : name = tag.name <;> simp [h, Checked.fail]
    | _ => simp [Checked.fail]

theorem defaultText_eq_ok : defaultText value = .ok text ↔ Parameter.textOf value.argument = .ok text := by
  rw [defaultText]
  cases Parameter.textOf value.argument <;> simp [Checked.fail]

theorem seriesDefault_eq_ok :
    seriesDefault value = .ok text ↔
      Parameter.textOf value.argument = .ok text ∧ Parameter.Domain.source.allowsDefault text := by
  rw [← defaultText_eq_ok]
  constructor
  · intro h
    obtain ⟨found, hfound, h⟩ := Fallible.bind_eq_ok.1 h
    split at h
    case isTrue hallows =>
      cases h
      exact ⟨hfound, hallows⟩
    case isFalse => cases h
  · rintro ⟨hfound, hallows⟩
    exact Fallible.bind_eq_ok.2 ⟨text, hfound, if_pos hallows⟩

theorem optionList_eq_ok {options : List Text} : optionList value = .ok options ↔ value = .arr (options.map .str) := by
  cases value with
  | arr items =>
    rw [optionList, Checked.items_eq_ok, JsonOf.arr.injEq, ← List.forall₂_eq_eq_eq, List.forall₂_map_right_iff]
    simp only [Json.asText_eq_ok]
  | _ => simp [optionList, Checked.fail]

theorem functionName_eq_ok {found : { name : Text // isIdentifier name = true }} :
    functionName text = .ok found ↔ found.val = text := by
  unfold functionName
  split
  case isTrue h =>
    rw [Except.ok.injEq, ← Subtype.val_inj, eq_comm]
  case isFalse h =>
    simp only [Checked.fail, reduceCtorEq, false_iff]
    rintro rfl
    exact h found.property

theorem common_eq_ok {check : Json → Checked Text} {held : Text × Text × Option Text} :
    common members check = .ok held ↔ Json.member? "name" members = some (.str held.1) ∧
      (∃ value, Json.member? "default" members = some value ∧ check value = .ok held.2.1) ∧
        Json.OptionalText (Json.member? "description" members) held.2.2 := by
  rw [common, Checked.both_eq_ok, Checked.both_eq_ok, Json.field_eq_ok, Json.field_eq_ok, Checked.within_eq_ok,
    Json.optionalText_eq_ok]
  simp only [Json.asText_eq_ok, exists_eq_right]

theorem locked_eq_ok :
    (match Json.member? "locked" members with
      | none => .ok false
      | some value => asFlag value) = Except.ok flag ↔
        Json.Optional false DescribesFlag (Json.member? "locked" members) flag := by
  rw [Json.optional_iff]
  cases Json.member? "locked" members with
  | none => simp [eq_comm]
  | some value => simp [asFlag_eq_ok]

structure Names (members : List (Text × Json)) (tag : Tag) : Prop where
  given : (Json.member? "kind" members).or (Json.member? "type" members) = some (.str tag.name)
  agrees : ∀ value, Json.member? "type" members = some value → value = .str tag.name

/-- What belongs to each kind of parameter.  A flag that is left out is off. -/
inductive DescribesDomain (members : List (Text × Json)) : Parameter.Domain → Prop
  | number {locked : Bool} : Names members .number →
      Json.Optional false DescribesFlag (Json.member? "locked" members) locked →
        DescribesDomain members (.number locked)
  | source : Names members .source → DescribesDomain members .source
  | select {options : List Text} : Names members .select →
      Json.member? "options" members = some (.arr (options.map .str)) → DescribesDomain members (.select options)

end Definition

namespace Parameter

/-- The fields that data has for a parameter.  The default is any value but a boolean, taken as text. -/
structure HasFields (members : List (Text × Json)) (parameter : Parameter) : Prop where
  name : Json.member? "name" members = some (.str parameter.name)
  default : ∃ value, Json.member? "default" members = some value ∧ textOf value.argument = .ok parameter.default
  description : Json.OptionalText (Json.member? "description" members) parameter.description
  domain : Definition.DescribesDomain members parameter.domain

inductive Describes : Json → Parameter → Prop
  | obj {members : List (Text × Json)} {parameter : Parameter} : HasFields members parameter →
      Describes (.obj members) parameter

variable {members : List (Text × Json)} {parameter : Parameter} {tag : Definition.Tag} {value : Json}

theorem hasFields_iff {check : Json → Checked Text}
    (hcheck : ∀ value, check value = .ok parameter.default ↔ textOf value.argument = .ok parameter.default) :
    HasFields members parameter ↔
      Definition.common members check = .ok (parameter.name, parameter.default, parameter.description) ∧
        Definition.DescribesDomain members parameter.domain := by
  rw [Definition.common_eq_ok]
  simp only [hcheck]
  constructor
  · rintro ⟨hname, hdefault, hdescription, hdomain⟩
    exact ⟨⟨hname, hdefault, hdescription⟩, hdomain⟩
  · rintro ⟨⟨hname, hdefault, hdescription⟩, hdomain⟩
    exact ⟨hname, hdefault, hdescription, hdomain⟩

theorem seriesDefault_iff (hallows : Domain.source.allowsDefault parameter.default) (value : Json) :
    Definition.seriesDefault value = .ok parameter.default ↔ textOf value.argument = .ok parameter.default :=
  Definition.seriesDefault_eq_ok.trans (and_iff_left hallows)

theorem hasFields_of_ofTag (htag : Definition.tag members = .ok tag)
    (h : Definition.ofTag tag members = .ok parameter) : HasFields members parameter := by
  have hgiven := Definition.tag_eq_ok.1 htag
  cases tag with
  | number =>
    obtain ⟨⟨⟨name, default, description⟩, ⟨⟩, locked⟩, hparts, ⟨⟩⟩ := Fallible.bind_eq_ok.1 h
    obtain ⟨hcommon, hrest⟩ := Checked.both_eq_ok.1 hparts
    obtain ⟨hagrees, hlocked⟩ := Checked.both_eq_ok.1 hrest
    refine (hasFields_iff fun _ => Definition.defaultText_eq_ok).2 ⟨hcommon, .number ⟨hgiven, ?_⟩ ?_⟩
    · exact Definition.agrees_eq_ok.1 (Checked.within_eq_ok.1 hagrees)
    · exact Definition.locked_eq_ok.1 (Checked.within_eq_ok.1 hlocked)
  | source =>
    obtain ⟨⟨⟨name, default, description⟩, ⟨⟩⟩, hparts, h⟩ := Fallible.bind_eq_ok.1 h
    obtain ⟨hcommon, hagrees⟩ := Checked.both_eq_ok.1 hparts
    dsimp only at h
    split at h
    case isTrue hallows =>
      cases h
      refine (hasFields_iff (seriesDefault_iff hallows)).2 ⟨hcommon, .source ⟨hgiven, ?_⟩⟩
      exact Definition.agrees_eq_ok.1 (Checked.within_eq_ok.1 hagrees)
    case isFalse => cases h
  | select =>
    obtain ⟨⟨⟨name, default, description⟩, ⟨⟩, options⟩, hparts, h⟩ := Fallible.bind_eq_ok.1 h
    obtain ⟨hcommon, hrest⟩ := Checked.both_eq_ok.1 hparts
    obtain ⟨hagrees, hoptions⟩ := Checked.both_eq_ok.1 hrest
    obtain ⟨list, hlist, hread⟩ := Json.field_eq_ok.1 hoptions
    obtain rfl := Definition.optionList_eq_ok.1 hread
    dsimp only at h
    split at h
    case isTrue => cases h
    case isFalse =>
      split at h
      case isTrue =>
        cases h
        refine (hasFields_iff fun _ => Definition.defaultText_eq_ok).2 ⟨hcommon, .select ⟨hgiven, ?_⟩ hlist⟩
        exact Definition.agrees_eq_ok.1 (Checked.within_eq_ok.1 hagrees)
      case isFalse => cases h

theorem parameter_eq_ok_of_hasFields (h : HasFields members parameter) :
    Definition.parameter (.obj members) = .ok parameter := by
  have agreement {tag : Definition.Tag} (hnames : Definition.Names members tag) :
      Checked.within (.field "type") (Definition.agrees members tag) = .ok () :=
    Checked.within_eq_ok.2 (Definition.agrees_eq_ok.2 hnames.agrees)
  have hdomain := h.domain
  obtain ⟨name, domain, default, description, hallows⟩ := parameter
  cases hdomain with
  | @number locked hnames hlocked =>
    refine Fallible.bind_eq_ok.2 ⟨.number, Definition.tag_eq_ok.2 hnames.given, Checked.within_eq_ok.2 ?_⟩
    refine Fallible.bind_eq_ok.2 ⟨((name, default, description), (), locked), ?_, rfl⟩
    refine Checked.both_eq_ok.2 ⟨?_, Checked.both_eq_ok.2 ⟨agreement hnames, ?_⟩⟩
    · exact ((hasFields_iff fun _ => Definition.defaultText_eq_ok).1 h).1
    · exact Checked.within_eq_ok.2 (Definition.locked_eq_ok.2 hlocked)
  | source hnames =>
    refine Fallible.bind_eq_ok.2 ⟨.source, Definition.tag_eq_ok.2 hnames.given, Checked.within_eq_ok.2 ?_⟩
    refine Fallible.bind_eq_ok.2 ⟨((name, default, description), ()), ?_, dif_pos hallows⟩
    exact Checked.both_eq_ok.2 ⟨((hasFields_iff (seriesDefault_iff hallows)).1 h).1, agreement hnames⟩
  | @select options hnames hoptions =>
    -- A default that is offered leaves no room for an empty list of options.
    have hoffered : options.isEmpty = false := by
      cases options with
      | nil => cases hallows
      | cons => rfl
    refine Fallible.bind_eq_ok.2 ⟨.select, Definition.tag_eq_ok.2 hnames.given, Checked.within_eq_ok.2 ?_⟩
    refine Fallible.bind_eq_ok.2 ⟨((name, default, description), (), options), ?_, ?_⟩
    · refine Checked.both_eq_ok.2 ⟨?_, Checked.both_eq_ok.2 ⟨agreement hnames, ?_⟩⟩
      · exact ((hasFields_iff fun _ => Definition.defaultText_eq_ok).1 h).1
      · exact Json.field_eq_ok.2 ⟨_, hoptions, Definition.optionList_eq_ok.2 rfl⟩
    · dsimp only
      rw [hoffered, if_neg Bool.false_ne_true, dif_pos hallows]
      rfl

theorem parameter_eq_ok : Definition.parameter value = .ok parameter ↔ Describes value parameter := by
  constructor
  · intro h
    cases value with
    | obj members =>
      obtain ⟨tag, htag, h⟩ := Fallible.bind_eq_ok.1 h
      exact .obj (hasFields_of_ofTag htag (Checked.within_eq_ok.1 h))
    | _ => cases h
  · rintro ⟨h⟩
    exact parameter_eq_ok_of_hasFields h

inductive DescribesList : Json → List Parameter → Prop
  | arr {items : List Json} {parameters : List Parameter} : List.Forall₂ Describes items parameters →
      DescribesList (.arr items) parameters

theorem parameterList_eq_ok {parameters : List Parameter} :
    Definition.parameterList value = .ok parameters ↔ DescribesList value parameters := by
  constructor
  · intro h
    cases value with
    | arr items => exact .arr ((Checked.items_eq_ok.1 h).imp fun _ _ => parameter_eq_ok.1)
    | _ => cases h
  · rintro ⟨h⟩
    exact Checked.items_eq_ok.2 (h.imp fun _ _ => parameter_eq_ok.2)

end Parameter

theorem Definition.firstRepeated_eq_none {seen texts : List Text} (hnodup : texts.Nodup)
    (hfresh : ∀ text ∈ texts, text ∉ seen) : firstRepeated seen texts = none := by
  induction texts generalizing seen with
  | nil => rfl
  | cons text rest ih =>
    obtain ⟨hnotMem, hnodup⟩ := List.nodup_cons.1 hnodup
    rw [firstRepeated, if_neg (mt List.contains_iff_mem.1 (hfresh text List.mem_cons_self))]
    apply ih hnodup
    intro other hother hseen
    cases List.mem_cons.1 hseen with
    | inl heq => exact hnotMem (heq ▸ hother)
    | inr hmem => exact hfresh other (List.mem_cons_of_mem text hother) hmem

namespace Signature

inductive Describes : Text × Json → Signature → Prop
  | obj {members : List (Text × Json)} {signature : Signature} :
      Json.Optional [] Parameter.DescribesList (Json.member? "params" members) signature.parameters →
      Json.OptionalText (Json.member? "description" members) signature.description →
        Describes (signature.name, .obj members) signature

variable {members : List (Text × Json)} {name : Text} {signature : Signature}

theorem optionalList_iff {field : Option Json} {parameters : List Parameter} :
    Parameter.DescribesList (field.getD (.arr [])) parameters ↔
      Json.Optional [] Parameter.DescribesList field parameters := by
  rw [Json.optional_iff]
  cases field with
  | some value => simp
  | none =>
    simp only [Option.getD_none, true_and, reduceCtorEq, false_and, exists_false, or_false]
    constructor
    · rintro ⟨⟨⟩⟩
      rfl
    · rintro rfl
      exact .arr .nil

theorem signature_eq_ok :
    Definition.signature name members = .ok signature ↔ signature.name = name ∧
      Json.Optional [] Parameter.DescribesList (Json.member? "params" members) signature.parameters ∧
        Json.OptionalText (Json.member? "description" members) signature.description := by
  rw [← optionalList_iff]
  constructor
  · intro h
    obtain ⟨⟨⟨name, hname⟩, parameters, description⟩, hparts, h⟩ := Fallible.bind_eq_ok.1 h
    obtain ⟨hfound, hrest⟩ := Checked.both_eq_ok.1 hparts
    obtain ⟨hparameters, hdescription⟩ := Checked.both_eq_ok.1 hrest
    dsimp only at h
    split at h
    case h_1 => cases h
    case h_2 =>
      cases h
      refine ⟨Definition.functionName_eq_ok.1 (Checked.within_eq_ok.1 hfound), ?_, ?_⟩
      · exact Parameter.parameterList_eq_ok.1 (Checked.within_eq_ok.1 hparameters)
      · exact Json.optionalText_eq_ok.1 (Checked.within_eq_ok.1 hdescription)
  · rintro ⟨rfl, hparameters, hdescription⟩
    obtain ⟨name, parameters, description, hname, hnodup⟩ := signature
    refine Fallible.bind_eq_ok.2 ⟨(⟨name, hname⟩, parameters, description), ?_, ?_⟩
    · refine Checked.both_eq_ok.2 ⟨?_, Checked.both_eq_ok.2 ⟨?_, ?_⟩⟩
      · exact Checked.within_eq_ok.2 (Definition.functionName_eq_ok.2 rfl)
      · exact Checked.within_eq_ok.2 (Parameter.parameterList_eq_ok.2 hparameters)
      · exact Checked.within_eq_ok.2 (Json.optionalText_eq_ok.2 hdescription)
    · have hnone := Definition.firstRepeated_eq_none hnodup (fun _ _ => List.not_mem_nil)
      dsimp only
      split
      case h_1 repeated hsome => exact absurd (hnone.symm.trans hsome) nofun
      case h_2 => rfl

theorem defined_eq_ok {definition : Text × Json} :
    Catalog.defined definition = .ok signature ↔ Describes definition signature := by
  constructor
  · intro h
    obtain ⟨name, value⟩ := definition
    cases value with
    | obj members =>
      obtain ⟨rfl, hparameters, hdescription⟩ := signature_eq_ok.1 (Fallible.mapError_eq_ok.1 h)
      exact .obj hparameters hdescription
    | _ => cases h
  · rintro ⟨hparameters, hdescription⟩
    exact Fallible.mapError_eq_ok.2 (signature_eq_ok.2 ⟨rfl, hparameters, hdescription⟩)

end Signature

namespace Catalog

variable {definitions : List (Text × Json)} {catalog : Catalog}

def Describes (definitions : List (Text × Json)) (catalog : Catalog) : Prop :=
  List.Forall₂ Signature.Describes definitions catalog.functions

theorem Describes.exists_of_mem {signature : Signature} (h : Describes definitions catalog)
    (hmem : signature ∈ catalog.functions) : ∃ definition ∈ definitions, Signature.Describes definition signature := by
  rw [Describes] at h
  generalize catalog.functions = functions at h hmem
  induction h with
  | nil => cases hmem
  | cons hfirst _ ih =>
    cases List.mem_cons.1 hmem with
    | inl heq => exact ⟨_, List.mem_cons_self, heq ▸ hfirst⟩
    | inr hrest =>
      obtain ⟨definition, hdefinition, hdescribes⟩ := ih hrest
      exact ⟨definition, List.mem_cons_of_mem _ hdefinition, hdescribes⟩

/-- What is wrong with definitions that describe no catalog: the first of them that describes no function, or the first
function whose name repeats an earlier one but for case. -/
inductive Misdescribes (definitions : List (Text × Json)) : CatalogError → Prop
  | notObject {before after : List (Text × Json)} {functions : List Signature} {name : Text} {value : Json} :
      definitions = before ++ (name, value) :: after → List.Forall₂ Signature.Describes before functions →
        (∀ members, value ≠ .obj members) → Misdescribes definitions (.notObject name)
  | invalid {before after : List (Text × Json)} {functions : List Signature} {name : Text}
      {members : List (Text × Json)} {issues : List Issue} :
      definitions = before ++ (name, .obj members) :: after → List.Forall₂ Signature.Describes before functions →
        Definition.signature name members = .error issues → Misdescribes definitions (.invalid name issues)
  | repeated {functions : List Signature} {signature : Signature} :
      List.Forall₂ Signature.Describes definitions functions → FirstRepeated functions signature →
        Misdescribes definitions (.repeated signature.name)

theorem ofDefinitions_eq_ok : ofDefinitions definitions = .ok catalog ↔ Describes definitions catalog := by
  constructor
  · intro h
    obtain ⟨functions, hfunctions, h⟩ := Fallible.bind_eq_ok.1 h
    obtain rfl := ofSignatures_eq_ok.1 (Fallible.mapError_eq_ok.1 h)
    exact (Fallible.mapM_eq_ok.1 hfunctions).imp fun _ _ => Signature.defined_eq_ok.1
  · intro h
    refine Fallible.bind_eq_ok.2 ⟨catalog.functions, ?_, Fallible.mapError_eq_ok.2 (ofSignatures_eq_ok.2 rfl)⟩
    exact Fallible.mapM_eq_ok.2 (h.imp fun _ _ => Signature.defined_eq_ok.2)

end Catalog

end Screener
