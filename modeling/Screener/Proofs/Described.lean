import Screener.Proofs.Outcomes

namespace Screener

namespace RawJson

/-- What holds of a value whatever characters stand in for its surrogates, as long as none of them is ASCII. -/
def Always (value : RawJson) (p : Json → Prop) : Prop :=
  ∀ standIn : Surrogate → Char, (∀ half, 128 ≤ (standIn half).toNat) → p (value.mend standIn)

def Possibly (value : RawJson) (p : Json → Prop) : Prop :=
  ∃ standIn : Surrogate → Char, (∀ half, 128 ≤ (standIn half).toNat) ∧ p (value.mend standIn)

variable {value : RawJson} {p : Json → Prop}

theorem le_toNat_replacement : 128 ≤ '\ufffd'.toNat := by decide

theorem Always.mended (h : value.Always p) : p value.mended := h _ fun _ => le_toNat_replacement

theorem Possibly.of_mended (h : p value.mended) : value.Possibly p := ⟨_, fun _ => le_toNat_replacement, h⟩

end RawJson

namespace Json

inductive Optional {α : Type} (absent : α) (R : Json → α → Prop) : Option Json → α → Prop
  | missing : Optional absent R none absent
  | given {value : Json} {held : α} : R value held → Optional absent R (some value) held

variable {α : Type} {members : List (Text × Json)} {name : Text} {check : Json → Checked α} {held : α}

theorem optional_iff {absent : α} {R : Json → α → Prop} {field : Option Json} :
    Optional absent R field held ↔ field = none ∧ held = absent ∨ ∃ value, field = some value ∧ R value held := by
  constructor
  · rintro (_ | h)
    · exact .inl ⟨rfl, rfl⟩
    · exact .inr ⟨_, rfl, h⟩
  · rintro (⟨rfl, rfl⟩ | ⟨value, rfl, h⟩)
    · exact .missing
    · exact .given h

theorem field_eq_ok :
    field members name check = .ok held ↔ ∃ value, member? name members = some value ∧ check value = .ok held := by
  rw [field, Checked.within_eq_ok, required]
  cases member? name members <;> simp [bind, Except.bind, Checked.fail]

theorem fieldOr_eq_ok {absent : α} {R : Json → α → Prop} (h : ∀ value held, check value = .ok held ↔ R value held) :
    fieldOr members name absent check = .ok held ↔ Optional absent R (member? name members) held := by
  rw [optional_iff, fieldOr]
  cases member? name members with
  | none => simp [eq_comm]
  | some value => simp [Checked.within_eq_ok, h]

theorem asText_eq_ok {value : Json} {text : Text} : asText value = .ok text ↔ value = .str text := by
  cases value <;> simp [asText, Checked.fail]

end Json

namespace Token

inductive Describes : Json → Token → Prop
  | obj {members : List (Text × Json)} {token : Token} :
      (Json.member? "type" members).or (Json.member? "kind" members) = some (.str token.kind.name) →
      (Json.member? "value" members).or (Json.member? "text" members) = some (.str token.text) →
        Describes (.obj members) token

theorem Kind.ofJson_eq_ok {value : Json} {kind : Kind} : ofJson value = .ok kind ↔ value = .str kind.name := by
  constructor
  · intro h
    cases value with
    | str name =>
      rw [ofJson] at h
      cases hname : ofName? name with
      | none =>
        rw [hname] at h
        cases h
      | some found =>
        rw [hname] at h
        cases h
        have hfound := List.find?_some hname
        rw [beq_iff_eq] at hfound
        rw [hfound]
    | _ => cases h
  · rintro rfl
    rw [ofJson, ofName?_name]

theorem aliased_eq_ok {α : Type} {members : List (Text × Json)} {name other : Text} {check : Json → Checked α} {held : α} :
    aliased members name other check = .ok held ↔
      ∃ value, (Json.member? name members).or (Json.member? other members) = some value ∧ check value = .ok held := by
  unfold aliased
  split
  case h_1 value hname hother => rw [Json.field_eq_ok, hname, Option.none_or]
  case h_2 hcases =>
    rw [Json.field_eq_ok]
    cases hname : Json.member? name members with
    | some value => rw [Option.some_or]
    | none =>
      cases hother : Json.member? other members with
      | some value => exact absurd hother (hcases value hname)
      | none => rw [Option.none_or]

theorem ofJson_eq_ok {value : Json} {token : Token} : ofJson value = .ok token ↔ Describes value token := by
  constructor
  · intro h
    cases value with
    | obj members =>
      obtain ⟨parts, hparts, ⟨⟩⟩ := Fallible.bind_eq_ok.1 h
      obtain ⟨hkind, htext⟩ := Checked.both_eq_ok.1 hparts
      obtain ⟨kind, hkind, hread⟩ := aliased_eq_ok.1 hkind
      obtain ⟨text, htext, hreadText⟩ := aliased_eq_ok.1 htext
      rw [Kind.ofJson_eq_ok.1 hread] at hkind
      rw [Json.asText_eq_ok.1 hreadText] at htext
      exact .obj hkind htext
    | _ => cases h
  · rintro ⟨hkind, htext⟩
    refine Fallible.bind_eq_ok.2 ⟨(token.kind, token.text), Checked.both_eq_ok.2 ⟨?_, ?_⟩, rfl⟩
    · exact aliased_eq_ok.2 ⟨_, hkind, Kind.ofJson_eq_ok.2 rfl⟩
    · exact aliased_eq_ok.2 ⟨_, htext, Json.asText_eq_ok.2 rfl⟩

end Token

namespace Formula

inductive Describes : Json → Formula → Prop
  | arr {items : List Json} {formula : Formula} : List.Forall₂ Token.Describes items formula →
      Describes (.arr items) formula

theorem ofJson_eq_ok {value : Json} {formula : Formula} : ofJson value = .ok formula ↔ Describes value formula := by
  constructor
  · intro h
    cases value with
    | arr items => exact .arr ((Checked.items_eq_ok.1 h).imp fun _ _ => Token.ofJson_eq_ok.1)
    | _ => cases h
  · rintro ⟨h⟩
    exact Checked.items_eq_ok.2 (h.imp fun _ _ => Token.ofJson_eq_ok.2)

end Formula

namespace Record

inductive DescribesText : Json → Text → Prop
  | void {value : Json} : value.isVoid → DescribesText value []
  | str (text : Text) : DescribesText (.str text) (Text.trim text)

/-- The fields of a record: the name is there and not blank, as no record has an empty name.  The equation is text if it
is there, but it counts only where there are no tokens. -/
structure HasFields (members : List (Text × Json)) (record : Record) : Prop where
  name : ∃ text, Json.member? "name" members = some (.str text) ∧ record.name = Text.trim text
  description : Json.Optional [] DescribesText (Json.member? "description" members) record.description
  tokens : Json.Optional [] Formula.Describes (Json.member? "tokens" members) record.tokens
  equation : ∃ text, Json.Optional [] (fun value text => value = .str text) (Json.member? "equation" members) text ∧
    (record.tokens = [] → record.equation = text)

inductive Describes : Json → Record → Prop
  | obj {members : List (Text × Json)} {record : Record} : HasFields members record → Describes (.obj members) record

inductive Misdescribes : Json → Json.Kind → Prop
  | obj {members : List (Text × Json)} {value : Json} : Json.member? "description" members = some value →
      value.isVoid = false → (∀ text, value ≠ .str text) → Misdescribes (.obj members) value.kind

theorem descriptionText_eq_ok {value : Json} {text : Text} :
    descriptionText value = .ok text ↔ DescribesText value text := by
  constructor
  · intro h
    unfold descriptionText at h
    split at h
    case isTrue hvoid =>
      cases h
      exact .void hvoid
    case isFalse =>
      split at h
      case h_1 text _ =>
        cases h
        exact .str text
      case h_2 => cases h
  · intro h
    cases h with
    | void hvoid => simp only [descriptionText, hvoid, if_true]
    | str text => exact descriptionText_eq text

theorem descriptionText_eq_error {value : Json} {kind : Json.Kind} :
    descriptionText value = .error kind ↔
      value.isVoid = false ∧ (∀ text, value ≠ .str text) ∧ value.kind = kind := by
  unfold descriptionText
  split
  case isTrue hvoid => simp [hvoid]
  case isFalse hvoid =>
    split
    case h_1 text _ => simp
    case h_2 hother => simpa [hvoid] using fun _ => hother

theorem nameText_eq_ok {value : Json} {name : Text} : nameText value = .ok name ↔ value = .str name ∧ name.blank = false := by
  cases value with
  | str text =>
    rw [nameText]
    cases hblank : Text.blank text with
    | true =>
      simp only [if_true, Checked.fail, reduceCtorEq, false_iff, not_and, JsonOf.str.injEq]
      rintro rfl
      simp [hblank]
    | false =>
      simp only [Bool.false_eq_true, if_false, Except.ok.injEq, JsonOf.str.injEq]
      constructor
      · rintro rfl
        exact ⟨rfl, hblank⟩
      · exact And.left
  | _ => simp [nameText, Checked.fail]

theorem optional_descriptionText {members : List (Text × Json)} {text : Text} :
    descriptionText ((Json.member? "description" members).getD .null) = .ok text ↔
      Json.Optional [] DescribesText (Json.member? "description" members) text := by
  rw [Json.optional_iff]
  cases Json.member? "description" members with
  | none => simp [descriptionText, Json.isVoid, eq_comm]
  | some value => simp [descriptionText_eq_ok]

theorem optional_trim {field : Option Json} {text : Text} (h : Json.Optional [] DescribesText field text) :
    text.trim = text := by
  cases h with
  | missing => rfl
  | given h =>
    cases h with
    | void _ => rfl
    | str text => exact Text.trim_trim text

theorem ofMembers_eq_ok {members : List (Text × Json)} {record : Record} :
    ofMembers members = .ok record ↔ HasFields members record := by
  constructor
  · intro h
    obtain ⟨description, hdescription, h⟩ := Fallible.bind_eq_ok.1 h
    obtain ⟨⟨name, tokens, equation⟩, hparts, h⟩ := Fallible.bind_eq_ok.1 h
    obtain ⟨hname, hrest⟩ := Checked.both_eq_ok.1 (Fallible.mapError_eq_ok.1 hparts)
    obtain ⟨htokens, hequation⟩ := Checked.both_eq_ok.1 hrest
    have hmake : make? name description tokens equation = some record := by
      cases hmade : make? name description tokens equation with
      | some made =>
        simp only [hmade] at h
        cases h
        rfl
      | none =>
        simp only [hmade] at h
        cases h
    obtain ⟨htrim, hkept, rfl, hwritten⟩ := make?_eq_some_iff.1 hmake
    obtain ⟨value, hmember, hvalue⟩ := Json.field_eq_ok.1 hname
    obtain ⟨rfl, -⟩ := nameText_eq_ok.1 hvalue
    have hdescribed := optional_descriptionText.1 (Fallible.mapError_eq_ok.1 hdescription)
    rw [optional_trim hdescribed] at hkept
    exact ⟨⟨name, hmember, htrim.symm⟩, hkept ▸ hdescribed, (Json.fieldOr_eq_ok fun _ _ => Formula.ofJson_eq_ok).1 htokens,
      equation, (Json.fieldOr_eq_ok fun _ _ => Json.asText_eq_ok).1 hequation, fun hempty => (hwritten hempty).symm⟩
  · intro h
    obtain ⟨text, hmember, hname⟩ := h.name
    obtain ⟨equation, hequation, hwritten⟩ := h.equation
    have hblank : Text.blank text = false := by
      rw [Bool.eq_false_iff, ne_eq, ← Text.trim_eq_nil, ← hname]
      exact record.name_ne_nil
    refine Fallible.bind_eq_ok.2 ⟨record.description, Fallible.mapError_eq_ok.2 (optional_descriptionText.2 h.description), ?_⟩
    refine Fallible.bind_eq_ok.2 ⟨(text, record.tokens, equation), Fallible.mapError_eq_ok.2 (Checked.both_eq_ok.2 ⟨?_, ?_⟩), ?_⟩
    · exact Json.field_eq_ok.2 ⟨_, hmember, nameText_eq_ok.2 ⟨rfl, hblank⟩⟩
    · refine Checked.both_eq_ok.2 ⟨?_, ?_⟩
      · exact (Json.fieldOr_eq_ok fun _ _ => Formula.ofJson_eq_ok).2 h.tokens
      · exact (Json.fieldOr_eq_ok fun _ _ => Json.asText_eq_ok).2 hequation
    · have hmake : make? text record.description record.tokens equation = some record :=
        make?_eq_some_iff.2 ⟨hname.symm, record.trim_description, rfl, fun hempty => (hwritten hempty).symm⟩
      simp only [hmake]
      rfl

theorem ofJson_eq_ok {value : Json} {record : Record} : ofJson value = .ok record ↔ Describes value record := by
  constructor
  · intro h
    cases value with
    | obj members => exact .obj (ofMembers_eq_ok.1 h)
    | _ => cases h
  · rintro ⟨h⟩
    exact ofMembers_eq_ok.2 h

-- A blank around the name, a description that stands for nothing, a token under the other names, and a field besides.
example : Record.ofJson (.obj [("name", .str " A"), ("description", .int 0),
    ("tokens", .arr [.obj [("kind", .str "number"), ("text", .str "5")]]), ("hash", .arr [])]) =
      .ok ⟨"A", [], [⟨.number, "5"⟩], "5", by decide, by decide, by decide, by decide⟩ := by decide +kernel

theorem ofMembers_of_descriptionText {members : List (Text × Json)} {text : Text} (kind : Json.Kind)
    (h : descriptionText ((Json.member? "description" members).getD .null) = .ok text) :
    ofMembers members ≠ .error (.descriptionNotText kind) := by
  intro hfault
  rw [ofMembers, h] at hfault
  simp only [Except.mapError, bind, Except.bind] at hfault
  generalize Checked.both _ _ = parts at hfault
  cases parts with
  | error issues => cases hfault
  | ok fields =>
    simp only at hfault
    split at hfault
    case h_1 => cases hfault
    case h_2 => cases hfault

theorem ofJson_eq_descriptionNotText {value : Json} {kind : Json.Kind} :
    ofJson value = .error (.descriptionNotText kind) ↔ Misdescribes value kind := by
  constructor
  · intro h
    cases value with
    | obj members =>
      cases hdescription : descriptionText ((Json.member? "description" members).getD .null) with
      | ok text => exact absurd h (ofMembers_of_descriptionText kind hdescription)
      | error found =>
        have hfound : ofMembers members = .error (.descriptionNotText found) := by
          rw [ofMembers, hdescription]
          rfl
        cases h.symm.trans hfound
        obtain ⟨hvoid, htext, rfl⟩ := descriptionText_eq_error.1 hdescription
        cases hmember : Json.member? "description" members with
        | none =>
          rw [hmember] at hvoid
          cases hvoid
        | some value =>
          rw [hmember] at hvoid htext
          exact .obj hmember hvoid htext
    | _ => cases h
  · rintro ⟨hmember, hvoid, htext⟩
    have hdescription := descriptionText_eq_error.2 ⟨hvoid, htext, rfl⟩
    rw [ofJson, ofMembers, hmember, Option.getD_some, hdescription]
    rfl

end Record

namespace Library

inductive Describes : Json → Library → Prop
  | obj {members : List (Text × Json)} {library : Library} :
      Json.Optional [] (fun value library => ∃ items, value = .arr items ∧ List.Forall₂ Record.Describes items library)
        (Json.member? "formulas" members) library → Describes (.obj members) library

inductive FirstMisdescribed : List Json → Json.Kind → Prop
  | here {item : Json} {rest : List Json} {kind : Json.Kind} : Record.Misdescribes item kind →
      FirstMisdescribed (item :: rest) kind
  | later {item : Json} {rest : List Json} {kind : Json.Kind} : (∀ other, ¬ Record.Misdescribes item other) →
      FirstMisdescribed rest kind → FirstMisdescribed (item :: rest) kind

inductive Misdescribes : Json → Json.Kind → Prop
  | obj {members : List (Text × Json)} {items : List Json} {kind : Json.Kind} :
      Json.member? "formulas" members = some (.arr items) → FirstMisdescribed items kind → Misdescribes (.obj members) kind

variable {items : List Json} {value : Json} {library : Library} {kind : Json.Kind}

theorem ofItems_eq_ok : ofItems items = .ok library ↔ List.Forall₂ Record.Describes items library := by
  induction items generalizing library with
  | nil => simp [ofItems, eq_comm]
  | cons item rest ih =>
    rw [List.forall₂_cons_left_iff, ofItems]
    simp only [← ih, ← Record.ofJson_eq_ok]
    cases Record.ofJson item with
    | ok record => cases ofItems rest <;> simp [eq_comm]
    | error fault => cases fault <;> cases ofItems rest <;> simp

theorem ofItems_cons_eq_descriptionNotText {item : Json} :
    ofItems (item :: items) = .error (.descriptionNotText kind) ↔ Record.Misdescribes item kind ∨
      (∀ other, ¬ Record.Misdescribes item other) ∧ ofItems items = .error (.descriptionNotText kind) := by
  simp only [← Record.ofJson_eq_descriptionNotText]
  rw [ofItems]
  cases Record.ofJson item with
  | ok record => cases ofItems items <;> simp
  | error fault => cases fault <;> cases ofItems items <;> simp

theorem ofItems_eq_descriptionNotText :
    ofItems items = .error (.descriptionNotText kind) ↔ FirstMisdescribed items kind := by
  induction items with
  | nil =>
    constructor
    · intro h
      cases h
    · rintro ⟨⟩
  | cons item rest ih =>
    rw [ofItems_cons_eq_descriptionNotText, ih]
    constructor
    · rintro (hitem | ⟨hnone, hrest⟩)
      · exact .here hitem
      · exact .later hnone hrest
    · rintro (hitem | ⟨hnone, hrest⟩)
      · exact .inl hitem
      · exact .inr ⟨hnone, hrest⟩

theorem ofJson_eq_ok : ofJson value = .ok library ↔ Describes value library := by
  constructor
  · intro h
    cases value with
    | obj members =>
      rw [ofJson] at h
      split at h
      case h_1 hmember =>
        cases h
        exact .obj (hmember ▸ .missing)
      case h_2 items hmember => exact .obj (hmember ▸ .given ⟨items, rfl, ofItems_eq_ok.1 h⟩)
      case h_3 => cases h
    | _ => cases h
  · rintro ⟨h⟩
    rw [ofJson]
    obtain ⟨hmember, rfl⟩ | ⟨_, hmember, items, rfl, hitems⟩ := Json.optional_iff.1 h
    · rw [hmember]
    · rw [hmember]
      exact ofItems_eq_ok.2 hitems

theorem ofJson_eq_descriptionNotText : ofJson value = .error (.descriptionNotText kind) ↔ Misdescribes value kind := by
  constructor
  · intro h
    cases value with
    | obj members =>
      rw [ofJson] at h
      split at h
      case h_1 => cases h
      case h_2 items hmember => exact .obj hmember (ofItems_eq_descriptionNotText.1 h)
      case h_3 => cases h
    | _ => cases h
  · rintro ⟨hmember, hfirst⟩
    rw [ofJson, hmember]
    exact ofItems_eq_descriptionNotText.2 hfirst

end Library

end Screener
