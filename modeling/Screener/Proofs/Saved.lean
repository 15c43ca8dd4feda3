import Screener.Library.Store
import Screener.Proofs.Written

namespace Screener

namespace Checked

variable {α β : Type}

theorem within_eq_ok {step : Issue.Step} {check : Checked α} {value : α} :
    within step check = .ok value ↔ check = .ok value := by
  cases check <;> simp [within]

theorem both_eq_ok {first : Checked α} {second : Checked β} {value : α × β} :
    both first second = .ok value ↔ first = .ok value.1 ∧ second = .ok value.2 := by
  obtain ⟨a, b⟩ := value
  cases first <;> cases second <;> simp [both]

theorem all_eq_ok {checks : List (Checked α)} {values : List α} :
    all checks = .ok values ↔ List.Forall₂ (fun check value => check = .ok value) checks values := by
  induction checks generalizing values with
  | nil => simp [all, eq_comm]
  | cons check checks ih =>
    rw [all, List.forall₂_cons_left_iff]
    simp only [← ih]
    cases check with
    | error issues => cases all checks <;> simp [both, Except.map]
    | ok value => cases all checks <;> simp [both, Except.map, eq_comm]

theorem forall₂_mapIdx_iff {γ : Type} {f : Nat → β → γ} {S : γ → α → Prop} {R : β → α → Prop} {values : List β}
    {results : List α} (h : ∀ i value result, S (f i value) result ↔ R value result) :
    List.Forall₂ S (values.mapIdx f) results ↔ List.Forall₂ R values results := by
  induction values generalizing f results with
  | nil => simp
  | cons value values ih =>
    rw [List.mapIdx_cons, List.forall₂_cons_left_iff, List.forall₂_cons_left_iff]
    simp only [h, ih fun i => h (i + 1)]

theorem items_eq_ok {check : β → Checked α} {values : List β} {results : List α} :
    items check values = .ok results ↔ List.Forall₂ (fun value result => check value = .ok result) values results :=
  all_eq_ok.trans (forall₂_mapIdx_iff fun _ _ _ => within_eq_ok)

end Checked

theorem Token.ofJson_toJson (token : Token) : ofJson token.toJson = .ok token := by
  obtain ⟨kind, text⟩ := token
  cases kind <;> rfl

theorem Token.isTextual_toJson (token : Token) (depth : Nat) : Json.IsTextual (depth + 1) token.toJson := by
  have hnames : (["type", "value"] : List Text).Nodup := by decide
  refine .obj hnames ?_
  simp only [List.forall_mem_cons, List.not_mem_nil, false_implies, implies_true, and_true]
  exact ⟨.str _, .str _⟩

theorem Formula.ofJson_toJson (formula : Formula) : ofJson formula.toJson = .ok formula :=
  Checked.items_eq_ok.2 (List.forall₂_map_left_iff.2 (List.forall₂_same.2 fun token _ => token.ofJson_toJson))

namespace Record

theorem make?_eq_some_iff {name description equation : Text} {tokens : Formula} {record : Record} :
    make? name description tokens equation = some record ↔ name.trim = record.name ∧
      description.trim = record.description ∧ tokens = record.tokens ∧ (tokens = [] → equation = record.equation) := by
  unfold make?
  constructor
  · intro h
    split at h
    case isTrue => cases h
    case isFalse =>
      cases h
      exact ⟨rfl, rfl, rfl, fun hempty => (if_pos hempty).symm⟩
  · intro ⟨hname, hdescription, htokens, hequation⟩
    obtain ⟨_, _, _, written, _, hne, _, hderived⟩ := record
    simp only at hname hdescription htokens hequation hne hderived
    subst hname hdescription htokens
    rw [dif_neg hne]
    have hkept : (if tokens = [] then equation else tokens.equation) = written := by
      split
      case isTrue hempty => exact hequation hempty
      case isFalse hfilled => exact (hderived hfilled).symm
    simp only [hkept]

variable (record : Record)

theorem blank_name : record.name.blank = false := by
  rw [Bool.eq_false_iff, ne_eq, ← Text.trim_eq_nil, record.trim_name]
  exact record.name_ne_nil

theorem descriptionText_eq (text : Text) : descriptionText (.str text) = .ok text.trim := by
  cases text <;> rfl

theorem descriptionText_str : descriptionText (.str record.description) = .ok record.description := by
  rw [descriptionText_eq, record.trim_description]

theorem make?_eq_some : make? record.name record.description record.tokens record.equation = some record :=
  make?_eq_some_iff.2 ⟨record.trim_name, record.trim_description, rfl, fun _ => rfl⟩

def members : List (Text × Json) :=
  [("name", .str record.name), ("description", .str record.description),
    ("tokens", Formula.toJson record.tokens), ("equation", .str record.equation)]

theorem field_name : Json.field record.members "name" nameText = .ok record.name := by
  have hname : nameText (.str record.name) = .ok record.name := by
    rw [nameText, record.blank_name]
    rfl
  change Checked.within _ (nameText (.str record.name)) = _
  rw [hname]
  rfl

theorem field_tokens : Json.fieldOr record.members "tokens" [] Formula.ofJson = .ok record.tokens := by
  change Checked.within _ (Formula.ofJson (Formula.toJson record.tokens)) = _
  rw [Formula.ofJson_toJson]
  rfl

theorem field_equation : Json.fieldOr record.members "equation" [] Json.asText = .ok record.equation := rfl

theorem ofJson_toJson : ofJson record.toJson = .ok record := by
  have hdescription : (Json.member? "description" record.members).getD .null = .str record.description := rfl
  change ofMembers record.members = _
  rw [ofMembers, hdescription, record.descriptionText_str, record.field_name, record.field_tokens,
    record.field_equation]
  simp only [Except.mapError, bind, Except.bind, Checked.both, record.make?_eq_some]
  rfl

theorem isTextual_toJson (depth : Nat) : Json.IsTextual (depth + 3) record.toJson := by
  have hnames : (["name", "description", "tokens", "equation"] : List Text).Nodup := by decide
  refine .obj hnames ?_
  simp only [List.forall_mem_cons, List.not_mem_nil, false_implies, implies_true, and_true]
  refine ⟨.str _, .str _, .arr ?_, .str _⟩
  rw [List.forall_mem_map]
  exact fun token _ => token.isTextual_toJson depth

end Record

namespace Library

theorem ofItems_map_toJson (library : Library) : ofItems (library.map Record.toJson) = .ok library := by
  induction library with
  | nil => rfl
  | cons record rest ih => rw [List.map_cons, ofItems, record.ofJson_toJson, ih]

theorem ofJson_toJson (library : Library) : ofJson library.toJson = .ok library := library.ofItems_map_toJson

theorem isTextual_toJson (library : Library) (depth : Nat) : Json.IsTextual (depth + 5) library.toJson := by
  refine .obj (by simp [Entries.names]) ?_
  rw [List.forall_mem_singleton]
  refine .arr ?_
  rw [List.forall_mem_map]
  exact fun record _ => record.isTextual_toJson depth

/-- How deep the values in a library's file nest. -/
def nesting : Nat := 5

/-- A file that is loaded as a library, unless what it is loaded with does not allow for its nesting. -/
structure IsKeptIn (library : Library) (file : FileState) : Prop where
  ofFile {levels : Nat} : nesting ≤ levels → Library.ofFile levels file = .ok library
  ofFile_or (levels : Nat) : Library.ofFile levels file = .ok library ∨ ∃ fault, Library.ofFile levels file = .error fault

theorem isKeptIn_absent : IsKeptIn [] .absent := ⟨fun _ => rfl, fun _ => .inl rfl⟩

theorem isDocument_fileText (library : Library) (depth : Nat) :
    Json.IsDocument (depth + nesting) library.fileText library.toJson.raw :=
  ((library.isTextual_toJson depth).spells_indented 0).isDocument

theorem ofText_of_read {levels : Nat} {text : Text} (library : Library)
    (h : Json.read text levels = .ok library.toJson.raw) : ofText levels text = .ok library := by
  rw [ofText, h]
  simp only [Json.mended_raw, library.ofJson_toJson]

theorem isKeptIn_encode (library : Library) : library.IsKeptIn (.contents library.encode) := by
  constructor
  · intro levels hlevels
    obtain ⟨depth, rfl⟩ := Nat.exists_eq_add_of_le' hlevels
    simp only [Library.ofFile, encode, Text.decode?_encode]
    exact library.ofText_of_read (library.isDocument_fileText depth).read
  · intro levels
    simp only [Library.ofFile, encode, Text.decode?_encode]
    obtain hread | ⟨opened, hread⟩ := (library.isDocument_fileText 0).read_or_tooDeep levels
    · exact .inl (library.ofText_of_read hread)
    · refine .inr ⟨.tooDeep opened, ?_⟩
      rw [ofText, hread]

end Library

end Screener
