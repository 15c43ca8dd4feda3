import Mathlib.Data.List.Forall2
import Mathlib.Data.List.Nodup
import Screener.Json.Writer
import Screener.Proofs.Readings

namespace Screener

namespace Entries

variable {α κ : Type} [DecidableEq κ]

theorem foldl_put {seen entries : Entries α κ} (h : (names (seen ++ entries)).Nodup) :
    entries.foldl (fun seen (name, value) => put seen name value) seen = seen ++ entries := by
  induction entries generalizing seen with
  | nil => simp
  | cons entry rest ih =>
    obtain ⟨name, value⟩ := entry
    have hnew : name ∉ names seen := by
      intro hmem
      simp only [names, List.map_append, List.map_cons, List.nodup_append] at h
      exact h.2.2 _ hmem _ List.mem_cons_self rfl
    simp only [List.foldl_cons, put_of_not_mem value hnew]
    rw [ih (by simpa using h)]
    simp

theorem ofList_of_nodup {entries : Entries α κ} (h : (names entries).Nodup) : ofList entries = entries :=
  @foldl_put α κ _ [] entries h

end Entries

theorem Text.raw_injective : Function.Injective raw := List.map_injective_iff.2 fun _ _ => CodePoint.char.inj

namespace Json

variable {depth : Nat} {between close : Text}

theorem spells_items {parts : List Text} {items : List RawJson}
    (h : List.Forall₂ (fun part item => Spells depth part (.value item)) parts items) (hne : parts ≠ [])
    (hbetween : IsGap between) (hclose : IsGap close) :
    Spells depth (Text.join (',' :: between) parts ++ (close ++ [']'])) (.items items) := by
  induction h with
  | nil => exact absurd rfl hne
  | @cons part item parts items hpart hparts ih =>
    cases hparts with
    | nil => exact .lastItem hpart hclose
    | @cons next value parts items hnext hparts =>
      have hitems := Spells.item hpart isGap_nil hbetween (ih (by simp))
      rwa [Text.join_cons_cons, List.append_assoc, List.append_assoc, List.cons_append]

def SpellsMember (depth : Nat) (text : Text) (member : RawText × RawJson) : Prop :=
  ∃ label spelling, text = label ++ spelling ∧ SpellsName label member.1 ∧ Spells depth spelling (.value member.2)

theorem spells_members {parts : List Text} {members : List (RawText × RawJson)}
    (h : List.Forall₂ (SpellsMember depth) parts members) (hne : parts ≠ []) (hbetween : IsGap between)
    (hclose : IsGap close) :
    Spells depth (Text.join (',' :: between) parts ++ (close ++ ['\x7d'])) (.members members) := by
  induction h with
  | nil => exact absurd rfl hne
  | @cons part member parts members hpart hparts ih =>
    obtain ⟨label, spelling, rfl, hname, hvalue⟩ := hpart
    cases hparts with
    | nil =>
      rw [Text.join_singleton, List.append_assoc]
      exact .lastMember hname hvalue hclose
    | @cons next value parts members hnext hparts =>
      have hmembers := Spells.member hname hvalue isGap_nil hbetween (ih (by simp))
      rwa [Text.join_cons_cons, List.append_assoc, List.append_assoc, List.append_assoc, List.cons_append]

inductive IsTextual : Nat → Json → Prop
  | str {depth : Nat} (text : Text) : IsTextual depth (.str text)
  | arr {depth : Nat} {items : List Json} : (∀ item ∈ items, IsTextual depth item) →
      IsTextual (depth + 1) (.arr items)
  | obj {depth : Nat} {members : List (Text × Json)} : (Entries.names members).Nodup →
      (∀ member ∈ members, IsTextual depth member.2) → IsTextual (depth + 1) (.obj members)

theorem spells_encodeText (depth : Nat) (text : Text) : Spells depth (encodeText text) (.value (.str text.raw)) :=
  .text (spellsText_encodeChars text)

theorem spellsMember_encode {name spelling : Text} {value : RawJson} (h : Spells depth spelling (.value value)) :
    SpellsMember depth (encodeText name ++ ": " ++ spelling) (name.raw, value) := by
  have hspace : IsGap [' '] := List.forall_mem_singleton.2 (by decide)
  refine ⟨_, spelling, ?_, .mk (spellsText_encodeChars name) isGap_nil hspace, h⟩
  simp [encodeText]

theorem forall₂_map_map {α β γ : Type} {R : β → γ → Prop} {f : α → β} {g : α → γ} {values : List α}
    (h : ∀ value ∈ values, R (f value) (g value)) : List.Forall₂ R (values.map f) (values.map g) := by
  rw [List.forall₂_map_left_iff, List.forall₂_map_right_iff]
  exact List.forall₂_same.2 h

theorem raw_arr (items : List Json) : raw (.arr items) = .arr (items.map raw) :=
  congrArg JsonOf.arr (JsonOf.mapItems_eq_map CodePoint.char items)

theorem raw_obj {members : List (Text × Json)} (h : (Entries.names members).Nodup) :
    raw (.obj members) = .obj (Entries.ofList (members.map fun member => (member.1.raw, member.2.raw))) := by
  have hnames : (Entries.names (members.map fun member => (Text.raw member.1, raw member.2))).Nodup := by
    have hmapped := List.Nodup.map Text.raw_injective h
    rw [Entries.names, List.map_map] at hmapped ⊢
    exact hmapped
  rw [Entries.ofList_of_nodup hnames]
  exact congrArg JsonOf.obj (JsonOf.mapMembers_eq_map CodePoint.char members)

theorem spells_arr {gap : Text} {parts : List Text} {items : List Json} (hgap : IsGap gap)
    (h : List.Forall₂ (fun part item => Spells depth part (.value item)) parts (items.map raw)) (hne : parts ≠ [])
    (hbetween : IsGap between) (hclose : IsGap close) :
    Spells (depth + 1) ('[' :: (gap ++ (Text.join (',' :: between) parts ++ (close ++ [']']))))
      (.value (raw (.arr items))) := by
  rw [raw_arr]
  exact .arr hgap (spells_items h hne hbetween hclose)

theorem spells_obj {gap : Text} {parts : List Text} {members : List (Text × Json)} (hgap : IsGap gap)
    (hnames : (Entries.names members).Nodup)
    (h : List.Forall₂ (SpellsMember depth) parts (members.map fun member => (member.1.raw, member.2.raw)))
    (hne : parts ≠ []) (hbetween : IsGap between) (hclose : IsGap close) :
    Spells (depth + 1) ('\x7b' :: (gap ++ (Text.join (',' :: between) parts ++ (close ++ ['\x7d']))))
      (.value (raw (.obj members))) := by
  rw [raw_obj hnames]
  exact .obj hgap (spells_members h hne hbetween hclose)

theorem isGap_newLine (level : Nat) : IsGap (newLine level) := by
  intro c hc
  simp only [newLine, List.mem_cons, List.mem_replicate] at hc
  rcases hc with rfl | ⟨-, rfl⟩
  · decide
  · decide

theorem indentedItems_eq_map (level : Nat) (items : List Json) :
    indentedItems level items = items.map (indented level) := by
  induction items with
  | nil => rfl
  | cons item items ih => rw [indentedItems, ih, List.map_cons]

theorem indentedMembers_eq_map (level : Nat) (members : List (Text × Json)) :
    indentedMembers level members =
      members.map fun member => encodeText member.1 ++ ": " ++ indented level member.2 := by
  induction members with
  | nil => rfl
  | cons member members ih => rw [indentedMembers, ih, List.map_cons]

theorem compactItems_eq_map (items : List Json) : compactItems items = items.map compact := by
  induction items with
  | nil => rfl
  | cons item items ih => rw [compactItems, ih, List.map_cons]

theorem compactMembers_eq_map (members : List (Text × Json)) :
    compactMembers members = members.map fun member => encodeText member.1 ++ ": " ++ compact member.2 := by
  induction members with
  | nil => rfl
  | cons member members ih => rw [compactMembers, ih, List.map_cons]

theorem encloseLines_eq (level : Nat) (opening closing : Char) {parts : List Text} (hne : parts ≠ []) :
    encloseLines level opening closing parts =
      opening :: (newLine (level + 1) ++ (Text.join (',' :: newLine (level + 1)) parts
        ++ (newLine level ++ [closing]))) := by
  rw [encloseLines.eq_2 level opening closing parts hne]
  simp

theorem IsTextual.spells_indented {value : Json} (h : IsTextual depth value) (level : Nat) :
    Spells depth (indented level value) (.value value.raw) := by
  induction h generalizing level with
  | str text => exact spells_encodeText _ text
  | @arr depth items _ ih =>
    rw [indented, indentedItems_eq_map]
    cases items with
    | nil => exact .noItems isGap_nil
    | cons item items =>
      rw [encloseLines_eq level '[' ']' (by simp)]
      apply spells_arr (isGap_newLine _) _ (by simp) (isGap_newLine _) (isGap_newLine _)
      exact forall₂_map_map fun item hmem => ih item hmem (level + 1)
  | @obj depth members hnames _ ih =>
    rw [indented, indentedMembers_eq_map]
    cases members with
    | nil => exact .noMembers isGap_nil
    | cons member members =>
      rw [encloseLines_eq level '\x7b' '\x7d' (by simp)]
      apply spells_obj (isGap_newLine _) hnames _ (by simp) (isGap_newLine _) (isGap_newLine _)
      exact forall₂_map_map fun member hmem => spellsMember_encode (ih member hmem (level + 1))

theorem IsTextual.spells_compact {value : Json} (h : IsTextual depth value) :
    Spells depth (compact value) (.value value.raw) := by
  have hspace : IsGap [' '] := List.forall_mem_singleton.2 (by decide)
  induction h with
  | str text => exact spells_encodeText _ text
  | @arr depth items _ ih =>
    rw [compact, compactItems_eq_map]
    cases items with
    | nil => exact .noItems isGap_nil
    | cons item items =>
      have hspells := spells_arr isGap_nil (forall₂_map_map ih) (by simp) hspace isGap_nil
      simpa using hspells
  | @obj depth members hnames _ ih =>
    rw [compact, compactMembers_eq_map]
    cases members with
    | nil => exact .noMembers isGap_nil
    | cons member members =>
      have hparts := forall₂_map_map fun member hmem => @spellsMember_encode depth member.1 _ _ (ih member hmem)
      have hspells := spells_obj isGap_nil hnames hparts (by simp) hspace isGap_nil
      simpa using hspells

theorem Spells.isDocument {text : Text} {value : RawJson} (h : Spells depth text (.value value)) :
    IsDocument depth text value :=
  ⟨[], text, [], isGap_nil, isGap_nil, by simp, h⟩

theorem IsTextual.compact_inj {value other : Json} (h : IsTextual depth value) (hother : IsTextual depth other) :
    compact value = compact other ↔ value = other := by
  refine ⟨fun heq => ?_, fun heq => heq ▸ rfl⟩
  have hread := h.spells_compact.isDocument.read
  rw [heq, hother.spells_compact.isDocument.read] at hread
  have hsame := congrArg RawJson.mended (Except.ok.inj hread)
  rw [mended_raw, mended_raw] at hsame
  exact hsame.symm

end Json

end Screener
