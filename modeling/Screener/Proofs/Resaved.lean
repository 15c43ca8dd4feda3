import Screener.Proofs.Stored

namespace Screener

def Text.IsAscii (text : Text) : Prop := ∀ c ∈ text, c.toNat < 0x80

instance (text : Text) : Decidable text.IsAscii :=
  decidable_of_iff ((text.all fun c => decide (c.toNat < 0x80)) = true) (by simp [Text.IsAscii])

theorem Text.isAscii_append {text more : Text} : IsAscii (text ++ more) ↔ text.IsAscii ∧ more.IsAscii :=
  List.forall_mem_append

namespace Json

theorem toNat_lt_of_hexDigit? {c : Char} {digit : Nat} (h : hexDigit? c = some digit) : c.toNat < 0x80 := by
  unfold hexDigit? at h
  split_ifs at h with hnumeral hlower hupper
  · exact Nat.lt_of_le_of_lt hnumeral.2 (by decide)
  · exact Nat.lt_of_le_of_lt hlower.2 (by decide)
  · exact Nat.lt_of_le_of_lt hupper.2 (by decide)

theorem isAscii_unitEscape {unit : Nat} (h : unit < 0x10000) : (unitEscape unit).IsAscii := by
  obtain ⟨a, b, c, d, hescape, hunit⟩ := exists_unitEscape h
  simp only [hexUnit?, Option.bind_eq_bind, Option.bind_eq_some_iff] at hunit
  obtain ⟨_, ha, _, hb, _, hc, _, hd, -⟩ := hunit
  rw [hescape]
  simp only [Text.IsAscii, List.forall_mem_cons]
  exact ⟨by decide, by decide, toNat_lt_of_hexDigit? ha, toNat_lt_of_hexDigit? hb, toNat_lt_of_hexDigit? hc,
    toNat_lt_of_hexDigit? hd, by simp⟩

theorem isAscii_codeEscape (c : Char) : (codeEscape c.toNat).IsAscii := by
  have hvalid : c.toNat < 0xd800 ∨ 0xdfff < c.toNat ∧ c.toNat < 0x110000 := c.valid
  unfold codeEscape
  split
  case isTrue hlt => exact isAscii_unitEscape hlt
  case isFalse => exact Text.isAscii_append.2 ⟨isAscii_unitEscape (by omega), isAscii_unitEscape (by omega)⟩

theorem isAscii_encodeChar (c : Char) : (encodeChar c).IsAscii := by
  unfold encodeChar
  split_ifs with hquote hescape hline hreturn htab hback hfeed hplain
  any_goals decide
  case pos =>
    intro d hd
    rw [List.mem_singleton.1 hd]
    exact Nat.lt_of_le_of_lt hplain.2 (by decide)
  case neg => exact isAscii_codeEscape c

theorem isAscii_encodeText (text : Text) : (encodeText text).IsAscii := by
  refine Text.isAscii_append.2 ⟨Text.isAscii_append.2 ⟨by decide, fun d hd => ?_⟩, by decide⟩
  obtain ⟨c, -, hc⟩ := List.mem_flatMap.1 hd
  exact isAscii_encodeChar c d hc

theorem isAscii_newLine (level : Nat) : (newLine level).IsAscii := by
  refine List.forall_mem_cons.2 ⟨by decide, fun c hc => ?_⟩
  rw [List.eq_of_mem_replicate hc]
  decide

theorem isAscii_encloseLines {level : Nat} {opening closing : Char} {parts : List Text}
    (hopening : opening.toNat < 0x80) (hclosing : closing.toNat < 0x80) (h : ∀ part ∈ parts, part.IsAscii) :
    (encloseLines level opening closing parts).IsAscii := by
  cases parts with
  | nil => simpa [encloseLines, Text.IsAscii] using ⟨hopening, hclosing⟩
  | cons part parts =>
    have hcomma : Text.IsAscii (',' :: newLine (level + 1)) := List.forall_mem_cons.2 ⟨by decide, isAscii_newLine _⟩
    rw [encloseLines_eq level opening closing (List.cons_ne_nil part parts)]
    refine List.forall_mem_cons.2 ⟨hopening, ?_⟩
    refine Text.isAscii_append.2 ⟨isAscii_newLine _, Text.isAscii_append.2 ⟨Text.forall_mem_join hcomma h, ?_⟩⟩
    exact Text.isAscii_append.2 ⟨isAscii_newLine _, List.forall_mem_singleton.2 hclosing⟩

theorem IsTextual.isAscii_indented {depth : Nat} {value : Json} (h : IsTextual depth value) (level : Nat) :
    (indented level value).IsAscii := by
  induction h generalizing level with
  | str text => exact isAscii_encodeText text
  | @arr depth items _ ih =>
    rw [indented, indentedItems_eq_map]
    apply isAscii_encloseLines (by decide) (by decide)
    rw [List.forall_mem_map]
    exact fun item hmem => ih item hmem (level + 1)
  | @obj depth members _ _ ih =>
    rw [indented, indentedMembers_eq_map]
    apply isAscii_encloseLines (by decide) (by decide)
    rw [List.forall_mem_map]
    intro member hmem
    refine Text.isAscii_append.2 ⟨Text.isAscii_append.2 ⟨isAscii_encodeText _, by decide⟩, ?_⟩
    exact ih member hmem (level + 1)

end Json

theorem Library.isAscii_fileText (library : Library) : library.fileText.IsAscii :=
  (library.isTextual_toJson 0).isAscii_indented 0

/-- A library of any records, which are made from what they hold, is saved as an ASCII text.  It is loaded from this
text as it is, and saved as the same text again. -/
theorem Store.save_load_save (library : Library) :
    (∀ record ∈ library, Record.make? record.name record.description record.tokens record.equation = some record) ∧
      ∃ text : Text, text.IsAscii ∧
        (Store.save library).run .absent = (.ok (), .contents text.encode) ∧
        (∀ bytes, (Store.save library).run (.contents bytes) = (.ok (), .contents text.encode)) ∧
        Store.load.run (.contents text.encode) = (.ok library, .contents text.encode) ∧
        (Store.load >>= Store.save).run (.contents text.encode) = (.ok (), .contents text.encode) := by
  have hload : Store.load.run (.contents library.encode) = (.ok library, .contents library.encode) := by
    rw [run_load, library.isKeptIn_encode.ofFile (by decide)]
  refine ⟨fun record _ => record.make?_eq_some, library.fileText, library.isAscii_fileText, rfl, fun _ => rfl, hload, ?_⟩
  rw [run_bind, ← Library.encode, hload]
  rfl

end Screener
