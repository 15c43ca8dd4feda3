import Mathlib.Tactic.SplitIfs
import Screener.Json.Reader
import Screener.Json.Writer
import Screener.Proofs.Fallible

namespace Screener

namespace Text

theorem hex_succ (width n : Nat) : hex (width + 2) n = hex (width + 1) (n / 16) ++ [(n % 16).digitChar] := by
  simp only [hex]
  rw [Nat.toDigits_eq_if (by decide)]
  split
  case isTrue hlt =>
    rw [Nat.div_eq_of_lt hlt, Nat.mod_eq_of_lt hlt]
    simp [List.replicate_succ']
  case isFalse => simp

theorem hex_one {n : Nat} (h : n < 16) : hex 1 n = [n.digitChar] := by
  rw [hex, Nat.toDigits_of_lt_base h]
  rfl

end Text

theorem CodePoint.ofUnit_unit (half : Surrogate) : ofUnit half.unit = .surrogate half := dif_pos half.inRange

namespace Json

/-- What stands between quotation marks, and the text that it spells.  The halves of a pair make one character only
where one follows the other. -/
inductive SpellsText : Text → RawText → Prop
  | nil : SpellsText [] []
  | plain {c : Char} {spelling : Text} {text : RawText} : ' ' ≤ c → c ≠ '"' → c ≠ '\\' → SpellsText spelling text →
      SpellsText (c :: spelling) (.char c :: text)
  | letter {letter c : Char} {spelling : Text} {text : RawText} : letterEscape? letter = some c →
      SpellsText spelling text → SpellsText ('\\' :: letter :: spelling) (.char c :: text)
  | unit {a b c d : Char} {unit : Nat} {spelling : Text} {text : RawText} : hexUnit? a b c d = some unit →
      ¬ (0xd800 ≤ unit ∧ unit < 0xe000) → SpellsText spelling text →
      SpellsText ('\\' :: 'u' :: a :: b :: c :: d :: spelling) (.char (.ofNat unit) :: text)
  | pair {a b c d a' b' c' d' : Char} {high low : Surrogate} {spelling : Text} {text : RawText} :
      hexUnit? a b c d = some high.unit → hexUnit? a' b' c' d' = some low.unit → high.isHigh = true →
      low.isHigh = false → SpellsText spelling text →
      SpellsText ('\\' :: 'u' :: a :: b :: c :: d :: '\\' :: 'u' :: a' :: b' :: c' :: d' :: spelling)
        (.char (high.join low) :: text)
  | half {a b c d : Char} {half : Surrogate} {spelling : Text} {text : RawText} : hexUnit? a b c d = some half.unit →
      (half.isHigh = true → ∀ low rest, text = .surrogate low :: rest → low.isHigh = true) → SpellsText spelling text →
      SpellsText ('\\' :: 'u' :: a :: b :: c :: d :: spelling) (.surrogate half :: text)

theorem consUnit_char {unit : Nat} (h : ¬ (0xd800 ≤ unit ∧ unit < 0xe000)) (text : RawText) :
    consUnit unit text = .char (.ofNat unit) :: text := by
  simp [consUnit, CodePoint.ofUnit, h]

theorem consUnit_pair {high low : Surrogate} (hhigh : high.isHigh = true) (hlow : low.isHigh = false) (text : RawText) :
    consUnit high.unit (.surrogate low :: text) = .char (high.join low) :: text := by
  simp [consUnit, CodePoint.ofUnit_unit, hhigh, hlow]

theorem consUnit_half {half : Surrogate} {text : RawText}
    (h : half.isHigh = true → ∀ low rest, text = .surrogate low :: rest → low.isHigh = true) :
    consUnit half.unit text = .surrogate half :: text := by
  cases text with
  | nil => simp [consUnit, CodePoint.ofUnit_unit]
  | cons point rest =>
    cases point with
    | char c => simp [consUnit, CodePoint.ofUnit_unit]
    | surrogate low =>
      cases hhigh : half.isHigh with
      | true => simp [consUnit, CodePoint.ofUnit_unit, h hhigh low rest rfl]
      | false => simp [consUnit, CodePoint.ofUnit_unit, hhigh]

variable {spelling : Text} {text : RawText}

theorem SpellsText.readText (h : SpellsText spelling text) (rest : Text) :
    readText (spelling ++ '"' :: rest) = .ok (text, rest) := by
  induction h with
  | nil => rfl
  | @plain c spelling text hspace hquote hescape _ ih =>
    have hcode : ¬ c.toNat < 0x20 := Nat.not_lt.2 hspace
    rw [List.cons_append, readText.eq_4 c _ hquote (fun _ _ _ _ _ hc => absurd hc hescape) fun _ _ hc => absurd hc hescape, ih]
    simp only [hcode, hescape]
    rfl
  | @letter letter c spelling text hletter _ ih =>
    have hu : letter ≠ 'u' := by
      rintro rfl
      cases hletter
    rw [List.cons_append, List.cons_append, readText.eq_3 letter _ fun _ _ _ _ _ h => absurd h hu, hletter, ih]
    rfl
  | unit hunit hrange _ ih =>
    simp only [List.cons_append, Json.readText, hunit, ih, bind, Except.bind, consUnit_char hrange]
    rfl
  | @pair _ _ _ _ _ _ _ _ high low _ text hhigh hlow hfirst hsecond _ ih =>
    have hhalf : consUnit low.unit text = .surrogate low :: text := consUnit_half fun h => by rw [hsecond] at h; cases h
    simp only [List.cons_append, Json.readText, hhigh, hlow, ih, bind, Except.bind, hhalf, pure, Except.pure,
      consUnit_pair hfirst hsecond]
  | half hunit hlone _ ih =>
    simp only [List.cons_append, Json.readText, hunit, ih, bind, Except.bind, consUnit_half hlone]
    rfl

theorem SpellsText.consUnit {a b c d : Char} {unit : Nat} (hunit : hexUnit? a b c d = some unit)
    (h : SpellsText spelling text) :
    SpellsText ('\\' :: 'u' :: a :: b :: c :: d :: spelling) (consUnit unit text) := by
  by_cases hrange : 0xd800 ≤ unit ∧ unit < 0xe000
  case neg =>
    rw [consUnit_char hrange]
    exact .unit hunit hrange h
  case pos =>
    obtain ⟨half, rfl⟩ : ∃ half : Surrogate, half.unit = unit := ⟨⟨unit, hrange⟩, rfl⟩
    by_cases hlone : half.isHigh = true → ∀ low rest, text = .surrogate low :: rest → low.isHigh = true
    case pos =>
      rw [consUnit_half hlone]
      exact .half hunit hlone h
    case neg =>
      simp only [Classical.not_imp, not_forall, Bool.not_eq_true] at hlone
      obtain ⟨hhigh, low, rest, rfl, hlow⟩ := hlone
      rw [consUnit_pair hhigh hlow]
      -- The text starts with a surrogate, so it is spelled with the escape of one.
      cases h with
      | half hother _ h => exact .pair hunit hother hhigh hlow h

theorem readText_eq_ok {whole rest : Text} :
    readText whole = .ok (text, rest) ↔ ∃ spelling, whole = spelling ++ '"' :: rest ∧ SpellsText spelling text := by
  constructor
  · intro h
    fun_induction readText whole generalizing text rest with
    | case1 more =>
      cases h
      exact ⟨[], rfl, .nil⟩
    | case3 a b c d more unit hunit ih =>
      obtain ⟨⟨text, rest⟩, hmore, ⟨⟩⟩ := Fallible.bind_eq_ok.1 h
      obtain ⟨spelling, rfl, hspells⟩ := ih hmore
      exact ⟨_, rfl, hspells.consUnit hunit⟩
    | case5 letter more _ c hletter ih =>
      obtain ⟨⟨text, rest⟩, hmore, ⟨⟩⟩ := Fallible.bind_eq_ok.1 h
      obtain ⟨spelling, rfl, hspells⟩ := ih hmore
      exact ⟨_, rfl, .letter hletter hspells⟩
    | case7 c more hquote _ _ hplain ih =>
      obtain ⟨⟨text, rest⟩, hmore, ⟨⟩⟩ := Fallible.bind_eq_ok.1 h
      obtain ⟨spelling, rfl, hspells⟩ := ih hmore
      simp only [Bool.or_eq_true, decide_eq_true_eq, not_or] at hplain
      exact ⟨_, rfl, .plain (Nat.not_lt.1 hplain.1) hquote hplain.2 hspells⟩
    | _ => cases h
  · rintro ⟨spelling, rfl, h⟩
    exact h.readText rest

theorem eq_malformed_of_readText {whole : Text} {error : ReadError} (h : readText whole = .error error) :
    error = .malformed := by
  fun_induction readText whole with
  | case1 => cases h
  | case3 _ _ _ _ _ _ _ ih | case5 _ _ _ _ _ ih | case7 _ _ _ _ _ _ ih =>
    obtain hmore | ⟨_, -, ⟨⟩⟩ := Fallible.bind_eq_error.1 h
    exact ih hmore
  | _ =>
    cases h
    rfl

theorem hexDigit?_digitChar : ∀ digit < 16, hexDigit? digit.digitChar = some digit := by decide

theorem exists_unitEscape {unit : Nat} (h : unit < 0x10000) :
    ∃ a b c d, unitEscape unit = ['\\', 'u', a, b, c, d] ∧ hexUnit? a b c d = some unit := by
  refine ⟨(unit / 16 / 16 / 16).digitChar, (unit / 16 / 16 % 16).digitChar, (unit / 16 % 16).digitChar,
    (unit % 16).digitChar, ?_, ?_⟩
  · rw [unitEscape, Text.hex_succ, Text.hex_succ, Text.hex_succ, Text.hex_one (by omega)]
    rfl
  · rw [hexUnit?, hexDigit?_digitChar _ (by omega), hexDigit?_digitChar _ (by omega),
      hexDigit?_digitChar _ (by omega), hexDigit?_digitChar _ (by omega)]
    simp
    omega

theorem SpellsText.codeEscape (c : Char) (h : SpellsText spelling text) :
    SpellsText (codeEscape c.toNat ++ spelling) (.char c :: text) := by
  have hvalid : c.toNat < 0xd800 ∨ 0xdfff < c.toNat ∧ c.toNat < 0x110000 := c.valid
  unfold Json.codeEscape
  split
  case isTrue hlt =>
    obtain ⟨a, b, d, e, hescape, hunit⟩ := exists_unitEscape hlt
    rw [hescape, ← Char.ofNat_toNat c]
    exact .unit hunit (by omega) h
  case isFalse hlt =>
    obtain ⟨a, b, d, e, hescape, hhigh⟩ := @exists_unitEscape (0xd800 + (c.toNat - 0x10000) / 0x400) (by omega)
    obtain ⟨a', b', d', e', hescape', hlow⟩ := @exists_unitEscape (0xdc00 + (c.toNat - 0x10000) % 0x400) (by omega)
    let high : Surrogate := ⟨_, show 0xd800 ≤ 0xd800 + (c.toNat - 0x10000) / 0x400 ∧ _ < 0xe000 by omega⟩
    let low : Surrogate := ⟨_, show 0xd800 ≤ 0xdc00 + (c.toNat - 0x10000) % 0x400 ∧ _ < 0xe000 by omega⟩
    have hjoin : high.join low = c := by
      have hcode : 0x10000 + (0xd800 + (c.toNat - 0x10000) / 0x400 - 0xd800) * 0x400
          + (0xdc00 + (c.toNat - 0x10000) % 0x400 - 0xdc00) = c.toNat := by omega
      rw [Surrogate.join, hcode, Char.ofNat_toNat]
    simp only
    rw [hescape, hescape', ← hjoin]
    refine @SpellsText.pair _ _ _ _ _ _ _ _ high low _ _ hhigh hlow ?_ ?_ h
    · rw [Surrogate.isHigh, decide_eq_true_iff]
      change 0xd800 + (c.toNat - 0x10000) / 0x400 < 0xdc00
      omega
    · rw [Surrogate.isHigh, decide_eq_false_iff_not]
      change ¬ 0xdc00 + (c.toNat - 0x10000) % 0x400 < 0xdc00
      omega

theorem SpellsText.encodeChar (c : Char) (h : SpellsText spelling text) :
    SpellsText (encodeChar c ++ spelling) (.char c :: text) := by
  unfold Json.encodeChar
  split_ifs with hquote hescape hline hreturn htab hback hfeed hplain
  · exact hquote ▸ .letter rfl h
  · exact hescape ▸ .letter rfl h
  · exact hline ▸ .letter rfl h
  · exact hreturn ▸ .letter rfl h
  · exact htab ▸ .letter rfl h
  · exact hback ▸ .letter rfl h
  · exact hfeed ▸ .letter rfl h
  · exact .plain hplain.1 hquote hescape h
  · exact h.codeEscape c

theorem spellsText_encodeChars (text : Text) : SpellsText (text.flatMap encodeChar) text.raw := by
  induction text with
  | nil => exact .nil
  | cons c text ih => exact ih.encodeChar c

end Json

end Screener
