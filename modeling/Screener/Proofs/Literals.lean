import Screener.Text.Blank
import Screener.Token.Literal

namespace Screener

namespace Text

variable {p : Char → Bool}

theorem extent_append {text rest : Text} (h : ∀ c ∈ rest.head?, p c = false) :
    extent p (text ++ rest) = extent p text := by
  induction text with
  | nil =>
    cases rest with
    | nil => rfl
    | cons c rest => rw [List.nil_append, extent_cons, h c rfl]; rfl
  | cons c text ih => rw [List.cons_append, extent_cons, extent_cons, ih]

theorem extent_append_of_all {text rest : Text} (h : ∀ c ∈ text, p c) :
    extent p (text ++ rest) = text.length + extent p rest := by
  induction text with
  | nil => simp
  | cons c text ih =>
    rw [List.cons_append, extent_cons, if_pos (h c List.mem_cons_self),
      ih fun c hc => h c (List.mem_cons_of_mem _ hc), List.length_cons]
    omega

theorem extent_append_of_lt {text rest : Text} (h : extent p text < text.length) :
    extent p (text ++ rest) = extent p text := by
  induction text with
  | nil => cases h
  | cons c text ih =>
    rw [List.cons_append, extent_cons, extent_cons]
    rw [extent_cons] at h
    split
    case isTrue hc => rw [ih (by simpa [hc] using h)]
    case isFalse => rfl

theorem extent_take (n : Nat) (text : Text) : extent p (text.take n) = min n (extent p text) := by
  induction text generalizing n with
  | nil => simp
  | cons c text ih =>
    cases n with
    | zero => simp
    | succ n =>
      rw [List.take_succ_cons, extent_cons, extent_cons, ih]
      split <;> omega

theorem all_of_extent_eq_length {text : Text} (h : extent p text = text.length) :
    ∀ c ∈ text, p c := by
  induction text with
  | nil => simp
  | cons c text ih =>
    rw [extent_cons] at h
    split at h
    case isTrue hc => simpa [hc] using ih (by simpa using h)
    case isFalse => simp at h

theorem all_take_extent (text : Text) : ∀ c ∈ text.take (extent p text), p c := by
  apply all_of_extent_eq_length
  have := extent_le p text
  rw [extent_take, List.length_take]
  omega

end Text

theorem not_of_isBlank {p : Char → Bool} (hblanks : (blanks.all fun c => !p c) = true) {c : Char}
    (h : isBlank c) : p c = false := by
  have hmem : c ∈ blanks := by simpa [isBlank] using h
  simpa using List.all_eq_true.1 hblanks c hmem

theorem isIdentifierChar_of_isBlank {c : Char} (h : isBlank c) : isIdentifierChar c = false :=
  not_of_isBlank (by decide) h

theorem isBlank_of_isIdentifierStart {c : Char} (h : isIdentifierStart c) : isBlank c = false := by
  apply Bool.eq_false_iff.2
  intro hblank
  have hchar := isIdentifierChar_of_isBlank hblank
  rw [isIdentifierChar, h] at hchar
  cases hchar

theorem isIdentifierStart_cases {c : Char} (h : isIdentifierStart c) :
    (0x41 ≤ c.toNat ∧ c.toNat ≤ 0x5a) ∨ (0x61 ≤ c.toNat ∧ c.toNat ≤ 0x7a) ∨ c = '_' := by
  have halpha : c.isAlpha = (decide (c.val ≥ 0x41 ∧ c.val ≤ 0x5a) || (c.val ≥ 0x61 && c.val ≤ 0x7a)) := rfl
  rw [isIdentifierStart, halpha] at h
  simpa [UInt32.le_iff_toNat_le, or_assoc] using h

theorem isDigit_of_isIdentifierStart {c : Char} (h : isIdentifierStart c) : isDigit c = false := by
  have hdigit : c.isDigit = (c.val ≥ 0x30 && c.val ≤ 0x39) := rfl
  have hlt : 0x39 < c.toNat ∧ c.toNat < 0x80 := by
    rcases isIdentifierStart_cases h with h | h | rfl
    · omega
    · omega
    · decide
  rw [isDigit, if_pos hlt.2, hdigit, Bool.and_eq_false_iff]
  exact .inr (decide_eq_false (Nat.not_le_of_lt hlt.1))

def isDecimalChar (c : Char) : Bool := isDigit c || c = '.'

theorem isDecimalChar_of_isBlank {c : Char} (h : isBlank c) : isDecimalChar c = false :=
  not_of_isBlank (by decide) h

theorem isBlank_of_isDecimalChar {c : Char} (h : isDecimalChar c) : isBlank c = false := by
  apply Bool.eq_false_iff.2
  intro hblank
  rw [isDecimalChar_of_isBlank hblank] at h
  cases h

theorem isBlank_of_isSign {c : Char} (h : isSign c) : isBlank c = false := by
  have hsign : c = '+' ∨ c = '-' := by simpa [isSign] using h
  cases hsign with
  | inl h => exact h ▸ by decide
  | inr h => exact h ▸ by decide

theorem decimalExtent_of_point {text rest : Text}
    (h : text.drop (Text.extent isDigit text) = '.' :: rest) :
    decimalExtent text =
      if Text.extent isDigit text = 0 ∧ Text.extent isDigit rest = 0 then 0
      else Text.extent isDigit text + 1 + Text.extent isDigit rest := by
  simp only [decimalExtent, h]

theorem decimalExtent_of_no_point {text : Text}
    (h : ∀ c ∈ (text.drop (Text.extent isDigit text)).head?, c ≠ '.') :
    decimalExtent text = Text.extent isDigit text := by
  simp only [decimalExtent]
  split
  case h_1 rest heq => exact absurd rfl (h '.' (by rw [heq]; rfl))
  case h_2 => rfl

theorem point_or_no_point (text : Text) :
    (∃ rest, text = '.' :: rest) ∨ ∀ c ∈ text.head?, c ≠ '.' := by
  cases text with
  | nil => exact .inr (by simp)
  | cons c rest =>
    by_cases hc : c = '.'
    · exact .inl ⟨rest, by rw [hc]⟩
    · exact .inr (by simpa using hc)

theorem decimalExtent_append {text rest : Text} (h : ∀ c ∈ rest.head?, isDecimalChar c = false) :
    decimalExtent (text ++ rest) = decimalExtent text := by
  have hdigit : ∀ c ∈ rest.head?, isDigit c = false := fun c hc =>
    (Bool.or_eq_false_iff.1 (h c hc)).1
  have hpoint : ∀ c ∈ rest.head?, c ≠ '.' := fun c hc =>
    of_decide_eq_false (Bool.or_eq_false_iff.1 (h c hc)).2
  have hwhole : Text.extent isDigit (text ++ rest) = Text.extent isDigit text :=
    Text.extent_append hdigit
  have hdrop : (text ++ rest).drop (Text.extent isDigit (text ++ rest)) =
      text.drop (Text.extent isDigit text) ++ rest := by
    rw [hwhole, List.drop_append_of_le_length (Text.extent_le _ _)]
  rcases point_or_no_point (text.drop (Text.extent isDigit text)) with ⟨tail, htail⟩ | htail
  · rw [htail, List.cons_append] at hdrop
    rw [decimalExtent_of_point hdrop, decimalExtent_of_point htail, hwhole,
      Text.extent_append hdigit]
  · rw [decimalExtent_of_no_point htail, decimalExtent_of_no_point, hwhole]
    rw [hdrop]
    cases htext : text.drop (Text.extent isDigit text) with
    | nil => exact hpoint
    | cons c tail => rwa [htext] at htail

theorem decimalExtent_le (text : Text) : decimalExtent text ≤ text.length := by
  have hwhole := Text.extent_le isDigit text
  rcases point_or_no_point (text.drop (Text.extent isDigit text)) with ⟨tail, htail⟩ | htail
  · have hlength := congrArg List.length htail
    have hfraction := Text.extent_le isDigit tail
    rw [List.length_drop, List.length_cons] at hlength
    rw [decimalExtent_of_point htail]
    split <;> omega
  · rwa [decimalExtent_of_no_point htail]

theorem extent_le_decimalExtent (text : Text) : Text.extent isDigit text ≤ decimalExtent text := by
  rcases point_or_no_point (text.drop (Text.extent isDigit text)) with ⟨tail, htail⟩ | htail
  · rw [decimalExtent_of_point htail]
    split <;> omega
  · exact Nat.le_of_eq (decimalExtent_of_no_point htail).symm

theorem decimalExtent_take {n : Nat} {text : Text} (h : decimalExtent text ≤ n) :
    decimalExtent (text.take n) = decimalExtent text := by
  have hwhole : Text.extent isDigit (text.take n) = Text.extent isDigit text := by
    rw [Text.extent_take, Nat.min_eq_right (Nat.le_trans (extent_le_decimalExtent text) h)]
  have hdrop : (text.take n).drop (Text.extent isDigit (text.take n)) =
      (text.drop (Text.extent isDigit text)).take (n - Text.extent isDigit text) := by
    rw [hwhole, List.drop_take]
  rcases point_or_no_point (text.drop (Text.extent isDigit text)) with ⟨tail, htail⟩ | htail
  · rw [htail] at hdrop
    rw [decimalExtent_of_point htail] at h ⊢
    cases hm : n - Text.extent isDigit text with
    | zero =>
      rw [hm, List.take_zero] at hdrop
      rw [decimalExtent_of_no_point (by rw [hdrop]; simp), hwhole]
      grind
    | succ m =>
      rw [hm, List.take_succ_cons] at hdrop
      rw [decimalExtent_of_point hdrop, hwhole, Text.extent_take]
      grind
  · rw [decimalExtent_of_no_point htail, decimalExtent_of_no_point, hwhole]
    rw [hdrop]
    cases hm : n - Text.extent isDigit text with
    | zero => simp
    | succ m =>
      cases htext : text.drop (Text.extent isDigit text) with
      | nil => simp
      | cons c tail => simpa [htext] using htail

theorem isUnsignedDecimal_take {text : Text} (h : 0 < decimalExtent text) :
    isUnsignedDecimal (text.take (decimalExtent text)) := by
  have hle := decimalExtent_le text
  have hne : text ≠ [] := by
    rintro rfl
    exact absurd h (by decide)
  simp [isUnsignedDecimal, decimalExtent_take (Nat.le_refl _), hle, hne]
  omega

theorem length_of_isUnsignedDecimal {text : Text} (h : isUnsignedDecimal text) :
    decimalExtent text = text.length := by
  simp only [isUnsignedDecimal, Bool.and_eq_true, decide_eq_true_eq] at h
  exact h.2

theorem isUnsignedDecimal_cases {text : Text} (h : isUnsignedDecimal text) :
    (text ≠ [] ∧ ∀ c ∈ text, isDigit c) ∨
      ∃ whole fraction, text = whole ++ '.' :: fraction ∧ whole ++ fraction ≠ [] ∧
        (∀ c ∈ whole, isDigit c) ∧ ∀ c ∈ fraction, isDigit c := by
  have hne : text ≠ [] := by
    rintro rfl
    cases h
  have hlength := length_of_isUnsignedDecimal h
  rcases point_or_no_point (text.drop (Text.extent isDigit text)) with ⟨fraction, hfraction⟩ | hpoint
  · have htext := List.take_append_drop (Text.extent isDigit text) text
    have hsum := congrArg List.length hfraction
    rw [List.length_drop, List.length_cons] at hsum
    rw [decimalExtent_of_point hfraction] at hlength
    have hle := Text.extent_le isDigit text
    have hpos := List.length_pos_iff.2 hne
    rw [hfraction] at htext
    refine .inr ⟨_, fraction, htext.symm, ?_, Text.all_take_extent text, ?_⟩
    · rw [ne_eq, ← List.length_eq_zero_iff, List.length_append, List.length_take]
      split at hlength <;> omega
    · apply Text.all_of_extent_eq_length
      split at hlength <;> omega
  · rw [decimalExtent_of_no_point hpoint] at hlength
    exact .inl ⟨hne, Text.all_of_extent_eq_length hlength⟩

theorem all_of_isUnsignedDecimal {text : Text} (h : isUnsignedDecimal text) :
    ∀ c ∈ text, isDecimalChar c := by
  have hdigit {c : Char} (h : isDigit c) : isDecimalChar c := by simp [isDecimalChar, h]
  rcases isUnsignedDecimal_cases h with ⟨-, hdigits⟩ | ⟨whole, fraction, rfl, -, hwhole, hfraction⟩
  · exact fun c hc => hdigit (hdigits c hc)
  · intro c hc
    rcases List.mem_append.1 hc with hc | hc
    · exact hdigit (hwhole c hc)
    · rcases List.mem_cons.1 hc with rfl | hc
      · decide
      · exact hdigit (hfraction c hc)

theorem decimalExtent_eq_zero {c : Char} {rest : Text} (h : isDecimalChar c = false) :
    decimalExtent (c :: rest) = 0 := by
  have hrest : ∀ d ∈ List.head? (c :: rest), isDecimalChar d = false := by simpa using h
  exact @decimalExtent_append [] (c :: rest) hrest

theorem isDecimal_iff {text : Text} :
    isDecimal text ↔
      isUnsignedDecimal text ∨ ∃ sign number, text = sign :: number ∧ isSign sign ∧ isUnsignedDecimal number := by
  cases text with
  | nil => simp [isDecimal, isUnsignedDecimal]
  | cons c rest =>
    rw [isDecimal]
    cases hsign : isSign c with
    | false =>
      simp only [Bool.false_eq_true, if_false]
      constructor
      · exact .inl
      · rintro (h | ⟨sign, number, heq, hs, _⟩)
        · exact h
        · cases heq
          rw [hsign] at hs
          cases hs
    | true =>
      have hc : isDecimalChar c = false := by
        rcases (by simpa [isSign] using hsign : c = '+' ∨ c = '-') with rfl | rfl <;> decide
      have hnot : isUnsignedDecimal (c :: rest) = false := by
        simp [isUnsignedDecimal, decimalExtent_eq_zero hc]
      rw [if_pos rfl, hnot]
      constructor
      · intro h
        exact .inr ⟨c, rest, rfl, hsign, h⟩
      · rintro (h | ⟨sign, number, heq, _, h⟩)
        · cases h
        · cases heq
          exact h

theorem all_of_isDecimal {text : Text} (h : isDecimal text) :
    ∀ c ∈ text, isSign c || isDecimalChar c := by
  cases isDecimal_iff.1 h with
  | inl h =>
    intro c hc
    simp [all_of_isUnsignedDecimal h c hc]
  | inr h =>
    obtain ⟨sign, number, rfl, hsign, hnumber⟩ := h
    intro c hc
    cases List.mem_cons.1 hc with
    | inl hc => simp [hc, hsign]
    | inr hc => simp [all_of_isUnsignedDecimal hnumber c hc]

theorem isBlank_of_isDecimal {text : Text} (h : isDecimal text) : ∀ c ∈ text, isBlank c = false := by
  intro c hc
  cases Bool.or_eq_true_iff.1 (all_of_isDecimal h c hc) with
  | inl hsign => exact isBlank_of_isSign hsign
  | inr hdecimal => exact isBlank_of_isDecimalChar hdecimal

theorem identifierExtent_append {text rest : Text}
    (h : ∀ c ∈ rest.head?, isIdentifierChar c = false) :
    identifierExtent (text ++ rest) = identifierExtent text := by
  cases text with
  | nil =>
    cases rest with
    | nil => rfl
    | cons c rest =>
      have hc := h c rfl
      simp only [isIdentifierChar, Bool.or_eq_false_iff] at hc
      simp [identifierExtent, hc.1]
  | cons c text => rw [List.cons_append, identifierExtent, identifierExtent, Text.extent_append h]

theorem identifierExtent_le (text : Text) : identifierExtent text ≤ text.length := by
  cases text with
  | nil => simp [identifierExtent]
  | cons c rest =>
    have := Text.extent_le isIdentifierChar rest
    rw [identifierExtent, List.length_cons]
    split <;> omega

theorem identifierExtent_take {n : Nat} {text : Text} (h : identifierExtent text ≤ n) :
    identifierExtent (text.take n) = identifierExtent text := by
  cases text with
  | nil => simp
  | cons c rest =>
    rw [identifierExtent] at h ⊢
    cases n with
    | zero => grind [identifierExtent]
    | succ n => grind [identifierExtent, Text.extent_take]

theorem isIdentifier_take {text : Text} (h : 0 < identifierExtent text) :
    isIdentifier (text.take (identifierExtent text)) := by
  have hle := identifierExtent_le text
  have hne : text ≠ [] := by
    rintro rfl
    exact absurd h (by decide)
  simp [isIdentifier, identifierExtent_take (Nat.le_refl _), hle, hne]
  omega

theorem length_of_isIdentifier {text : Text} (h : isIdentifier text) :
    identifierExtent text = text.length := by
  simp only [isIdentifier, Bool.and_eq_true, decide_eq_true_eq] at h
  exact h.2

theorem exists_of_isIdentifier {text : Text} (h : isIdentifier text) :
    ∃ c rest, text = c :: rest ∧ isIdentifierStart c ∧ ∀ c ∈ rest, isIdentifierChar c := by
  cases text with
  | nil => exact absurd h (by decide)
  | cons c rest =>
    have hlength := length_of_isIdentifier h
    rw [identifierExtent, List.length_cons] at hlength
    split at hlength
    case isTrue hc => exact ⟨c, rest, rfl, hc, Text.all_of_extent_eq_length (by omega)⟩
    case isFalse => omega

end Screener
