import Screener.Proofs.Segments

/-!
Longest match.  The words of the kinds of lexemes are set down apart from how a text is scanned; the lexemes of a
text are then the only way to cut it, from left to right, into words none of which could be longer and, where no
word starts, single unknown characters.
-/

namespace Screener.Lexeme

inductive IsWord : Kind → Text → Prop
  | identifier {c : Char} {rest : Text} : isIdentifierStart c → (∀ d ∈ rest, isIdentifierChar d) →
      IsWord .identifier (c :: rest)
  | digits {text : Text} : text ≠ [] → (∀ c ∈ text, isDigit c) → IsWord .number text
  | point {whole fraction : Text} : whole ++ fraction ≠ [] → (∀ c ∈ whole, isDigit c) →
      (∀ c ∈ fraction, isDigit c) → IsWord .number (whole ++ '.' :: fraction)
  | arithmetic {text : Text} : text ∈ arithmeticSymbols → IsWord .arithmetic text
  | comparison {text : Text} : text ∈ comparisonSymbols → IsWord .comparison text
  | opening : IsWord .opening ['(']
  | closing : IsWord .closing [')']
  | comma : IsWord .comma [',']
  | space {text : Text} : text ≠ [] → text.blank → IsWord .space text

/-- The lexemes of a text that begins at a position, each the longest word of any kind at its start; a character where
no word starts is unknown. -/
inductive LongestMatch : Nat → Text → List Lexeme → Prop
  | nil {start : Nat} : LongestMatch start [] []
  | word {start : Nat} {kind : Kind} {word rest : Text} {lexemes : List Lexeme} : IsWord kind word →
      (∀ other longer, IsWord other longer → longer <+: word ++ rest → longer.length ≤ word.length) →
        LongestMatch (start + word.length) rest lexemes →
          LongestMatch start (word ++ rest) (⟨kind, word, start⟩ :: lexemes)
  | unknown {start : Nat} {c : Char} {rest : Text} {lexemes : List Lexeme} :
      (∀ kind word, IsWord kind word → ¬word <+: c :: rest) → LongestMatch (start + 1) rest lexemes →
        LongestMatch start (c :: rest) (⟨.unknown, [c], start⟩ :: lexemes)

variable {kind : Kind} {c : Char} {word rest more : Text}

theorem IsWord.ne_nil (h : IsWord kind word) : word ≠ [] := by
  cases h with
  | digits hne _ => exact hne
  | space hne _ => exact hne
  | arithmetic hmem => exact ne_of_mem_of_not_mem hmem (by decide)
  | comparison hmem => exact ne_of_mem_of_not_mem hmem (by decide)
  | _ => simp

theorem IsWord.ne_unknown (h : IsWord kind word) : kind ≠ .unknown := by
  cases h <;> simp

theorem isWord_of_isUnsignedDecimal (h : isUnsignedDecimal word) : IsWord .number word := by
  rcases isUnsignedDecimal_cases h with ⟨hne, hdigits⟩ | ⟨whole, fraction, rfl, hne, hwhole, hfraction⟩
  · exact .digits hne hdigits
  · exact .point hne hwhole hfraction

theorem mem_comparisonSymbols (h : classify word = some .comparison) : word ∈ comparisonSymbols := by
  unfold classify at h
  grind

theorem mem_arithmeticSymbols (h : classify word = some .operator) : word ∈ arithmeticSymbols := by
  unfold classify at h
  grind

theorem Kind.Fits.comma (h : Kind.comma.Fits word) : word = [','] := by
  obtain ⟨c, rfl, hc⟩ := h
  unfold singleKind at hc
  grind

theorem isWord_of_fits (h : kind.Fits word) (hkind : kind ≠ .unknown) : IsWord kind word := by
  cases kind with
  | identifier =>
    obtain ⟨c, rest, rfl, hc, hrest⟩ := exists_of_isIdentifier h
    exact .identifier hc hrest
  | number => exact isWord_of_isUnsignedDecimal h
  | arithmetic => exact .arithmetic (mem_arithmeticSymbols h)
  | comparison => exact .comparison (mem_comparisonSymbols h)
  | opening => exact Kind.Fits.opening h ▸ .opening
  | closing => exact Kind.Fits.closing h ▸ .closing
  | comma => exact Kind.Fits.comma h ▸ .comma
  | space => exact .space h.1 h.2
  | unknown => exact absurd rfl hkind

theorem length_le_extent {p : Char → Bool} (h : ∀ d ∈ word, p d) (more : Text) :
    word.length ≤ Text.extent p (word ++ more) := by
  rw [Text.extent_append_of_all h]
  exact Nat.le_add_right _ _

theorem length_le_decimalExtent (h : IsWord .number word) (more : Text) :
    word.length ≤ decimalExtent (word ++ more) := by
  cases h with
  | digits _ hdigits => exact Nat.le_trans (length_le_extent hdigits more) (extent_le_decimalExtent _)
  | @point whole fraction hne hwhole hfraction =>
    have hextent : Text.extent isDigit (whole ++ '.' :: (fraction ++ more)) = whole.length := by
      rw [Text.extent_append_of_all hwhole, Text.extent_cons]
      rfl
    have hdrop : (whole ++ '.' :: (fraction ++ more)).drop
        (Text.extent isDigit (whole ++ '.' :: (fraction ++ more))) = '.' :: (fraction ++ more) := by
      rw [hextent, List.drop_left]
    have hlength := length_le_extent hfraction more
    have hpos := List.length_pos_iff.2 hne
    rw [List.append_assoc, List.cons_append, decimalExtent_of_point hdrop, hextent]
    simp only [List.length_append, List.length_cons] at hpos ⊢
    split <;> omega

theorem first_of_pair {mark : Char} (hmark : mark = '>' ∨ mark = '<') (text : Text) :
    ∃ length, first mark text = (.comparison, length) ∧ 1 ≤ length := by
  have hsymbol : isDecimalChar mark = false ∧ isIdentifierStart mark = false ∧ isBlank mark = false ∧
      singleKind mark = .comparison := by
    rcases hmark with rfl | rfl <;> decide
  obtain ⟨hdecimal, hidentifier, hblank, hkind⟩ := hsymbol
  rcases first_cases mark text with ⟨h, -⟩ | ⟨h, -⟩ | ⟨h, -⟩ | ⟨_, -, -, hfirst⟩ | hfirst
  · rw [decimalExtent_eq_zero hdecimal] at h
    cases h
  · rw [hidentifier] at h
    cases h
  · rw [hblank] at h
    cases h
  · exact ⟨2, hfirst, Nat.le_succ 1⟩
  · rw [hkind] at hfirst
    exact ⟨1, hfirst, Nat.le_refl 1⟩

theorem first_of_isWord (h : IsWord kind word) (hfront : word <+: c :: rest) :
    ∃ length, first c rest = (kind, length) ∧ word.length ≤ length := by
  obtain ⟨more, hmore⟩ := hfront
  cases kind with
  | identifier =>
    cases h with
    | @identifier _ letters hc hletters =>
      cases hmore
      refine ⟨_, first_of_identifier hc, ?_⟩
      rw [identifierExtent, if_pos hc, List.length_cons]
      exact Nat.succ_le_succ (length_le_extent hletters more)
  | number =>
    have hlength := length_le_decimalExtent h more
    have hpos := List.length_pos_iff.2 h.ne_nil
    rw [hmore] at hlength
    exact ⟨_, first_of_decimal (Nat.lt_of_lt_of_le hpos hlength), hlength⟩
  | arithmetic =>
    cases h with
    | arithmetic hmem =>
      simp only [arithmeticSymbols, List.mem_cons, List.not_mem_nil, or_false] at hmem
      rcases hmem with rfl | rfl | rfl | rfl <;> cases hmore <;> exact ⟨1, rfl, Nat.le_refl 1⟩
  | comparison =>
    cases h with
    | comparison hmem =>
      simp only [comparisonSymbols, List.mem_cons, List.not_mem_nil, or_false] at hmem
      rcases hmem with rfl | rfl | rfl | rfl | rfl | rfl <;> cases hmore
      · exact first_of_pair (.inl rfl) _
      · exact first_of_pair (.inr rfl) _
      all_goals exact ⟨2, rfl, Nat.le_refl 2⟩
  | space =>
    cases h with
    | space hne hblank =>
      have hall : ∀ d ∈ word, isBlank d := by simpa [Text.blank] using hblank
      have hlength := length_le_extent hall more
      cases word with
      | nil => exact absurd rfl hne
      | cons d blanks =>
        cases hmore
        exact ⟨_, first_of_blank (hall c List.mem_cons_self), hlength⟩
  | opening => cases h; cases hmore; exact ⟨1, rfl, Nat.le_refl 1⟩
  | closing => cases h; cases hmore; exact ⟨1, rfl, Nat.le_refl 1⟩
  | comma => cases h; cases hmore; exact ⟨1, rfl, Nat.le_refl 1⟩
  | unknown => cases h

theorem isWord_first (h : (first c rest).1 ≠ .unknown) :
    IsWord (first c rest).1 ((c :: rest).take (first c rest).2) :=
  isWord_of_fits (first_fits c rest) h

theorem first_eq (h : IsWord kind word)
    (hlongest : ∀ other longer, IsWord other longer → longer <+: word ++ more → longer.length ≤ word.length)
    (htext : word ++ more = c :: rest) : first c rest = (kind, word.length) := by
  obtain ⟨length, hfirst, hle⟩ := first_of_isWord h ⟨more, htext⟩
  have hword : IsWord (first c rest).1 ((c :: rest).take (first c rest).2) := by
    apply isWord_first
    rw [hfirst]
    exact h.ne_unknown
  have hfront := List.take_prefix (first c rest).2 (c :: rest)
  rw [← htext] at hfront hword
  have hmax := hlongest _ _ hword hfront
  rw [htext, List.length_take, Nat.min_eq_left (first_le c rest), hfirst] at hmax
  obtain rfl : length = word.length := Nat.le_antisymm hmax hle
  exact hfirst

theorem first_of_unknown (h : (first c rest).1 = .unknown) : first c rest = (.unknown, 1) := by
  rcases first_cases c rest with ⟨-, hfirst⟩ | ⟨-, hfirst⟩ | ⟨-, hfirst⟩ | ⟨_, -, -, hfirst⟩ | hfirst
  case inr.inr.inr.inr =>
    rw [hfirst] at h ⊢
    exact congrArg (·, 1) h
  all_goals
    rw [hfirst] at h
    cases h

theorem first_of_no_word (h : ∀ kind word, IsWord kind word → ¬word <+: c :: rest) :
    (first c rest).1 = .unknown := by
  apply Decidable.byContradiction
  intro hne
  have hfront := List.take_prefix (first c rest).2 (c :: rest)
  exact h _ _ (isWord_first hne) hfront

theorem scan_unknown (start : Nat) (h : (first c rest).1 = .unknown) :
    scan 0 start (c :: rest) = ⟨.unknown, [c], start⟩ :: scan 0 (start + 1) rest := by
  rw [scan_first, first_of_unknown h]
  rfl

theorem LongestMatch.eq_scan {start : Nat} {text : Text} {lexemes : List Lexeme}
    (h : LongestMatch start text lexemes) : lexemes = scan 0 start text := by
  induction h with
  | nil => rfl
  | @word start kind word rest lexemes hword hlongest _ ih =>
    cases htext : word ++ rest with
    | nil => exact absurd (List.append_eq_nil_iff.1 htext).1 hword.ne_nil
    | cons c tail =>
      rw [scan_first, first_eq hword hlongest htext, ← htext, List.take_left, List.drop_left, ih]
  | @unknown start c rest lexemes hnone _ ih => rw [scan_unknown start (first_of_no_word hnone), ih]

theorem longestMatch_scan (start : Nat) (text : Text) : LongestMatch start text (scan 0 start text) := by
  induction text using first_induction generalizing start with
  | nil => exact .nil
  | cons c rest ih =>
    by_cases hkind : (first c rest).1 = .unknown
    · have hrest : LongestMatch (start + 1) rest (scan 0 (start + 1) rest) := by
        have hdrop := ih (start + 1)
        rwa [first_of_unknown hkind] at hdrop
      rw [scan_unknown start hkind]
      refine .unknown ?_ hrest
      intro kind word hword hfront
      obtain ⟨length, hfirst, -⟩ := first_of_isWord hword hfront
      rw [hfirst] at hkind
      exact hword.ne_unknown hkind
    · obtain ⟨word, hword⟩ : ∃ word, word = (c :: rest).take (first c rest).2 := ⟨_, rfl⟩
      have htext : word ++ (c :: rest).drop (first c rest).2 = c :: rest := by
        rw [hword, List.take_append_drop]
      have hlength : word.length = (first c rest).2 := by
        rw [hword, List.length_take, Nat.min_eq_left (first_le c rest)]
      have hlongest : ∀ other longer, IsWord other longer → longer <+: c :: rest →
          longer.length ≤ word.length := by
        intro other longer hlonger hfront
        obtain ⟨length, hfirst, hle⟩ := first_of_isWord hlonger hfront
        rwa [hlength, hfirst]
      have hrest := ih (start + word.length)
      rw [scan_first, ← hword, ← hlength]
      rw [← hlength] at htext hrest
      rw [← htext] at hlongest
      have hmatch := LongestMatch.word (hword ▸ isWord_first hkind) hlongest hrest
      rwa [htext] at hmatch

theorem longestMatch_iff {start : Nat} {text : Text} {lexemes : List Lexeme} :
    LongestMatch start text lexemes ↔ lexemes = scan 0 start text := by
  constructor
  · exact LongestMatch.eq_scan
  · rintro rfl
    exact longestMatch_scan start text

end Screener.Lexeme
