import Screener.Equation.Lexeme
import Screener.Proofs.Literals

namespace Screener

def Consecutive {α : Type} (start : α → Nat) (text : α → Text) : Nat → List α → Prop
  | _, [] => True
  | position, first :: rest =>
    start first = position ∧ Consecutive start text (position + (text first).length) rest

namespace Consecutive

variable {α : Type} {start : α → Nat} {text : α → Text} {position : Nat} {front back : List α}

theorem append_iff : Consecutive start text position (front ++ back) ↔
    Consecutive start text position front ∧
      Consecutive start text (position + (front.flatMap text).length) back := by
  induction front generalizing position with
  | nil => simp [Consecutive]
  | cons first front ih =>
    rw [List.cons_append, Consecutive, ih, Consecutive, List.flatMap_cons, List.length_append,
      ← Nat.add_assoc, and_assoc]

theorem le_start (h : Consecutive start text position front) :
    ∀ piece ∈ front, position ≤ start piece := by
  induction front generalizing position with
  | nil => simp
  | cons first front ih =>
    rw [List.forall_mem_cons]
    refine ⟨Nat.le_of_eq h.1.symm, ?_⟩
    intro piece hmem
    exact Nat.le_trans (Nat.le_add_right _ _) (ih h.2 piece hmem)

end Consecutive

namespace Lexeme

def Kind.Fits (text : Text) : Kind → Prop
  | .identifier => isIdentifier text
  | .number => isUnsignedDecimal text
  | .arithmetic => classify text = some .operator
  | .comparison => classify text = some .comparison
  | .space => text ≠ [] ∧ text.blank
  | kind => ∃ c, text = [c] ∧ singleKind c = kind

theorem Kind.Fits.ne_nil {kind : Kind} {text : Text} (h : kind.Fits text) : text ≠ [] := by
  rintro rfl
  cases kind with
  | space => exact h.1 rfl
  | identifier => cases h
  | number => cases h
  | arithmetic => cases h
  | comparison => cases h
  | _ =>
    obtain ⟨c, hc, -⟩ := h
    cases hc

theorem isDecimalChar_of_isIdentifierStart {c : Char} (h : isIdentifierStart c) :
    isDecimalChar c = false := by
  have : c ≠ '.' := by
    rintro rfl
    exact absurd h (by decide)
  simp [isDecimalChar, isDigit_of_isIdentifierStart h, this]

theorem isIdentifierStart_of_isBlank {c : Char} (h : isBlank c) : isIdentifierStart c = false :=
  (Bool.or_eq_false_iff.1 (isIdentifierChar_of_isBlank h)).1

theorem first_of_decimal {c : Char} {rest : Text} (h : 0 < decimalExtent (c :: rest)) :
    first c rest = (.number, decimalExtent (c :: rest)) := by rw [first, if_pos h]

theorem first_of_identifier {c : Char} {rest : Text} (h : isIdentifierStart c) :
    first c rest = (.identifier, identifierExtent (c :: rest)) := by
  simp [first, decimalExtent_eq_zero (isDecimalChar_of_isIdentifierStart h), h]

theorem first_of_blank {c : Char} {rest : Text} (h : isBlank c) :
    first c rest = (.space, Text.extent isBlank (c :: rest)) := by
  simp [first, decimalExtent_eq_zero (isDecimalChar_of_isBlank h), isIdentifierStart_of_isBlank h, h]

theorem pairKind?_eq_some {c : Char} {rest : Text} {kind : Kind} (h : pairKind? c rest = some kind) :
    kind = .comparison ∧ ∃ tail, rest = '=' :: tail ∧ classify [c, '='] = some .comparison := by
  unfold pairKind? at h
  split at h
  all_goals cases h
  all_goals exact ⟨rfl, _, rfl, by decide⟩

theorem singleKind_fits (c : Char) : (singleKind c).Fits [c] := by
  by_cases harithmetic : c = '+' || c = '-' || c = '*' || c = '/'
  · have : singleKind c = .arithmetic ∧ classify [c] = some .operator := by
      simp only [Bool.or_eq_true, decide_eq_true_eq] at harithmetic
      rcases harithmetic with ((rfl | rfl) | rfl) | rfl <;> decide
    rw [this.1]
    exact this.2
  by_cases hcomparison : c = '<' || c = '>'
  · have : singleKind c = .comparison ∧ classify [c] = some .comparison := by
      simp only [Bool.or_eq_true, decide_eq_true_eq] at hcomparison
      rcases hcomparison with rfl | rfl <;> decide
    rw [this.1]
    exact this.2
  have hkind : singleKind c = .opening ∨ singleKind c = .closing ∨ singleKind c = .comma ∨
      singleKind c = .unknown := by
    simp only [singleKind, harithmetic, hcomparison]
    grind
  rcases hkind with h | h | h | h <;> rw [h] <;> exact ⟨c, rfl, h⟩

theorem first_cases (c : Char) (rest : Text) :
    (0 < decimalExtent (c :: rest) ∧ first c rest = (.number, decimalExtent (c :: rest))) ∨
      (isIdentifierStart c ∧ first c rest = (.identifier, identifierExtent (c :: rest))) ∨
        (isBlank c ∧ first c rest = (.space, Text.extent isBlank (c :: rest))) ∨
          (∃ tail, rest = '=' :: tail ∧ classify [c, '='] = some .comparison ∧
            first c rest = (.comparison, 2)) ∨
              first c rest = (singleKind c, 1) := by
  by_cases hdecimal : 0 < decimalExtent (c :: rest)
  · exact .inl ⟨hdecimal, first_of_decimal hdecimal⟩
  cases hidentifier : isIdentifierStart c with
  | true => exact .inr (.inl ⟨rfl, first_of_identifier hidentifier⟩)
  | false =>
    cases hblank : isBlank c with
    | true => exact .inr (.inr (.inl ⟨rfl, first_of_blank hblank⟩))
    | false =>
      cases hpair : pairKind? c rest with
      | none => exact .inr (.inr (.inr (.inr (by simp [first, hdecimal, hidentifier, hblank, hpair]))))
      | some kind =>
        obtain ⟨rfl, tail, rfl, hclass⟩ := pairKind?_eq_some hpair
        refine .inr (.inr (.inr (.inl ⟨tail, rfl, hclass, ?_⟩)))
        simp [first, hdecimal, hidentifier, hblank, hpair]

theorem first_fits (c : Char) (rest : Text) :
    (first c rest).1.Fits ((c :: rest).take (first c rest).2) := by
  rcases first_cases c rest with ⟨h, hfirst⟩ | ⟨h, hfirst⟩ | ⟨h, hfirst⟩ | ⟨_, rfl, h, hfirst⟩ | hfirst
    <;> rw [hfirst]
  · exact isUnsignedDecimal_take h
  · have hpos : 0 < identifierExtent (c :: rest) := by simp [identifierExtent, h]
    exact isIdentifier_take hpos
  · refine ⟨by simp [Text.extent_cons, h], ?_⟩
    simpa [Text.blank] using Text.all_take_extent (p := isBlank) (c :: rest)
  · exact h
  · exact singleKind_fits c

theorem first_pos (c : Char) (rest : Text) : 0 < (first c rest).2 := by
  rcases first_cases c rest with ⟨h, hfirst⟩ | ⟨h, hfirst⟩ | ⟨h, hfirst⟩ | ⟨_, rfl, h, hfirst⟩ | hfirst
    <;> rw [hfirst]
  · exact h
  · simp [identifierExtent, h]
  · simp [Text.extent_cons, h]
  · exact Nat.two_pos
  · exact Nat.one_pos

theorem first_le (c : Char) (rest : Text) : (first c rest).2 ≤ (c :: rest).length := by
  rcases first_cases c rest with ⟨h, hfirst⟩ | ⟨h, hfirst⟩ | ⟨h, hfirst⟩ | ⟨_, rfl, h, hfirst⟩ | hfirst
    <;> rw [hfirst]
  · exact decimalExtent_le _
  · exact identifierExtent_le (c :: rest)
  · exact Text.extent_le isBlank (c :: rest)
  · simp
  · simp

theorem scan_first (start : Nat) (c : Char) (rest : Text) :
    scan 0 start (c :: rest) =
      ⟨(first c rest).1, (c :: rest).take (first c rest).2, start⟩ ::
        scan 0 (start + (first c rest).2) ((c :: rest).drop (first c rest).2) := by
  obtain ⟨n, hn⟩ : ∃ n, (first c rest).2 = n + 1 :=
    ⟨(first c rest).2 - 1, by have := first_pos c rest; omega⟩
  rw [scan_cons, scan_skip, hn, List.drop_succ_cons, Nat.add_sub_cancel]
  congr 2
  omega

/-- What holds of the empty text, and of a text if it holds of what follows the first lexeme, holds always. -/
@[elab_as_elim]
theorem first_induction {motive : Text → Prop} (nil : motive [])
    (cons : ∀ c rest, motive ((c :: rest).drop (first c rest).2) → motive (c :: rest)) (text : Text) :
    motive text := by
  induction hlength : text.length using Nat.strongRecOn generalizing text with
  | ind n ih =>
    cases text with
    | nil => exact nil
    | cons c rest =>
      apply cons
      have := first_pos c rest
      apply ih _ _ _ rfl
      rw [← hlength, List.length_drop, List.length_cons]
      omega

theorem fits_of_mem_scan {lexeme : Lexeme} {start : Nat} {text : Text}
    (h : lexeme ∈ scan 0 start text) : lexeme.kind.Fits lexeme.text := by
  induction text using first_induction generalizing start with
  | nil => cases h
  | cons c rest ih =>
    rw [scan_first] at h
    rcases List.mem_cons.1 h with rfl | h
    · exact first_fits c rest
    · exact ih h

theorem consecutive_scan (position : Nat) (text : Text) :
    Consecutive Lexeme.start Lexeme.text position (scan 0 position text) := by
  induction text using first_induction generalizing position with
  | nil => trivial
  | cons c rest ih =>
    rw [scan_first]
    refine ⟨rfl, ?_⟩
    rw [List.length_take, Nat.min_eq_left (first_le c rest)]
    exact ih _

theorem pairKind?_append {c : Char} {rest more : Text} (h : ∀ d ∈ more.head?, d ≠ '=') :
    pairKind? c (rest ++ more) = pairKind? c rest := by
  cases rest with
  | cons d rest => unfold pairKind?; grind
  | nil =>
    cases more with
    | nil => rfl
    | cons d more =>
      have hd : d ≠ '=' := h d rfl
      unfold pairKind?
      grind

theorem first_append {c : Char} {rest more : Text} (hlast : ∀ d ∈ (c :: rest).getLast?, isBlank d = false)
    (hmore : ∀ d ∈ more.head?, isBlank d) : first c (rest ++ more) = first c rest := by
  have hdecimal : decimalExtent (c :: (rest ++ more)) = decimalExtent (c :: rest) := by
    rw [← List.cons_append, decimalExtent_append fun d hd => isDecimalChar_of_isBlank (hmore d hd)]
  have hidentifier : identifierExtent (c :: (rest ++ more)) = identifierExtent (c :: rest) := by
    rw [← List.cons_append,
      identifierExtent_append fun d hd => isIdentifierChar_of_isBlank (hmore d hd)]
  have hspace : Text.extent isBlank (c :: (rest ++ more)) = Text.extent isBlank (c :: rest) := by
    rw [← List.cons_append, Text.extent_append_of_lt]
    apply Nat.lt_of_le_of_ne (Text.extent_le _ _)
    intro hlength
    have hne := List.cons_ne_nil c rest
    have hblank := Text.all_of_extent_eq_length hlength _ (List.getLast_mem hne)
    rw [hlast _ (List.getLast?_eq_some_getLast hne)] at hblank
    cases hblank
  have hpair : pairKind? c (rest ++ more) = pairKind? c rest := by
    apply pairKind?_append
    rintro d hd rfl
    exact absurd (hmore _ hd) (by decide)
  rw [first, hdecimal, hidentifier, hspace, hpair, ← first]

theorem scan_append {start : Nat} {text more : Text} (hlast : ∀ c ∈ text.getLast?, isBlank c = false)
    (hmore : ∀ c ∈ more.head?, isBlank c) :
    scan 0 start (text ++ more) = scan 0 start text ++ scan 0 (start + text.length) more := by
  induction text using first_induction generalizing start with
  | nil => simp [scan]
  | cons c rest ih =>
    have hle := first_le c rest
    rw [List.cons_append, scan_first, scan_first, first_append hlast hmore, ← List.cons_append,
      List.take_append_of_le_length hle, List.drop_append_of_le_length hle, ih]
    · rw [List.length_drop, Nat.add_assoc, Nat.add_sub_cancel' hle]
      rfl
    · intro d hd
      rw [List.getLast?_drop] at hd
      split at hd
      · cases hd
      · exact hlast d hd

theorem scan_blank {start : Nat} {gap rest : Text} (hne : gap ≠ []) (hgap : gap.blank)
    (hrest : ∀ c ∈ rest.head?, isBlank c = false) :
    scan 0 start (gap ++ rest) = ⟨.space, gap, start⟩ :: scan 0 (start + gap.length) rest := by
  cases gap with
  | nil => exact absurd rfl hne
  | cons c gap =>
    have hall : ∀ d ∈ c :: gap, isBlank d := by simpa [Text.blank] using hgap
    have hextent : Text.extent isBlank (c :: (gap ++ rest)) = (c :: gap).length := by
      rw [← List.cons_append, Text.extent_append_of_all hall]
      cases rest with
      | nil => rfl
      | cons d rest => rw [Text.extent_cons, hrest d rfl]; rfl
    rw [List.cons_append, scan_first, first_of_blank (hall c List.mem_cons_self), hextent,
      ← List.cons_append, List.take_left, List.drop_left]

end Lexeme

end Screener
