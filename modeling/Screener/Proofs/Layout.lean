import Screener.Proofs.Canonical

namespace Screener

namespace Token

theorem isBlank_of_classify {text : Text} {kind : Kind} (h : classify text = some kind) :
    ∀ c ∈ text, isBlank c = false := by
  intro c hc
  have hnot := Lexeme.forall_mem_of_classify (p := fun c => !isBlank c) (by decide) h c hc
  simpa using hnot

theorem ne_nil_of_isDecimal {text : Text} (h : isDecimal text) : text ≠ [] := by
  rintro rfl
  cases h

theorem IsLexical.isBlank_ends {token : Token} (h : token.IsLexical) :
    token.text ≠ [] ∧ (∀ c ∈ token.text.head?, isBlank c = false) ∧
      ∀ c ∈ token.text.getLast?, isBlank c = false := by
  have hends (hne : token.text ≠ []) (hall : ∀ c ∈ token.text, isBlank c = false) :
      token.text ≠ [] ∧ (∀ c ∈ token.text.head?, isBlank c = false) ∧
        ∀ c ∈ token.text.getLast?, isBlank c = false :=
    ⟨hne, fun c hc => hall c (List.mem_of_head? hc), fun c hc => hall c (List.mem_of_getLast? hc)⟩
  have hsymbol (h : classify token.text = some token.kind) : token.text ≠ [] := by
    intro hnil
    rw [hnil] at h
    cases h
  obtain ⟨kind, text⟩ := token
  cases kind with
  | function =>
    obtain ⟨name, inner, hname, -, rfl⟩ := h
    obtain ⟨c, rest, rfl, hc, -⟩ := exists_of_isIdentifier hname
    refine ⟨by simp, ?_, ?_⟩
    · rintro _ ⟨⟩
      exact isBlank_of_isIdentifierStart hc
    · rw [List.getLast?_concat]
      rintro _ ⟨⟩
      decide
  | number => exact hends (ne_nil_of_isDecimal h) (isBlank_of_isDecimal h)
  | operator => exact hends (hsymbol h) (isBlank_of_classify h)
  | comparison => exact hends (hsymbol h) (isBlank_of_classify h)

end Token

namespace Formula

/-- The token texts with a gap after each, all but the last of them not empty. -/
inductive Spaced : Formula → Text → Prop
  | nil : Spaced [] []
  | cons {token : Token} {rest : Formula} {gap text : Text} : gap.blank → (rest ≠ [] → gap ≠ []) →
      Spaced rest text → Spaced (token :: rest) (token.text ++ gap ++ text)

def Layout (formula : Formula) (text : Text) : Prop :=
  ∃ lead spaced, lead.blank ∧ Spaced formula spaced ∧ text = lead ++ spaced

theorem spaced_equation (formula : Formula) : Spaced formula formula.equation := by
  induction formula with
  | nil => exact .nil
  | cons token rest ih =>
    cases rest with
    | nil =>
      have hspaced := @Spaced.cons token [] [] [] rfl (by simp) .nil
      simpa using hspaced
    | cons next rest =>
      rw [equation_cons_cons]
      exact .cons (by decide) (by simp) ih

theorem layout_equation (formula : Formula) : formula.Layout formula.equation :=
  ⟨[], formula.equation, rfl, spaced_equation formula, rfl⟩

theorem Spaced.isBlank_head {formula : Formula} {text : Text} (h : Spaced formula text)
    (hcanonical : formula.IsCanonical) : ∀ c ∈ text.head?, isBlank c = false := by
  cases h with
  | nil => simp
  | @cons token rest gap text _ _ _ =>
    obtain ⟨hne, hhead, -⟩ := (isCanonical_cons.1 hcanonical).1.isBlank_ends
    rwa [List.append_assoc, List.head?_append_of_ne_nil _ hne]

variable {isKnown : Text → Bool} {expectsValue : Bool}

theorem words_gap {start : Nat} {gap text : Text} (hgap : gap.blank)
    (htext : ∀ c ∈ text.head?, isBlank c = false) :
    words start (gap ++ text) = words (start + gap.length) text := by
  by_cases hne : gap = []
  · simp [hne]
  · rw [words, words, Lexeme.scan_blank hne hgap htext, Segment.group_none_cons]
    cases Segment.group none (Lexeme.scan 0 (start + gap.length) text) <;> rfl

theorem head?_kind_scan_ne_opening {start : Nat} {text : Text} (h : ∀ c ∈ text.head?, isBlank c) :
    ∀ next ∈ (Lexeme.scan 0 start text).head?, next.kind ≠ .opening := by
  cases text with
  | nil => simp [Lexeme.scan]
  | cons c rest =>
    rw [Lexeme.scan_first, Lexeme.first_of_blank (h c rfl)]
    simp

theorem words_append {start : Nat} {text more : Text} {segments : List Segment}
    (hlast : ∀ c ∈ text.getLast?, isBlank c = false) (hmore : ∀ c ∈ more.head?, isBlank c)
    (h : words start text = .ok segments) :
    words start (text ++ more) = (words (start + text.length) more).map (segments ++ ·) := by
  obtain ⟨all, hall, rfl⟩ := Fallible.map_eq_ok.1 h
  have hgroups := Segment.groups_of_group (fun _ => Lexeme.fits_of_mem_scan) hall
  rw [words, words, Lexeme.scan_append hlast hmore,
    Segment.group_append (fun _ => Lexeme.fits_of_mem_scan) (head?_kind_scan_ne_opening hmore) hgroups]
  cases Segment.group none (Lexeme.scan 0 (start + text.length) more) with
  | error name => rfl
  | ok others => simp [Except.map]

theorem le_start_of_mem_words {start : Nat} {text : Text} {segments : List Segment}
    (h : words start text = .ok segments) : ∀ segment ∈ segments, start ≤ segment.start := by
  obtain ⟨all, hall, rfl⟩ := Fallible.map_eq_ok.1 h
  have hgroups := Segment.groups_of_group (fun _ hmem => Lexeme.fits_of_mem_scan hmem) hall
  intro segment hmem
  exact (hgroups.consecutive (Lexeme.consecutive_scan start text)).le_start segment (List.mem_of_mem_filter hmem)

theorem ofSegments_lexeme {lexeme : Lexeme} {token : Token} {rest : List Segment}
    (htoken : ofLexeme lexeme = .ok token) (hrest : ∀ next ∈ rest.head?, next.start ≠ lexeme.stop) :
    ofSegments isKnown expectsValue (.single lexeme :: rest) =
      (ofSegments isKnown token.isSymbol rest).map (token :: ·) := by
  rw [ofSegments_single, htoken]
  · rfl
  · intro next hnext
    apply Bool.eq_false_iff.2
    intro hsigns
    obtain ⟨-, -, -, hstart⟩ := signs_iff.1 (Bool.and_eq_true_iff.1 hsigns).2
    exact hrest _ hnext hstart

theorem words_lexeme {start : Nat} {kind : Lexeme.Kind} {c : Char} {rest : Text}
    (hfirst : Lexeme.first c rest = (kind, rest.length + 1)) (hspace : kind ≠ .space) :
    words start (c :: rest) = .ok [.single ⟨kind, c :: rest, start⟩] := by
  rw [words, Lexeme.scan_first, hfirst, List.take_of_length_le (by simp), List.drop_of_length_le (by simp)]
  simp [Lexeme.scan, Segment.opensCall, Segment.group, Except.map, Segment.isSpace, hspace]

theorem first_of_classify {text : Text} {kind : Token.Kind} (h : classify text = some kind) :
    ∃ c rest, text = c :: rest ∧
      Lexeme.first c rest = (if kind = .operator then .arithmetic else .comparison, rest.length + 1) := by
  have hall : ∀ text ∈ comparisonSymbols ++ arithmeticSymbols, text ≠ [] ∧
      Lexeme.first (text.headD ' ') text.tail =
        (if classify text = some .operator then .arithmetic else .comparison, text.tail.length + 1) := by
    decide
  obtain ⟨hne, hfirst⟩ := hall text (Lexeme.mem_of_classify h)
  cases text with
  | nil => exact absurd rfl hne
  | cons c rest =>
    simp only [h, Option.some.injEq] at hfirst
    exact ⟨c, rest, rfl, hfirst⟩

theorem first_of_isUnsignedDecimal {text : Text} (h : isUnsignedDecimal text) :
    ∃ c rest, text = c :: rest ∧ Lexeme.first c rest = (.number, rest.length + 1) := by
  cases text with
  | nil => cases h
  | cons c rest =>
    have hlength := length_of_isUnsignedDecimal h
    refine ⟨c, rest, rfl, ?_⟩
    have hpos : 0 < decimalExtent (c :: rest) := hlength ▸ Nat.succ_pos _
    rw [Lexeme.first_of_decimal hpos, hlength, List.length_cons]

theorem first_of_isSign {c : Char} {number : Text} (h : isSign c) :
    Lexeme.first c number = (.arithmetic, 1) := by
  have hsign : c = '+' ∨ c = '-' := by simpa [isSign] using h
  cases hsign with
  | inl h => rw [h]; rfl
  | inr h => rw [h]; rfl

theorem flatMap_text_scan (start : Nat) (text : Text) :
    (Lexeme.scan 0 start text).flatMap Lexeme.text = text := by
  induction text using Lexeme.first_induction generalizing start with
  | nil => rfl
  | cons c rest ih => rw [Lexeme.scan_first, List.flatMap_cons, ih, List.take_append_drop]

theorem scan_call {start : Nat} {name : Text} (h : isIdentifier name) (rest : Text) :
    Lexeme.scan 0 start (name ++ '(' :: rest) =
      ⟨.identifier, name, start⟩ :: ⟨.opening, ['('], start + name.length⟩ ::
        Lexeme.scan 0 (start + name.length + 1) rest := by
  have hopening : ∀ c ∈ ('(' :: rest).head?, isIdentifierChar c = false := by
    rintro c ⟨⟩
    decide
  have hextent : identifierExtent (name ++ '(' :: rest) = name.length := by
    rw [identifierExtent_append hopening, length_of_isIdentifier h]
  obtain ⟨c, letters, rfl, hc, -⟩ := exists_of_isIdentifier h
  rw [List.cons_append, Lexeme.scan_first, Lexeme.first_of_identifier hc, ← List.cons_append, hextent,
    List.take_left, List.drop_left]
  rfl

theorem exists_scan_closing (start : Nat) (inner : Text) :
    ∃ front closing, Lexeme.scan 0 start (inner ++ [')']) = front ++ [closing] ∧ closing.kind = .closing ∧
      front.flatMap Lexeme.text = inner := by
  have htext := flatMap_text_scan start (inner ++ [')'])
  have hfits := fun lexeme => @Lexeme.fits_of_mem_scan lexeme start (inner ++ [')'])
  rcases List.eq_nil_or_concat' (Lexeme.scan 0 start (inner ++ [')'])) with hscan | ⟨front, closing, hscan⟩
  · rw [hscan] at htext
    simp at htext
  · rw [hscan] at htext hfits
    have hlast : closing.kind.Fits closing.text := hfits closing List.mem_concat_self
    obtain ⟨word, c, hword⟩ := (List.eq_nil_or_concat' closing.text).resolve_left hlast.ne_nil
    rw [List.flatMap_append, List.flatMap_singleton, hword, ← List.append_assoc] at htext
    obtain ⟨hfront, hc⟩ := List.append_inj' htext rfl
    have hkind : closing.kind = .closing := hlast.eq_closing (by simp [hword, hc])
    rw [hkind] at hlast
    have hnil : word = [] := by
      have hlength := congrArg List.length (hword.symm.trans hlast.closing)
      simpa using hlength
    exact ⟨front, closing, hscan, hkind, by simpa [hnil] using hfront⟩

theorem words_call (start : Nat) {name inner : Text} (hname : isIdentifier name)
    (hinner : Text.IsBalanced inner) :
    ∃ body, body.flatMap Lexeme.text = '(' :: inner ++ [')'] ∧
      words start (name ++ '(' :: inner ++ [')']) = .ok [.call ⟨.identifier, name, start⟩ body] := by
  let opening : Lexeme := ⟨.opening, ['('], start + name.length⟩
  have hbody := flatMap_text_scan (start + name.length + 1) (inner ++ [')'])
  obtain ⟨front, closing, hfront, hclosing, htext⟩ := exists_scan_closing (start + name.length + 1) inner
  have hscan : Lexeme.scan 0 start (name ++ '(' :: inner ++ [')']) =
      ⟨.identifier, name, start⟩ :: opening :: (front ++ [closing]) := by
    rw [List.append_assoc, List.cons_append, scan_call hname, hfront]
  have hgroups : Segment.Groups (Lexeme.scan 0 start (name ++ '(' :: inner ++ [')']))
      [.call ⟨.identifier, name, start⟩ (opening :: front ++ [closing])] := by
    rw [hscan]
    exact .call rfl rfl hclosing (htext ▸ hinner) .nil
  refine ⟨opening :: front ++ [closing], ?_, ?_⟩
  · rw [hfront] at hbody
    rw [List.cons_append, List.flatMap_cons, hbody]
    rfl
  · rw [words, Segment.group_of_groups (fun _ => Lexeme.fits_of_mem_scan) hgroups]
    rfl

theorem words_sign (start : Nat) {c : Char} (number : Text) (h : isSign c) :
    words start (c :: number) =
      (words (start + 1) number).map (.single ⟨.arithmetic, [c], start⟩ :: ·) := by
  rw [words, words, Lexeme.scan_first, first_of_isSign h, Segment.group_none_cons,
    if_neg (by simp [Segment.opensCall])]
  simp only [List.take_succ_cons, List.take_zero, List.drop_succ_cons, List.drop_zero]
  cases Segment.group none (Lexeme.scan 0 (start + 1) number) <;> rfl

/-- The segments of a token's text, read as that token in front of all that does not begin directly after it. -/
structure Spells (isKnown : Text → Bool) (start : Nat) (token : Token) (segments : List Segment) : Prop where
  text : words start token.text = .ok segments
  read : ∀ (expectsValue : Bool) (rest : List Segment), (token.isSigned → expectsValue) →
    (token.kind = .function → isKnown token.callee) →
      (∀ next ∈ rest.head?, next.start ≠ start + token.text.length) →
        ofSegments isKnown expectsValue (segments ++ rest) =
          (ofSegments isKnown token.isSymbol rest).map (token :: ·)

theorem spells_lexeme {start : Nat} {kind : Lexeme.Kind} {c : Char} {rest : Text} {token : Token}
    (hfirst : Lexeme.first c rest = (kind, rest.length + 1)) (hspace : kind ≠ .space)
    (htext : token.text = c :: rest) (htoken : ofLexeme ⟨kind, c :: rest, start⟩ = .ok token) :
    Spells isKnown start token [.single ⟨kind, c :: rest, start⟩] := by
  constructor
  · rw [htext]
    exact words_lexeme hfirst hspace
  · intro expectsValue after _ _ hafter
    rw [htext] at hafter
    exact ofSegments_lexeme htoken hafter

theorem spells_signed {start : Nat} {sign c : Char} {rest : Text} (hsign : isSign sign)
    (hfirst : Lexeme.first c rest = (.number, rest.length + 1)) :
    Spells isKnown start ⟨.number, sign :: c :: rest⟩
      [.single ⟨.arithmetic, [sign], start⟩, .single ⟨.number, c :: rest, start + 1⟩] := by
  constructor
  · rw [words_sign start (c :: rest) hsign, words_lexeme hfirst (by simp)]
    rfl
  · intro expectsValue after hexpects _ _
    have hsigned : Token.isSigned ⟨.number, sign :: c :: rest⟩ := by simp [Token.isSigned, hsign]
    have hsigns : signs ⟨.arithmetic, [sign], start⟩ ⟨.number, c :: rest, start + 1⟩ := by
      rw [signs_iff]
      exact ⟨rfl, by simpa [isSign] using hsign, rfl, rfl⟩
    rw [hexpects hsigned]
    exact ofSegments_signed after hsigns

theorem spells_call {start : Nat} {name inner : Text} {body : List Lexeme} (hname : isIdentifier name)
    (hbody : body.flatMap Lexeme.text = '(' :: inner ++ [')'])
    (hwords : words start (name ++ '(' :: inner ++ [')']) = .ok [.call ⟨.identifier, name, start⟩ body]) :
    Spells isKnown start ⟨.function, name ++ '(' :: inner ++ [')']⟩
      [.call ⟨.identifier, name, start⟩ body] := by
  refine ⟨hwords, ?_⟩
  intro expectsValue rest _ hknown _
  have hcallee : isKnown name := by
    simpa [callee_of_isIdentifier hname] using hknown rfl
  rw [List.singleton_append, ofSegments_call, if_pos hcallee, Segment.text, hbody]
  simp [Token.isOperand, Token.Kind.isOperand]

theorem exists_spells (isKnown : Text → Bool) {token : Token} (h : token.IsLexical) (start : Nat) :
    ∃ segments, Spells isKnown start token segments := by
  obtain ⟨kind, text⟩ := token
  cases kind with
  | function =>
    obtain ⟨name, inner, hname, hinner, rfl⟩ := h
    obtain ⟨body, hbody, hwords⟩ := words_call start hname hinner
    exact ⟨_, spells_call hname hbody hwords⟩
  | number =>
    cases isDecimal_iff.1 h with
    | inl hunsigned =>
      obtain ⟨c, rest, rfl, hfirst⟩ := first_of_isUnsignedDecimal hunsigned
      exact ⟨_, spells_lexeme hfirst (by simp) rfl rfl⟩
    | inr hsigned =>
      obtain ⟨sign, number, rfl, hsign, hunsigned⟩ := hsigned
      obtain ⟨c, rest, rfl, hfirst⟩ := first_of_isUnsignedDecimal hunsigned
      exact ⟨_, spells_signed hsign hfirst⟩
  | operator =>
    obtain ⟨c, rest, rfl, hfirst⟩ := first_of_classify h
    exact ⟨_, spells_lexeme hfirst (by simp) rfl rfl⟩
  | comparison =>
    obtain ⟨c, rest, rfl, hfirst⟩ := first_of_classify h
    exact ⟨_, spells_lexeme hfirst (by simp) rfl rfl⟩

theorem exists_words_of_spaced {formula : Formula} {text : Text} (hspaced : Spaced formula text)
    (hcanonical : formula.IsCanonical) (hcalls : formula.Calls isKnown)
    (hhead : ∀ token ∈ formula.head?, token.isSigned → expectsValue) (start : Nat) :
    ∃ segments, words start text = .ok segments ∧
      ofSegments isKnown expectsValue segments = .ok formula := by
  induction hspaced generalizing expectsValue start with
  | nil => exact ⟨[], rfl, rfl⟩
  | @cons token rest gap text hgap hne hspaced ih =>
    obtain ⟨hlexical, hnext, hcanonical⟩ := isCanonical_cons.1 hcanonical
    obtain ⟨hknown, hcalls⟩ := List.forall_mem_cons.1 hcalls
    obtain ⟨segments, hspells⟩ := exists_spells isKnown hlexical start
    obtain ⟨others, hothers, hrest⟩ :=
      ih hcanonical hcalls hnext (start + token.text.length + gap.length)
    have htext : ∀ c ∈ text.head?, isBlank c = false := hspaced.isBlank_head hcanonical
    -- Only the gap after the last token can be empty, and nothing follows that one.
    have hlast : gap = [] → text = [] := by
      intro hgap
      cases hspaced with
      | nil => rfl
      | cons => exact absurd hgap (hne (by simp))
    have hmore : ∀ c ∈ (gap ++ text).head?, isBlank c := by
      cases gap with
      | nil => simp [hlast rfl]
      | cons c gap =>
        rintro _ ⟨⟩
        exact (Bool.and_eq_true_iff.1 hgap).1
    have hgapped : ∀ next ∈ others.head?, next.start ≠ start + token.text.length := by
      intro next hnext hstart
      have hle := le_start_of_mem_words hothers next (List.mem_of_mem_head? hnext)
      have hempty : gap = [] := List.eq_nil_of_length_eq_zero (by omega)
      rw [hlast hempty] at hothers
      cases hothers
      cases hnext
    refine ⟨segments ++ others, ?_, ?_⟩
    · rw [List.append_assoc, words_append hlexical.isBlank_ends.2.2 hmore hspells.text, words_gap hgap htext,
        hothers]
      rfl
    · rw [hspells.read expectsValue others (hhead token rfl) hknown hgapped, hrest]
      rfl

theorem ofEquation_of_layout {formula : Formula} {text : Text} (hlayout : formula.Layout text)
    (hcanonical : formula.IsCanonical) (hcalls : formula.Calls isKnown) :
    ofEquation isKnown text = .ok formula := by
  obtain ⟨lead, spaced, hlead, hspaced, rfl⟩ := hlayout
  rw [ofEquation_eq_ok_iff, words_gap hlead (hspaced.isBlank_head hcanonical)]
  exact exists_words_of_spaced hspaced hcanonical hcalls (fun _ _ _ => rfl) _

/-- What is read is canonical, and every canonical formula is read from each of its layouts; what is read is read
again from the equation that is written for it.  `isKnown` says which functions the catalog has, or is true
throughout where none is given. -/
theorem ofEquation_canonical_layouts (isKnown : Text → Bool) :
    (∀ text formula, ofEquation isKnown text = .ok formula → formula.IsCanonical) ∧
      (∀ formula text, formula.IsCanonical → formula.Calls isKnown → formula.Layout text →
        ofEquation isKnown text = .ok formula) ∧
        (∀ text formula, ofEquation isKnown text = .ok formula →
          ofEquation isKnown formula.equation = .ok formula) := by
  refine ⟨?_, ?_, ?_⟩
  · intro text formula h
    exact (isCanonical_of_ofEquation h).1
  · intro formula text hcanonical hcalls hlayout
    exact ofEquation_of_layout hlayout hcanonical hcalls
  · intro text formula h
    obtain ⟨hcanonical, hcalls⟩ := isCanonical_of_ofEquation h
    exact ofEquation_of_layout (layout_equation formula) hcanonical hcalls

/-- A nested call, and a signed number after a comparison. -/
theorem ofEquation_nested_call_signed_number :
    ofEquation (· == "RSI") " RSI(a, (b))\t> -1 " =
      .ok [⟨.function, "RSI(a, (b))"⟩, ⟨.comparison, ">"⟩, ⟨.number, "-1"⟩] := by
  have hlexical : Token.IsLexical ⟨.function, "RSI(a, (b))"⟩ :=
    ⟨"RSI", "a, (b)", by decide, rfl, rfl⟩
  have hcanonical : IsCanonical [⟨.function, "RSI(a, (b))"⟩, ⟨.comparison, ">"⟩, ⟨.number, "-1"⟩] := by
    refine isCanonical_cons.2 ⟨hlexical, by decide, isCanonical_cons.2 ⟨?_, by decide, isCanonical_cons.2
      ⟨?_, by decide, isCanonical_nil⟩⟩⟩
    · rfl
    · rfl
  have hspaced : Spaced [⟨.function, "RSI(a, (b))"⟩, ⟨.comparison, ">"⟩, ⟨.number, "-1"⟩]
      "RSI(a, (b))\t> -1 " :=
    @Spaced.cons _ _ "\t" _ rfl (by decide) (@Spaced.cons _ _ " " _ rfl (by decide)
      (@Spaced.cons _ _ " " _ rfl (by decide) .nil))
  exact (ofEquation_canonical_layouts (· == "RSI")).2.1 _ _ hcanonical (by unfold Calls; decide)
    ⟨" ", _, rfl, hspaced, rfl⟩

end Formula

end Screener
