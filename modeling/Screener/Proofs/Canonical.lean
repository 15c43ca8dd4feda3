import Mathlib.Data.List.Chain
import Screener.Proofs.Grouping
import Screener.Proofs.Placement

/-!
Canonical formulas: the text of each token is one of its kind, and a number has a sign only where a value is
expected.  These are the formulas that equation texts are read as.
-/

namespace Screener

namespace Token

def IsLexical (token : Token) : Prop := token.HasText Text.IsCall

def isSigned (token : Token) : Bool := token.kind == .number && token.text.head?.any isSign

def callee (token : Token) : Text := token.text.take (identifierExtent token.text)

end Token

namespace Formula

structure IsCanonical (formula : Formula) : Prop where
  lexical : ∀ token ∈ formula, token.IsLexical
  signs : formula.IsChain fun token next => next.isSigned → token.isSymbol

def Calls (isKnown : Text → Bool) (formula : Formula) : Prop :=
  ∀ token ∈ formula, token.kind = .function → isKnown token.callee

variable {isKnown : Text → Bool} {expectsValue : Bool}

theorem isCanonical_nil : IsCanonical [] := ⟨by simp, .nil⟩

theorem isCanonical_cons {token : Token} {rest : Formula} :
    IsCanonical (token :: rest) ↔
      token.IsLexical ∧ (∀ next ∈ rest.head?, next.isSigned → token.isSymbol) ∧ IsCanonical rest := by
  constructor
  · intro h
    have hlexical := List.forall_mem_cons.1 h.lexical
    have hsigns := List.isChain_cons.1 h.signs
    exact ⟨hlexical.1, hsigns.1, hlexical.2, hsigns.2⟩
  · intro ⟨hlexical, hsigns, hrest⟩
    exact ⟨List.forall_mem_cons.2 ⟨hlexical, hrest.lexical⟩, List.isChain_cons.2 ⟨hsigns, hrest.signs⟩⟩

theorem isSign_of_isDecimalChar {c : Char} (h : isDecimalChar c) : isSign c = false := by
  have : c ≠ '+' ∧ c ≠ '-' := by
    constructor
    · rintro rfl
      exact absurd h (by decide)
    · rintro rfl
      exact absurd h (by decide)
  simp [isSign, this]

theorem isSigned_of_isUnsignedDecimal {text : Text} (h : isUnsignedDecimal text) :
    Token.isSigned ⟨.number, text⟩ = false := by
  cases text with
  | nil => rfl
  | cons c rest =>
    have hc := isSign_of_isDecimalChar (all_of_isUnsignedDecimal h c List.mem_cons_self)
    simp [Token.isSigned, hc]

theorem ofLexeme_spec {lexeme : Lexeme} {token : Token} (hfits : lexeme.kind.Fits lexeme.text)
    (h : ofLexeme lexeme = .ok token) :
    token.IsLexical ∧ token.isSigned = false ∧ token.kind ≠ .function := by
  unfold ofLexeme at h
  split at h
  case h_1 hkind =>
    cases h
    rw [hkind] at hfits
    exact ⟨isDecimal_iff.2 (.inl hfits), isSigned_of_isUnsignedDecimal hfits, by simp⟩
  case h_2 hkind =>
    cases h
    rw [hkind] at hfits
    exact ⟨hfits, rfl, by simp⟩
  case h_3 hkind =>
    cases h
    rw [hkind] at hfits
    exact ⟨hfits, rfl, by simp⟩
  all_goals cases h

theorem ofSegments_call (name : Lexeme) (body : List Lexeme) (rest : List Segment) :
    ofSegments isKnown expectsValue (.call name body :: rest) =
      if isKnown name.text then
        (ofSegments isKnown false rest).map (⟨.function, (Segment.call name body).text⟩ :: ·)
      else .error (name.start, .unknownFunction name.text) := by
  rw [ofSegments]
  cases ofSegments isKnown false rest <;> rfl

theorem ofSegments_signed {sign number : Lexeme} (rest : List Segment) (h : signs sign number) :
    ofSegments isKnown true (.single sign :: .single number :: rest) =
      (ofSegments isKnown false rest).map (⟨.number, sign.text ++ number.text⟩ :: ·) := by
  rw [ofSegments, h]
  cases ofSegments isKnown false rest <;> rfl

theorem ofSegments_single {lexeme : Lexeme} {rest : List Segment}
    (h : ∀ next, rest.head? = some (.single next) → (expectsValue && signs lexeme next) = false) :
    ofSegments isKnown expectsValue (.single lexeme :: rest) =
      (ofLexeme lexeme).bind fun token =>
        (ofSegments isKnown token.isSymbol rest).map (token :: ·) := by
  have hmap (token : Token) (result : Except Stop Formula) :
      (do return token :: (← result)) = result.map (token :: ·) := by cases result <;> rfl
  cases rest with
  | nil =>
    rw [ofSegments]
    · simp only [hmap]
      rfl
    · simp
  | cons segment rest =>
    cases segment with
    | call name body =>
      rw [ofSegments]
      · simp only [hmap]
        rfl
      · simp
    | single next =>
      rw [ofSegments, h next rfl]
      simp only [hmap]
      rfl

theorem callee_of_isIdentifier {name rest : Text} (h : isIdentifier name) :
    Token.callee ⟨.function, name ++ '(' :: rest⟩ = name := by
  have hopening : ∀ c ∈ ('(' :: rest).head?, isIdentifierChar c = false := by
    rintro c ⟨⟩
    decide
  rw [Token.callee, identifierExtent_append hopening, length_of_isIdentifier h, List.take_left]

theorem signs_iff {sign number : Lexeme} :
    signs sign number ↔ sign.kind = .arithmetic ∧ (sign.text = ['+'] ∨ sign.text = ['-']) ∧
      number.kind = .number ∧ number.start = sign.stop := by
  simp [signs, and_assoc]

theorem isLexical_of_call {name : Lexeme} {body : List Lexeme} (h : (Segment.call name body).Fits) :
    Token.IsLexical ⟨.function, (Segment.call name body).text⟩ ∧
      Token.callee ⟨.function, (Segment.call name body).text⟩ = name.text := by
  obtain ⟨hname, inner, hinner, hbody⟩ := h
  rw [Segment.text, hbody]
  constructor
  · exact ⟨name.text, inner, hname, hinner, (List.append_assoc _ _ _).symm⟩
  · rw [List.cons_append, callee_of_isIdentifier hname]

theorem isLexical_of_signs {sign number : Lexeme} (hfits : number.kind.Fits number.text)
    (h : signs sign number) : Token.IsLexical ⟨.number, sign.text ++ number.text⟩ := by
  obtain ⟨-, hsign, hkind, -⟩ := signs_iff.1 h
  rw [hkind] at hfits
  apply isDecimal_iff.2
  cases hsign with
  | inl hsign => exact .inr ⟨'+', number.text, by rw [hsign]; rfl, rfl, hfits⟩
  | inr hsign => exact .inr ⟨'-', number.text, by rw [hsign]; rfl, rfl, hfits⟩

/-- The first token that is read is lexical, has a sign only where a value is expected, and calls only a known
function; reading goes on after it. -/
theorem ofSegments_step {segment : Segment} {rest : List Segment} {formula : Formula}
    (hfits : ∀ other ∈ segment :: rest, other.Fits)
    (h : ofSegments isKnown expectsValue (segment :: rest) = .ok formula) :
    ∃ token more after, formula = token :: more ∧ after <:+ rest ∧
      ofSegments isKnown token.isSymbol after = .ok more ∧ token.IsLexical ∧
        (token.isSigned → expectsValue) ∧ (token.kind = .function → isKnown token.callee) := by
  have hfirst := hfits segment List.mem_cons_self
  cases segment with
  | call name body =>
    obtain ⟨hlexical, hcallee⟩ := isLexical_of_call hfirst
    rw [ofSegments_call] at h
    split at h
    case isTrue hknown =>
      obtain ⟨more, hmore, rfl⟩ := Fallible.map_eq_ok.1 h
      refine ⟨_, more, rest, rfl, List.suffix_refl rest, hmore, hlexical, ?_, ?_⟩
      · intro hsigned
        cases hsigned
      · intro _
        rwa [hcallee]
    case isFalse => cases h
  | single lexeme =>
    by_cases hsigned : ∃ next, rest.head? = some (.single next) ∧ (expectsValue && signs lexeme next)
    · obtain ⟨number, hnumber, hsigns⟩ := hsigned
      obtain ⟨after, rfl⟩ := List.head?_eq_some_iff.1 hnumber
      obtain ⟨rfl, hsigns⟩ := Bool.and_eq_true_iff.1 hsigns
      rw [ofSegments_signed after hsigns] at h
      obtain ⟨more, hmore, rfl⟩ := Fallible.map_eq_ok.1 h
      have hlexical := isLexical_of_signs (hfits (.single number) (by simp)) hsigns
      exact ⟨_, more, after, rfl, List.suffix_cons _ _, hmore, hlexical, fun _ => rfl, by simp⟩
    · have halone : ∀ next, rest.head? = some (.single next) →
          (expectsValue && signs lexeme next) = false := by
        intro next hnext
        exact Bool.eq_false_iff.2 fun hsigns => hsigned ⟨next, hnext, hsigns⟩
      rw [ofSegments_single halone] at h
      cases htoken : ofLexeme lexeme with
      | error stop =>
        rw [htoken] at h
        cases h
      | ok token =>
        rw [htoken] at h
        obtain ⟨more, hmore, rfl⟩ := Fallible.map_eq_ok.1 h
        obtain ⟨hlexical, hunsigned, hkind⟩ := ofLexeme_spec hfirst htoken
        refine ⟨token, more, rest, rfl, List.suffix_refl rest, hmore, hlexical, ?_, ?_⟩
        · intro hsigned
          rw [hunsigned] at hsigned
          cases hsigned
        · intro hfunction
          exact absurd hfunction hkind

theorem isCanonical_of_ofSegments {segments : List Segment} {formula : Formula}
    (hfits : ∀ segment ∈ segments, segment.Fits)
    (h : ofSegments isKnown expectsValue segments = .ok formula) :
    formula.IsCanonical ∧ (∀ token ∈ formula.head?, token.isSigned → expectsValue) ∧
      formula.Calls isKnown := by
  -- On the length, since a sign and the number after it are read as one token.
  induction hlength : segments.length using Nat.strongRecOn generalizing segments expectsValue formula with
  | ind n ih =>
    cases segments with
    | nil =>
      cases h
      exact ⟨isCanonical_nil, by simp, by simp [Calls]⟩
    | cons segment rest =>
      obtain ⟨token, more, after, rfl, hafter, hmore, hlexical, hsigned, hknown⟩ := ofSegments_step hfits h
      have hlt : after.length < n := by
        have := hafter.length_le
        rw [← hlength, List.length_cons]
        omega
      have hfits := fun segment hmem => hfits segment (List.mem_cons_of_mem _ (hafter.subset hmem))
      obtain ⟨hcanonical, hhead, hcalls⟩ := ih _ hlt hfits hmore rfl
      refine ⟨isCanonical_cons.2 ⟨hlexical, hhead, hcanonical⟩, ?_, List.forall_mem_cons.2 ⟨hknown, hcalls⟩⟩
      rintro _ ⟨⟩
      exact hsigned

def words (start : Nat) (text : Text) : Except Lexeme (List Segment) :=
  (Segment.group none (Lexeme.scan 0 start text)).map fun segments => segments.filter (!·.isSpace)

theorem ofEquation_eq_ok_iff {text : Text} {formula : Formula} :
    ofEquation isKnown text = .ok formula ↔
      ∃ segments, words 0 text = .ok segments ∧ ofSegments isKnown true segments = .ok formula := by
  unfold ofEquation Segment.ofText Lexeme.ofText words
  cases Segment.group none (Lexeme.scan 0 0 text) with
  | error name => simp [Except.map, bind, Except.bind]
  | ok segments =>
    simp only [Except.map, bind, Except.bind, Except.ok.injEq, exists_eq_left']
    cases ofSegments isKnown true (segments.filter (!·.isSpace)) <;> simp [pure, Except.pure]

theorem isCanonical_of_ofEquation {text : Text} {formula : Formula}
    (h : ofEquation isKnown text = .ok formula) : formula.IsCanonical ∧ formula.Calls isKnown := by
  obtain ⟨segments, hwords, hformula⟩ := ofEquation_eq_ok_iff.1 h
  obtain ⟨all, hall, rfl⟩ := Fallible.map_eq_ok.1 hwords
  have hgroups := Segment.groups_of_group (fun _ => Lexeme.fits_of_mem_scan) hall
  have hfits := hgroups.fits fun _ => Lexeme.fits_of_mem_scan
  have hread := isCanonical_of_ofSegments (fun segment hmem => hfits segment (List.mem_of_mem_filter hmem))
    hformula
  exact ⟨hread.1, hread.2.2⟩

end Formula

end Screener
