import Screener.Equation.Segment
import Screener.Proofs.Fallible
import Screener.Proofs.Lexemes

/-!
Calls in an equation text.  A call is an identifier and, directly after it, a parenthesis with everything up
to the one that closes it.  Only the lexemes that are parentheses have parentheses in their texts, so the depth
that grouping keeps is the depth of the text.
-/

namespace Screener

namespace Text

/-- How many parentheses are open after a text, when so many are open before it; none if one is closed that
is not open. -/
def openAfter : Nat → Text → Option Nat
  | depth, [] => some depth
  | depth, '(' :: rest => openAfter (depth + 1) rest
  | 0, ')' :: _ => none
  | depth + 1, ')' :: rest => openAfter depth rest
  | depth, _ :: rest => openAfter depth rest

def IsBalanced (text : Text) : Prop := openAfter 0 text = some 0

def IsCall (text : Text) : Prop :=
  ∃ name inner, isIdentifier name ∧ IsBalanced inner ∧ text = name ++ '(' :: inner ++ [')']

def IsPlain (text : Text) : Prop := ∀ c ∈ text, c ≠ '(' ∧ c ≠ ')'

theorem openAfter_append (depth : Nat) (text more : Text) :
    openAfter depth (text ++ more) = (openAfter depth text).bind fun depth => openAfter depth more := by
  fun_induction openAfter depth text <;> simp_all [openAfter]

theorem openAfter_of_isPlain {text : Text} (h : IsPlain text) (depth : Nat) :
    openAfter depth text = some depth := by
  induction text with
  | nil => rfl
  | cons c rest ih =>
    obtain ⟨hopening, hclosing⟩ := h c List.mem_cons_self
    rw [openAfter, ih fun d hd => h d (List.mem_cons_of_mem _ hd)] <;> simp_all

end Text

namespace Lexeme

theorem mem_of_classify {text : Text} {kind : Token.Kind} (h : classify text = some kind) :
    text ∈ comparisonSymbols ++ arithmeticSymbols := by
  rw [classify] at h
  rw [List.mem_append]
  split at h
  case isTrue hmem => exact .inl hmem
  case isFalse =>
    split at h
    case isTrue hmem => exact .inr hmem
    case isFalse => cases h

theorem forall_mem_of_classify {p : Char → Bool} {text : Text} {kind : Token.Kind}
    (hsymbols : ((comparisonSymbols ++ arithmeticSymbols).all (·.all p)) = true)
    (h : classify text = some kind) : ∀ c ∈ text, p c :=
  List.all_eq_true.1 (List.all_eq_true.1 hsymbols text (mem_of_classify h))

theorem isPlain_of_forall {p : Char → Bool} {text : Text} (hopening : p '(' = false)
    (hclosing : p ')' = false) (h : ∀ c ∈ text, p c) : Text.IsPlain text := by
  intro c hc
  have hp := h c hc
  constructor
  · rintro rfl
    rw [hopening] at hp
    cases hp
  · rintro rfl
    rw [hclosing] at hp
    cases hp

theorem isPlain_of_classify {text : Text} {kind : Token.Kind} (h : classify text = some kind) :
    Text.IsPlain text :=
  isPlain_of_forall (p := fun c => c != '(' && c != ')') rfl rfl (forall_mem_of_classify (by decide) h)

theorem Kind.Fits.isPlain {kind : Kind} {text : Text} (h : kind.Fits text) (hopening : kind ≠ .opening)
    (hclosing : kind ≠ .closing) : Text.IsPlain text := by
  have hsingle : (∃ c, text = [c] ∧ singleKind c = kind) → Text.IsPlain text := by
    rintro ⟨c, rfl, rfl⟩ d hd
    rw [List.mem_singleton.1 hd]
    constructor
    · rintro rfl
      exact hopening rfl
    · rintro rfl
      exact hclosing rfl
  cases kind with
  | identifier =>
    obtain ⟨c, rest, rfl, hc, hrest⟩ := exists_of_isIdentifier h
    apply isPlain_of_forall (p := isIdentifierChar) (by decide) (by decide)
    rw [List.forall_mem_cons]
    exact ⟨by simp [isIdentifierChar, hc], hrest⟩
  | number => exact isPlain_of_forall (by decide) (by decide) (all_of_isUnsignedDecimal h)
  | arithmetic => exact isPlain_of_classify h
  | comparison => exact isPlain_of_classify h
  | space => exact isPlain_of_forall (p := isBlank) (by decide) (by decide) (by simpa [Text.blank] using h.2)
  | opening => exact absurd rfl hopening
  | closing => exact absurd rfl hclosing
  | comma => exact hsingle h
  | unknown => exact hsingle h

theorem Kind.Fits.opening {text : Text} (h : Kind.opening.Fits text) : text = ['('] := by
  obtain ⟨c, rfl, hc⟩ := h
  unfold singleKind at hc
  grind

theorem Kind.Fits.closing {text : Text} (h : Kind.closing.Fits text) : text = [')'] := by
  obtain ⟨c, rfl, hc⟩ := h
  unfold singleKind at hc
  grind

theorem Kind.Fits.eq_closing {kind : Kind} {text : Text} (h : kind.Fits text) (hmem : ')' ∈ text) :
    kind = .closing := by
  apply Decidable.byContradiction
  intro hclosing
  by_cases hopening : kind = .opening
  · rw [hopening] at h
    rw [h.opening] at hmem
    exact absurd hmem (by decide)
  · exact (h.isPlain hopening hclosing _ hmem).2 rfl

def Kind.depthAfter (depth : Nat) : Kind → Nat
  | .opening => depth + 1
  | .closing => depth - 1
  | _ => depth

theorem Kind.depthAfter_succ {kind : Kind} {depth : Nat} (h : kind = .closing → depth ≠ 0) :
    kind.depthAfter (depth + 1) = kind.depthAfter depth + 1 := by
  cases kind with
  | closing => exact (Nat.sub_add_cancel (Nat.pos_of_ne_zero (h rfl))).symm
  | _ => rfl

theorem Kind.Fits.openAfter {kind : Kind} {text : Text} (h : kind.Fits text) {depth : Nat}
    (hdepth : kind = .closing → depth ≠ 0) : Text.openAfter depth text = some (kind.depthAfter depth) := by
  cases kind with
  | opening =>
    rw [h.opening]
    rfl
  | closing =>
    rw [h.closing]
    cases depth with
    | zero => exact absurd rfl (hdepth rfl)
    | succ depth => rfl
  | _ => exact Text.openAfter_of_isPlain (h.isPlain (by simp) (by simp)) depth

end Lexeme

namespace Segment

def OpenCall.push (call : OpenCall) (lexeme : Lexeme) : OpenCall :=
  ⟨call.name, lexeme :: call.body, lexeme.kind.depthAfter call.depth⟩

theorem group_none_cons (lexeme : Lexeme) (rest : List Lexeme) :
    group none (lexeme :: rest) =
      if opensCall lexeme rest then group (some ⟨lexeme, [], 0⟩) rest
      else (group none rest).map (.single lexeme :: ·) := by
  rw [group]
  cases group none rest <;> rfl

theorem group_some_cons (call : OpenCall) (lexeme : Lexeme) (rest : List Lexeme) :
    group (some call) (lexeme :: rest) =
      if lexeme.kind = .closing ∧ call.depth = 1 then
        (group none rest).map (.call call.name (lexeme :: call.body).reverse :: ·)
      else group (some (call.push lexeme)) rest := by
  cases hkind : lexeme.kind with
  | closing =>
    by_cases hdepth : call.depth = 1
    · simp only [group, hkind, hdepth]
      cases group none rest <;> rfl
    · simp [group, OpenCall.push, Lexeme.Kind.depthAfter, hkind, hdepth]
  | _ => simp [group, OpenCall.push, Lexeme.Kind.depthAfter, hkind]

def Fits : Segment → Prop
  | .call name body =>
    isIdentifier name.text ∧ ∃ inner, Text.IsBalanced inner ∧
      body.flatMap Lexeme.text = '(' :: inner ++ [')']
  | .single lexeme => lexeme.kind.Fits lexeme.text

theorem opensCall_append {lexeme : Lexeme} {rest more : List Lexeme}
    (hmore : ∀ next ∈ more.head?, next.kind ≠ .opening) :
    opensCall lexeme (rest ++ more) = opensCall lexeme rest := by
  cases rest with
  | cons next rest => rfl
  | nil =>
    cases more with
    | nil => rfl
    | cons next more => simp [opensCall, hmore next rfl]

end Segment

end Screener
