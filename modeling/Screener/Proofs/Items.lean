import Screener.Proofs.Layout
import Screener.Proofs.LongestMatch

namespace Screener

def Lexeme.Kind.standsAlone : Kind → Bool
  | .space | .number | .arithmetic | .comparison => true
  | .identifier | .opening | .closing | .comma | .unknown => false

def Segment.isItem (isKnown : Text → Bool) : Segment → Bool
  | .call name _ => isKnown name.text
  | .single lexeme => lexeme.kind.standsAlone

@[simp] theorem Segment.isItem_call (isKnown : Text → Bool) (name : Lexeme) (body : List Lexeme) :
    (Segment.call name body).isItem isKnown = isKnown name.text := rfl

@[simp] theorem Segment.isItem_single (isKnown : Text → Bool) (lexeme : Lexeme) :
    (Segment.single lexeme).isItem isKnown = lexeme.kind.standsAlone := rfl

theorem Catalog.contains_iff {catalog : Catalog} {name : Text} :
    catalog.contains name ↔ ∃ signature ∈ catalog.functions, signature.name.upper = name.upper := by
  simp [contains, lookup]

namespace Formula

/-- The token texts in order, with white space in front of each and at the end, any of which may be empty. -/
inductive Padded : Formula → Text → Prop
  | nil {gap : Text} : gap.blank → Padded [] gap
  | cons {token : Token} {rest : Formula} {gap text : Text} : gap.blank → Padded rest text →
      Padded (token :: rest) (gap ++ token.text ++ text)

variable {isKnown : Text → Bool} {formula : Formula} {segment : Segment} {segments rest : List Segment}
  {result : Except Stop Formula}

theorem Padded.gap {gap text : Text} (hgap : gap.blank) (h : Padded formula text) : Padded formula (gap ++ text) := by
  have happend {more : Text} (hmore : more.blank) : (gap ++ more).blank := by
    simp_all [Text.blank]
  cases h with
  | nil hmore => exact .nil (happend hmore)
  | cons hmore hrest =>
    rw [← List.append_assoc, ← List.append_assoc]
    exact .cons (happend hmore) hrest

theorem Padded.token {token : Token} {text : Text} (h : Padded formula text) :
    Padded (token :: formula) (token.text ++ text) :=
  @Padded.cons token formula [] text rfl h

/-- What segments are read as: if all are items, a formula that they are the token texts of, with white space; otherwise
an error at the first that is not an item. -/
def ReadsAs (isKnown : Text → Bool) (segments : List Segment) (result : Except Stop Formula) : Prop :=
  match segments.find? (!·.isItem isKnown) with
  | none => ∃ formula, result = .ok formula ∧ Padded formula (segments.flatMap Segment.text)
  | some bad => ∃ cause, result = .error (bad.start, cause)

theorem readsAs_nil : ReadsAs isKnown [] (.ok []) := ⟨[], rfl, .nil rfl⟩

theorem readsAs_error (segment : Segment) (hitem : segment.isItem isKnown = false) (cause : EquationError.Cause)
    (rest : List Segment) : ReadsAs isKnown (segment :: rest) (.error (segment.start, cause)) := by
  have hfind : (segment :: rest).find? (!·.isItem isKnown) = some segment := by simp [hitem]
  rw [ReadsAs, hfind]
  exact ⟨cause, rfl⟩

theorem ReadsAs.append (taken : List Segment) (more : Formula) (h : ReadsAs isKnown rest result)
    (hitem : ∀ segment ∈ taken, segment.isItem isKnown)
    (hpadded : ∀ formula text, Padded formula text →
      Padded (more ++ formula) (taken.flatMap Segment.text ++ text)) :
    ReadsAs isKnown (taken ++ rest) (result.map (more ++ ·)) := by
  have hfind : (taken ++ rest).find? (!·.isItem isKnown) = rest.find? (!·.isItem isKnown) := by
    rw [List.find?_append, List.find?_eq_none.2 (by simpa using hitem), Option.none_or]
  unfold ReadsAs at h ⊢
  rw [hfind]
  split
  case h_1 hnone =>
    rw [hnone] at h
    obtain ⟨formula, rfl, hformula⟩ := h
    refine ⟨more ++ formula, rfl, ?_⟩
    rw [List.flatMap_append]
    exact hpadded _ _ hformula
  case h_2 bad hsome =>
    rw [hsome] at h
    obtain ⟨cause, rfl⟩ := h
    exact ⟨cause, rfl⟩

theorem ReadsAs.token {token : Token} (taken : List Segment) (h : ReadsAs isKnown rest result)
    (hitem : ∀ segment ∈ taken, segment.isItem isKnown) (htext : taken.flatMap Segment.text = token.text) :
    ReadsAs isKnown (taken ++ rest) (result.map (token :: ·)) := by
  refine h.append taken [token] hitem ?_
  intro formula text hformula
  rw [htext]
  exact hformula.token

theorem ReadsAs.space {lexeme : Lexeme} (h : ReadsAs isKnown rest result) (hspace : lexeme.kind = .space)
    (hfits : (Segment.single lexeme).Fits) : ReadsAs isKnown (.single lexeme :: rest) result := by
  have hblank : lexeme.text.blank := by
    rw [Segment.Fits, hspace] at hfits
    exact hfits.2
  have happend := h.append [.single lexeme] [] (by simp [hspace, Lexeme.Kind.standsAlone]) (by
    intro formula text hformula
    rw [List.flatMap_singleton]
    exact hformula.gap hblank)
  cases result <;> exact happend

theorem ReadsAs.call {name : Lexeme} {body : List Lexeme} (h : ReadsAs isKnown rest result) :
    ReadsAs isKnown (.call name body :: rest)
      (if isKnown name.text then result.map (⟨.function, (Segment.call name body).text⟩ :: ·)
      else .error (name.start, .unknownFunction name.text)) := by
  split
  case isTrue hknown =>
    refine h.token [.call name body] (by simpa using hknown) ?_
    rw [List.flatMap_singleton]
  case isFalse hunknown => exact readsAs_error (.call name body) (by simpa using hunknown) _ rest

theorem ReadsAs.signed {sign number : Lexeme} (h : ReadsAs isKnown rest result) (hsigns : signs sign number) :
    ReadsAs isKnown (.single sign :: .single number :: rest)
      (result.map (⟨.number, sign.text ++ number.text⟩ :: ·)) := by
  obtain ⟨hsign, -, hnumber, -⟩ := signs_iff.1 hsigns
  refine h.token [.single sign, .single number] ?_ ?_
  · simp [hsign, hnumber, Lexeme.Kind.standsAlone]
  · simp [Segment.text]

theorem ofLexeme_cases {lexeme : Lexeme} (hspace : lexeme.kind ≠ .space) :
    (lexeme.kind.standsAlone ∧ ∃ token, ofLexeme lexeme = .ok token ∧ token.text = lexeme.text) ∨
      (lexeme.kind.standsAlone = false ∧ ∃ cause, ofLexeme lexeme = .error (lexeme.start, cause)) := by
  unfold ofLexeme
  cases hkind : lexeme.kind with
  | space => exact absurd hkind hspace
  | number => exact .inl ⟨rfl, _, rfl, rfl⟩
  | arithmetic => exact .inl ⟨rfl, _, rfl, rfl⟩
  | comparison => exact .inl ⟨rfl, _, rfl, rfl⟩
  | _ => exact .inr ⟨rfl, _, rfl⟩

theorem readsAs_lexeme {lexeme : Lexeme} {read : Bool → Except Stop Formula}
    (h : ∀ expectsValue, ReadsAs isKnown rest (read expectsValue)) (hspace : lexeme.kind ≠ .space) :
    ReadsAs isKnown (.single lexeme :: rest)
      ((ofLexeme lexeme).bind fun token => (read token.isSymbol).map (token :: ·)) := by
  rcases ofLexeme_cases hspace with ⟨hitem, token, htoken, htext⟩ | ⟨hitem, cause, hcause⟩
  · rw [htoken]
    refine (h token.isSymbol).token [.single lexeme] (by simpa using hitem) ?_
    rw [List.flatMap_singleton, htext]
    rfl
  · rw [hcause]
    exact readsAs_error (.single lexeme) hitem cause rest

theorem filter_isSpace {lexeme : Lexeme} (hspace : lexeme.kind = .space) (rest : List Segment) :
    (Segment.single lexeme :: rest).filter (!·.isSpace) = rest.filter (!·.isSpace) := by
  simp [Segment.isSpace, hspace]

theorem filter_single {lexeme : Lexeme} (hspace : lexeme.kind ≠ .space) (rest : List Segment) :
    (Segment.single lexeme :: rest).filter (!·.isSpace) = .single lexeme :: rest.filter (!·.isSpace) := by
  simp [Segment.isSpace, hspace]

theorem filter_call (name : Lexeme) (body : List Lexeme) (rest : List Segment) :
    (Segment.call name body :: rest).filter (!·.isSpace) = .call name body :: rest.filter (!·.isSpace) := rfl

theorem head?_of_head?_filter {next : Segment} {position : Nat} (hfits : ∀ segment ∈ segments, segment.Fits)
    (hsegments : Consecutive Segment.start Segment.text position segments)
    (hnext : (segments.filter (!·.isSpace)).head? = some next) (hstart : next.start = position) :
    segments.head? = some next := by
  cases segments with
  | nil => cases hnext
  | cons first rest =>
    cases first with
    | call name body => exact hnext
    | single lexeme =>
      by_cases hspace : lexeme.kind = .space
      · have hfirst : (Segment.single lexeme).Fits := hfits _ List.mem_cons_self
        rw [Segment.Fits, hspace] at hfirst
        rw [filter_isSpace hspace] at hnext
        have hmem : next ∈ rest := List.mem_of_mem_filter (List.mem_of_mem_head? hnext)
        have hle : position + lexeme.text.length ≤ next.start := hsegments.2.le_start next hmem
        have hpos := List.length_pos_iff.2 hfirst.1
        omega
      · rwa [filter_single hspace] at hnext

theorem readsAs_ofSegments {position : Nat} {expectsValue : Bool} (hfits : ∀ segment ∈ segments, segment.Fits)
    (hsegments : Consecutive Segment.start Segment.text position segments) :
    ReadsAs isKnown segments (ofSegments isKnown expectsValue (segments.filter (!·.isSpace))) := by
  -- On the length, since a sign and the number after it are read as one token.
  induction hlength : segments.length using Nat.strongRecOn generalizing segments position expectsValue with
  | ind n ih =>
    cases segments with
    | nil => exact readsAs_nil
    | cons segment rest =>
      rw [List.length_cons] at hlength
      obtain ⟨hsegment, hrest⟩ := List.forall_mem_cons.1 hfits
      obtain ⟨hstart, hafter⟩ := hsegments
      have hread := fun expectsValue => @ih rest.length (by omega) rest _ expectsValue hrest hafter rfl
      cases segment with
      | call name body =>
        rw [filter_call, ofSegments_call]
        exact (hread false).call
      | single lexeme =>
        by_cases hspace : lexeme.kind = .space
        · rw [filter_isSpace hspace]
          exact (hread expectsValue).space hspace hsegment
        rw [filter_single hspace]
        by_cases hsigned : ∃ next, (rest.filter (!·.isSpace)).head? = some (.single next) ∧
            (expectsValue && signs lexeme next)
        · obtain ⟨number, hnumber, hsigns⟩ := hsigned
          obtain ⟨rfl, hsigns⟩ := Bool.and_eq_true_iff.1 hsigns
          obtain ⟨-, -, hkind, hnext⟩ := signs_iff.1 hsigns
          have hstop : number.start = position + lexeme.text.length := by
            rw [hnext, ← hstart]
            rfl
          -- Nothing lies between the sign and the number, so they are neighbours before white space is dropped too.
          obtain ⟨rest, rfl⟩ := List.head?_eq_some_iff.1 (head?_of_head?_filter hrest hafter hnumber hstop)
          rw [List.length_cons] at hlength
          rw [filter_single (by simp [hkind]), ofSegments_signed _ hsigns]
          exact (ih rest.length (by omega) (List.forall_mem_cons.1 hrest).2 hafter.2 rfl).signed hsigns
        · rw [ofSegments_single]
          · exact readsAs_lexeme hread hspace
          · intro next hnext
            exact Bool.eq_false_iff.2 fun hsigns => hsigned ⟨next, hnext, hsigns⟩

theorem ofSegments_congr {expectsValue : Bool} {isOther : Text → Bool}
    (h : ∀ name body, .call name body ∈ segments → isKnown name.text = isOther name.text) :
    ofSegments isKnown expectsValue segments = ofSegments isOther expectsValue segments := by
  fun_induction ofSegments isKnown expectsValue segments with
  | case1 => rfl
  | case2 _ name body rest hknown ih =>
    have hother : isOther name.text := (h name body List.mem_cons_self).symm.trans hknown
    rw [ofSegments, if_pos hother, ih fun name body hmem => h name body (List.mem_cons_of_mem _ hmem)]
  | case3 _ name body rest hunknown =>
    have hother : ¬isOther name.text := (h name body List.mem_cons_self) ▸ hunknown
    rw [ofSegments, if_neg hother]
  | case4 _ lexeme next rest hsigns ih =>
    rw [ofSegments, if_pos hsigns, ih fun name body hmem => h name body (by simp [hmem])]
  | case5 _ lexeme next rest hsigns ih =>
    rw [ofSegments, if_neg hsigns]
    simp only [ih _ fun name body hmem => h name body (List.mem_cons_of_mem _ hmem)]
  | case6 _ lexeme rest hrest ih =>
    rw [ofSegments]
    · simp only [ih _ fun name body hmem => h name body (List.mem_cons_of_mem _ hmem)]
    · exact hrest

section Equation

variable {text : Text} {name : Lexeme} {bad : Segment} {front back : List Segment}

theorem ofEquation_of_unclosed (h : Segment.Unclosed (Lexeme.scan 0 0 text) name) :
    ofEquation isKnown text = .error ⟨text, name.start, .unterminatedCall name.text⟩ := by
  have hgroup := Segment.group_of_unclosed (fun _ => Lexeme.fits_of_mem_scan) h
  rw [ofEquation, Segment.ofText, Lexeme.ofText, hgroup]
  rfl

theorem ofEquation_of_groups (h : Segment.Groups (Lexeme.scan 0 0 text) segments) :
    ofEquation isKnown text =
      (ofSegments isKnown true (segments.filter (!·.isSpace))).mapError fun stop => ⟨text, stop.1, stop.2⟩ := by
  have hgroup := Segment.group_of_groups (fun _ => Lexeme.fits_of_mem_scan) h
  rw [ofEquation, Segment.ofText, Lexeme.ofText, hgroup]
  simp only [bind, Except.bind]
  cases ofSegments isKnown true (segments.filter (!·.isSpace)) <;> rfl

theorem readsAs_of_groups (isKnown : Text → Bool) (h : Segment.Groups (Lexeme.scan 0 0 text) segments) :
    ReadsAs isKnown segments (ofSegments isKnown true (segments.filter (!·.isSpace))) := by
  have hfits := h.fits fun _ => Lexeme.fits_of_mem_scan
  exact readsAs_ofSegments hfits (h.consecutive (Lexeme.consecutive_scan 0 text))

theorem ofEquation_of_items (h : Segment.Groups (Lexeme.scan 0 0 text) segments)
    (hitems : ∀ segment ∈ segments, segment.isItem isKnown) :
    ∃ formula, ofEquation isKnown text = .ok formula ∧ Padded formula text := by
  have hnone : segments.find? (!·.isItem isKnown) = none := by simpa using hitems
  have htext : segments.flatMap Segment.text = text := h.flatMap_text.trans (flatMap_text_scan 0 text)
  have hread := readsAs_of_groups isKnown h
  rw [ReadsAs, hnone, htext] at hread
  obtain ⟨formula, hformula, hpadded⟩ := hread
  refine ⟨formula, ?_, hpadded⟩
  rw [ofEquation_of_groups h, hformula]
  rfl

theorem ofEquation_of_bad (h : Segment.Groups (Lexeme.scan 0 0 text) (front ++ bad :: back))
    (hfront : ∀ segment ∈ front, segment.isItem isKnown) (hbad : bad.isItem isKnown = false) :
    ∃ cause, ofEquation isKnown text = .error ⟨text, bad.start, cause⟩ := by
  have hsome : (front ++ bad :: back).find? (!·.isItem isKnown) = some bad := by
    rw [List.find?_append, List.find?_eq_none.2 (by simpa using hfront), Option.none_or]
    simp [hbad]
  have hread := readsAs_of_groups isKnown h
  rw [ReadsAs, hsome] at hread
  obtain ⟨cause, hcause⟩ := hread
  refine ⟨cause, ?_⟩
  rw [ofEquation_of_groups h, hcause]
  rfl

theorem segments_cases (isKnown : Text → Bool) (text : Text) :
    (∃ name, Segment.Unclosed (Lexeme.scan 0 0 text) name) ∨
      (∃ segments, Segment.Groups (Lexeme.scan 0 0 text) segments ∧ ∀ segment ∈ segments, segment.isItem isKnown) ∨
        ∃ front bad back, Segment.Groups (Lexeme.scan 0 0 text) (front ++ bad :: back) ∧
          (∀ segment ∈ front, segment.isItem isKnown) ∧ bad.isItem isKnown = false := by
  rcases Segment.groups_or_unclosed (Lexeme.scan 0 0 text) with ⟨segments, hgroups⟩ | hunclosed
  · cases hfind : segments.find? (!·.isItem isKnown) with
    | none => exact .inr (.inl ⟨segments, hgroups, by simpa using hfind⟩)
    | some bad =>
      obtain ⟨hbad, front, back, rfl, hfront⟩ := List.find?_eq_some_iff_append.1 hfind
      exact .inr (.inr ⟨front, bad, back, hgroups, by simpa using hfront, by simpa using hbad⟩)
  · exact .inl hunclosed

theorem exists_ok_iff :
    (∃ formula, ofEquation isKnown text = .ok formula) ↔
      ∃ segments, Segment.Groups (Lexeme.scan 0 0 text) segments ∧
        ∀ segment ∈ segments, segment.isItem isKnown := by
  constructor
  · rintro ⟨formula, h⟩
    rcases segments_cases isKnown text with ⟨name, hunclosed⟩ | hitems | ⟨front, bad, back, hgroups, hfront, hbad⟩
    · rw [ofEquation_of_unclosed hunclosed] at h
      cases h
    · exact hitems
    · obtain ⟨cause, herror⟩ := ofEquation_of_bad hgroups hfront hbad
      rw [herror] at h
      cases h
  · rintro ⟨segments, hgroups, hitems⟩
    obtain ⟨formula, hformula, -⟩ := ofEquation_of_items hgroups hitems
    exact ⟨formula, hformula⟩

theorem padded_of_ofEquation (h : ofEquation isKnown text = .ok formula) : Padded formula text := by
  obtain ⟨segments, hgroups, hitems⟩ := exists_ok_iff.1 ⟨formula, h⟩
  obtain ⟨other, hother, hpadded⟩ := ofEquation_of_items hgroups hitems
  rw [hother] at h
  exact Except.ok.inj h ▸ hpadded

theorem exists_error_iff {position : Nat} :
    (∃ error, ofEquation isKnown text = .error error ∧ error.position = position) ↔
      (∃ name, Segment.Unclosed (Lexeme.scan 0 0 text) name ∧ name.start = position) ∨
        (¬∃ name, Segment.Unclosed (Lexeme.scan 0 0 text) name) ∧
          ∃ front bad back, Segment.Groups (Lexeme.scan 0 0 text) (front ++ bad :: back) ∧
            (∀ segment ∈ front, segment.isItem isKnown) ∧ bad.isItem isKnown = false ∧ bad.start = position := by
  constructor
  · rintro ⟨error, h, rfl⟩
    rcases segments_cases isKnown text with
      ⟨name, hunclosed⟩ | ⟨segments, hgroups, hitems⟩ | ⟨front, bad, back, hgroups, hfront, hbad⟩
    · rw [ofEquation_of_unclosed hunclosed] at h
      cases h
      exact .inl ⟨name, hunclosed, rfl⟩
    · obtain ⟨formula, hformula, -⟩ := ofEquation_of_items hgroups hitems
      rw [hformula] at h
      cases h
    · obtain ⟨cause, herror⟩ := ofEquation_of_bad hgroups hfront hbad
      rw [herror] at h
      cases h
      refine .inr ⟨?_, front, bad, back, hgroups, hfront, hbad, rfl⟩
      rintro ⟨name, hunclosed⟩
      exact hgroups.not_unclosed (fun _ => Lexeme.fits_of_mem_scan) hunclosed
  · rintro (⟨name, hunclosed, rfl⟩ | ⟨-, front, bad, back, hgroups, hfront, hbad, rfl⟩)
    · exact ⟨_, ofEquation_of_unclosed hunclosed, rfl⟩
    · obtain ⟨cause, herror⟩ := ofEquation_of_bad hgroups hfront hbad
      exact ⟨_, herror, rfl⟩

theorem ofEquation_eq_ofEquationAnyFunction
    (h : ∀ segments, Segment.Groups (Lexeme.scan 0 0 text) segments → ∀ name body, .call name body ∈ segments →
      isKnown name.text) :
    ofEquation isKnown text = ofEquationAnyFunction text := by
  rw [ofEquationAnyFunction]
  rcases Segment.groups_or_unclosed (Lexeme.scan 0 0 text) with ⟨segments, hgroups⟩ | ⟨name, hunclosed⟩
  · rw [ofEquation_of_groups hgroups, ofEquation_of_groups hgroups, ofSegments_congr]
    intro name body hmem
    exact h segments hgroups name body (List.mem_of_mem_filter hmem)
  · rw [ofEquation_of_unclosed hunclosed, ofEquation_of_unclosed hunclosed]

end Equation

/-- A text is read as a formula exactly if its lexemes by longest match fall apart, from left to right, into white space,
unsigned decimals, symbols and calls of known functions, and the text is then the token texts in order with white space
around them.  Where it cannot be read, the error stands at the name of the call that is never closed if there is one, and
otherwise at the first segment that is none of these.  Which functions are known makes no difference unless all calls
are closed and one of them is not known; a catalog knows the functions of its names in any case. -/
theorem ofEquation_items (isKnown : Text → Bool) (text : Text) :
    ∃ lexemes, (∀ others, Lexeme.LongestMatch 0 text others ↔ others = lexemes) ∧
      ((∃ formula, ofEquation isKnown text = .ok formula) ↔
        ∃ segments, Segment.Groups lexemes segments ∧ ∀ segment ∈ segments, segment.isItem isKnown) ∧
      (∀ formula, ofEquation isKnown text = .ok formula → Padded formula text) ∧
      (∀ position, (∃ error, ofEquation isKnown text = .error error ∧ error.position = position) ↔
        (∃ name, Segment.Unclosed lexemes name ∧ name.start = position) ∨
          (¬∃ name, Segment.Unclosed lexemes name) ∧
            ∃ front bad back, Segment.Groups lexemes (front ++ bad :: back) ∧
              (∀ segment ∈ front, segment.isItem isKnown) ∧ bad.isItem isKnown = false ∧ bad.start = position) ∧
      ((∀ segments, Segment.Groups lexemes segments → ∀ name body, .call name body ∈ segments → isKnown name.text) →
        ofEquation isKnown text = ofEquationAnyFunction text) ∧
      ∀ (catalog : Catalog) (name : Text),
        catalog.contains name ↔ ∃ signature ∈ catalog.functions, signature.name.upper = name.upper :=
  ⟨Lexeme.scan 0 0 text, fun _ => Lexeme.longestMatch_iff, exists_ok_iff, fun _ => padded_of_ofEquation,
    fun _ => exists_error_iff, ofEquation_eq_ofEquationAnyFunction, fun _ _ => Catalog.contains_iff⟩

/-- A call that is never closed comes before an error in front of it. -/
example : ofEquationAnyFunction "a) 5 B((1)" = .error ⟨"a) 5 B((1)", 5, .unterminatedCall "B"⟩ := by
  decide

end Formula

end Screener
