import Screener.Proofs.Segments

namespace Screener.Segment

/-- The segments of lexemes: an identifier with an opening parenthesis directly after it goes up to the parenthesis
that closes that one, and every other lexeme outside calls stands alone. -/
inductive Groups : List Lexeme → List Segment → Prop
  | nil : Groups [] []
  | single {lexeme : Lexeme} {rest : List Lexeme} {segments : List Segment} :
      (lexeme.kind = .identifier → ∀ next ∈ rest.head?, next.kind ≠ .opening) → Groups rest segments →
        Groups (lexeme :: rest) (.single lexeme :: segments)
  | call {name opening closing : Lexeme} {inner rest : List Lexeme} {segments : List Segment} :
      name.kind = .identifier → opening.kind = .opening → closing.kind = .closing →
        Text.IsBalanced (inner.flatMap Lexeme.text) → Groups rest segments →
          Groups (name :: opening :: (inner ++ closing :: rest))
            (.call name (opening :: inner ++ [closing]) :: segments)

def NeverCloses (lexemes : List Lexeme) : Prop :=
  ∀ inner closing rest, lexemes = inner ++ closing :: rest → closing.kind = .closing →
    ¬Text.IsBalanced (inner.flatMap Lexeme.text)

/-- After lexemes that fall apart into segments comes the name of a call that is never closed. -/
inductive Unclosed : List Lexeme → Lexeme → Prop
  | intro {front rest : List Lexeme} {segments : List Segment} {name opening : Lexeme} : Groups front segments →
      name.kind = .identifier → opening.kind = .opening → NeverCloses rest →
        Unclosed (front ++ name :: opening :: rest) name

variable {lexeme name closing : Lexeme} {inner lexemes rest : List Lexeme} {segments : List Segment}
  {pending : OpenCall}

theorem opensCall_eq_false_iff :
    opensCall lexeme rest = false ↔
      (lexeme.kind = .identifier → ∀ next ∈ rest.head?, next.kind ≠ .opening) := by
  cases rest <;> simp [opensCall]

theorem opensCall_iff :
    opensCall lexeme rest ↔
      lexeme.kind = .identifier ∧ ∃ opening more, rest = opening :: more ∧ opening.kind = .opening := by
  cases rest <;> simp [opensCall]

theorem group_inner {depth after : Nat} (hfits : ∀ lexeme ∈ inner, lexeme.kind.Fits lexeme.text)
    (hpending : pending.depth = depth + 1)
    (hopen : Text.openAfter depth (inner.flatMap Lexeme.text) = some after) (rest : List Lexeme) :
    group (some pending) (inner ++ rest) = group (some ⟨pending.name, inner.reverse ++ pending.body, after + 1⟩) rest := by
  induction inner generalizing pending depth with
  | nil =>
    obtain rfl := Option.some.inj hopen
    rw [← hpending]
    rfl
  | cons lexeme inner ih =>
    obtain ⟨hlexeme, hinner⟩ := List.forall_mem_cons.1 hfits
    rw [List.flatMap_cons] at hopen
    have hdepth : lexeme.kind = .closing → depth ≠ 0 := by
      rintro hkind rfl
      rw [hkind] at hlexeme
      rw [hlexeme.closing] at hopen
      cases hopen
    have hpush : (pending.push lexeme).depth = lexeme.kind.depthAfter depth + 1 := by
      rw [OpenCall.push, hpending, Lexeme.Kind.depthAfter_succ hdepth]
    rw [Text.openAfter_append, hlexeme.openAfter hdepth, Option.bind_some] at hopen
    rw [List.cons_append, group_some_cons, if_neg, ih hinner hpush hopen]
    · simp [OpenCall.push]
    · rintro ⟨hkind, hone⟩
      exact hdepth hkind (by omega)

theorem group_closed (hfits : ∀ lexeme ∈ inner, lexeme.kind.Fits lexeme.text) (hpending : pending.depth = 1)
    (hbalanced : Text.IsBalanced (inner.flatMap Lexeme.text)) (hclosing : closing.kind = .closing)
    (rest : List Lexeme) :
    group (some pending) (inner ++ closing :: rest) =
      (group none rest).map (.call pending.name (pending.body.reverse ++ inner ++ [closing]) :: ·) := by
  rw [group_inner hfits hpending hbalanced, group_some_cons, if_pos ⟨hclosing, rfl⟩]
  simp

theorem group_unclosed {depth : Nat} (hfits : ∀ lexeme ∈ lexemes, lexeme.kind.Fits lexeme.text)
    (hpending : pending.depth = depth + 1)
    (hnever : ∀ inner closing rest, lexemes = inner ++ closing :: rest → closing.kind = .closing →
      Text.openAfter depth (inner.flatMap Lexeme.text) ≠ some 0) :
    group (some pending) lexemes = .error pending.name := by
  induction lexemes generalizing pending depth with
  | nil => rfl
  | cons lexeme rest ih =>
    obtain ⟨hlexeme, hrest⟩ := List.forall_mem_cons.1 hfits
    have hdepth : lexeme.kind = .closing → depth ≠ 0 := by
      rintro hkind rfl
      exact hnever [] lexeme rest rfl hkind rfl
    have hpush : (pending.push lexeme).depth = lexeme.kind.depthAfter depth + 1 := by
      rw [OpenCall.push, hpending, Lexeme.Kind.depthAfter_succ hdepth]
    rw [group_some_cons, if_neg, ih hrest hpush]
    · rfl
    · rintro inner closing more rfl hclosing hopen
      apply hnever (lexeme :: inner) closing more rfl hclosing
      rw [List.flatMap_cons, Text.openAfter_append, hlexeme.openAfter hdepth, Option.bind_some, hopen]
    · rintro ⟨hkind, hone⟩
      exact hdepth hkind (by omega)

theorem group_opened {opening : Lexeme} (hname : name.kind = .identifier) (hopening : opening.kind = .opening)
    (rest : List Lexeme) : group none (name :: opening :: rest) = group (some ⟨name, [opening], 1⟩) rest := by
  have hopens : opensCall name (opening :: rest) := opensCall_iff.2 ⟨hname, opening, rest, rfl, hopening⟩
  rw [group_none_cons, if_pos hopens, group_some_cons, if_neg (by simp [hopening]), OpenCall.push, hopening]
  rfl

theorem group_append {more : List Lexeme} (hfits : ∀ lexeme ∈ lexemes, lexeme.kind.Fits lexeme.text)
    (hmore : ∀ next ∈ more.head?, next.kind ≠ .opening) (h : Groups lexemes segments) :
    group none (lexemes ++ more) = (group none more).map (segments ++ ·) := by
  have hcons (segment : Segment) (segments : List Segment) :
      ((group none more).map (segments ++ ·)).map (segment :: ·) =
        (group none more).map (segment :: segments ++ ·) := by
    cases group none more <;> rfl
  induction h with
  | nil =>
    rw [List.nil_append]
    cases group none more <;> rfl
  | single halone _ ih =>
    rw [List.cons_append, group_none_cons, opensCall_append hmore, opensCall_eq_false_iff.2 halone,
      ih (List.forall_mem_cons.1 hfits).2]
    exact hcons _ _
  | @call name opening closing inner rest segments hname hopening hclosing hbalanced _ ih =>
    simp only [List.forall_mem_cons, List.forall_mem_append] at hfits
    obtain ⟨-, -, hinner, -, hrest⟩ := hfits
    rw [List.cons_append, List.cons_append, List.append_assoc, List.cons_append, group_opened hname hopening,
      group_closed hinner rfl hbalanced hclosing, ih hrest]
    exact hcons _ _

theorem group_of_groups (hfits : ∀ lexeme ∈ lexemes, lexeme.kind.Fits lexeme.text) (h : Groups lexemes segments) :
    group none lexemes = .ok segments := by
  have happend := @group_append _ _ [] hfits (by simp) h
  rw [List.append_nil] at happend
  simpa [group, Except.map] using happend

theorem group_of_unclosed (hfits : ∀ lexeme ∈ lexemes, lexeme.kind.Fits lexeme.text) (h : Unclosed lexemes name) :
    group none lexemes = .error name := by
  obtain ⟨hfront, hname, hopening, hnever⟩ := h
  simp only [List.forall_mem_cons, List.forall_mem_append] at hfits
  obtain ⟨hfront', -, -, hrest⟩ := hfits
  rw [group_append hfront' _ hfront, group_opened hname hopening, group_unclosed hrest rfl hnever]
  · rfl
  · rintro _ ⟨⟩
    simp [hname]

theorem Unclosed.single (halone : lexeme.kind = .identifier → ∀ next ∈ rest.head?, next.kind ≠ .opening)
    (h : Unclosed rest name) : Unclosed (lexeme :: rest) name := by
  obtain @⟨front, rest, segments, _, opening, hfront, hname, hopening, hnever⟩ := h
  have hsingle : Groups (lexeme :: front) (.single lexeme :: segments) := by
    refine .single ?_ hfront
    intro hkind next hnext
    cases front with
    | nil => cases hnext
    | cons first front => exact halone hkind next hnext
  exact .intro hsingle hname hopening hnever

theorem Unclosed.call {opening later : Lexeme} (hname : name.kind = .identifier) (hopening : opening.kind = .opening)
    (hclosing : closing.kind = .closing) (hbalanced : Text.IsBalanced (inner.flatMap Lexeme.text))
    (h : Unclosed rest later) : Unclosed (name :: opening :: (inner ++ closing :: rest)) later := by
  obtain @⟨front, rest, segments, _, start, hfront, hlater, hstart, hnever⟩ := h
  have hcall := Unclosed.intro (.call hname hopening hclosing hbalanced hfront) hlater hstart hnever
  simpa using hcall

theorem groups_or_unclosed (lexemes : List Lexeme) :
    (∃ segments, Groups lexemes segments) ∨ ∃ name, Unclosed lexemes name := by
  -- On the length, since a call is taken with everything up to its parenthesis.
  induction hlength : lexemes.length using Nat.strongRecOn generalizing lexemes with
  | ind n ih =>
    cases lexemes with
    | nil => exact .inl ⟨[], .nil⟩
    | cons lexeme rest =>
      rw [List.length_cons] at hlength
      cases hopens : opensCall lexeme rest with
      | false =>
        have halone := opensCall_eq_false_iff.1 hopens
        rcases ih rest.length (by omega) rest rfl with ⟨segments, hgroups⟩ | ⟨name, hunclosed⟩
        · exact .inl ⟨_, .single halone hgroups⟩
        · exact .inr ⟨name, hunclosed.single halone⟩
      | true =>
        obtain ⟨hname, opening, inside, rfl, hopening⟩ := opensCall_iff.1 hopens
        by_cases hnever : NeverCloses inside
        · exact .inr ⟨lexeme, .intro .nil hname hopening hnever⟩
        · simp only [NeverCloses, Classical.not_forall, Classical.not_not] at hnever
          obtain ⟨inner, closing, more, rfl, hclosing, hbalanced⟩ := hnever
          simp only [List.length_cons, List.length_append] at hlength
          rcases ih more.length (by omega) more rfl with ⟨segments, hgroups⟩ | ⟨name, hunclosed⟩
          · exact .inl ⟨_, .call hname hopening hclosing hbalanced hgroups⟩
          · exact .inr ⟨name, hunclosed.call hname hopening hclosing hbalanced⟩

theorem groups_of_group (hfits : ∀ lexeme ∈ lexemes, lexeme.kind.Fits lexeme.text)
    (h : group none lexemes = .ok segments) : Groups lexemes segments := by
  rcases groups_or_unclosed lexemes with ⟨others, hgroups⟩ | ⟨name, hunclosed⟩
  · rw [group_of_groups hfits hgroups] at h
    exact Except.ok.inj h ▸ hgroups
  · rw [group_of_unclosed hfits hunclosed] at h
    cases h

theorem Groups.not_unclosed (hfits : ∀ lexeme ∈ lexemes, lexeme.kind.Fits lexeme.text) (h : Groups lexemes segments) :
    ¬Unclosed lexemes name := by
  intro hunclosed
  have hgroup := group_of_groups hfits h
  rw [group_of_unclosed hfits hunclosed] at hgroup
  cases hgroup

theorem Groups.fits (hfits : ∀ lexeme ∈ lexemes, lexeme.kind.Fits lexeme.text) (h : Groups lexemes segments) :
    ∀ segment ∈ segments, segment.Fits := by
  induction h with
  | nil => simp
  | single _ _ ih =>
    obtain ⟨hlexeme, hrest⟩ := List.forall_mem_cons.1 hfits
    exact List.forall_mem_cons.2 ⟨hlexeme, ih hrest⟩
  | @call name opening closing inner rest segments hname hopening hclosing hbalanced _ ih =>
    simp only [List.forall_mem_cons, List.forall_mem_append] at hfits
    obtain ⟨hnameFits, hopeningFits, -, hclosingFits, hrest⟩ := hfits
    rw [hname] at hnameFits
    rw [hopening] at hopeningFits
    rw [hclosing] at hclosingFits
    refine List.forall_mem_cons.2 ⟨⟨hnameFits, inner.flatMap Lexeme.text, hbalanced, ?_⟩, ih hrest⟩
    simp [hopeningFits.opening, hclosingFits.closing]

theorem Groups.flatMap_text (h : Groups lexemes segments) :
    segments.flatMap Segment.text = lexemes.flatMap Lexeme.text := by
  induction h with
  | nil => rfl
  | single _ _ ih => rw [List.flatMap_cons, List.flatMap_cons, ih, Segment.text]
  | call _ _ _ _ _ ih => simp [Segment.text, ih]

theorem Groups.consecutive {position : Nat} (h : Groups lexemes segments)
    (hlexemes : Consecutive Lexeme.start Lexeme.text position lexemes) :
    Consecutive Segment.start Segment.text position segments := by
  induction h generalizing position with
  | nil => trivial
  | single _ _ ih => exact ⟨hlexemes.1, ih hlexemes.2⟩
  | @call name opening closing inner rest segments _ _ _ _ _ ih =>
    have hsplit : name :: opening :: (inner ++ closing :: rest) =
        (name :: (opening :: inner ++ [closing])) ++ rest := by simp
    rw [hsplit, Consecutive.append_iff] at hlexemes
    exact ⟨hlexemes.1.1, ih hlexemes.2⟩

end Screener.Segment
