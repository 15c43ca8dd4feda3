import Screener.Proofs.Layout
import Screener.Proofs.LongestMatch

namespace Screener

theorem Consecutive.start_eq {α : Type} {start : α → Nat} {text : α → Text} {position : Nat} {front back : List α}
    {piece : α} (h : Consecutive start text position (front ++ piece :: back)) :
    start piece = position + (front.flatMap text).length :=
  (append_iff.1 h).2.1

namespace Lexeme

inductive Tiles : Nat → List Lexeme → Nat → Prop
  | nil {position : Nat} : Tiles position [] position
  | cons {lexeme : Lexeme} {rest : List Lexeme} {stop : Nat} : Tiles lexeme.stop rest stop →
      Tiles lexeme.start (lexeme :: rest) stop

def shift (offset : Nat) (lexeme : Lexeme) : Lexeme := { lexeme with start := lexeme.start + offset }

/-- A place where a lexeme starts or stops.  The start of a text is one, also if there are no lexemes. -/
def IsBoundary (text : Text) (position : Nat) : Prop :=
  position = 0 ∨ ∃ lexeme ∈ ofText text, position = lexeme.start ∨ position = lexeme.stop

instance (text : Text) (position : Nat) : Decidable (IsBoundary text position) :=
  inferInstanceAs (Decidable (_ ∨ _))

variable {kind : Kind} {word next text : Text} {lexeme : Lexeme} {front back lexemes : List Lexeme}
  {start position : Nat}

theorem tiles_of_consecutive (h : Consecutive Lexeme.start Lexeme.text position lexemes) :
    Tiles position lexemes (position + (lexemes.flatMap Lexeme.text).length) := by
  induction lexemes generalizing position with
  | nil => exact .nil
  | cons lexeme rest ih =>
    obtain ⟨rfl, hrest⟩ := h
    rw [List.flatMap_cons, List.length_append, ← Nat.add_assoc]
    exact .cons (ih hrest)

theorem consecutive_ofText (text : Text) : Consecutive Lexeme.start Lexeme.text 0 (ofText text) :=
  consecutive_scan 0 text

theorem flatMap_text_ofText (text : Text) : (ofText text).flatMap Lexeme.text = text :=
  Formula.flatMap_text_scan 0 text

theorem tiles_ofText (text : Text) : Tiles 0 (ofText text) text.length := by
  have htiles := tiles_of_consecutive (consecutive_ofText text)
  rwa [flatMap_text_ofText, Nat.zero_add] at htiles

theorem start_of_ofText_eq (h : ofText text = front ++ lexeme :: back) :
    lexeme.start = (front.flatMap Lexeme.text).length := by
  have hconsecutive := consecutive_ofText text
  rw [h] at hconsecutive
  rw [hconsecutive.start_eq, Nat.zero_add]

theorem stop_of_ofText_eq (h : ofText text = front ++ lexeme :: back) :
    lexeme.stop = ((front ++ [lexeme]).flatMap Lexeme.text).length := by
  rw [List.flatMap_append, List.flatMap_singleton, List.length_append, stop, start_of_ofText_eq h]

theorem text_eq_extract (h : lexeme ∈ ofText text) : lexeme.text = text.extract lexeme.start lexeme.stop := by
  obtain ⟨front, back, hsplit⟩ := List.append_of_mem h
  have htext := flatMap_text_ofText text
  rw [hsplit, List.flatMap_append, List.flatMap_cons] at htext
  rw [List.extract_eq_take_drop, stop, start_of_ofText_eq hsplit, ← htext, List.drop_left, Nat.add_sub_cancel_left,
    List.take_left]

/-- The first of the lexemes are the lexemes of the text that they take up: the longest word at the start of a text is
also the longest at the start of a part that has it in front. -/
theorem LongestMatch.split (h : LongestMatch start text (front ++ back)) :
    ∃ before after, text = before ++ after ∧ LongestMatch start before front ∧
      LongestMatch (start + before.length) after back := by
  induction front generalizing start text with
  | nil => exact ⟨[], text, rfl, .nil, h⟩
  | cons lexeme front ih =>
    cases h with
    | @word _ kind word rest _ hword hlongest hrest =>
      obtain ⟨before, after, rfl, hbefore, hafter⟩ := ih hrest
      rw [← List.append_assoc] at hlongest ⊢
      refine ⟨word ++ before, after, rfl, .word hword ?_ hbefore, ?_⟩
      · intro other longer hlonger hfront
        exact hlongest other longer hlonger (hfront.trans (List.prefix_append _ _))
      · rwa [List.length_append, ← Nat.add_assoc]
    | @unknown _ c rest _ hnone hrest =>
      obtain ⟨before, after, rfl, hbefore, hafter⟩ := ih hrest
      refine ⟨c :: before, after, rfl, .unknown ?_ hbefore, ?_⟩
      · intro kind word hword hfront
        exact hnone kind word hword (hfront.trans (List.prefix_append (c :: before) after))
      · rwa [List.length_cons, Nat.add_comm before.length, ← Nat.add_assoc]

theorem scan_shift (skip start offset : Nat) (text : Text) :
    scan skip (start + offset) text = (scan skip start text).map (shift offset) := by
  induction text generalizing skip start with
  | nil => cases skip <;> rfl
  | cons c rest ih =>
    cases skip with
    | zero => rw [scan_cons, scan_cons, Nat.add_right_comm, ih, List.map_cons, shift]
    | succ skip => rw [scan, scan, Nat.add_right_comm, ih]

theorem scan_eq_map_shift (start : Nat) (text : Text) : scan 0 start text = (ofText text).map (shift start) := by
  rw [ofText, ← scan_shift, Nat.zero_add]

theorem exists_append_of_ofText (h : ofText text = front ++ back) :
    ∃ before after, text = before ++ after ∧ front = ofText before ∧
      back = (ofText after).map (shift before.length) := by
  have hmatch := longestMatch_scan 0 text
  rw [← ofText, h] at hmatch
  obtain ⟨before, after, htext, hbefore, hafter⟩ := hmatch.split
  refine ⟨before, after, htext, longestMatch_iff.1 hbefore, ?_⟩
  rw [longestMatch_iff.1 hafter, scan_eq_map_shift, Nat.zero_add]

theorem isBoundary_iff_append :
    IsBoundary text position ↔
      ∃ front back, ofText text = front ++ back ∧ (front.flatMap Lexeme.text).length = position := by
  constructor
  · rintro (rfl | ⟨lexeme, hmem, hposition⟩)
    · exact ⟨[], ofText text, rfl, rfl⟩
    · obtain ⟨front, back, hsplit⟩ := List.append_of_mem hmem
      rcases hposition with rfl | rfl
      · exact ⟨front, lexeme :: back, hsplit, (start_of_ofText_eq hsplit).symm⟩
      · refine ⟨front ++ [lexeme], back, ?_, (stop_of_ofText_eq hsplit).symm⟩
        rw [hsplit, List.append_assoc, List.singleton_append]
  · rintro ⟨front, back, hsplit, rfl⟩
    rcases List.eq_nil_or_concat' front with rfl | ⟨front, lexeme, rfl⟩
    · exact .inl rfl
    · rw [List.append_assoc, List.singleton_append] at hsplit
      exact .inr ⟨lexeme, hsplit ▸ List.mem_append_cons_self, .inr (stop_of_ofText_eq hsplit).symm⟩

theorem isBoundary_iff_cut :
    IsBoundary text position ↔ position ≤ text.length ∧
      ofText text = ofText (text.take position) ++ (ofText (text.drop position)).map (shift position) := by
  rw [isBoundary_iff_append]
  constructor
  · rintro ⟨front, back, hsplit, rfl⟩
    obtain ⟨before, after, rfl, rfl, rfl⟩ := exists_append_of_ofText hsplit
    rw [flatMap_text_ofText, List.take_left, List.drop_left, List.length_append]
    exact ⟨Nat.le_add_right _ _, hsplit⟩
  · rintro ⟨hle, hcut⟩
    refine ⟨_, _, hcut, ?_⟩
    rw [flatMap_text_ofText, List.length_take, Nat.min_eq_left hle]

theorem IsWord.append (hkind : kind = .space ∨ kind = .identifier) (h : IsWord kind word) (hnext : IsWord kind next) :
    IsWord kind (word ++ next) := by
  rcases hkind with rfl | rfl
  · cases h with
    | space hne hblank =>
      cases hnext with
      | space _ hmore =>
        refine .space (List.append_ne_nil_of_left_ne_nil hne next) ?_
        rw [Text.blank, List.all_append]
        exact Bool.and_eq_true_iff.2 ⟨hblank, hmore⟩
  · cases h with
    | identifier hc hrest =>
      cases hnext with
      | identifier hd hmore =>
        refine .identifier hc (List.forall_mem_append.2 ⟨hrest, List.forall_mem_cons.2 ⟨?_, hmore⟩⟩)
        rw [isIdentifierChar, hd, Bool.true_or]

theorem LongestMatch.head (h : LongestMatch start text (lexeme :: lexemes)) (hkind : lexeme.kind ≠ .unknown) :
    IsWord lexeme.kind lexeme.text ∧ lexeme.text <+: text := by
  cases h with
  | word hword _ _ => exact ⟨hword, List.prefix_append _ _⟩
  | unknown _ _ => exact absurd rfl hkind

theorem LongestMatch.isChain (h : LongestMatch start text lexemes) :
    lexemes.IsChain fun lexeme next => lexeme.kind = next.kind → lexeme.kind ≠ .space ∧ lexeme.kind ≠ .identifier := by
  induction h with
  | nil => exact .nil
  | @word start kind word rest lexemes hword hlongest hrest ih =>
    refine List.isChain_cons.2 ⟨?_, ih⟩
    intro next hnext (hsame : kind = next.kind)
    obtain ⟨lexemes, rfl⟩ := List.head?_eq_some_iff.1 hnext
    refine not_or.1 fun hkind => ?_
    obtain ⟨hword', hfront⟩ := hrest.head (hsame ▸ hword.ne_unknown)
    rw [← hsame] at hword'
    -- Together they would be a longer word of the same kind.
    have hle := hlongest kind _ (hword.append hkind hword') ((List.prefix_append_right_inj word).2 hfront)
    have hpos := List.length_pos_iff.2 hword'.ne_nil
    rw [List.length_append] at hle
    omega
  | unknown _ _ ih => exact List.isChain_cons.2 ⟨by simp, ih⟩

end Lexeme

namespace Segment

variable {text : Text} {segments : List Segment}

theorem groups_of_ofText (h : ofText text = .ok segments) : Groups (Lexeme.ofText text) segments := by
  apply groups_of_group fun _ => Lexeme.fits_of_mem_scan
  rw [ofText] at h
  split at h
  case h_1 hgroup =>
    cases h
    exact hgroup
  case h_2 => cases h

theorem start_of_ofText_eq {front back : List Segment} {segment : Segment}
    (h : ofText text = .ok (front ++ segment :: back)) : segment.start = (front.flatMap Segment.text).length := by
  have hconsecutive := (groups_of_ofText h).consecutive (Lexeme.consecutive_ofText text)
  rw [hconsecutive.start_eq, Nat.zero_add]

end Segment

namespace Lexeme

/-- The lexemes of a text are the text: none is empty, each is the part of the text between where it starts and where
it stops, and they lie side by side from the start of the text to its end.  A text has the lexemes of the two parts
that it is cut into exactly if it is cut where lexemes meet, and no two spaces or identifiers lie side by side.  If all
calls are closed, the segments are the text too, and each starts after those in front of it. -/
theorem ofText_lossless (text : Text) :
    Tiles 0 (ofText text) text.length ∧
      (∀ lexeme ∈ ofText text, lexeme.text ≠ [] ∧ lexeme.text = text.extract lexeme.start lexeme.stop) ∧
      (ofText text).flatMap Lexeme.text = text ∧
      (∀ position, IsBoundary text position ↔ position ≤ text.length ∧
        ofText text = ofText (text.take position) ++ (ofText (text.drop position)).map (shift position)) ∧
      ((ofText text).IsChain fun lexeme next =>
        lexeme.kind = next.kind → lexeme.kind ≠ .space ∧ lexeme.kind ≠ .identifier) ∧
      ∀ segments, Segment.ofText text = .ok segments →
        segments.flatMap Segment.text = text ∧
          ∀ front segment back, segments = front ++ segment :: back →
            segment.start = (front.flatMap Segment.text).length := by
  refine ⟨tiles_ofText text, ?_, flatMap_text_ofText text, fun _ => isBoundary_iff_cut,
    (longestMatch_scan 0 text).isChain, ?_⟩
  · intro lexeme hmem
    exact ⟨(fits_of_mem_scan hmem).ne_nil, text_eq_extract hmem⟩
  · intro segments hsegments
    have htext := (Segment.groups_of_ofText hsegments).flatMap_text.trans (flatMap_text_ofText text)
    refine ⟨htext, ?_⟩
    rintro front segment back rfl
    exact Segment.start_of_ofText_eq hsegments

/-- A cut between two numbers that lie side by side, and a call with a call in it. -/
theorem ofText_lossless_side_by_side :
    let text : Text := "x 5..5>==B(C(1),\t2)"
    IsBoundary text 4 ∧ ofText text = ofText "x 5." ++ (ofText ".5>==B(C(1),\t2)").map (shift 4) ∧
      ∃ segments, Segment.ofText text = .ok segments ∧ segments.length = 7 ∧ segments.flatMap Segment.text = text := by
  intro text
  obtain ⟨-, -, -, hcut, -, hsegments⟩ := ofText_lossless text
  have hboundary : IsBoundary text 4 := by decide
  obtain ⟨segments, hread, hlength⟩ : ∃ segments, Segment.ofText text = .ok segments ∧ segments.length = 7 :=
    ⟨_, rfl, rfl⟩
  exact ⟨hboundary, ((hcut 4).1 hboundary).2, segments, hread, hlength, (hsegments segments hread).1⟩

end Lexeme

end Screener
