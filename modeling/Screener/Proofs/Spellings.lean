import Mathlib.Data.Bool.AllAny
import Screener.Proofs.Escapes
import Screener.Proofs.Numerals

namespace Screener

namespace Json

def IsGap (text : Text) : Prop := ∀ c ∈ text, isSpace c = true

theorem isGap_nil : IsGap [] := nofun

inductive Phrase
  | value (value : RawJson)
  | items (items : List RawJson)
  | members (members : List (RawText × RawJson))

inductive SpellsName : Text → RawText → Prop
  | mk {spelling before after : Text} {name : RawText} : SpellsText spelling name → IsGap before → IsGap after →
      SpellsName ('"' :: (spelling ++ '"' :: (before ++ ':' :: after))) name

inductive Spells : Nat → Text → Phrase → Prop
  | scalar {depth : Nat} {spelling : Text} {value : RawJson} : SpellsScalar spelling value →
      Spells depth spelling (.value value)
  | text {depth : Nat} {spelling : Text} {text : RawText} : SpellsText spelling text →
      Spells depth ('"' :: (spelling ++ ['"'])) (.value (.str text))
  | noItems {depth : Nat} {gap : Text} : IsGap gap → Spells (depth + 1) ('[' :: (gap ++ [']'])) (.value (.arr []))
  | arr {depth : Nat} {gap spelling : Text} {items : List RawJson} : IsGap gap → Spells depth spelling (.items items) →
      Spells (depth + 1) ('[' :: (gap ++ spelling)) (.value (.arr items))
  | noMembers {depth : Nat} {gap : Text} : IsGap gap →
      Spells (depth + 1) ('\x7b' :: (gap ++ ['\x7d'])) (.value (.obj []))
  | obj {depth : Nat} {gap spelling : Text} {members : List (RawText × RawJson)} : IsGap gap →
      Spells depth spelling (.members members) →
      Spells (depth + 1) ('\x7b' :: (gap ++ spelling)) (.value (.obj (Entries.ofList members)))
  | lastItem {depth : Nat} {spelling gap : Text} {item : RawJson} : Spells depth spelling (.value item) → IsGap gap →
      Spells depth (spelling ++ (gap ++ [']'])) (.items [item])
  | item {depth : Nat} {spelling before after more : Text} {item : RawJson} {items : List RawJson} :
      Spells depth spelling (.value item) → IsGap before → IsGap after → Spells depth more (.items items) →
      Spells depth (spelling ++ (before ++ ',' :: (after ++ more))) (.items (item :: items))
  | lastMember {depth : Nat} {label spelling gap : Text} {name : RawText} {value : RawJson} : SpellsName label name →
      Spells depth spelling (.value value) → IsGap gap →
      Spells depth (label ++ (spelling ++ (gap ++ ['\x7d']))) (.members [(name, value)])
  | member {depth : Nat} {label spelling before after more : Text} {name : RawText} {value : RawJson}
      {members : List (RawText × RawJson)} : SpellsName label name → Spells depth spelling (.value value) →
      IsGap before → IsGap after → Spells depth more (.members members) →
      Spells depth (label ++ (spelling ++ (before ++ ',' :: (after ++ more)))) (.members ((name, value) :: members))

def IsDocument (levels : Nat) (text : Text) (value : RawJson) : Prop :=
  ∃ before spelling after, IsGap before ∧ IsGap after ∧ text = before ++ (spelling ++ after) ∧
    Spells levels spelling (.value value)

variable {depth fuel : Nat} {opened : List Container} {text gap before after label spelling more rest : Text}
  {name : RawText} {value : RawJson} {phrase : Phrase}

theorem skipSpace_append (hgap : IsGap gap) (rest : Text) : skipSpace (gap ++ rest) = skipSpace rest :=
  List.dropWhile_append_of_pos hgap

theorem skipSpace_cons {c : Char} (h : isSpace c = false) (rest : Text) : skipSpace (c :: rest) = c :: rest :=
  List.dropWhile_cons_of_neg (by simp [h])

theorem skipSpace_gap {c : Char} (hgap : IsGap gap) (hc : isSpace c = false) (rest : Text) :
    skipSpace (gap ++ c :: rest) = c :: rest := by
  rw [skipSpace_append hgap, skipSpace_cons hc]

theorem exists_gap (text : Text) : ∃ gap, IsGap gap ∧ text = gap ++ skipSpace text :=
  ⟨text.takeWhile isSpace, List.all_eq_true.1 List.all_takeWhile, List.takeWhile_append_dropWhile.symm⟩

def Starts (text : Text) : Prop := ∃ c more, text = c :: more ∧ isSpace c = false ∧ c ≠ ']' ∧ c ≠ '\x7d'

theorem Starts.append (h : Starts text) (rest : Text) : Starts (text ++ rest) := by
  obtain ⟨c, more, rfl, hc⟩ := h
  exact ⟨c, more ++ rest, rfl, hc⟩

theorem Starts.skipSpace (h : Starts text) (hgap : IsGap gap) : skipSpace (gap ++ text) = text := by
  obtain ⟨c, more, rfl, hc, -⟩ := h
  exact skipSpace_gap hgap hc more

theorem Starts.ne_cons {c : Char} (h : Starts text) (hc : c = ']' ∨ c = '\x7d') (more : Text) : text ≠ c :: more := by
  obtain ⟨d, _, rfl, -, hbracket, hbrace⟩ := h
  rintro ⟨⟩
  exact hc.elim hbracket hbrace

def StartsScalar (text : Text) : Prop :=
  ∃ c more, text = c :: more ∧ (c.isDigit = true ∨ c ∈ ("ntfNI-" : Text))

theorem startsScalar_number {negative : Bool} (h : ∃ c more, spelling = c :: more ∧ c.isDigit = true) :
    StartsScalar (signText negative ++ spelling) := by
  obtain ⟨c, more, rfl, hc⟩ := h
  cases negative with
  | true => exact ⟨'-', c :: more, rfl, .inr (by decide)⟩
  | false => exact ⟨c, more, rfl, .inl hc⟩

theorem SpellsScalar.startsScalar (h : SpellsScalar spelling value) : StartsScalar spelling := by
  cases h with
  | word hword =>
    simp only [words, List.mem_cons, Prod.mk.injEq, List.not_mem_nil, or_false] at hword
    obtain ⟨rfl, -⟩ | ⟨rfl, -⟩ | ⟨rfl, -⟩ | ⟨rfl, -⟩ | ⟨rfl, -⟩ | ⟨rfl, -⟩ := hword <;>
      exact ⟨_, _, rfl, .inr (by decide)⟩
  | number hnumber => exact startsScalar_number hnumber.exists_cons

theorem IsLongNumber.startsScalar {digits : Nat} (h : IsLongNumber text digits) : StartsScalar text := by
  cases h with
  | mk hwhole =>
    obtain ⟨c, more, rfl, hc⟩ := hwhole.1.exists_cons
    exact startsScalar_number ⟨c, _, rfl, hc⟩

theorem StartsScalar.ne_cons (h : StartsScalar text) {d : Char} (hdigit : d.isDigit = false)
    (hletter : d ∉ ("ntfNI-" : Text)) (more : Text) : text ≠ d :: more := by
  obtain ⟨c, _, rfl, hc⟩ := h
  rintro ⟨⟩
  exact hc.elim (fun h => by cases hdigit.symm.trans h) hletter

theorem StartsScalar.starts (h : StartsScalar text) : Starts text := by
  have hne := @h.ne_cons
  obtain ⟨c, more, rfl, -⟩ := h
  have hother {d : Char} (hdigit : d.isDigit = false) (hletter : d ∉ ("ntfNI-" : Text)) : c ≠ d := by
    rintro rfl
    exact hne hdigit hletter more rfl
  refine ⟨c, more, rfl, ?_, hother rfl (by decide), hother rfl (by decide)⟩
  simp only [isSpace, Bool.or_eq_false_iff, decide_eq_false_iff_not]
  exact ⟨⟨⟨hother rfl (by decide), hother rfl (by decide)⟩, hother rfl (by decide)⟩, hother rfl (by decide)⟩

theorem readValue_scalar (h : StartsScalar text) (fuel depth : Nat) (opened : List Container) :
    readValue (fuel + 1) depth opened text = readScalar text := by
  rw [readValue]
  · exact fun rest => h.ne_cons rfl (by decide) rest
  · exact fun rest => h.ne_cons rfl (by decide) rest
  · exact fun rest => h.ne_cons rfl (by decide) rest

theorem StartsScalar.append (h : StartsScalar text) (rest : Text) : StartsScalar (text ++ rest) := by
  obtain ⟨c, more, rfl, hc⟩ := h
  exact ⟨c, more ++ rest, rfl, hc⟩

theorem starts_cons {c : Char} (hspace : isSpace c = false) (hbracket : c ≠ ']') (hbrace : c ≠ '\x7d') (more : Text) :
    Starts (c :: more) := ⟨c, more, rfl, hspace, hbracket, hbrace⟩

theorem SpellsName.starts (h : SpellsName label name) : Starts label := by
  cases h
  exact starts_cons (by decide) (by decide) (by decide) _

theorem Spells.starts (h : Spells depth spelling phrase) : Starts spelling := by
  induction h with
  | scalar h => exact h.startsScalar.starts
  | lastItem _ _ ih => exact ih.append _
  | item _ _ _ _ ih => exact ih.append _
  | lastMember hname => exact hname.starts.append _
  | member hname => exact hname.starts.append _
  | _ => exact starts_cons (by decide) (by decide) (by decide) _

def EndsValue (rest : Text) : Prop := ∀ c ∈ rest.head?, c ∈ (" \t\n\r,]\x7d" : Text)

theorem mem_of_isSpace {c : Char} (h : isSpace c = true) : c ∈ (" \t\n\r,]\x7d" : Text) := by
  simp only [isSpace, Bool.or_eq_true, decide_eq_true_eq] at h
  obtain ((rfl | rfl) | rfl) | rfl := h <;> decide

theorem endsValue_gap (hgap : IsGap gap) (hrest : EndsValue rest) : EndsValue (gap ++ rest) := by
  cases gap with
  | nil => exact hrest
  | cons d gap => exact fun e he => Option.some.inj he ▸ mem_of_isSpace (hgap d List.mem_cons_self)

theorem endsValue_nil : EndsValue [] := nofun

theorem endsValue_cons {c : Char} (hc : c ∈ (" \t\n\r,]\x7d" : Text)) (rest : Text) : EndsValue (c :: rest) :=
  fun _ hd => Option.some.inj hd ▸ hc

theorem endsValue_gap_cons {c : Char} (hgap : IsGap gap) (hc : c ∈ (" \t\n\r,]\x7d" : Text)) (rest : Text) :
    EndsValue (gap ++ c :: rest) := endsValue_gap hgap (endsValue_cons hc rest)

theorem EndsValue.endsNumber (h : EndsValue rest) : EndsNumber rest := by
  have hother : ∀ c ∈ (" \t\n\r,]\x7d" : Text), c.isDigit = false ∧ c ≠ '.' ∧ c ≠ 'e' ∧ c ≠ 'E' :=
    List.all_iff_forall_prop.1 (by decide)
  refine ⟨fun c hc => (hother c (h c hc)).1, ?_⟩
  rintro spelling fraction power more hscale rfl
  cases hscale with
  | fraction | both => exact (hother _ (h _ rfl)).2.1 rfl
  | power hpower =>
    cases hpower with
    | plain hletter | plus hletter | minus hletter =>
      obtain ⟨-, -, hlower, hupper⟩ := hother _ (h _ rfl)
      exact hletter.elim hlower hupper

theorem readValue_array (h : Starts text) (hgap : IsGap gap) :
    readValue (fuel + 1) (depth + 1) opened ('[' :: (gap ++ text)) =
      (readItems fuel depth (.array :: opened) text).map fun (items, rest) => (.arr items, rest) := by
  rw [readValue.eq_5, h.skipSpace hgap]
  · cases readItems fuel depth (.array :: opened) text <;> rfl
  · rw [h.skipSpace hgap]
    exact h.ne_cons (.inl rfl)

theorem readValue_object (h : Starts text) (hgap : IsGap gap) :
    readValue (fuel + 1) (depth + 1) opened ('\x7b' :: (gap ++ text)) =
      (readMembers fuel depth (.object :: opened) text).map fun (members, rest) =>
        (.obj (Entries.ofList members), rest) := by
  rw [readValue.eq_8, h.skipSpace hgap]
  · cases readMembers fuel depth (.object :: opened) text <;> rfl
  · rw [h.skipSpace hgap]
    exact h.ne_cons (.inr rfl)

theorem readItems_last (hread : readValue fuel depth opened text = .ok (value, gap ++ ']' :: rest))
    (hgap : IsGap gap) : readItems (fuel + 1) depth opened text = .ok ([value], rest) := by
  rw [readItems, hread]
  conv_lhs => simp only [bind, Except.bind, skipSpace_gap (c := ']') hgap rfl]
  rfl

theorem readItems_more (hread : readValue fuel depth opened text = .ok (value, before ++ ',' :: (after ++ more)))
    (hbefore : IsGap before) (hafter : IsGap after) (hmore : Starts more) :
    readItems (fuel + 1) depth opened text =
      (readItems fuel depth opened more).map fun (items, rest) => (value :: items, rest) := by
  rw [readItems, hread]
  conv_lhs =>
    simp only [bind, Except.bind, skipSpace_gap (c := ',') hbefore rfl, hmore.skipSpace hafter]
  cases readItems fuel depth opened more <;> rfl

def readNamed (fuel depth : Nat) (opened : List Container) (name : RawText) (text : Text) :
    Outcome (List (RawText × RawJson) × Text) := do
  let (value, rest) ← readValue fuel depth opened text
  match skipSpace rest with
  | '\x7d' :: rest => return ([(name, value)], rest)
  | ',' :: rest =>
    let (members, rest) ← readMembers fuel depth opened (skipSpace rest)
    return ((name, value) :: members, rest)
  | _ => .error .malformed

theorem readMembers_quote (fuel depth : Nat) (opened : List Container) (text : Text) :
    readMembers (fuel + 1) depth opened ('"' :: text) = (do
      let (name, rest) ← readText text
      match skipSpace rest with
      | ':' :: rest => readNamed fuel depth opened name (skipSpace rest)
      | _ => .error .malformed) := by
  rw [readMembers]
  rfl

theorem readMembers_name (h : SpellsName label name) (hstarts : Starts text) :
    readMembers (fuel + 1) depth opened (label ++ text) = readNamed fuel depth opened name text := by
  cases h with
  | @mk spelling before after _ hname hbefore hafter =>
    have hcolon := skipSpace_gap (c := ':') hbefore rfl (after ++ text)
    simp only [List.cons_append, List.append_assoc]
    rw [readMembers_quote, hname.readText]
    simp only [bind, Except.bind, hcolon, hstarts.skipSpace hafter]

theorem readMembers_last (hname : SpellsName label name) (hstarts : Starts text)
    (hread : readValue fuel depth opened text = .ok (value, gap ++ '\x7d' :: rest)) (hgap : IsGap gap) :
    readMembers (fuel + 1) depth opened (label ++ text) = .ok ([(name, value)], rest) := by
  rw [readMembers_name hname hstarts, readNamed, hread]
  conv_lhs => simp only [bind, Except.bind, skipSpace_gap (c := '\x7d') hgap rfl]
  rfl

theorem readMembers_more (hname : SpellsName label name) (hstarts : Starts text)
    (hread : readValue fuel depth opened text = .ok (value, before ++ ',' :: (after ++ more)))
    (hbefore : IsGap before) (hafter : IsGap after) (hmore : Starts more) :
    readMembers (fuel + 1) depth opened (label ++ text) =
      (readMembers fuel depth opened more).map fun (members, rest) => ((name, value) :: members, rest) := by
  rw [readMembers_name hname hstarts, readNamed, hread]
  conv_lhs =>
    simp only [bind, Except.bind, skipSpace_gap (c := ',') hbefore rfl, hmore.skipSpace hafter]
  cases readMembers fuel depth opened more <;> rfl

def Phrase.IsRead (fuel depth : Nat) (opened : List Container) (text rest : Text) : Phrase → Prop
  | .value read => EndsValue rest → readValue fuel depth opened text = .ok (read, rest)
  | .items read => readItems fuel depth opened text = .ok (read, rest)
  | .members read => readMembers fuel depth opened text = .ok (read, rest)

/-- Two steps a character are enough to read what is spelled. -/
theorem Spells.isRead (h : Spells depth spelling phrase) (hfuel : 2 * spelling.length ≤ fuel)
    (opened : List Container) (rest : Text) : phrase.IsRead fuel depth opened (spelling ++ rest) rest := by
  induction h generalizing fuel opened rest with
  | @scalar depth spelling value h =>
    refine fun hrest => ?_
    obtain ⟨fuel, rfl⟩ : ∃ n, fuel = n + 1 := by
      obtain ⟨c, more, rfl, -⟩ := h.startsScalar
      exact ⟨fuel - 1, by simp at hfuel; omega⟩
    rw [readValue_scalar (h.startsScalar.append rest), h.readScalar hrest.endsNumber]
  | @text depth spelling text h =>
    refine fun _ => ?_
    obtain ⟨fuel, rfl⟩ : ∃ n, fuel = n + 1 := ⟨fuel - 1, by simp at hfuel; omega⟩
    rw [List.cons_append, List.append_assoc, List.cons_append, List.nil_append, readValue, h.readText]
    rfl
  | @noItems depth gap hgap =>
    refine fun _ => ?_
    obtain ⟨fuel, rfl⟩ : ∃ n, fuel = n + 1 := ⟨fuel - 1, by simp at hfuel; omega⟩
    rw [List.cons_append, List.append_assoc]
    exact readValue.eq_4 opened fuel _ (depth + 1) rest (by simp) (skipSpace_gap hgap rfl rest)
  | @noMembers depth gap hgap =>
    refine fun _ => ?_
    obtain ⟨fuel, rfl⟩ : ∃ n, fuel = n + 1 := ⟨fuel - 1, by simp at hfuel; omega⟩
    rw [List.cons_append, List.append_assoc]
    exact readValue.eq_7 opened fuel _ (depth + 1) rest (by simp) (skipSpace_gap hgap rfl rest)
  | @arr depth gap spelling items hgap h ih =>
    refine fun _ => ?_
    simp only [List.length_cons, List.length_append] at hfuel
    obtain ⟨fuel, rfl⟩ : ∃ n, fuel = n + 1 := ⟨fuel - 1, by omega⟩
    have hitems : readItems fuel depth (.array :: opened) (spelling ++ rest) = .ok (items, rest) :=
      @ih fuel (by omega) (.array :: opened) rest
    rw [List.cons_append, List.append_assoc, readValue_array (h.starts.append rest) hgap, hitems]
    rfl
  | @obj depth gap spelling members hgap h ih =>
    refine fun _ => ?_
    simp only [List.length_cons, List.length_append] at hfuel
    obtain ⟨fuel, rfl⟩ : ∃ n, fuel = n + 1 := ⟨fuel - 1, by omega⟩
    have hmembers : readMembers fuel depth (.object :: opened) (spelling ++ rest) = .ok (members, rest) :=
      @ih fuel (by omega) (.object :: opened) rest
    rw [List.cons_append, List.append_assoc, readValue_object (h.starts.append rest) hgap, hmembers]
    rfl
  | @lastItem depth spelling gap item h hgap ih =>
    simp only [List.length_append, List.length_cons, List.length_nil] at hfuel
    obtain ⟨fuel, rfl⟩ : ∃ n, fuel = n + 1 := ⟨fuel - 1, by omega⟩
    have hitem := @ih fuel (by omega) opened _ (endsValue_gap_cons (c := ']') hgap (by decide) rest)
    simp only [Phrase.IsRead, List.append_assoc, List.cons_append, List.nil_append]
    exact readItems_last hitem hgap
  | @item depth spelling before after more item items h hbefore hafter hmore ih ihmore =>
    simp only [List.length_append, List.length_cons] at hfuel
    obtain ⟨fuel, rfl⟩ : ∃ n, fuel = n + 1 := ⟨fuel - 1, by omega⟩
    have hitem := @ih fuel (by omega) opened _ (endsValue_gap_cons (c := ',') hbefore (by decide) (after ++ (more ++ rest)))
    have hitems : readItems fuel depth opened (more ++ rest) = .ok (items, rest) := @ihmore fuel (by omega) opened rest
    simp only [Phrase.IsRead, List.append_assoc, List.cons_append]
    rw [readItems_more hitem hbefore hafter (hmore.starts.append rest), hitems]
    rfl
  | @lastMember depth label spelling gap name value hname h hgap ih =>
    simp only [List.length_append, List.length_cons, List.length_nil] at hfuel
    obtain ⟨fuel, rfl⟩ : ∃ n, fuel = n + 1 := ⟨fuel - 1, by omega⟩
    have hvalue := @ih fuel (by omega) opened _ (endsValue_gap_cons (c := '\x7d') hgap (by decide) rest)
    simp only [Phrase.IsRead, List.append_assoc, List.cons_append, List.nil_append]
    exact readMembers_last hname (h.starts.append _) hvalue hgap
  | @member depth label spelling before after more name value members hname h hbefore hafter hmore ih ihmore =>
    simp only [List.length_append, List.length_cons] at hfuel
    obtain ⟨fuel, rfl⟩ : ∃ n, fuel = n + 1 := ⟨fuel - 1, by omega⟩
    have hvalue := @ih fuel (by omega) opened _ (endsValue_gap_cons (c := ',') hbefore (by decide) (after ++ (more ++ rest)))
    have hmembers : readMembers fuel depth opened (more ++ rest) = .ok (members, rest) := @ihmore fuel (by omega) opened rest
    simp only [Phrase.IsRead, List.append_assoc, List.cons_append]
    rw [readMembers_more hname (h.starts.append _) hvalue hbefore hafter (hmore.starts.append rest), hmembers]
    rfl

end Json

end Screener
