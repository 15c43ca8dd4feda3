import Screener.Proofs.Spellings

namespace Screener

namespace Json

inductive Place
  | value
  | items
  | members

def Phrase.place : Phrase → Place
  | .value _ => .value
  | .items _ => .items
  | .members _ => .members

/-- Texts that come to a number that is too long, or to one container more than may be open, after nothing but parts of
a JSON text. -/
inductive Stalls : Place → Nat → List Container → Text → ReadError → Prop
  | longNumber {depth digits : Nat} {opened : List Container} {text : Text} : IsLongNumber text digits →
      Stalls .value depth opened text (.longNumber digits)
  | deepArray {opened : List Container} {rest : Text} : Stalls .value 0 opened ('[' :: rest) (.tooDeep (.array :: opened))
  | deepObject {opened : List Container} {rest : Text} :
      Stalls .value 0 opened ('\x7b' :: rest) (.tooDeep (.object :: opened))
  | arr {depth : Nat} {opened : List Container} {gap rest : Text} {error : ReadError} : IsGap gap →
      Stalls .items depth (.array :: opened) rest error → Stalls .value (depth + 1) opened ('[' :: (gap ++ rest)) error
  | obj {depth : Nat} {opened : List Container} {gap rest : Text} {error : ReadError} : IsGap gap →
      Stalls .members depth (.object :: opened) rest error →
      Stalls .value (depth + 1) opened ('\x7b' :: (gap ++ rest)) error
  | item {depth : Nat} {opened : List Container} {rest : Text} {error : ReadError} :
      Stalls .value depth opened rest error → Stalls .items depth opened rest error
  | laterItem {depth : Nat} {opened : List Container} {spelling before after rest : Text} {item : RawJson}
      {error : ReadError} : Spells depth spelling (.value item) → IsGap before → IsGap after →
      Stalls .items depth opened rest error →
      Stalls .items depth opened (spelling ++ (before ++ ',' :: (after ++ rest))) error
  | member {depth : Nat} {opened : List Container} {label rest : Text} {name : RawText} {error : ReadError} :
      SpellsName label name → Stalls .value depth opened rest error → Stalls .members depth opened (label ++ rest) error
  | laterMember {depth : Nat} {opened : List Container} {label spelling before after rest : Text} {name : RawText}
      {value : RawJson} {error : ReadError} : SpellsName label name → Spells depth spelling (.value value) →
      IsGap before → IsGap after → Stalls .members depth opened rest error →
      Stalls .members depth opened (label ++ (spelling ++ (before ++ ',' :: (after ++ rest)))) error

def StopsReading (levels : Nat) (text : Text) (error : ReadError) : Prop :=
  ∃ gap rest, IsGap gap ∧ text = gap ++ rest ∧ Stalls .value levels [] rest error

def IsIn (levels : Nat) (bytes : Bytes) (p : RawJson → Prop) : Prop :=
  ∃ text value, bytes = Text.encode text ∧ IsDocument levels text value ∧ p value

variable {depth levels fuel : Nat} {opened : List Container} {text rest : Text} {value : RawJson} {place : Place}
  {error : ReadError}

theorem Stalls.starts (h : Stalls place depth opened text error) : Starts text := by
  induction h with
  | longNumber h => exact h.startsScalar.starts
  | item _ ih => exact ih
  | laterItem h => exact h.starts.append _
  | member hname => exact hname.starts.append _
  | laterMember hname => exact hname.starts.append _
  | _ => exact starts_cons (by decide) (by decide) (by decide) _

/-- The containers that are open and the levels that are left add up to the same number throughout. -/
theorem Stalls.length_opened (h : Stalls place depth opened text error) {all : List Container}
    (herror : error = .tooDeep all) : all.length = depth + opened.length + 1 := by
  induction h with
  | longNumber => cases herror
  | deepArray | deepObject =>
    cases herror
    simp
  | arr _ _ ih | obj _ _ ih =>
    rw [ih herror, List.length_cons]
    omega
  | item _ ih | laterItem _ _ _ _ ih | member _ _ ih | laterMember _ _ _ _ _ ih => exact ih herror

def Accounts {α : Type} (phrase : α → Phrase) (place : Place) (depth : Nat) (opened : List Container) (text : Text) :
    Outcome (α × Text) → Prop
  | .ok (read, rest) => ∃ spelling, text = spelling ++ rest ∧ Spells depth spelling (phrase read)
  | .error error => error ≠ .malformed → Stalls place depth opened text error

variable {α β : Type}

theorem accounts_malformed {phrase : α → Phrase} :
    Accounts phrase place depth opened text (.error .malformed : Outcome (α × Text)) := fun h => absurd rfl h

theorem Accounts.bind {phrase : α → Phrase} {wider : β → Phrase} {around : Place} {outside : List Container}
    {whole : Text} {outcome : Outcome (α × Text)} {next : α × Text → Outcome (β × Text)}
    (h : Accounts phrase place depth opened text outcome)
    (hstalls : ∀ {error}, Stalls place depth opened text error → Stalls around levels outside whole error)
    (hnext : ∀ read rest spelling, text = spelling ++ rest → Spells depth spelling (phrase read) →
      Accounts wider around levels outside whole (next (read, rest))) :
    Accounts wider around levels outside whole (outcome >>= next) := by
  cases outcome with
  | ok found =>
    obtain ⟨spelling, hsplit, hspells⟩ := h
    exact hnext found.1 found.2 spelling hsplit hspells
  | error error => exact fun herror => hstalls (h herror)

theorem accounts_readText {wider : β → Phrase} {next : RawText × Text → Outcome (β × Text)}
    (hnext : ∀ read rest spelling, text = spelling ++ '"' :: rest → SpellsText spelling read →
      Accounts wider place depth opened ('"' :: text) (next (read, rest))) :
    Accounts wider place depth opened ('"' :: text) (readText text >>= next) := by
  cases hread : readText text with
  | ok found =>
    obtain ⟨spelling, hsplit, hspells⟩ := readText_eq_ok.1 hread
    exact hnext found.1 found.2 spelling hsplit hspells
  | error error => exact fun h => absurd (eq_malformed_of_readText hread) h

theorem accounts_readScalar (depth : Nat) (opened : List Container) (text : Text) :
    Accounts .value .value depth opened text (readScalar text) := by
  cases hread : readScalar text with
  | ok found =>
    obtain ⟨spelling, rfl, h⟩ := exists_of_readScalar hread
    exact ⟨spelling, rfl, .scalar h⟩
  | error error =>
    cases error with
    | malformed => exact fun h => absurd rfl h
    | longNumber digits => exact fun _ => .longNumber (readScalar_eq_longNumber.1 hread)
    | tooDeep opened => exact absurd hread ne_tooDeep_of_readScalar

structure ReadersAccount (fuel : Nat) : Prop where
  value (depth : Nat) (opened : List Container) (text : Text) :
    Accounts .value .value depth opened text (readValue fuel depth opened text)
  items (depth : Nat) (opened : List Container) (text : Text) :
    Accounts .items .items depth opened text (readItems fuel depth opened text)
  members (depth : Nat) (opened : List Container) (text : Text) :
    Accounts .members .members depth opened text (readMembers fuel depth opened text)

theorem ReadersAccount.value_succ (h : ReadersAccount fuel) (depth : Nat) (opened : List Container) (text : Text) :
    Accounts .value .value depth opened text (readValue (fuel + 1) depth opened text) := by
  unfold readValue
  split
  case h_1 rest =>
    refine accounts_readText fun text rest spelling hsplit hspells => ?_
    exact ⟨'"' :: (spelling ++ ['"']), by simp [hsplit], .text hspells⟩
  case h_2 rest =>
    obtain ⟨gap, hgap, hrest⟩ := exists_gap rest
    split
    case h_1 => exact fun _ => .deepArray
    case h_2 more hdepth hskip =>
      obtain ⟨depth, rfl⟩ := Nat.exists_eq_succ_of_ne_zero hdepth
      exact ⟨'[' :: (gap ++ [']']), by rw [hrest, hskip]; simp, .noItems hgap⟩
    case h_3 depth _ =>
      refine (h.items depth _ _).bind (fun h => by rw [hrest]; exact .arr hgap h) ?_
      intro items more spelling hsplit hspells
      exact ⟨'[' :: (gap ++ spelling), by rw [hrest, hsplit]; simp, .arr hgap hspells⟩
  case h_3 rest =>
    obtain ⟨gap, hgap, hrest⟩ := exists_gap rest
    split
    case h_1 => exact fun _ => .deepObject
    case h_2 more hdepth hskip =>
      obtain ⟨depth, rfl⟩ := Nat.exists_eq_succ_of_ne_zero hdepth
      exact ⟨'\x7b' :: (gap ++ ['\x7d']), by rw [hrest, hskip]; simp, .noMembers hgap⟩
    case h_3 depth _ =>
      refine (h.members depth _ _).bind (fun h => by rw [hrest]; exact .obj hgap h) ?_
      intro members more spelling hsplit hspells
      exact ⟨'\x7b' :: (gap ++ spelling), by rw [hrest, hsplit]; simp, .obj hgap hspells⟩
  case h_4 => exact accounts_readScalar depth opened text

theorem ReadersAccount.items_succ (h : ReadersAccount fuel) (depth : Nat) (opened : List Container) (text : Text) :
    Accounts .items .items depth opened text (readItems (fuel + 1) depth opened text) := by
  rw [readItems]
  refine (h.value depth opened text).bind .item fun item rest spelling hsplit hitem => ?_
  obtain ⟨before, hbefore, hrest⟩ := exists_gap rest
  simp only
  split
  case h_1 more hskip =>
    exact ⟨spelling ++ (before ++ [']']), by rw [hsplit, hrest, hskip]; simp, .lastItem hitem hbefore⟩
  case h_2 more hskip =>
    obtain ⟨after, hafter, hmore⟩ := exists_gap more
    have htext : text = spelling ++ (before ++ ',' :: (after ++ skipSpace more)) := by
      rw [hsplit, hrest, hskip, ← hmore]
    refine (h.items depth opened _).bind (fun h => by rw [htext]; exact .laterItem hitem hbefore hafter h) ?_
    intro items last spelled hlast hitems
    exact ⟨_, by rw [htext, hlast]; simp, .item hitem hbefore hafter hitems⟩
  case h_3 => exact accounts_malformed

theorem ReadersAccount.named (h : ReadersAccount fuel) {label : Text} {name : RawText} (hlabel : SpellsName label name)
    (depth : Nat) (opened : List Container) (text : Text) :
    Accounts .members .members depth opened (label ++ text) (readNamed fuel depth opened name text) := by
  rw [readNamed]
  refine (h.value depth opened text).bind (.member hlabel) fun value rest spelling hsplit hvalue => ?_
  obtain ⟨before, hbefore, hrest⟩ := exists_gap rest
  simp only
  split
  case h_1 more hskip =>
    exact ⟨label ++ (spelling ++ (before ++ ['\x7d'])), by rw [hsplit, hrest, hskip]; simp,
      .lastMember hlabel hvalue hbefore⟩
  case h_2 more hskip =>
    obtain ⟨after, hafter, hmore⟩ := exists_gap more
    have htext : text = spelling ++ (before ++ ',' :: (after ++ skipSpace more)) := by
      rw [hsplit, hrest, hskip, ← hmore]
    refine (h.members depth opened _).bind
      (fun h => by rw [htext]; exact .laterMember hlabel hvalue hbefore hafter h) ?_
    intro members last spelled hlast hmembers
    exact ⟨_, by rw [htext, hlast]; simp, .member hlabel hvalue hbefore hafter hmembers⟩
  case h_3 => exact accounts_malformed

theorem ReadersAccount.members_succ (h : ReadersAccount fuel) (depth : Nat) (opened : List Container) (text : Text) :
    Accounts .members .members depth opened text (readMembers (fuel + 1) depth opened text) := by
  by_cases hquote : ∃ rest, text = '"' :: rest
  · obtain ⟨rest, rfl⟩ := hquote
    rw [readMembers_quote]
    refine accounts_readText fun name rest spelling hsplit hname => ?_
    obtain ⟨before, hbefore, hrest⟩ := exists_gap rest
    simp only
    split
    case h_1 more hcolon =>
      obtain ⟨after, hafter, hmore⟩ := exists_gap more
      have hnamed := h.named (.mk hname hbefore hafter) depth opened (skipSpace more)
      simp only [List.cons_append, List.append_assoc] at hnamed
      rwa [← hmore, ← hcolon, ← hrest, ← hsplit] at hnamed
    case h_2 => exact accounts_malformed
  · rw [readMembers]
    · exact accounts_malformed
    · exact fun rest h => hquote ⟨rest, h⟩

theorem readersAccount (fuel : Nat) : ReadersAccount fuel := by
  induction fuel with
  | zero => refine ⟨?_, ?_, ?_⟩ <;> exact fun _ _ _ h => absurd rfl h
  | succ fuel ih => exact ⟨ih.value_succ, ih.items_succ, ih.members_succ⟩

def Place.IsStalled (fuel depth : Nat) (opened : List Container) (text : Text) (error : ReadError) : Place → Prop
  | .value => 2 * text.length ≤ fuel → readValue fuel depth opened text = .error error
  | .items => 2 * text.length < fuel → readItems fuel depth opened text = .error error
  | .members => 2 * text.length < fuel → readMembers fuel depth opened text = .error error

theorem Stalls.isStalled (h : Stalls place depth opened text error) (fuel : Nat) :
    place.IsStalled fuel depth opened text error := by
  induction h generalizing fuel with
  | @longNumber depth digits opened text h =>
    refine fun hfuel => ?_
    obtain ⟨fuel, rfl⟩ : ∃ n, fuel = n + 1 := by
      obtain ⟨c, more, rfl, -⟩ := h.startsScalar
      exact ⟨fuel - 1, by simp at hfuel; omega⟩
    rw [readValue_scalar h.startsScalar, readScalar_eq_longNumber.2 h]
  | deepArray | deepObject =>
    refine fun hfuel => ?_
    obtain ⟨fuel, rfl⟩ : ∃ n, fuel = n + 1 := ⟨fuel - 1, by simp at hfuel; omega⟩
    rfl
  | @arr depth opened gap rest error hgap h ih =>
    refine fun hfuel => ?_
    simp only [List.length_cons, List.length_append] at hfuel
    obtain ⟨fuel, rfl⟩ : ∃ n, fuel = n + 1 := ⟨fuel - 1, by omega⟩
    have hitems : readItems fuel depth (.array :: opened) rest = .error error := ih fuel (by omega)
    rw [readValue_array h.starts hgap, hitems]
    rfl
  | @obj depth opened gap rest error hgap h ih =>
    refine fun hfuel => ?_
    simp only [List.length_cons, List.length_append] at hfuel
    obtain ⟨fuel, rfl⟩ : ∃ n, fuel = n + 1 := ⟨fuel - 1, by omega⟩
    have hmembers : readMembers fuel depth (.object :: opened) rest = .error error := ih fuel (by omega)
    rw [readValue_object h.starts hgap, hmembers]
    rfl
  | @item depth opened rest error h ih =>
    refine fun hfuel => ?_
    obtain ⟨fuel, rfl⟩ : ∃ n, fuel = n + 1 := ⟨fuel - 1, by omega⟩
    have hvalue : readValue fuel depth opened rest = .error error := ih fuel (by omega)
    rw [readItems, hvalue]
    rfl
  | @laterItem depth opened spelling before after rest item error hitem hbefore hafter h ih =>
    refine fun hfuel => ?_
    simp only [List.length_append, List.length_cons] at hfuel
    obtain ⟨fuel, rfl⟩ : ∃ n, fuel = n + 1 := ⟨fuel - 1, by omega⟩
    have hread := @Spells.isRead _ fuel _ _ hitem (by omega) opened _
      (endsValue_gap_cons (c := ',') hbefore (by decide) (after ++ rest))
    have hitems : readItems fuel depth opened rest = .error error := ih fuel (by omega)
    rw [readItems_more hread hbefore hafter h.starts, hitems]
    rfl
  | @member depth opened label rest name error hname h ih =>
    refine fun hfuel => ?_
    simp only [List.length_append] at hfuel
    obtain ⟨fuel, rfl⟩ : ∃ n, fuel = n + 1 := ⟨fuel - 1, by omega⟩
    have hvalue : readValue fuel depth opened rest = .error error := ih fuel (by omega)
    rw [readMembers_name hname h.starts, readNamed, hvalue]
    rfl
  | @laterMember depth opened label spelling before after rest name value error hname hvalue hbefore hafter h ih =>
    refine fun hfuel => ?_
    simp only [List.length_append, List.length_cons] at hfuel
    obtain ⟨fuel, rfl⟩ : ∃ n, fuel = n + 1 := ⟨fuel - 1, by omega⟩
    have hread := @Spells.isRead _ fuel _ _ hvalue (by omega) opened _
      (endsValue_gap_cons (c := ',') hbefore (by decide) (after ++ rest))
    have hmembers : readMembers fuel depth opened rest = .error error := ih fuel (by omega)
    rw [readMembers_more hname (hvalue.starts.append _) hread hbefore hafter h.starts, hmembers]
    rfl

theorem IsDocument.read (h : IsDocument levels text value) : read text levels = .ok value := by
  obtain ⟨before, spelling, after, hbefore, hafter, rfl, hspells⟩ := h
  have hend : skipSpace after = [] := by
    have hskip := skipSpace_append hafter []
    rwa [List.append_nil] at hskip
  have hends : EndsValue after := by
    have hends := endsValue_gap hafter endsValue_nil
    rwa [List.append_nil] at hends
  have hread : readValue (2 * (before ++ (spelling ++ after)).length + 2) levels [] (spelling ++ after) = .ok (value, after) :=
    hspells.isRead (by simp only [List.length_append]; omega) [] after hends
  rw [Json.read, (hspells.starts.append after).skipSpace hbefore, hread]
  simp only [bind, Except.bind, hend]
  rfl

theorem StopsReading.read (h : StopsReading levels text error) : read text levels = .error error := by
  obtain ⟨gap, rest, hgap, rfl, hstalls⟩ := h
  have hread : readValue (2 * (gap ++ rest).length + 2) levels [] rest = .error error :=
    hstalls.isStalled _ (by simp only [List.length_append]; omega)
  rw [Json.read, hstalls.starts.skipSpace hgap, hread]
  rfl

theorem accounts_read (levels : Nat) (text : Text) :
    match read text levels with
    | .ok value => IsDocument levels text value
    | .error error => error ≠ .malformed → StopsReading levels text error := by
  obtain ⟨before, hbefore, htext⟩ := exists_gap text
  have hvalue := (readersAccount (2 * text.length + 2)).value levels [] (skipSpace text)
  rw [Json.read]
  cases hread : readValue (2 * text.length + 2) levels [] (skipSpace text) with
  | error error =>
    rw [hread] at hvalue
    exact fun herror => ⟨before, _, hbefore, htext, hvalue herror⟩
  | ok found =>
    rw [hread] at hvalue
    obtain ⟨spelling, hsplit, hspells⟩ := hvalue
    obtain ⟨after, hafter, hrest⟩ := exists_gap found.2
    simp only [bind, Except.bind]
    by_cases hend : (skipSpace found.2).isEmpty
    · rw [if_pos hend]
      rw [List.isEmpty_iff.1 hend, List.append_nil] at hrest
      exact ⟨before, spelling, after, hbefore, hafter, by rw [← hrest, ← hsplit, ← htext], hspells⟩
    · rw [if_neg hend]
      exact fun h => absurd rfl h

theorem read_eq_ok : read text levels = .ok value ↔ IsDocument levels text value := by
  refine ⟨fun h => ?_, IsDocument.read⟩
  have haccounts := accounts_read levels text
  rwa [h] at haccounts

theorem read_eq_error (herror : error ≠ .malformed) :
    read text levels = .error error ↔ StopsReading levels text error := by
  refine ⟨fun h => ?_, StopsReading.read⟩
  have haccounts := accounts_read levels text
  rw [h] at haccounts
  exact haccounts herror

/-- Too many containers are open somewhere in a text, whatever is open around it and stands after it. -/
def IsTooDeep (place : Place) (levels : Nat) (spelling : Text) : Prop :=
  ∀ opened rest, ∃ all, Stalls place levels opened (spelling ++ rest) (.tooDeep all)

variable {label spelling before after more : Text} {name : RawText}

theorem isTooDeep_array (text : Text) : IsTooDeep .value 0 ('[' :: text) := fun _ _ => ⟨_, .deepArray⟩

theorem isTooDeep_object (text : Text) : IsTooDeep .value 0 ('\x7b' :: text) := fun _ _ => ⟨_, .deepObject⟩

theorem IsTooDeep.arr {gap : Text} (h : IsTooDeep .items levels spelling) (hgap : IsGap gap) :
    IsTooDeep .value (levels + 1) ('[' :: (gap ++ spelling)) := by
  intro opened rest
  obtain ⟨all, h⟩ := h (.array :: opened) rest
  rw [List.cons_append, List.append_assoc]
  exact ⟨all, .arr hgap h⟩

theorem IsTooDeep.obj {gap : Text} (h : IsTooDeep .members levels spelling) (hgap : IsGap gap) :
    IsTooDeep .value (levels + 1) ('\x7b' :: (gap ++ spelling)) := by
  intro opened rest
  obtain ⟨all, h⟩ := h (.object :: opened) rest
  rw [List.cons_append, List.append_assoc]
  exact ⟨all, .obj hgap h⟩

theorem IsTooDeep.item (h : IsTooDeep .value levels spelling) (more : Text) :
    IsTooDeep .items levels (spelling ++ more) := by
  intro opened rest
  obtain ⟨all, h⟩ := h opened (more ++ rest)
  rw [List.append_assoc]
  exact ⟨all, .item h⟩

theorem IsTooDeep.laterItem (h : IsTooDeep .items levels more) (hitem : Spells levels spelling (.value value))
    (hbefore : IsGap before) (hafter : IsGap after) :
    IsTooDeep .items levels (spelling ++ (before ++ ',' :: (after ++ more))) := by
  intro opened rest
  obtain ⟨all, h⟩ := h opened rest
  simp only [List.append_assoc, List.cons_append]
  exact ⟨all, .laterItem hitem hbefore hafter h⟩

theorem IsTooDeep.member (h : IsTooDeep .value levels spelling) (hname : SpellsName label name) (more : Text) :
    IsTooDeep .members levels (label ++ (spelling ++ more)) := by
  intro opened rest
  obtain ⟨all, h⟩ := h opened (more ++ rest)
  rw [List.append_assoc, List.append_assoc]
  exact ⟨all, .member hname h⟩

theorem IsTooDeep.laterMember (h : IsTooDeep .members levels more) (hname : SpellsName label name)
    (hvalue : Spells levels spelling (.value value)) (hbefore : IsGap before) (hafter : IsGap after) :
    IsTooDeep .members levels (label ++ (spelling ++ (before ++ ',' :: (after ++ more)))) := by
  intro opened rest
  obtain ⟨all, h⟩ := h opened rest
  simp only [List.append_assoc, List.cons_append]
  exact ⟨all, .laterMember hname hvalue hbefore hafter h⟩

theorem Spells.or_isTooDeep {phrase : Phrase} (h : Spells depth spelling phrase) (levels : Nat) :
    Spells levels spelling phrase ∨ IsTooDeep phrase.place levels spelling := by
  induction h generalizing levels with
  | scalar h => exact .inl (.scalar h)
  | text h => exact .inl (.text h)
  | noItems hgap =>
    cases levels with
    | zero => exact .inr (isTooDeep_array _)
    | succ levels => exact .inl (.noItems hgap)
  | noMembers hgap =>
    cases levels with
    | zero => exact .inr (isTooDeep_object _)
    | succ levels => exact .inl (.noMembers hgap)
  | arr hgap _ ih =>
    cases levels with
    | zero => exact .inr (isTooDeep_array _)
    | succ levels => exact (ih levels).imp (.arr hgap) (IsTooDeep.arr · hgap)
  | obj hgap _ ih =>
    cases levels with
    | zero => exact .inr (isTooDeep_object _)
    | succ levels => exact (ih levels).imp (.obj hgap) (IsTooDeep.obj · hgap)
  | lastItem _ hgap ih => exact (ih levels).imp (.lastItem · hgap) (IsTooDeep.item · _)
  | item _ hbefore hafter _ ih ihmore =>
    obtain h | hdeep := ih levels
    · exact (ihmore levels).imp (.item h hbefore hafter) (IsTooDeep.laterItem · h hbefore hafter)
    · exact .inr (hdeep.item _)
  | lastMember hname _ hgap ih => exact (ih levels).imp (.lastMember hname · hgap) (IsTooDeep.member · hname _)
  | member hname _ hbefore hafter _ ih ihmore =>
    obtain h | hdeep := ih levels
    · exact (ihmore levels).imp (.member hname h hbefore hafter) (IsTooDeep.laterMember · hname h hbefore hafter)
    · exact .inr (hdeep.member hname _)

theorem IsDocument.read_or_tooDeep (h : IsDocument depth text value) (levels : Nat) :
    Json.read text levels = .ok value ∨ ∃ opened, Json.read text levels = .error (.tooDeep opened) := by
  obtain ⟨before, spelling, after, hbefore, hafter, rfl, hspells⟩ := h
  obtain h | hdeep := hspells.or_isTooDeep levels
  · exact .inl (IsDocument.read ⟨before, spelling, after, hbefore, hafter, rfl, h⟩)
  · obtain ⟨opened, h⟩ := hdeep [] after
    exact .inr ⟨opened, StopsReading.read ⟨before, _, hbefore, rfl, h⟩⟩

theorem stalls_replicate (depth : Nat) (opened : List Container) (rest : Text) :
    Stalls .value depth opened (List.replicate (depth + 1) '[' ++ rest)
      (.tooDeep (List.replicate (depth + 1) .array ++ opened)) := by
  induction depth generalizing opened with
  | zero => exact .deepArray
  | succ depth ih =>
    have hstalls := ih (.array :: opened)
    rw [List.append_cons, ← List.replicate_succ'] at hstalls
    exact @Stalls.arr _ _ [] _ _ isGap_nil (.item hstalls)

theorem stopsReading_replicate {n : Nat} (h : levels < n) :
    StopsReading levels (List.replicate n '[') (.tooDeep (List.replicate (levels + 1) .array)) := by
  obtain ⟨more, rfl⟩ := Nat.exists_eq_add_of_lt h
  have hstalls := stalls_replicate levels [] (List.replicate more '[')
  rw [List.append_nil, ← List.replicate_add] at hstalls
  refine ⟨[], _, isGap_nil, rfl, ?_⟩
  rwa [Nat.add_right_comm] at hstalls

end Json

end Screener
