import Mathlib.Data.List.TakeDrop
import Screener.Json.Reader
import Screener.Proofs.Fallible

namespace Screener

namespace Json

def IsDigits (text : Text) : Prop := text ≠ [] ∧ ∀ c ∈ text, c.isDigit = true

def IsWhole (text : Text) : Prop := IsDigits text ∧ (text.head? = some '0' → text = ['0'])

inductive SpellsPower : Text → Int → Prop
  | plain {letter : Char} {digits : Text} : letter = 'e' ∨ letter = 'E' → IsDigits digits →
      SpellsPower (letter :: digits) (digitsValue digits)
  | plus {letter : Char} {digits : Text} : letter = 'e' ∨ letter = 'E' → IsDigits digits →
      SpellsPower (letter :: '+' :: digits) (digitsValue digits)
  | minus {letter : Char} {digits : Text} : letter = 'e' ∨ letter = 'E' → IsDigits digits →
      SpellsPower (letter :: '-' :: digits) (-(digitsValue digits : Int))

/-- What may follow the whole part of a number: a fraction, of which these are the digits, or a power of ten, or both. -/
inductive SpellsScale : Text → Text → Int → Prop
  | fraction {digits : Text} : IsDigits digits → SpellsScale ('.' :: digits) digits 0
  | power {spelling : Text} {power : Int} : SpellsPower spelling power → SpellsScale spelling [] power
  | both {digits spelling : Text} {power : Int} : IsDigits digits → SpellsPower spelling power →
      SpellsScale ('.' :: (digits ++ spelling)) digits power

inductive SpellsMagnitude (negative : Bool) : Text → RawJson → Prop
  | int {whole : Text} : IsWhole whole → whole.length ≤ Text.digitLimit →
      SpellsMagnitude negative whole (.int (if negative then -digitsValue whole else digitsValue whole))
  | double {whole spelling fraction : Text} {power : Int} : IsWhole whole → SpellsScale spelling fraction power →
      SpellsMagnitude negative (whole ++ spelling)
        (.double (.ofDecimal negative (digitsValue (whole ++ fraction)) (power - fraction.length)))

def signText (negative : Bool) : Text := if negative then ['-'] else []

inductive SpellsScalar : Text → RawJson → Prop
  | word {spelling : Text} {value : RawJson} : (spelling, value) ∈ Json.words → SpellsScalar spelling value
  | number {negative : Bool} {spelling : Text} {value : RawJson} : SpellsMagnitude negative spelling value →
      SpellsScalar (signText negative ++ spelling) value

def HasNoDigit (rest : Text) : Prop := ∀ c ∈ rest.head?, c.isDigit = false

structure EndsNumber (rest : Text) : Prop where
  digit : HasNoDigit rest
  scale : ∀ spelling fraction power more, SpellsScale spelling fraction power → rest ≠ spelling ++ more

inductive IsLongNumber : Text → Nat → Prop
  | mk {negative : Bool} {whole rest : Text} : IsWhole whole → Text.digitLimit < whole.length → EndsNumber rest →
      IsLongNumber (signText negative ++ (whole ++ rest)) whole.length

variable {text rest digits whole spelling fraction : Text} {power : Int} {negative : Bool} {value : RawJson}

theorem IsDigits.exists_cons (h : IsDigits digits) : ∃ c more, digits = c :: more ∧ c.isDigit = true := by
  obtain ⟨hne, hall⟩ := h
  cases digits with
  | nil => exact absurd rfl hne
  | cons c more => exact ⟨c, more, rfl, hall c List.mem_cons_self⟩

theorem IsDigits.append_ne_cons (h : IsDigits digits) {d : Char} (hd : d.isDigit = false) (rest more : Text) :
    digits ++ rest ≠ d :: more := by
  obtain ⟨c, taken, rfl, hc⟩ := h.exists_cons
  rintro ⟨⟩
  cases hd.symm.trans hc

theorem hasNoDigit_dropWhile (text : Text) : HasNoDigit (text.dropWhile Char.isDigit) := by
  intro c hc
  have hnot := List.head?_dropWhile_not Char.isDigit text
  rw [Option.mem_def.1 hc] at hnot
  simpa using hnot

theorem readDigits_eq_some :
    readDigits text = some (digits, rest) ↔ text = digits ++ rest ∧ IsDigits digits ∧ HasNoDigit rest := by
  rw [readDigits, List.span_eq_takeWhile_dropWhile]
  constructor
  · intro h
    have hall : ∀ c ∈ text.takeWhile Char.isDigit, c.isDigit = true := List.all_eq_true.1 List.all_takeWhile
    have hrest := hasNoDigit_dropWhile text
    have hsplit := @List.takeWhile_append_dropWhile _ Char.isDigit text
    generalize text.takeWhile Char.isDigit = taken at *
    generalize text.dropWhile Char.isDigit = dropped at *
    cases taken with
    | nil => cases h
    | cons c taken =>
      cases h
      exact ⟨hsplit.symm, ⟨by simp, hall⟩, hrest⟩
  · rintro ⟨rfl, hdigits, hrest⟩
    have htaken : rest.takeWhile Char.isDigit = [] ∧ rest.dropWhile Char.isDigit = rest := by
      cases rest with
      | nil => simp
      | cons c rest => simp [hrest c rfl]
    rw [List.takeWhile_append_of_pos hdigits.2, List.dropWhile_append_of_pos hdigits.2, htaken.1, htaken.2,
      List.append_nil]
    obtain ⟨c, more, rfl, -⟩ := hdigits.exists_cons
    rfl

theorem readDigits_append (h : IsDigits digits) (hrest : HasNoDigit rest) :
    readDigits (digits ++ rest) = some (digits, rest) := readDigits_eq_some.2 ⟨rfl, h, hrest⟩

theorem readFraction_eq_some :
    readFraction text = some (digits, rest) ↔ text = '.' :: (digits ++ rest) ∧ IsDigits digits ∧ HasNoDigit rest := by
  unfold readFraction
  split
  case h_1 more => simp [readDigits_eq_some]
  case h_2 hpoint =>
    simp only [reduceCtorEq, false_iff]
    rintro ⟨rfl, -⟩
    exact hpoint _ rfl

theorem readExponent_append (h : IsDigits digits) (hrest : HasNoDigit rest) :
    readExponent negative (digits ++ rest) = some (if negative then -(digitsValue digits : Int) else digitsValue digits, rest) := by
  rw [readExponent, readDigits_append h hrest]
  rfl

theorem exists_of_readExponent (h : readExponent negative text = some (power, rest)) :
    ∃ digits, text = digits ++ rest ∧ IsDigits digits ∧ HasNoDigit rest ∧
      power = if negative then -(digitsValue digits : Int) else digitsValue digits := by
  obtain ⟨⟨digits, rest⟩, hdigits, ⟨⟩⟩ := Option.map_eq_some_iff.1 h
  obtain ⟨hsplit, hdigits, hrest⟩ := readDigits_eq_some.1 hdigits
  exact ⟨digits, hsplit, hdigits, hrest, rfl⟩

theorem readPower_eq_some : readPower text = some (power, rest) ↔
    ∃ spelling, text = spelling ++ rest ∧ SpellsPower spelling power ∧ HasNoDigit rest := by
  constructor
  · intro h
    unfold readPower at h
    split at h
    case h_7 => cases h
    all_goals obtain ⟨digits, rfl, hdigits, hrest, rfl⟩ := exists_of_readExponent h
    · exact ⟨_, rfl, .minus (.inl rfl) hdigits, hrest⟩
    · exact ⟨_, rfl, .minus (.inr rfl) hdigits, hrest⟩
    · exact ⟨_, rfl, .plus (.inl rfl) hdigits, hrest⟩
    · exact ⟨_, rfl, .plus (.inr rfl) hdigits, hrest⟩
    · exact ⟨_, rfl, .plain (.inl rfl) hdigits, hrest⟩
    · exact ⟨_, rfl, .plain (.inr rfl) hdigits, hrest⟩
  · rintro ⟨spelling, rfl, hpower, hrest⟩
    cases hpower with
    | @plain letter digits hletter hdigits =>
      have hminus := hdigits.append_ne_cons (d := '-') rfl rest
      have hplus := hdigits.append_ne_cons (d := '+') rfl rest
      obtain rfl | rfl := hletter
      · rw [List.cons_append, readPower.eq_5 _ hminus hplus]
        exact readExponent_append hdigits hrest
      · rw [List.cons_append, readPower.eq_6 _ hminus hplus]
        exact readExponent_append hdigits hrest
    | plus hletter hdigits =>
      obtain rfl | rfl := hletter
      · exact readExponent_append hdigits hrest
      · exact readExponent_append hdigits hrest
    | minus hletter hdigits =>
      obtain rfl | rfl := hletter
      · exact readExponent_append hdigits hrest
      · exact readExponent_append hdigits hrest

theorem readWhole_eq_some : readWhole text = some (whole, rest) ↔
    text = whole ++ rest ∧ IsWhole whole ∧ (whole ≠ ['0'] → HasNoDigit rest) := by
  constructor
  · intro h
    unfold readWhole at h
    split at h
    case h_1 more =>
      cases h
      exact ⟨rfl, ⟨⟨by simp, List.forall_mem_singleton.2 rfl⟩, fun _ => rfl⟩, fun h => absurd rfl h⟩
    case h_2 hzero =>
      obtain ⟨rfl, hdigits, hrest⟩ := readDigits_eq_some.1 h
      refine ⟨rfl, ⟨hdigits, fun hhead => ?_⟩, fun _ => hrest⟩
      obtain ⟨more, rfl⟩ := List.head?_eq_some_iff.1 hhead
      exact absurd rfl (hzero (more ++ rest))
  · rintro ⟨rfl, ⟨hdigits, hzero⟩, hrest⟩
    by_cases hwhole : whole = ['0']
    · rw [hwhole]
      rfl
    · rw [readWhole.eq_2]
      · exact readDigits_append hdigits (hrest hwhole)
      · intro more hmore
        apply hwhole (hzero _)
        obtain ⟨c, taken, rfl, -⟩ := hdigits.exists_cons
        exact congrArg some (List.cons.inj hmore).1

theorem SpellsScale.hasNoDigit (h : SpellsScale spelling fraction power) (rest : Text) :
    HasNoDigit (spelling ++ rest) := by
  intro c hc
  cases h with
  | fraction | both =>
    cases hc
    rfl
  | power h =>
    cases h with
    | plain hletter | plus hletter | minus hletter =>
      cases hc
      obtain rfl | rfl := hletter <;> rfl

theorem readFraction_of_spellsPower (h : SpellsPower spelling power) (rest : Text) :
    readFraction (spelling ++ rest) = none := by
  cases h with
  | plain hletter | plus hletter | minus hletter => obtain rfl | rfl := hletter <;> rfl

theorem exists_digits (h : IsDigits digits) (more : Text) :
    ∃ taken rest, digits ++ more = taken ++ rest ∧ IsDigits taken ∧ HasNoDigit rest := by
  refine ⟨digits ++ more.takeWhile Char.isDigit, more.dropWhile Char.isDigit, ?_, ⟨?_, ?_⟩, ?_⟩
  · rw [List.append_assoc, List.takeWhile_append_dropWhile]
  · exact List.append_ne_nil_of_left_ne_nil h.1 _
  · rw [List.forall_mem_append]
    exact ⟨h.2, List.all_eq_true.1 List.all_takeWhile⟩
  · exact hasNoDigit_dropWhile more

theorem SpellsPower.exists_readPower (h : SpellsPower spelling power) (more : Text) :
    ∃ found, readPower (spelling ++ more) = some found := by
  cases h with
  | plain hletter hdigits =>
    obtain ⟨taken, rest, hsplit, htaken, hrest⟩ := exists_digits hdigits more
    rw [List.cons_append, hsplit]
    exact ⟨_, readPower_eq_some.2 ⟨_, rfl, .plain hletter htaken, hrest⟩⟩
  | plus hletter hdigits =>
    obtain ⟨taken, rest, hsplit, htaken, hrest⟩ := exists_digits hdigits more
    rw [List.cons_append, List.cons_append, hsplit]
    exact ⟨_, readPower_eq_some.2 ⟨_, rfl, .plus hletter htaken, hrest⟩⟩
  | minus hletter hdigits =>
    obtain ⟨taken, rest, hsplit, htaken, hrest⟩ := exists_digits hdigits more
    rw [List.cons_append, List.cons_append, hsplit]
    exact ⟨_, readPower_eq_some.2 ⟨_, rfl, .minus hletter htaken, hrest⟩⟩

theorem exists_readFraction (h : IsDigits digits) (more : Text) :
    ∃ found, readFraction ('.' :: (digits ++ more)) = some found := by
  obtain ⟨taken, rest, hsplit, htaken, hrest⟩ := exists_digits h more
  rw [hsplit]
  exact ⟨_, readFraction_eq_some.2 ⟨rfl, htaken, hrest⟩⟩

theorem exists_of_readScale (h : readScale text = some (fraction, power, rest)) :
    ∃ spelling, text = spelling ++ rest ∧ SpellsScale spelling fraction power := by
  unfold readScale at h
  split at h
  case h_1 digits more hfraction =>
    obtain ⟨rfl, hdigits, -⟩ := readFraction_eq_some.1 hfraction
    cases hpower : readPower more with
    | none =>
      rw [hpower] at h
      cases h
      exact ⟨_, rfl, .fraction hdigits⟩
    | some found =>
      obtain ⟨power, rest⟩ := found
      rw [hpower] at h
      cases h
      obtain ⟨spelling, rfl, hspells, -⟩ := readPower_eq_some.1 hpower
      exact ⟨'.' :: (fraction ++ spelling), by simp, .both hdigits hspells⟩
  case h_2 =>
    obtain ⟨⟨power, rest⟩, hpower, ⟨⟩⟩ := Option.map_eq_some_iff.1 h
    obtain ⟨spelling, rfl, hspells, -⟩ := readPower_eq_some.1 hpower
    exact ⟨spelling, rfl, .power hspells⟩

theorem readScale_eq_none : readScale text = none ↔
    ∀ spelling fraction power more, SpellsScale spelling fraction power → text ≠ spelling ++ more := by
  constructor
  · rintro h spelling fraction power more hscale rfl
    unfold readScale at h
    split at h
    case h_1 => cases h
    case h_2 hfraction =>
      rw [Option.map_eq_none_iff] at h
      cases hscale with
      | fraction hdigits =>
        obtain ⟨found, hfound⟩ := exists_readFraction hdigits more
        cases hfraction.symm.trans hfound
      | power hpower =>
        obtain ⟨found, hfound⟩ := hpower.exists_readPower more
        cases h.symm.trans hfound
      | @both digits spelling _ hdigits _ =>
        obtain ⟨found, hfound⟩ := exists_readFraction hdigits (spelling ++ more)
        rw [← List.append_assoc] at hfound
        cases hfraction.symm.trans hfound
  · intro h
    cases hread : readScale text with
    | none => rfl
    | some found =>
      obtain ⟨spelling, hsplit, hscale⟩ := exists_of_readScale hread
      exact absurd hsplit (h _ _ _ _ hscale)

theorem EndsNumber.readPower (h : EndsNumber rest) : readPower rest = none := by
  cases hread : Json.readPower rest with
  | none => rfl
  | some found =>
    obtain ⟨spelling, hsplit, hpower, -⟩ := readPower_eq_some.1 hread
    exact absurd hsplit (h.scale _ _ _ _ (.power hpower))

theorem SpellsScale.readScale (h : SpellsScale spelling fraction power) (hrest : EndsNumber rest) :
    readScale (spelling ++ rest) = some (fraction, power, rest) := by
  rw [Json.readScale]
  cases h with
  | fraction hdigits =>
    rw [List.cons_append, readFraction_eq_some.2 ⟨rfl, hdigits, hrest.digit⟩]
    simp only [hrest.readPower, Option.getD_none]
  | power hpower =>
    rw [readFraction_of_spellsPower hpower, readPower_eq_some.2 ⟨_, rfl, hpower, hrest.digit⟩]
    rfl
  | @both digits spelling power hdigits hpower =>
    rw [List.cons_append, List.append_assoc,
      readFraction_eq_some.2 ⟨rfl, hdigits, (SpellsScale.power hpower).hasNoDigit rest⟩]
    simp only [readPower_eq_some.2 ⟨_, rfl, hpower, hrest.digit⟩, Option.getD_some]

theorem SpellsMagnitude.readMagnitude (h : SpellsMagnitude negative spelling value) (hrest : EndsNumber rest) :
    readMagnitude negative (spelling ++ rest) = .ok (value, rest) := by
  cases h with
  | int hwhole hlength =>
    rw [Json.readMagnitude, readWhole_eq_some.2 ⟨rfl, hwhole, fun _ => hrest.digit⟩]
    simp only [readScale_eq_none.2 hrest.scale, if_neg (Nat.not_lt.2 hlength)]
  | @double whole spelling fraction power hwhole hscale =>
    rw [List.append_assoc, Json.readMagnitude, readWhole_eq_some.2 ⟨rfl, hwhole, fun _ => hscale.hasNoDigit rest⟩]
    simp only [hscale.readScale hrest]

theorem exists_of_readMagnitude (h : readMagnitude negative text = .ok (value, rest)) :
    ∃ spelling, text = spelling ++ rest ∧ SpellsMagnitude negative spelling value := by
  unfold readMagnitude at h
  split at h
  case h_1 => cases h
  case h_2 whole more hread =>
    obtain ⟨rfl, hwhole, -⟩ := readWhole_eq_some.1 hread
    split at h
    case h_1 fraction power rest hread =>
      obtain ⟨spelling, rfl, hscale⟩ := exists_of_readScale hread
      cases h
      exact ⟨whole ++ spelling, (List.append_assoc ..).symm, .double hwhole hscale⟩
    case h_2 =>
      split at h
      case isTrue => cases h
      case isFalse hlength =>
        cases h
        exact ⟨whole, rfl, .int hwhole (Nat.not_lt.1 hlength)⟩

theorem readMagnitude_eq_longNumber {n : Nat} : readMagnitude negative text = .error (.longNumber n) ↔
    ∃ whole rest, text = whole ++ rest ∧ IsWhole whole ∧ Text.digitLimit < whole.length ∧ EndsNumber rest ∧
      n = whole.length := by
  constructor
  · intro h
    unfold readMagnitude at h
    split at h
    case h_1 => cases h
    case h_2 whole rest hread =>
      obtain ⟨rfl, hwhole, hrest⟩ := readWhole_eq_some.1 hread
      split at h
      case h_1 => cases h
      case h_2 hscale =>
        split at h
        case isTrue hlong =>
          cases h
          have hne : whole ≠ ['0'] := by
            rintro rfl
            exact absurd hlong (by decide)
          exact ⟨whole, rest, rfl, hwhole, hlong, ⟨hrest hne, readScale_eq_none.1 hscale⟩, rfl⟩
        case isFalse => cases h
  · rintro ⟨whole, rest, rfl, hwhole, hlong, hrest, rfl⟩
    rw [readMagnitude, readWhole_eq_some.2 ⟨rfl, hwhole, fun _ => hrest.digit⟩]
    simp only [readScale_eq_none.2 hrest.scale, if_pos hlong]

theorem ne_tooDeep_of_readMagnitude {opened : List Container} :
    readMagnitude negative text ≠ .error (.tooDeep opened) := by
  unfold readMagnitude
  split
  case h_1 => nofun
  case h_2 =>
    split
    case h_1 => nofun
    case h_2 => split <;> nofun

theorem readScalar_word (h : (spelling, value) ∈ Json.words) (rest : Text) :
    readScalar (spelling ++ rest) = .ok (value, rest) := by
  simp only [words, List.mem_cons, Prod.mk.injEq, List.not_mem_nil, or_false] at h
  obtain ⟨rfl, rfl⟩ | ⟨rfl, rfl⟩ | ⟨rfl, rfl⟩ | ⟨rfl, rfl⟩ | ⟨rfl, rfl⟩ | ⟨rfl, rfl⟩ := h <;>
    rfl

theorem readNumber_sign {c : Char} (hc : c ≠ '-') (negative : Bool) (more : Text) :
    readNumber (signText negative ++ c :: more) = readMagnitude negative (c :: more) := by
  cases negative with
  | true => rfl
  | false => exact readNumber.eq_2 (c :: more) fun _ heq => hc (List.cons.inj heq).1

/-- No word starts with a digit, so a text that does is read as a number. -/
theorem readScalar_sign {c : Char} (hc : c.isDigit = true) (negative : Bool) (more : Text) :
    readScalar (signText negative ++ c :: more) = readMagnitude negative (c :: more) := by
  have hne : ∀ d, d.isDigit = false → d ≠ c := by
    rintro d hd rfl
    cases hd.symm.trans hc
  have hnone : words.findSome? (readWord (signText negative ++ c :: more)) = none := by
    cases negative <;>
      simp [words, readWord, signText, hne 'n' rfl, hne 't' rfl, hne 'f' rfl, hne 'N' rfl, hne 'I' rfl, hne '-' rfl]
  rw [readScalar, hnone]
  exact readNumber_sign (hne '-' rfl).symm negative more

theorem SpellsMagnitude.exists_cons (h : SpellsMagnitude negative spelling value) :
    ∃ c more, spelling = c :: more ∧ c.isDigit = true := by
  cases h with
  | int hwhole => exact hwhole.1.exists_cons
  | double hwhole =>
    obtain ⟨c, more, rfl, hc⟩ := hwhole.1.exists_cons
    exact ⟨c, _, rfl, hc⟩

theorem SpellsScalar.readScalar (h : SpellsScalar spelling value) (hrest : EndsNumber rest) :
    readScalar (spelling ++ rest) = .ok (value, rest) := by
  cases h with
  | word hword => exact readScalar_word hword rest
  | number hnumber =>
    obtain ⟨c, more, rfl, hc⟩ := hnumber.exists_cons
    rw [List.append_assoc, List.cons_append, readScalar_sign hc]
    exact hnumber.readMagnitude hrest

theorem readScalar_cases (text : Text) :
    (∃ spelling value rest, text = spelling ++ rest ∧ (spelling, value) ∈ Json.words ∧
        readScalar text = .ok (value, rest)) ∨
      ∃ negative more, text = signText negative ++ more ∧ readScalar text = readMagnitude negative more := by
  rw [readScalar]
  cases hfound : words.findSome? (readWord text) with
  | some found =>
    obtain ⟨⟨spelling, value⟩, hword, hread⟩ := List.exists_of_findSome?_eq_some hfound
    rw [readWord] at hread
    split at hread
    case isTrue hstart =>
      cases hread
      obtain ⟨rest, rfl⟩ := List.isPrefixOf_iff_prefix.1 hstart
      exact .inl ⟨spelling, value, rest, rfl, hword, by rw [List.drop_left]⟩
    case isFalse => cases hread
  | none =>
    right
    fun_cases readNumber text with
    | case1 more => exact ⟨true, more, rfl, rfl⟩
    | case2 => exact ⟨false, text, rfl, rfl⟩

theorem exists_of_readScalar (h : readScalar text = .ok (value, rest)) :
    ∃ spelling, text = spelling ++ rest ∧ SpellsScalar spelling value := by
  obtain ⟨spelling, word, more, rfl, hword, hread⟩ | ⟨negative, more, rfl, hread⟩ := readScalar_cases text
  · cases hread.symm.trans h
    exact ⟨spelling, rfl, .word hword⟩
  · obtain ⟨spelling, rfl, hspells⟩ := exists_of_readMagnitude (hread.symm.trans h)
    exact ⟨signText negative ++ spelling, (List.append_assoc ..).symm, .number hspells⟩

theorem readScalar_eq_longNumber {n : Nat} : readScalar text = .error (.longNumber n) ↔ IsLongNumber text n := by
  constructor
  · intro h
    obtain ⟨_, _, _, rfl, _, hread⟩ | ⟨negative, more, rfl, hread⟩ := readScalar_cases text
    · cases hread.symm.trans h
    · obtain ⟨whole, rest, rfl, hwhole, hlong, hrest, rfl⟩ := readMagnitude_eq_longNumber.1 (hread.symm.trans h)
      exact .mk hwhole hlong hrest
  · rintro ⟨hwhole, hlong, hrest⟩
    obtain ⟨c, more, rfl, hc⟩ := hwhole.1.exists_cons
    rw [List.cons_append, readScalar_sign hc]
    exact readMagnitude_eq_longNumber.2 ⟨_, _, rfl, hwhole, hlong, hrest, rfl⟩

theorem ne_tooDeep_of_readScalar {opened : List Container} : readScalar text ≠ .error (.tooDeep opened) := by
  intro h
  obtain ⟨_, _, _, -, -, hread⟩ | ⟨negative, more, -, hread⟩ := readScalar_cases text
  · cases hread.symm.trans h
  · exact ne_tooDeep_of_readMagnitude (hread.symm.trans h)

end Json

end Screener
