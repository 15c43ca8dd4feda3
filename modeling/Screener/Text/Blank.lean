import Screener.Text.Basic

namespace Screener

def blanks : List Char :=
  ['\t', '\n', '\x0b', '\x0c', '\r', '\x1c', '\x1d', '\x1e', '\x1f', ' ', '\u0085', '\u00a0',
   '\u1680', '\u2000', '\u2001', '\u2002', '\u2003', '\u2004', '\u2005', '\u2006', '\u2007',
   '\u2008', '\u2009', '\u200a', '\u2028', '\u2029', '\u202f', '\u205f', '\u3000']

def isBlank (c : Char) : Bool := blanks.contains c

namespace Text

def blank (text : Text) : Bool := text.all isBlank

def trimStart (text : Text) : Text := text.dropWhile isBlank

def trimEnd : Text → Text
  | [] => []
  | c :: rest => if blank (c :: rest) then [] else c :: trimEnd rest

def trim (text : Text) : Text := trimEnd (trimStart text)

@[simp] theorem blank_nil : blank [] = true := rfl

@[simp] theorem blank_cons (c : Char) (rest : Text) :
    blank (c :: rest) = (isBlank c && blank rest) := rfl

theorem trimEnd_eq_nil {text : Text} : trimEnd text = [] ↔ blank text := by
  cases text with
  | nil => simp [trimEnd]
  | cons c rest => by_cases h : blank (c :: rest) <;> simp [trimEnd, h]

theorem blank_trimStart {text : Text} : blank (trimStart text) = blank text := by
  induction text with
  | nil => rfl
  | cons c rest ih =>
    by_cases h : isBlank c
    · have : trimStart (c :: rest) = trimStart rest := by simp [trimStart, h]
      rw [this, ih, blank_cons, h, Bool.true_and]
    · simp [trimStart, h]

theorem trim_eq_nil {text : Text} : trim text = [] ↔ blank text := by
  rw [trim, trimEnd_eq_nil, blank_trimStart]

theorem blank_trimEnd {text : Text} : blank (trimEnd text) = blank text := by
  induction text with
  | nil => rfl
  | cons c rest ih =>
    by_cases h : blank (c :: rest)
    · simp [trimEnd, h]
    · rw [trimEnd, if_neg h, blank_cons, blank_cons, ih]

theorem trimEnd_trimEnd (text : Text) : trimEnd (trimEnd text) = trimEnd text := by
  induction text with
  | nil => rfl
  | cons c rest ih =>
    by_cases h : blank (c :: rest)
    · simp [trimEnd, h]
    · have hblank : blank (c :: trimEnd rest) = blank (c :: rest) := by
        rw [blank_cons, blank_cons, blank_trimEnd]
      rw [trimEnd, if_neg h, trimEnd, if_neg (hblank ▸ h), ih]

theorem trimStart_of_not_isBlank {c : Char} (rest : Text) (h : isBlank c = false) :
    trimStart (c :: rest) = c :: rest := by simp [trimStart, h]

theorem trimStart_eq_nil_or (text : Text) :
    trimStart text = [] ∨ ∃ c rest, trimStart text = c :: rest ∧ isBlank c = false := by
  induction text with
  | nil => exact .inl rfl
  | cons c rest ih =>
    cases h : isBlank c with
    | true => simpa [trimStart, h] using ih
    | false => exact .inr ⟨c, rest, trimStart_of_not_isBlank rest h, h⟩

theorem trimStart_trim (text : Text) : trimStart (trim text) = trim text := by
  rcases trimStart_eq_nil_or text with h | ⟨c, rest, h, hc⟩
  · rw [trim, h]; rfl
  · have hblank : ¬ blank (c :: rest) := by simp [hc]
    rw [trim, h, trimEnd, if_neg hblank, trimStart_of_not_isBlank _ hc]

@[simp] theorem trim_trim (text : Text) : trim (trim text) = trim text := by
  rw [trim, trimStart_trim, trim, trimEnd_trimEnd]

@[simp] theorem trim_nil : trim [] = [] := rfl

end Text

end Screener
