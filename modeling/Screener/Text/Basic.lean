/-!
Text as a list of code points.  Every position and length in this library counts code points, so
a text is the list itself; `String` appears only in literals and at the outer edge.
-/

namespace Screener

abbrev Text := List Char

instance : Coe String Text := ⟨String.toList⟩

namespace Text

variable {α : Type}

def join (separator : List α) : List (List α) → List α
  | [] => []
  | [part] => part
  | part :: next :: rest => part ++ separator ++ join separator (next :: rest)

/-- The pieces between the occurrences of `mark`; there is always one more piece than marks. -/
def splitOn [DecidableEq α] (mark : α) : List α → List (List α)
  | [] => [[]]
  | c :: rest =>
    if c = mark then [] :: splitOn mark rest
    else match splitOn mark rest with
      | [] => [[c]]
      | piece :: pieces => (c :: piece) :: pieces

def cutAt (mark : Char) : Text → Option (Text × Text)
  | [] => none
  | c :: rest =>
    if c = mark then some ([], rest)
    else (cutAt mark rest).map fun (before, after) => (c :: before, after)

def includes (text piece : Text) : Bool :=
  piece.isPrefixOf text || match text with
    | [] => false
    | _ :: rest => includes rest piece

def extent (p : Char → Bool) (text : Text) : Nat := (text.takeWhile p).length

def ofNat (n : Nat) : Text := Nat.toDigits 10 n

def ofInt : Int → Text
  | .ofNat n => ofNat n
  | .negSucc n => '-' :: ofNat (n + 1)

/-- Whole numbers with more digits than this are neither read nor written. -/
def digitLimit : Nat := 4300

def isLong (value : Int) : Bool := decide (digitLimit < (ofNat value.natAbs).length)

def ofInt? (value : Int) : Option Text := if isLong value then none else some (ofInt value)

def hex (width n : Nat) : Text :=
  let digits := Nat.toDigits 16 n
  List.replicate (width - digits.length) '0' ++ digits

def quote (text : Text) : Text := "'" ++ text ++ "'"

@[simp] theorem join_nil (separator : List α) : join separator [] = [] := rfl

@[simp] theorem join_singleton (separator part : List α) : join separator [part] = part := rfl

theorem join_cons_cons (separator part next : List α) (rest : List (List α)) :
    join separator (part :: next :: rest) = part ++ separator ++ join separator (next :: rest) := rfl

theorem forall_mem_join {p : α → Prop} {separator : List α} {parts : List (List α)} (hseparator : ∀ c ∈ separator, p c)
    (h : ∀ part ∈ parts, ∀ c ∈ part, p c) : ∀ c ∈ join separator parts, p c := by
  induction parts with
  | nil => simp
  | cons part rest ih =>
    rw [List.forall_mem_cons] at h
    cases rest with
    | nil => exact h.1
    | cons next rest =>
      rw [join_cons_cons, List.forall_mem_append, List.forall_mem_append]
      exact ⟨⟨h.1, hseparator⟩, ih h.2⟩

theorem splitOn_ne_nil [DecidableEq α] (mark : α) (text : List α) : splitOn mark text ≠ [] := by
  cases text with
  | nil => simp [splitOn]
  | cons c rest =>
    by_cases h : c = mark
    · simp [splitOn, h]
    · simp only [splitOn, h, if_false]
      split <;> simp

@[simp] theorem extent_nil (p : Char → Bool) : extent p [] = 0 := rfl

theorem extent_cons (p : Char → Bool) (c : Char) (rest : Text) :
    extent p (c :: rest) = if p c then extent p rest + 1 else 0 := by
  by_cases h : p c <;> simp [extent, h]

theorem extent_le (p : Char → Bool) (text : Text) : extent p text ≤ text.length := by
  induction text with
  | nil => simp
  | cons c rest ih =>
    rw [extent_cons]
    split
    · simpa using ih
    · simp

theorem isLong_iff {value : Int} : isLong value ↔ Nat.pow 10 digitLimit ≤ value.natAbs := by
  have hlimit : 0 < digitLimit := by decide
  rw [isLong, decide_eq_true_iff]
  -- A power with so great an exponent had better stay opaque.
  generalize digitLimit = limit at *
  rw [ofNat, ← Nat.not_le, Nat.length_toDigits_le_iff (by decide) hlimit, Nat.not_lt]
  exact Iff.rfl

end Text

end Screener
