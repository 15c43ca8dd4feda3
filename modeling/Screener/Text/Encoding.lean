import Screener.Text.Basic

namespace Screener

abbrev Bytes := ByteArray

instance : DecidableEq Bytes := ByteArray.instDecidableEq

structure Surrogate where
  unit : Nat
  inRange : 0xd800 ≤ unit ∧ unit < 0xe000
  deriving DecidableEq

namespace Surrogate

def isHigh (surrogate : Surrogate) : Bool := surrogate.unit < 0xdc00

def join (high low : Surrogate) : Char :=
  Char.ofNat (0x10000 + (high.unit - 0xd800) * 0x400 + (low.unit - 0xdc00))

end Surrogate

inductive CodePoint
  | char (c : Char)
  | surrogate (half : Surrogate)
  deriving DecidableEq

def CodePoint.toNat : CodePoint → Nat
  | .char c => c.toNat
  | .surrogate half => half.unit

def CodePoint.toChar? : CodePoint → Option Char
  | .char c => some c
  | .surrogate _ => none

def CodePoint.orElse (standIn : Surrogate → Char) : CodePoint → Char
  | .char c => c
  | .surrogate half => standIn half

def CodePoint.ofUnit (unit : Nat) : CodePoint :=
  if h : 0xd800 ≤ unit ∧ unit < 0xe000 then .surrogate ⟨unit, h⟩ else .char (Char.ofNat unit)

abbrev RawText := List CodePoint

namespace Text

def encode (text : Text) : Bytes := (String.ofList text).toUTF8

def decode? (bytes : Bytes) : Option Text := (String.fromUTF8? bytes).map String.toList

def raw (text : Text) : RawText := text.map .char

theorem decode?_encode (text : Text) : decode? (encode text) = some text := by
  have h : String.fromUTF8? (String.ofList text).toUTF8 = some (String.ofList text) := by
    rw [String.fromUTF8?, String.toUTF8_eq_toByteArray, dif_pos (String.ofList text).isValidUTF8]
    rfl
  rw [decode?, encode, h, Option.map_some, String.toList_ofList]

theorem decode?_eq_some_iff {bytes : Bytes} {text : Text} : decode? bytes = some text ↔ bytes = encode text := by
  constructor
  · intro h
    rw [decode?, String.fromUTF8?] at h
    split at h
    case isTrue hvalid =>
      cases h
      rw [encode, String.ofList_toList]
      rfl
    case isFalse => cases h
  · rintro rfl
    exact decode?_encode text

end Text

instance : Coe String RawText := ⟨fun text => Text.raw text.toList⟩

namespace RawText

def mended (raw : RawText) : Text := raw.map (·.orElse fun _ => '\ufffd')

def toText? : RawText → Option Text
  | [] => some []
  | .char c :: rest => (toText? rest).map (c :: ·)
  | .surrogate _ :: _ => none

theorem toText?_eq_some_iff {raw : RawText} {text : Text} : raw.toText? = some text ↔ raw = text.raw := by
  induction raw generalizing text with
  | nil => cases text <;> simp [toText?, Text.raw]
  | cons point rest ih =>
    cases point with
    | char c =>
      rw [toText?, Option.map_eq_some_iff]
      simp only [ih]
      constructor
      · rintro ⟨text, rfl, rfl⟩
        rfl
      · cases text with
        | nil => rintro ⟨⟩
        | cons other text =>
          rintro ⟨⟩
          exact ⟨text, rfl, rfl⟩
    | surrogate half => cases text <;> simp [toText?, Text.raw]

@[simp] theorem toText?_raw (text : Text) : toText? text.raw = some text := toText?_eq_some_iff.2 rfl

end RawText

end Screener
