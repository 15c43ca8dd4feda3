import Screener.Entries
import Screener.Number.Double
import Screener.Text.Encoding

namespace Screener

/-- A value whose texts are lists of a type. -/
inductive JsonOf (α : Type)
  | null
  | bool (value : Bool)
  | int (value : Int)
  | double (value : Double)
  | str (text : List α)
  | arr (items : List (JsonOf α))
  | obj (members : List (List α × JsonOf α))

abbrev Json := JsonOf Char

/-- A value as JSON has it: an escape in a text may stand for a surrogate. -/
abbrev RawJson := JsonOf CodePoint

namespace JsonOf

variable {α β : Type}

mutual

def map (f : α → β) : JsonOf α → JsonOf β
  | .null => .null
  | .bool value => .bool value
  | .int value => .int value
  | .double value => .double value
  | .str text => .str (text.map f)
  | .arr items => .arr (mapItems f items)
  | .obj members => .obj (mapMembers f members)

def mapItems (f : α → β) : List (JsonOf α) → List (JsonOf β)
  | [] => []
  | item :: rest => map f item :: mapItems f rest

def mapMembers (f : α → β) : List (List α × JsonOf α) → List (List β × JsonOf β)
  | [] => []
  | (name, value) :: rest => (name.map f, map f value) :: mapMembers f rest

end

theorem mapItems_eq_map (f : α → β) (items : List (JsonOf α)) : mapItems f items = items.map (map f) := by
  induction items with
  | nil => rfl
  | cons item rest ih => rw [mapItems, ih, List.map_cons]

theorem mapMembers_eq_map (f : α → β) (members : List (List α × JsonOf α)) :
    mapMembers f members = members.map fun member => (member.1.map f, map f member.2) := by
  induction members with
  | nil => rfl
  | cons member rest ih => rw [mapMembers, ih, List.map_cons]

theorem map_map_text {f : α → β} {g : β → α} (h : ∀ a, g (f a) = a) (text : List α) : (text.map f).map g = text := by
  induction text with
  | nil => rfl
  | cons a rest ih => rw [List.map_cons, List.map_cons, ih, h]

mutual

theorem map_map {f : α → β} {g : β → α} (h : ∀ a, g (f a) = a) : ∀ value : JsonOf α, map g (map f value) = value
  | .null | .bool _ | .int _ | .double _ => rfl
  | .str text => congrArg JsonOf.str (map_map_text h text)
  | .arr items => congrArg JsonOf.arr (map_map_items h items)
  | .obj members => congrArg JsonOf.obj (map_map_members h members)

theorem map_map_items {f : α → β} {g : β → α} (h : ∀ a, g (f a) = a) :
    ∀ items : List (JsonOf α), mapItems g (mapItems f items) = items
  | [] => rfl
  | item :: rest => by rw [mapItems, mapItems, map_map h item, map_map_items h rest]

theorem map_map_members {f : α → β} {g : β → α} (h : ∀ a, g (f a) = a) :
    ∀ members : List (List α × JsonOf α), mapMembers g (mapMembers f members) = members
  | [] => rfl
  | (name, value) :: rest => by
    rw [mapMembers, mapMembers, map_map_text h name, map_map h value, map_map_members h rest]

end

end JsonOf

def RawJson.mend (standIn : Surrogate → Char) : RawJson → Json := JsonOf.map (·.orElse standIn)

/-- The value as it is kept: what is kept has the replacement character in place of each surrogate. -/
def RawJson.mended (value : RawJson) : Json := value.mend fun _ => '\ufffd'

namespace Json

inductive Container
  | array
  | object
  deriving DecidableEq

def raw : Json → RawJson := JsonOf.map .char

theorem mend_raw (standIn : Surrogate → Char) (value : Json) : value.raw.mend standIn = value :=
  JsonOf.map_map (fun _ => rfl) value

theorem mended_raw (value : Json) : value.raw.mended = value := mend_raw _ value

def member? (name : Text) (members : Entries Json) : Option Json := members.lookup name

inductive Kind
  | null
  | bool
  | int
  | double
  | str
  | arr
  | obj
  deriving DecidableEq

def kind : Json → Kind
  | .null => .null
  | .bool _ => .bool
  | .int _ => .int
  | .double _ => .double
  | .str _ => .str
  | .arr _ => .arr
  | .obj _ => .obj

def isVoid : Json → Bool
  | .null => true
  | .bool value => !value
  | .int value => value == 0
  | .double value => value.isZero
  | .str text => text.isEmpty
  | .arr items => items.isEmpty
  | .obj members => members.isEmpty

end Json

end Screener
