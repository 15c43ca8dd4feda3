import Screener.Catalog.Signature
import Screener.Text.Upper

namespace Screener

structure Catalog where
  functions : List Signature
  nodup_upper : (functions.map (·.name.upper)).Nodup := by decide
  deriving DecidableEq

namespace Catalog

def empty : Catalog := ⟨[], List.nodup_nil⟩

def isEmpty (catalog : Catalog) : Bool := catalog.functions.isEmpty

def names (catalog : Catalog) : List Text := catalog.functions.map Signature.name

def lookup (catalog : Catalog) (name : Text) : Option Signature :=
  catalog.functions.find? (·.name.upper == name.upper)

def contains (catalog : Catalog) (name : Text) : Bool := (catalog.lookup name).isSome

def matching (catalog : Catalog) (piece : Text) : List Signature :=
  catalog.functions.filter (·.name.upper.includes piece.upper)

def search (catalog : Catalog) (piece : Text) : List Text :=
  (catalog.matching piece).map Signature.name

def add? (catalog : Catalog) (signature : Signature) : Option Catalog :=
  if h : (catalog.functions.map (·.name.upper)).contains signature.name.upper then none
  else some ⟨catalog.functions ++ [signature], by
    rw [List.contains_iff_mem] at h
    simpa [List.nodup_append, catalog.nodup_upper] using fun a ha hne =>
      h (List.mem_map.2 ⟨a, ha, hne⟩)⟩

def ofSignatures (functions : List Signature) : Except Text Catalog :=
  functions.foldlM (fun catalog signature =>
    match catalog.add? signature with
    | some catalog => .ok catalog
    | none => .error signature.name) empty

end Catalog

end Screener
