import Screener.Cli.Run
import Screener.Proofs.Definitions
import Screener.Proofs.Readings

namespace Screener

namespace Catalog

def Defines (p : List (Text × Json) → Prop) (value : Json) : Prop := ∃ definitions, value = .obj definitions ∧ p definitions

def IsHeldIn (levels : Nat) (bytes : Bytes) (catalog : Catalog) : Prop :=
  Json.IsIn levels bytes fun value => value.Always (Defines (Describes · catalog))

/-- A catalog that the file may hold, going by what stands in for a surrogate in a text of the catalog. -/
def MayBeHeldIn (levels : Nat) (bytes : Bytes) (catalog : Catalog) : Prop :=
  Json.IsIn levels bytes fun value => value.Possibly (Defines (Describes · catalog))

inductive Stops (levels : Nat) (bytes : Bytes) : CatalogFileError → Prop
  | notUtf8 : (∀ text, bytes ≠ Text.encode text) → Stops levels bytes .notUtf8
  | longNumber {text : Text} {digits : Nat} : bytes = text.encode →
      Json.StopsReading levels text (.longNumber digits) → Stops levels bytes (.longNumber digits)
  | tooDeep {text : Text} {opened : List Json.Container} : bytes = text.encode →
      Json.StopsReading levels text (.tooDeep opened) → Stops levels bytes (.tooDeep opened)

variable {levels : Nat} {path : RawText} {bytes : Bytes} {text : Text} {value : RawJson} {catalog : Catalog}
  {error : CatalogFileError}

theorem ofJson_eq_ok {value : Json} : ofJson path value = .ok catalog ↔ Defines (Describes · catalog) value := by
  cases value with
  | obj definitions => simp [ofJson, Defines, Fallible.mapError_eq_ok, ofDefinitions_eq_ok]
  | _ => simp [ofJson, Defines]

end Catalog

namespace Cli

variable {σ : Type}

namespace Action

variable {α β : Type} {world : World σ} {path : Path} {bytes : Bytes}

theorem run_bind (action : Action σ α) (next : α → Action σ β) (world : World σ) :
    (action >>= next).run.run world =
      match action.run.run world with
      | (.ok value, world) => (next value).run.run world
      | (.error stop, world) => (.error stop, world) := by
  rw [ExceptT.run_bind, StateT.run_bind]
  obtain ⟨result, after⟩ := action.run.run world
  cases result <;> rfl

end Action

end Cli

namespace Catalog

/-- A surrogate by itself, in a field that no function has. -/
example : ofFile "catalog.json" (.contents (Text.encode
    "\x7b\"PING\": \x7b\"params\": [], \"x\": \"\\ud800\"\x7d\x7d")) = .ok ⟨[⟨"PING", [], none, by decide, by decide⟩], by decide⟩ := by
  simp only [ofFile, Text.decode?_encode]
  decide +kernel

end Catalog

end Screener
