import Screener.Proofs.Described
import Screener.Proofs.Readings

namespace Screener

namespace Library

def IsHeldIn (levels : Nat) (bytes : Bytes) (library : Library) : Prop :=
  Json.IsIn levels bytes fun value => value.Always (Describes · library)

/-- A library that the file may hold, going by what stands in for a surrogate in the text of a record. -/
def MayBeHeldIn (levels : Nat) (bytes : Bytes) (library : Library) : Prop :=
  Json.IsIn levels bytes fun value => value.Possibly (Describes · library)

end Library

namespace Store

inductive Stops (levels : Nat) (bytes : Bytes) : Fault → Prop
  | tooDeep {text : Text} {opened : List Json.Container} : bytes = text.encode →
      Json.StopsReading levels text (.tooDeep opened) → Stops levels bytes (.tooDeep opened)
  | descriptionNotText {kind : Json.Kind} : Json.IsIn levels bytes (Library.Misdescribes ·.mended kind) →
      Stops levels bytes (.descriptionNotText kind)

variable {levels : Nat} {bytes : Bytes} {text : Text} {value : RawJson} {library : Library} {fault : Fault}

theorem run_load_encode (text : Text) (levels : Nat) :
    load.run (.contents text.encode) levels = (Library.ofText levels text, .contents text.encode) := by
  rw [run_load, Library.ofFile, Text.decode?_encode]

theorem run_load_of_isHeldIn (h : library.IsHeldIn levels bytes) :
    load.run (.contents bytes) levels = (.ok library, .contents bytes) := by
  obtain ⟨text, value, rfl, hvalue, hlibrary⟩ := h
  rw [run_load_encode]
  simp only [Library.ofText, Json.read_eq_ok.2 hvalue, Library.ofJson_eq_ok.2 hlibrary.mended]

theorem run_load_of_stops (h : Stops levels bytes fault) :
    load.run (.contents bytes) levels = (.error fault, .contents bytes) := by
  cases h with
  | tooDeep hbytes hdeep =>
    subst hbytes
    rw [run_load_encode]
    simp only [Library.ofText, hdeep.read]
  | descriptionNotText h =>
    obtain ⟨text, value, rfl, hvalue, hkind⟩ := h
    rw [run_load_encode]
    simp only [Library.ofText, Json.read_eq_ok.2 hvalue, Library.ofJson_eq_descriptionNotText.2 hkind]

theorem run_load_cases (levels : Nat) (bytes : Bytes) :
    (∃ fault, Stops levels bytes fault) ∨
      (∃ library, Library.MayBeHeldIn levels bytes library ∧
        load.run (.contents bytes) levels = (.ok library, .contents bytes)) ∨
      load.run (.contents bytes) levels = (.ok [], .contents bytes) := by
  cases htext : Text.decode? bytes with
  | none =>
    rw [run_load, Library.ofFile, htext]
    exact .inr (.inr rfl)
  | some text =>
    obtain rfl := Text.decode?_eq_some_iff.1 htext
    rw [run_load_encode, Library.ofText]
    cases hread : Json.read text levels with
    | error error =>
      cases error with
      | tooDeep opened =>
        have hdeep := (Json.read_eq_error (by simp)).1 hread
        exact .inl ⟨_, .tooDeep rfl hdeep⟩
      | malformed => exact .inr (.inr rfl)
      | longNumber digits => exact .inr (.inr rfl)
    | ok value =>
      have hvalue := Json.read_eq_ok.1 hread
      cases hmended : Library.ofJson value.mended with
      | ok library =>
        have hheld : Library.MayBeHeldIn levels text.encode library :=
          ⟨text, value, rfl, hvalue, .of_mended (Library.ofJson_eq_ok.1 hmended)⟩
        exact .inr (.inl ⟨library, hheld, by simp only [hmended]⟩)
      | error fault =>
        cases fault with
        | descriptionNotText kind =>
          have hkind := Library.ofJson_eq_descriptionNotText.1 hmended
          exact .inl ⟨_, .descriptionNotText ⟨text, value, rfl, hvalue, hkind⟩⟩
        | issues issues => exact .inr (.inr (by simp only [hmended]))

theorem run_load_eq_error :
    load.run (.contents bytes) levels = (.error fault, .contents bytes) ↔ Stops levels bytes fault := by
  refine ⟨fun hload => ?_, run_load_of_stops⟩
  obtain ⟨other, hother⟩ | ⟨library, -, hlibrary⟩ | hempty := run_load_cases levels bytes
  · cases hload.symm.trans (run_load_of_stops hother)
    exact hother
  · cases hload.symm.trans hlibrary
  · cases hload.symm.trans hempty

/-- Unless reading stops, loading gives a library: the one that the file holds, or an empty one if it can hold none.
Reading stops where loading fails and nowhere else, and it stops for the nesting with one container too many open.  The
file stays as it is. -/
theorem load_contents (levels : Nat) (bytes : Bytes) :
    ((∀ fault, ¬ Stops levels bytes fault) → ∃ library,
        load.run (.contents bytes) levels = (.ok library, .contents bytes) ∧
          (Library.MayBeHeldIn levels bytes library ∨ library = [])) ∧
      (∀ library, Library.IsHeldIn levels bytes library →
        load.run (.contents bytes) levels = (.ok library, .contents bytes)) ∧
      ((∀ fault, ¬ Stops levels bytes fault) → (∀ library, ¬ Library.MayBeHeldIn levels bytes library) →
        load.run (.contents bytes) levels = (.ok [], .contents bytes)) ∧
      (∀ fault, load.run (.contents bytes) levels = (.error fault, .contents bytes) ↔ Stops levels bytes fault) ∧
      ∀ opened, Stops levels bytes (.tooDeep opened) → opened.length = levels + 1 := by
  refine ⟨fun hstops => ?_, fun library => run_load_of_isHeldIn, fun hstops hnone => ?_, fun fault => run_load_eq_error, ?_⟩
  · obtain ⟨fault, hfault⟩ | ⟨library, hlibrary, hload⟩ | hempty := run_load_cases levels bytes
    · exact absurd hfault (hstops fault)
    · exact ⟨library, hload, .inl hlibrary⟩
    · exact ⟨[], hempty, .inr rfl⟩
  · obtain ⟨fault, hfault⟩ | ⟨library, hlibrary, -⟩ | hempty := run_load_cases levels bytes
    · exact absurd hfault (hstops fault)
    · exact absurd hlibrary (hnone library)
    · exact hempty
  · rintro opened (⟨-, gap, rest, -, -, hstalls⟩ | _)
    exact hstalls.length_opened rfl

/-- A surrogate by itself, in a field that is not a record's. -/
example : (load.run (.contents (Text.encode "\x7b\"formulas\": [\x7b\"name\": \"A\", \"note\": \"\\ud800\"\x7d]\x7d"))).1 =
    .ok [⟨"A", [], [], [], by decide, by decide, by decide, by decide⟩] := by
  rw [run_load_encode]
  decide +kernel

/-- A number as a description, and lists nested too deep: loading fails, though neither file holds a library. -/
theorem load_number_as_description :
    let described : Text := "\x7b\"formulas\": [\x7b\"name\": \"A\", \"description\": 5\x7d]\x7d"
    let nested : Text := List.replicate 990 '['
    (load.run (.contents described.encode)).1 = .error (.descriptionNotText .int) ∧
      (load.run (.contents nested.encode)).1 = .error (.tooDeep (List.replicate 990 .array)) ∧
      ¬ ∀ bytes, ∃ library, (load.run (.contents bytes)).1 = .ok library := by
  intro described nested
  have hdescribed : (load.run (.contents described.encode)).1 = .error (.descriptionNotText .int) := by
    rw [run_load_encode]
    decide +kernel
  have hnested := run_load_of_stops (.tooDeep rfl (@Json.stopsReading_replicate Json.depthLimit 990 (by decide)))
  refine ⟨hdescribed, congrArg Prod.fst hnested, fun hall => ?_⟩
  obtain ⟨library, hlibrary⟩ := hall described.encode
  rw [hdescribed] at hlibrary
  cases hlibrary

end Store

end Screener
