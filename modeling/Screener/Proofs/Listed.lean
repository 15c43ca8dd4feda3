import Screener.Proofs.Details
import Screener.Proofs.Fingerprints
import Screener.Proofs.Items

/-!
Saved formulas as they are listed.  A record that stands in the file with an equation alone is listed with the tokens
that the equation is read as; every other one is listed as it stands there.  What a notebook accepts as text is read as
the same tokens from there as are saved when it is entered, whichever functions the notebook knows.
-/

namespace Screener

namespace Formula

theorem ofEquationAnyFunction_of_ofEquation {isKnown : Text → Bool} {text : Text} {formula : Formula}
    (h : ofEquation isKnown text = .ok formula) : ofEquationAnyFunction text = .ok formula := by
  obtain ⟨segments, hgroups, hitems⟩ := exists_ok_iff.1 ⟨formula, h⟩
  rw [← h, ofEquationAnyFunction, ofEquation_of_groups hgroups, ofEquation_of_groups hgroups, ofSegments_congr]
  intro name body hmem
  exact (hitems _ (List.mem_of_mem_filter hmem)).symm

end Formula

namespace Record

inductive ListedAs (record : Record) : Record → Prop
  | tokens : record.tokens ≠ [] → ListedAs record record
  | empty : record.equation = [] → ListedAs record record
  | unreadable {error : EquationError} : Formula.ofEquationAnyFunction record.equation = .error error →
      ListedAs record record
  | read {listed : Record} : record.tokens = [] → record.equation ≠ [] →
      Formula.ofEquationAnyFunction record.equation = .ok listed.tokens → listed.equation = listed.tokens.equation →
      listed.name = record.name → listed.description = record.description → ListedAs record listed

variable {record listed : Record}

theorem withTokens_of_unreadable {error : EquationError}
    (h : Formula.ofEquationAnyFunction record.equation = .error error) : record.withTokens = record := by
  rw [withTokens, h, ite_self]

theorem withTokens_of_read {formula : Formula} (htokens : record.tokens = []) (hequation : record.equation ≠ [])
    (h : Formula.ofEquationAnyFunction record.equation = .ok formula) :
    record.withTokens = record.withFormula formula := by
  rw [withTokens, if_neg (by simp [htokens, hequation]), h]

theorem listedAs_withTokens (record : Record) : record.ListedAs record.withTokens := by
  by_cases htokens : record.tokens = []
  · by_cases hequation : record.equation = []
    · rw [withTokens, if_pos (.inr hequation)]
      exact .empty hequation
    · cases hread : Formula.ofEquationAnyFunction record.equation with
      | error error =>
        rw [withTokens_of_unreadable hread]
        exact .unreadable hread
      | ok formula =>
        rw [withTokens_of_read htokens hequation hread]
        exact .read htokens hequation hread rfl rfl rfl
  · rw [withTokens_of_tokens htokens]
    exact .tokens htokens

theorem ListedAs.eq_withTokens (h : record.ListedAs listed) : listed = record.withTokens := by
  cases h with
  | tokens htokens => exact (withTokens_of_tokens htokens).symm
  | empty hequation => exact (if_pos (.inr hequation)).symm
  | unreadable hread => exact (withTokens_of_unreadable hread).symm
  | read htokens hequation hread hwritten hname hdescription =>
    rw [withTokens_of_read htokens hequation hread, withFormula]
    simp only [← hwritten, ← hname, ← hdescription]

theorem listedAs_iff : record.ListedAs listed ↔ listed = record.withTokens :=
  ⟨ListedAs.eq_withTokens, fun h => h ▸ record.listedAs_withTokens⟩

theorem ListedAs.name_eq (h : record.ListedAs listed) : listed.name = record.name := by
  cases h with
  | read _ _ _ _ hname => exact hname
  | _ => rfl

theorem ListedAs.withTokens_eq (h : record.ListedAs listed) : listed.withTokens = listed := by
  cases h with
  | tokens htokens => exact withTokens_of_tokens htokens
  | empty hequation => exact if_pos (.inr hequation)
  | unreadable hread => exact withTokens_of_unreadable hread
  | read _ _ _ hwritten _ _ =>
    by_cases htokens : listed.tokens = []
    · rw [htokens] at hwritten
      exact if_pos (.inr hwritten)
    · exact withTokens_of_tokens htokens

end Record

namespace Catalog

variable {catalog : Catalog} {text : Text} {formula : Formula}

theorem ofEquationAnyFunction_of_check (h : catalog.check text = .ok (formula, none)) :
    Formula.ofEquationAnyFunction text = .ok formula :=
  Formula.ofEquationAnyFunction_of_ofEquation (check_eq_ok_iff.1 h).1

theorem text_ne_nil_of_check (h : catalog.check text = .ok (formula, none)) : text ≠ [] := by
  rintro rfl
  rw [check_of_blank Text.blank_nil] at h
  cases h

end Catalog

theorem Record.withTokens_of_check {record : Record} {catalog : Catalog} {formula : Formula}
    (htokens : record.tokens = []) (h : catalog.check record.equation = .ok (formula, none)) :
    record.withTokens = record.withFormula formula :=
  withTokens_of_read htokens (Catalog.text_ne_nil_of_check h) (Catalog.ofEquationAnyFunction_of_check h)

namespace Library

variable {library : Library} {name : Text}

theorem indexOf?_map_withTokens (library : Library) (name : Text) :
    indexOf? (library.map Record.withTokens) name = library.indexOf? name := by
  rw [indexOf?, List.findIdx?_map, indexOf?]
  congr 1
  funext record
  simp only [Function.comp_apply, record.listedAs_withTokens.name_eq]

theorem get?_map_withTokens (library : Library) (name : Text) :
    get? (library.map Record.withTokens) name = (library.get? name).map Record.withTokens := by
  rw [get?_eq, get?_eq, indexOf?_map_withTokens]
  cases library.indexOf? name with
  | none => rfl
  | some index => rw [Option.bind_some, Option.bind_some, List.getElem?_map]

end Library

namespace Notebook

variable {notebook : Notebook} {file : FileState} {library : Library} {equation : Text} {formula : Formula} {levels : Nat}

theorem run_list (h : Library.ofFile (levels - 2) file = .ok library) :
    list.run file levels = (.ok (library.map Record.withTokens), file) := by
  rw [list, Store.run_around, Store.run_bind, Store.list, Store.run_around, Store.run_load, Nat.sub_sub, h]
  rfl

theorem run_get (h : Library.ofFile (levels - 2) file = .ok library) (name : Text) :
    (get name).run file levels =
      ((Library.get? (library.map Record.withTokens) name).elim (.error (.notFound name)) .ok, file) := by
  rw [Library.get?_map_withTokens]
  cases hget : library.get? name with
  | none =>
    have hnone : (Store.get? name).run file (levels - 1) = (.ok (library.get? name), file) := Store.run_get? h name
    rw [get, Store.run_around, Store.run_bind, hnone, hget]
    rfl
  | some record => exact run_get_of_some h hget

theorem create_of_check (hlevels : Library.nesting ≤ levels) (hcheck : notebook.check equation = .ok (formula, none))
    (h : Library.ofFile levels file = .ok library) {name : Text} (hname : name.blank = false)
    (hfree : ∀ other ∈ library, other.name ≠ name.trim) (description : Text) :
    ∃ created next,
      (notebook.create (some name) (some equation) (.str description)).run file (levels + 2) = (.ok created, next) ∧
        created.tokens = formula ∧ (Store.load.run next levels).1 = .ok (library ++ [created]) := by
  obtain ⟨created, hsubmit, htrim, -, htokens⟩ := @Form.exists_submit _ (some name) _ _ hname hcheck description
  have hindex : library.indexOf? created.name = none := by
    rw [Library.indexOf?_eq_none_iff, htrim]
    exact hfree
  have hadd : library.add created = .ok (library ++ [created]) := by rw [Library.add, hindex]
  have hcreate : (notebook.create (some name) (some equation) (.str description)).run file (levels + 2) = _ :=
    @settled_create _ _ _ (levels + 2) h (some name) (some equation) (.str description)
  rw [hsubmit, Except.bind, hadd] at hcreate
  exact ⟨created, _, hcreate, htokens, Store.load_saved _ hlevels⟩

/-- The saved formulas of a file are listed one by one and in order, those with an equation alone with the tokens that
it is read as.  Nothing is left to be read in what is listed, and getting a formula gives the first of its name in the
list, or fails.  An equation that some notebook accepts is listed with the tokens, and so with the fingerprint, that
are saved when that notebook is given it to create a formula under a free name.  Every operation stands around another
one, and that around the loading. -/
theorem list_get_saved (h : (Store.load.run file levels).1 = .ok library) :
    ∃ listed : Library, list.run file (levels + 2) = (.ok listed, file) ∧
      List.Forall₂ Record.ListedAs library listed ∧
      (∀ record ∈ listed, record.withTokens = record) ∧
      (∀ name, (∀ record ∈ listed, record.name ≠ name) →
        (get name).run file (levels + 2) = (.error (.notFound name), file)) ∧
      (∀ name index record, listed.FirstNamed name index → listed[index]? = some record →
        (get name).run file (levels + 2) = (.ok record, file)) ∧
      ∀ (notebook : Notebook) (index : Nat) (saved : Record) (formula : Formula), library[index]? = some saved →
        saved.tokens = [] → notebook.check saved.equation = .ok (formula, none) →
          ∃ record, listed[index]? = some record ∧ record.tokens = formula ∧
            ∀ (elsewhere : FileState) (others : Library) (name description : Text), Library.nesting ≤ levels →
              (Store.load.run elsewhere levels).1 = .ok others → name.blank = false →
              (∀ other ∈ others, other.name ≠ name.trim) →
                ∃ created next, (notebook.create (some name) (some saved.equation) (.str description)).run elsewhere
                    (levels + 2) = (.ok created, next) ∧
                  created.tokens = formula ∧ created.fingerprint = record.fingerprint ∧
                  (Store.load.run next levels).1 = .ok (others ++ [created]) := by
  rw [Store.run_load] at h
  have hget (name : Text) := @run_get file library (levels + 2) h name
  refine ⟨_, run_list h, ?_, ?_, ?_, ?_, ?_⟩
  · rw [List.forall₂_map_right_iff]
    exact List.forall₂_same.2 fun record _ => record.listedAs_withTokens
  · rw [List.forall_mem_map]
    exact fun record _ => record.listedAs_withTokens.withTokens_eq
  · intro name hnone
    rw [hget, Library.get?_eq, Library.indexOf?_eq_none_iff.2 hnone]
    rfl
  · intro name index record hfirst hrecord
    rw [hget, Library.get?_of_indexOf? (Library.firstNamed_iff.1 hfirst) hrecord]
    rfl
  · intro notebook index saved formula hsaved htokens hcheck
    have hread := Record.withTokens_of_check htokens hcheck
    refine ⟨saved.withTokens, by rw [List.getElem?_map, hsaved]; rfl, by rw [hread]; rfl, ?_⟩
    intro elsewhere others name description hlevels hothers hname hfree
    rw [Store.run_load] at hothers
    obtain ⟨created, next, hcreate, hcreated, hnext⟩ := create_of_check hlevels hcheck hothers hname hfree description
    refine ⟨created, next, hcreate, hcreated, Record.fingerprint_eq_of_tokens ?_, hnext⟩
    rw [hcreated, hread]
    rfl

/-- A readable equation, a blank one, and one that is never closed, under the name of the first. -/
theorem list_get_saved_equations_alone :
    let readable : Record := ⟨"A", "old", [], " RSI()>-5", by decide, by decide, by decide, by decide⟩
    let blank : Record := ⟨"B", [], [], " ", by decide, by decide, by decide, by decide⟩
    let unreadable : Record := ⟨"A", [], [], "RSI(", by decide, by decide, by decide, by decide⟩
    let formula : Formula := [⟨.function, "RSI()"⟩, ⟨.comparison, ">"⟩, ⟨.number, "-5"⟩]
    let file : FileState := .contents (Library.encode [readable, blank, unreadable])
    let levels := Json.depthLimit - 2
    (Store.load.run file levels).1 = .ok [readable, blank, unreadable] ∧
      list.run file = (.ok [readable.withFormula formula, blank.withFormula [], unreadable], file) ∧
      (get "A").run file = (.ok (readable.withFormula formula), file) ∧
      (get "C").run file = (.error (.notFound "C"), file) ∧
      ∃ created next, ((Notebook.mk .builtIn).create (some "C") (some readable.equation) (.str [])).run file =
          (.ok created, next) ∧ created.tokens = formula ∧
        created.fingerprint = (readable.withFormula formula).fingerprint := by
  intro readable blank unreadable formula file levels
  have hlevels : Library.nesting ≤ levels := by decide
  have hload : (Store.load.run file levels).1 = .ok [readable, blank, unreadable] := Store.load_saved _ hlevels
  have hall : [readable, blank, unreadable].map Record.withTokens =
      [readable.withFormula formula, blank.withFormula [], unreadable] := by decide +kernel
  obtain ⟨listed, hlist, hlisted, -, hmissing, hfound, hread⟩ := list_get_saved hload
  have hsame : listed = [readable.withFormula formula, blank.withFormula [], unreadable] := by
    rw [← hall]
    simpa [Record.listedAs_iff, List.forall₂_cons_left_iff] using hlisted
  subst hsame
  have hfirst : Library.FirstNamed [readable.withFormula formula, blank.withFormula [], unreadable] "A" 0 :=
    Library.firstNamed_iff.2 (by decide)
  have hcheck : (Notebook.mk .builtIn).check readable.equation = .ok (formula, none) := by decide +kernel
  refine ⟨hload, hlist, hfound "A" 0 _ hfirst rfl, hmissing "C" (by decide), ?_⟩
  obtain ⟨record, ⟨⟩, -, hcreate⟩ := hread ⟨.builtIn⟩ 0 readable formula rfl rfl hcheck
  obtain ⟨created, next, hrun, htokens, hfingerprint, -⟩ := hcreate file _ "C" [] hlevels hload (by decide) (by decide)
  exact ⟨created, next, hrun, htokens, hfingerprint⟩

end Notebook

end Screener
