import Screener.Proofs.Built
import Screener.Proofs.Details

/-!
What is saved of an edit session.  Saving looks at what a formula lacks, and an update of its details reads the
equation again and looks at the adjacency rules too.  So a formula in which a deletion has put a number after an
operand can be saved, but its details can then not be changed, or change what it says.
-/

namespace Screener

namespace Library

variable {library changed : Library} {name : Text} {record : Record}

theorem get?_of_add (h : library.add record = .ok changed) : changed.get? record.name = some record := by
  unfold add at h
  split at h
  case h_1 => cases h
  case h_2 hnone =>
    cases h
    have hnew : library.find? (·.name == record.name) = none := by
      simpa using indexOf?_eq_none_iff.1 hnone
    simp [get?, List.find?_append, hnew]

theorem indexOf?_set {index : Nat} (hlt : index < library.length)
    (hfree : ∀ other, library.indexOf? record.name = some other → other = index) :
    indexOf? (library.set index record) record.name = some index := by
  rw [← firstNamed_iff]
  refine ⟨⟨record, by simp [hlt], rfl⟩, ?_⟩
  intro i hi other hother
  rw [List.getElem?_set_ne (Nat.ne_of_gt hi)] at hother
  cases hindex : library.indexOf? record.name with
  | none => exact indexOf?_eq_none_iff.1 hindex other (List.mem_of_getElem? hother)
  | some first =>
    obtain rfl := hfree first hindex
    exact (firstNamed_iff.2 hindex).first i hi other hother

theorem get?_of_replace (h : library.replace name record = .ok changed) :
    changed.get? record.name = some record := by
  have hset {index : Nat} (hindex : library.indexOf? name = some index)
      (hfree : ∀ other, library.indexOf? record.name = some other → other = index) :
      Library.get? (library.set index record) record.name = some record := by
    obtain ⟨⟨old, hold, -⟩, -⟩ := firstNamed_iff.2 hindex
    obtain ⟨hlt, -⟩ := List.getElem?_eq_some_iff.1 hold
    exact get?_of_indexOf? (indexOf?_set hlt hfree) (by simp [hlt])
  unfold replace at h
  split at h
  case h_1 => cases h
  case h_2 index hindex =>
    split at h
    case h_1 other hother =>
      split at h
      case isTrue heq =>
        cases h
        exact hset hindex (by simp [hother, heq])
      case isFalse => cases h
    case h_2 hnone =>
      cases h
      exact hset hindex (by simp [hnone])

theorem get?_of_put {replacing : Option Text} (h : library.put record replacing = .ok changed) :
    changed.get? record.name = some record := by
  cases replacing with
  | none => exact get?_of_add h
  | some other => exact get?_of_replace h

end Library

namespace Notebook

variable {notebook : Notebook} {file next : FileState} {library : Library} {record saved : Record}

theorem exists_of_saveSession {session : Session} {given replacing : Option Text} {description : Json}
    (h : (saveSession session given description replacing).run file = (.ok saved, next)) :
    Form.commit given session.formula description = .ok saved ∧
      ∃ library : Library, library.IsKeptIn next ∧ library.get? saved.name = some saved := by
  rw [settled_saveSession] at h
  obtain ⟨changed, hresult, rfl⟩ := Store.settled_eq_ok h
  obtain ⟨record, hcommit, hput⟩ := Fallible.bind_eq_ok.1 hresult
  obtain ⟨other, hother, hrecord⟩ := Fallible.map_eq_ok.1 hput
  obtain ⟨library, -, hlibrary⟩ := Fallible.bind_eq_ok.1 hother
  cases hrecord
  exact ⟨hcommit, changed, changed.isKeptIn_encode, Library.get?_of_put hlibrary⟩

theorem update_description_iff (h : library.IsKeptIn file) (hget : library.get? record.name = some record)
    (htokens : record.tokens ≠ []) (details : Text) :
    (∃ updated after changed, (notebook.update record.name none (some (.str details)) none).run file = (.ok updated, after) ∧
        (Store.load.run after).1 = .ok changed ∧ Library.get? changed record.name = some updated ∧
        updated.tokens = record.tokens) ↔
      notebook.catalog.check record.equation = .ok (record.tokens, none) := by
  constructor
  · rintro ⟨updated, after, changed, hupdate, -, -, hsame⟩
    rw [settled_update h (by decide) hget htokens] at hupdate
    obtain ⟨replaced, hresult, -⟩ := Store.settled_eq_ok hupdate
    obtain ⟨submitted, hsubmit, hreplace⟩ := Fallible.bind_eq_ok.1 hresult
    obtain ⟨_, -, ⟨⟩⟩ := Fallible.map_eq_ok.1 hreplace
    obtain ⟨formula, hcheck, -, hrecord⟩ := Form.submit_eq_ok_iff.1 hsubmit
    rwa [← hsame, (Form.record_eq_ok hrecord).2]
  · intro hcheck
    rw [Library.get?_eq] at hget
    obtain ⟨index, hindex, hrecord⟩ := Option.bind_eq_some_iff.1 hget
    obtain ⟨updated, hrelabels, hupdate⟩ := update_description h hindex hrecord hcheck details
    have hname : updated.name = record.name := hrelabels.name.trans record.trim_name
    obtain ⟨hlt, -⟩ := List.getElem?_eq_some_iff.1 hrecord
    have hfound : Library.indexOf? (library.set index updated) updated.name = some index := by
      refine Library.indexOf?_set hlt fun other hother => ?_
      rw [hname, hindex] at hother
      exact (Option.some.inj hother).symm
    refine ⟨updated, _, _, hupdate, Store.load_saved _ (by decide), ?_, hrelabels.tokens⟩
    rw [← hname]
    exact Library.get?_of_indexOf? hfound (by simp [hlt])

end Notebook

theorem Formula.check_equation_iff {catalog : Catalog} {formula : Formula} (hoptions : catalog.HasPlainOptions)
    (hbuilt : formula.IsBuilt catalog) (hcomplete : formula.defect? = none) :
    catalog.check formula.equation = .ok (formula, none) ↔ formula.adjacencyProblem = none := by
  have hkinded : formula.IsKinded := fun token hmem => (hbuilt token hmem).isKinded
  rw [adjacencyProblem_eq_none_iff hkinded]
  constructor
  · intro hcheck
    exact ((problem?_eq_none_iff hkinded).1 (Catalog.check_eq_ok_iff.1 hcheck).2).2.1
  · intro hplaced
    exact check_equation_of_isBuilt hoptions hbuilt hplaced hcomplete

theorem Catalog.orBuiltIn_builtIn : orBuiltIn builtIn = builtIn := by
  rw [orBuiltIn, ite_self]

theorem Session.isBuilt_run {session : Session} (h : session.formula = []) (edits : List Edit) :
    (session.run edits).1.formula.IsBuilt session.catalog := by
  apply run_induction (P := fun formula => formula.IsBuilt session.catalog)
  · exact fun edit _ formula changed hbuilt happly => Formula.isBuilt_apply happly hbuilt
  · rw [h]
    simp [Formula.IsBuilt]

namespace Notebook

/-- A new session is saved with the formula that its edits have made, under the trimmed name.  An update of the
description of this record keeps the tokens exactly when the formula follows the adjacency rules: a deletion may have
left a number after an operand, which saving does not look at. -/
theorem update_saved_session_iff {session : Session} {edits : List Edit} {start opened before next : FileState}
    {name : Text} {description : Json} {replacing : Option Text} {saved : Record}
    (hopen : ((Notebook.mk .builtIn).openSession none).run start = (.ok session, opened))
    (hsave : (saveSession (session.run edits).1 (some name) description replacing).run before = (.ok saved, next)) :
    let formula := (session.run edits).1.formula
    saved.name = name.trim ∧ saved.tokens = formula ∧ ∀ details : Text,
      (∃ updated after library,
        ((Notebook.mk .builtIn).update saved.name none (some (.str details)) none).run next = (.ok updated, after) ∧
          (Store.load.run after).1 = .ok library ∧ Library.get? library saved.name = some updated ∧
          updated.tokens = formula) ↔
        formula.adjacencyProblem = none := by
  intro formula
  obtain ⟨hcommit, library, hnext, hget⟩ := exists_of_saveSession hsave
  obtain ⟨hname, htokens⟩ : saved.name = name.trim ∧ saved.tokens = formula :=
    Form.record_eq_ok (Form.commit_eq_ok hcommit).2
  have hcomplete := Form.defect?_of_commit hcommit
  have hne := Formula.ne_nil_of_defect? hcomplete
  have hsession : session.catalog = .builtIn ∧ session.formula = [] := by
    cases hopen
    exact ⟨Catalog.orBuiltIn_builtIn, rfl⟩
  -- A deletion removes tokens and makes none, so all of them are built even where they may not stand.
  have hbuilt : saved.tokens.IsBuilt .builtIn := by
    rw [htokens, ← hsession.1]
    exact Session.isBuilt_run hsession.2 edits
  refine ⟨hname, htokens, fun details => ?_⟩
  rw [← htokens, update_description_iff hnext hget hne details, saved.equation_eq hne]
  exact Formula.check_equation_iff Catalog.hasPlainOptions_builtIn hbuilt hcomplete

/-- A call after another one, with the operator between them deleted. -/
theorem update_saved_session_iff_calls :
    let session := Session.start .builtIn []
    let edits : List Edit := [.putCall "rsi" [] none, .appendOperator "*", .putCall "OBV" [] none, .appendOperator ">",
      .appendNumber (.str "-5"), .delete 1]
    let saved : Record := ⟨"A", "b", [⟨.function, "RSI(CLOSE, 0, 14)"⟩, ⟨.function, "OBV(0)"⟩, ⟨.comparison, ">"⟩,
      ⟨.number, "-5"⟩], "RSI(CLOSE, 0, 14) OBV(0) > -5", by decide, by decide, by decide, by decide⟩
    let next := FileState.contents (Library.encode [saved])
    ((Notebook.mk .builtIn).openSession none).run .absent = (.ok session, .absent) ∧
      (saveSession (session.run edits).1 (some " A ") (.str "b") none).run .absent = (.ok saved, next) ∧
      ∃ updated after library,
        ((Notebook.mk .builtIn).update "A" none (some (.str "c")) none).run next = (.ok updated, after) ∧
          (Store.load.run after).1 = .ok library ∧ Library.get? library "A" = some updated ∧
          updated.tokens = saved.tokens := by
  intro session edits saved next
  have hopen : ((Notebook.mk .builtIn).openSession none).run .absent = (.ok session, .absent) := rfl
  have hrun : (session.run edits).1.formula = saved.tokens := by decide +kernel
  have hcommit : Form.commit (some " A ") saved.tokens (.str "b") = .ok saved := by decide +kernel
  have hsave : (saveSession (session.run edits).1 (some " A ") (.str "b") none).run .absent = (.ok saved, next) := by
    rw [settled_saveSession, hrun, hcommit]
    rfl
  obtain ⟨-, hformula, hupdate⟩ := update_saved_session_iff hopen hsave
  rw [← hformula] at hupdate
  exact ⟨hopen, hsave, (hupdate "c").2 (by decide)⟩

/-- A signed number after a call, with the operator between them deleted: an update of the description takes the sign
for an operator. -/
theorem update_after_deletion :
    let session := Session.start .builtIn []
    let edits : List Edit := [.putCall "RSI" [] none, .appendOperator "+", .appendNumber (.str "-5"),
      .appendOperator ">", .appendNumber (.str "70"), .delete 1]
    let saved : Record := ⟨"A", [], [⟨.function, "RSI(CLOSE, 0, 14)"⟩, ⟨.number, "-5"⟩, ⟨.comparison, ">"⟩,
      ⟨.number, "70"⟩], "RSI(CLOSE, 0, 14) -5 > 70", by decide, by decide, by decide, by decide⟩
    let changed : Record := ⟨"A", "d", [⟨.function, "RSI(CLOSE, 0, 14)"⟩, ⟨.operator, "-"⟩, ⟨.number, "5"⟩,
      ⟨.comparison, ">"⟩, ⟨.number, "70"⟩], "RSI(CLOSE, 0, 14) - 5 > 70", by decide, by decide, by decide, by decide⟩
    ((Notebook.mk .builtIn).openSession none).run .absent = (.ok session, .absent) ∧
      (saveSession (session.run edits).1 (some "A") (.str []) none).run .absent =
        (.ok saved, .contents (Library.encode [saved])) ∧
      ((Notebook.mk .builtIn).update "A" none (some (.str "d")) none).run (.contents (Library.encode [saved])) =
        (.ok changed, .contents (Library.encode [changed])) ∧
      changed.tokens ≠ saved.tokens := by
  intro session edits saved changed
  have hrun : (session.run edits).1.formula = saved.tokens := by decide +kernel
  have hcommit : Form.commit (some "A") saved.tokens (.str []) = .ok saved := by decide +kernel
  have hsubmit : Form.submit .builtIn (some "A") (some saved.equation) (.str "d") = .ok changed := by decide +kernel
  refine ⟨rfl, ?_, ?_, by decide⟩
  · rw [settled_saveSession, hrun, hcommit]
    rfl
  · rw [settled_update (Library.isKeptIn_encode [saved]) (by decide) rfl (List.cons_ne_nil _ _), Option.getD_none, hsubmit]
    rfl

end Notebook

end Screener
