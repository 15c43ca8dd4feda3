import Screener.Notebook
import Screener.Proofs.Layout
import Screener.Proofs.Stored

namespace Screener

theorem Segment.blank_of_isSpace {segment : Segment} (hfits : segment.Fits) (h : segment.isSpace) :
    segment.text.blank := by
  cases segment with
  | call name body => cases h
  | single lexeme =>
    have hkind : lexeme.kind = .space := by simpa [isSpace] using h
    rw [Fits, hkind] at hfits
    exact hfits.2

namespace Formula

variable {isKnown : Text → Bool} {text : Text}

theorem ofSegments_eq_nil {segments : List Segment} {expectsValue : Bool} (hfits : ∀ segment ∈ segments, segment.Fits)
    (h : ofSegments isKnown expectsValue segments = .ok []) : segments = [] := by
  cases segments with
  | nil => rfl
  | cons segment rest =>
    obtain ⟨token, more, -, hcons, -⟩ := ofSegments_step hfits h
    cases hcons

theorem blank_of_ofEquation_eq_nil (h : ofEquation isKnown text = .ok []) : text.blank := by
  obtain ⟨words, hwords, hnil⟩ := ofEquation_eq_ok_iff.1 h
  obtain ⟨segments, hgroup, rfl⟩ := Fallible.map_eq_ok.1 hwords
  have hgroups := Segment.groups_of_group (fun _ => Lexeme.fits_of_mem_scan) hgroup
  have hfits := hgroups.fits fun _ => Lexeme.fits_of_mem_scan
  have hspaces : ∀ segment ∈ segments, segment.isSpace := by
    have hnone := ofSegments_eq_nil (fun segment hmem => hfits segment (List.mem_of_mem_filter hmem)) hnil
    simpa [List.filter_eq_nil_iff] using hnone
  -- No character is lost, so each one stands in one of the spaces.
  have htext : segments.flatMap Segment.text = text := by
    rw [hgroups.flatMap_text]
    exact flatMap_text_scan 0 text
  apply List.all_eq_true.2
  intro c hc
  rw [← htext] at hc
  obtain ⟨segment, hmem, hc⟩ := List.mem_flatMap.1 hc
  exact List.all_eq_true.1 (Segment.blank_of_isSpace (hfits segment hmem) (hspaces segment hmem)) c hc

theorem ofEquation_eq_nil_iff : ofEquation isKnown text = .ok [] ↔ text.blank := by
  refine ⟨blank_of_ofEquation_eq_nil, fun h => ?_⟩
  exact ofEquation_of_layout ⟨text, [], h, .nil, by simp⟩ isCanonical_nil (by simp [Calls])

theorem ne_nil_of_defect? {formula : Formula} (h : formula.defect? = none) : formula ≠ [] := by
  rintro rfl
  cases h

end Formula

namespace Catalog

variable {catalog : Catalog} {text : Text}

theorem check_of_blank (h : text.blank) : catalog.check text = .ok ([], some (.incomplete .empty)) := by
  rw [check, read, Formula.ofEquation_eq_nil_iff.2 h]
  rfl

theorem check_eq_ok_iff {formula : Formula} {problem : Option Formula.Problem} :
    catalog.check text = .ok (formula, problem) ↔
      catalog.read text = .ok formula ∧ catalog.problem? formula = problem := by
  rw [check, Fallible.map_eq_ok]
  constructor
  · rintro ⟨read, hread, ⟨⟩⟩
    exact ⟨hread, rfl⟩
  · rintro ⟨hread, rfl⟩
    exact ⟨formula, hread, rfl⟩

theorem check_equation {formula : Formula} (h : catalog.check text = .ok (formula, none)) :
    catalog.check formula.equation = .ok (formula, none) := by
  obtain ⟨hread, hproblem⟩ := check_eq_ok_iff.1 h
  obtain ⟨hcanonical, hcalls⟩ := Formula.isCanonical_of_ofEquation hread
  exact check_eq_ok_iff.2 ⟨Formula.ofEquation_of_layout (Formula.layout_equation formula) hcanonical hcalls, hproblem⟩

theorem defect?_of_problem? {formula : Formula} (h : catalog.problem? formula = none) : formula.defect? = none := by
  unfold problem? at h
  split at h
  case h_1 => cases h
  case h_2 hnone => exact hnone

theorem ne_nil_of_check {formula : Formula} (h : catalog.check text = .ok (formula, none)) : formula ≠ [] :=
  Formula.ne_nil_of_defect? (defect?_of_problem? (check_eq_ok_iff.1 h).2)

end Catalog

namespace Form

variable {catalog : Catalog} {name equation : Option Text} {description : Json} {formula : Formula} {result : Record}

theorem readFormula_eq (catalog : Catalog) (equation : Option Text) :
    readFormula catalog equation =
      match catalog.check (equation.getD []) with
      | .error error => .error (.unreadable error)
      | .ok (formula, none) => .ok formula
      | .ok (_, some problem) => .error (if (equation.getD []).blank then .required else .rejected problem) := by
  rw [readFormula]
  generalize equation.getD [] = text
  split
  case isTrue hblank => rw [Catalog.check_of_blank hblank]
  case isFalse hblank =>
    rw [Catalog.check]
    cases hread : catalog.read text with
    | error error => rfl
    | ok formula =>
      have hne : formula.isEmpty = false := by
        rw [Bool.eq_false_iff, ne_eq, List.isEmpty_iff]
        rintro rfl
        exact hblank (Formula.ofEquation_eq_nil_iff.1 hread)
      cases hproblem : catalog.problem? formula <;> simp [Except.map, hne, hproblem]

theorem readFormula_eq_ok_iff :
    readFormula catalog equation = .ok formula ↔ catalog.check (equation.getD []) = .ok (formula, none) := by
  rw [readFormula_eq]
  cases catalog.check (equation.getD []) with
  | error error => simp
  | ok outcome =>
    obtain ⟨read, _ | problem⟩ := outcome <;> simp

theorem readFormula_of_not_accepted {equation : Text} (h : ¬ ∃ formula, catalog.check equation = .ok (formula, none)) :
    ∃ error, readFormula catalog (some equation) = .error error ∧
      (equation.blank → error.message = "Formula is required") ∧
      (∀ unread, catalog.check equation = .error unread → error.message = unread.message) ∧
      ∀ formula problem, equation.blank = false → catalog.check equation = .ok (formula, some problem) →
        error.message = problem.message := by
  have hread := readFormula_eq catalog (some equation)
  rw [Option.getD_some] at hread
  cases hcheck : catalog.check equation with
  | error unread =>
    rw [hcheck] at hread
    refine ⟨.unreadable unread, hread, ?_, ?_, by simp⟩
    · intro hblank
      rw [Catalog.check_of_blank hblank] at hcheck
      cases hcheck
    · rintro _ ⟨⟩
      rfl
  | ok outcome =>
    obtain ⟨formula, _ | problem⟩ := outcome
    · exact absurd ⟨formula, hcheck⟩ h
    · rw [hcheck] at hread
      refine ⟨_, hread, ?_, by simp, ?_⟩
      · intro hblank
        rw [if_pos hblank]
        rfl
      · rintro _ _ hblank ⟨⟩
        rw [if_neg (by simp [hblank])]
        rfl

theorem record_eq_ok (h : record name formula description = .ok result) :
    result.name = (name.getD []).trim ∧ result.tokens = formula := by
  unfold record at h
  cases hdescription : Record.descriptionText description with
  | error kind =>
    rw [hdescription] at h
    cases h
  | ok text =>
    rw [hdescription] at h
    simp only [Except.mapError, bind, Except.bind] at h
    split at h
    case h_1 found hmake =>
      cases h
      obtain ⟨hname, -, htokens, -⟩ := Record.make?_eq_some_iff.1 hmake
      exact ⟨hname.symm, htokens.symm⟩
    case h_2 => cases h

theorem exists_record (hname : (name.getD []).blank = false) (formula : Formula) (description : Text) :
    ∃ result, record name formula (.str description) = .ok result ∧ result.description = description.trim := by
  have htrim : (name.getD []).trim ≠ [] := by
    rw [ne_eq, Text.trim_eq_nil, hname]
    exact Bool.false_ne_true
  rw [record, Record.descriptionText_eq]
  simp only [Except.mapError, bind, Except.bind, Record.make?, dif_neg htrim, Text.trim_trim]
  exact ⟨_, rfl, rfl⟩

theorem submit_eq_ok_iff :
    submit catalog name equation description = .ok result ↔
      ∃ formula, catalog.check (equation.getD []) = .ok (formula, none) ∧ (name.getD []).blank = false ∧
        record name formula description = .ok result := by
  rw [submit]
  cases hread : readFormula catalog equation with
  | error error =>
    simp only [reduceCtorEq, false_iff, not_exists, not_and]
    intro formula hcheck
    rw [readFormula_eq_ok_iff.2 hcheck] at hread
    cases hread
  | ok formula =>
    have hcheck := readFormula_eq_ok_iff.1 hread
    cases hname : (name.getD []).blank <;> simp [hcheck, isNameMissing, hname]

theorem submit_of_not_accepted {error : FormulaError} (h : readFormula catalog equation = .error error)
    (name : Option Text) (description : Json) :
    submit catalog name equation description = .error (.invalid ⟨(name.getD []).blank, some error⟩) := by
  rw [submit, h]
  rfl

theorem submit_of_blank {equation : Text} (hname : (name.getD []).blank)
    (hcheck : catalog.check equation = .ok (formula, none)) (description : Json) :
    submit catalog name (some equation) description = .error (.invalid ⟨true, none⟩) := by
  rw [submit, readFormula_eq_ok_iff.2 hcheck]
  exact if_pos hname

theorem exists_submit {equation : Text} (hname : (name.getD []).blank = false)
    (hcheck : catalog.check equation = .ok (formula, none)) (description : Text) :
    ∃ result, submit catalog name (some equation) (.str description) = .ok result ∧
      result.name = (name.getD []).trim ∧ result.description = description.trim ∧ result.tokens = formula := by
  obtain ⟨result, hrecord, hdescription⟩ := exists_record hname formula description
  obtain ⟨htrim, htokens⟩ := record_eq_ok hrecord
  exact ⟨result, submit_eq_ok_iff.2 ⟨formula, hcheck, hname, hrecord⟩, htrim, hdescription, htokens⟩

theorem mem_entries_iff {errors : Errors} {field message : Text} :
    (field, message) ∈ errors.entries ↔
      (errors.nameRequired ∧ field = "name" ∧ message = "Name is required") ∨
        ∃ error, errors.formula = some error ∧ field = "formula" ∧ message = error.message := by
  rw [Errors.entries, List.mem_append]
  apply or_congr
  · cases errors.nameRequired with
    | true => simp only [if_true, List.mem_singleton, Prod.mk.injEq, true_and]
    | false => simp only [Bool.false_eq_true, if_false, List.not_mem_nil, false_and]
  · cases errors.formula with
    | none => simp only [Option.map_none, Option.toList_none, List.not_mem_nil, reduceCtorEq, false_and, exists_false]
    | some error =>
      simp only [Option.map_some, Option.toList_some, List.mem_singleton, Prod.mk.injEq, Option.some.injEq,
        exists_eq_left']

theorem name_mem_entries_iff {errors : Errors} :
    (∃ message, (("name" : Text), message) ∈ errors.entries) ↔ errors.nameRequired := by
  have hne : ("name" : Text) ≠ "formula" := by decide
  simp only [mem_entries_iff, hne, true_and, false_and, and_false, exists_false, or_false]
  exact ⟨fun ⟨_, hname, _⟩ => hname, fun hname => ⟨_, hname, rfl⟩⟩

theorem formula_mem_entries_iff {errors : Errors} {message : Text} :
    (("formula" : Text), message) ∈ errors.entries ↔ ∃ error, errors.formula = some error ∧ message = error.message := by
  have hne : ("formula" : Text) ≠ "name" := by decide
  simp only [mem_entries_iff, hne, true_and, false_and, and_false, false_or]

theorem errors_of_submit {equation description : Text} {fault : Fault}
    (h : submit catalog name (some equation) (.str description) = .error fault) :
    ∃ errors, fault = .invalid errors ∧
      ((∃ message, (("name" : Text), message) ∈ errors.entries) ↔ (name.getD []).blank) ∧
      ((∃ message, (("formula" : Text), message) ∈ errors.entries) ↔
        ¬ ∃ formula, catalog.check equation = .ok (formula, none)) ∧
      ∀ message, (("formula" : Text), message) ∈ errors.entries →
        (equation.blank → message = "Formula is required") ∧
        (∀ error, catalog.check equation = .error error → message = error.message) ∧
        ∀ formula problem, equation.blank = false → catalog.check equation = .ok (formula, some problem) →
          message = problem.message := by
  by_cases haccepted : ∃ formula, catalog.check equation = .ok (formula, none)
  · obtain ⟨formula, hcheck⟩ := haccepted
    cases hname : (name.getD []).blank with
    | false =>
      obtain ⟨result, hresult, -⟩ := exists_submit hname hcheck description
      rw [hresult] at h
      cases h
    | true =>
      rw [submit_of_blank hname hcheck] at h
      cases h
      have hnone (message : Text) : (("formula" : Text), message) ∉ Errors.entries ⟨true, none⟩ := by
        intro hmem
        obtain ⟨_, ⟨⟩, -⟩ := formula_mem_entries_iff.1 hmem
      refine ⟨_, rfl, name_mem_entries_iff, ?_, fun message hmem => absurd hmem (hnone message)⟩
      exact ⟨fun ⟨message, hmem⟩ => absurd hmem (hnone message), fun hrefused => absurd ⟨formula, hcheck⟩ hrefused⟩
  · obtain ⟨error, hread, hmessage⟩ := readFormula_of_not_accepted haccepted
    rw [submit_of_not_accepted hread] at h
    cases h
    refine ⟨_, rfl, name_mem_entries_iff, ?_, ?_⟩
    · exact ⟨fun _ => haccepted, fun _ => ⟨_, formula_mem_entries_iff.2 ⟨error, rfl, rfl⟩⟩⟩
    · intro message hmem
      obtain ⟨_, ⟨⟩, rfl⟩ := formula_mem_entries_iff.1 hmem
      exact hmessage

end Form

namespace Notebook

theorem run_submit (notebook : Notebook) (name equation : Option Text) (description : Json) (file : FileState)
    (levels : Nat) :
    (notebook.submit name equation description).run file levels =
      (Form.submit notebook.catalog name equation description, file) :=
  Store.run_ofExcept _ file levels

/-- A form gives a record exactly when its name is not blank and the check of its equation finds no problem, and then
the record has the formula of the check.  Otherwise it fails with an error for each field that is wrong, and says of
the formula what the check says, or that it is missing if its text is blank. -/
theorem submit_agrees_with_check (notebook : Notebook) (name : Option Text) (equation description : Text)
    (file : FileState) :
    let built := ((notebook.submit name (some equation) (.str description)).run file).1
    let accepted := ∃ formula, notebook.check equation = .ok (formula, none)
    ((∃ record, built = .ok record) ↔ (name.getD []).blank = false ∧ accepted) ∧
      (∀ record, built = .ok record →
        notebook.check equation = .ok (record.tokens, none) ∧ name.map Text.trim = some record.name) ∧
      ∀ fault, built = .error fault → ∃ errors, fault = .invalid errors ∧
        ((∃ message, (("name" : Text), message) ∈ errors.entries) ↔ (name.getD []).blank) ∧
        ((∃ message, (("formula" : Text), message) ∈ errors.entries) ↔ ¬ accepted) ∧
        ∀ message, (("formula" : Text), message) ∈ errors.entries →
          (equation.blank → message = "Formula is required") ∧
          (∀ error, notebook.check equation = .error error → message = error.message) ∧
          ∀ formula problem, equation.blank = false → notebook.check equation = .ok (formula, some problem) →
            message = problem.message := by
  intro built accepted
  have hbuilt : built = Form.submit notebook.catalog name (some equation) (.str description) :=
    congrArg Prod.fst (notebook.run_submit name (some equation) (.str description) file _)
  refine ⟨⟨?_, ?_⟩, ?_, ?_⟩
  · rintro ⟨record, hrecord⟩
    obtain ⟨formula, hcheck, hname, -⟩ := Form.submit_eq_ok_iff.1 (hbuilt ▸ hrecord)
    exact ⟨hname, formula, hcheck⟩
  · rintro ⟨hname, formula, hcheck⟩
    obtain ⟨record, hrecord, -⟩ := Form.exists_submit hname hcheck description
    exact ⟨record, hbuilt.trans hrecord⟩
  · intro record hrecord
    obtain ⟨formula, hcheck, hname, hmade⟩ := Form.submit_eq_ok_iff.1 (hbuilt ▸ hrecord)
    obtain ⟨htrim, htokens⟩ := Form.record_eq_ok hmade
    refine ⟨htokens ▸ hcheck, ?_⟩
    cases name with
    | none => cases hname
    | some given => exact congrArg some htrim.symm
  · intro fault hfault
    exact Form.errors_of_submit (hbuilt ▸ hfault)

/-- A form with both fields filled in, and one without a name and with a number after a call. -/
theorem submit_agrees_with_check_builtIn :
    let notebook : Notebook := ⟨.builtIn⟩
    let complete := ((notebook.submit (some " A") (some "RSI()>-5") (.str [])).run .absent).1
    let refused := ((notebook.submit none (some "RSI() 5 > 3") (.str [])).run .absent).1
    (∃ record, complete = .ok record ∧ record.tokens = [⟨.function, "RSI()"⟩, ⟨.comparison, ">"⟩, ⟨.number, "-5"⟩]) ∧
      ∃ errors, refused = .error (.invalid errors) ∧ (∃ message, (("name" : Text), message) ∈ errors.entries) ∧
        (("formula" : Text), ("a number must follow an operator (position 1)" : Text)) ∈ errors.entries := by
  intro notebook complete refused
  constructor
  · have hcheck : notebook.check "RSI()>-5" =
        .ok ([⟨.function, "RSI()"⟩, ⟨.comparison, ">"⟩, ⟨.number, "-5"⟩], none) := by decide +kernel
    obtain ⟨hbuilt, htokens, -⟩ := submit_agrees_with_check notebook (some " A") "RSI()>-5" [] .absent
    obtain ⟨record, hrecord⟩ := hbuilt.2 ⟨by decide, _, hcheck⟩
    have hsame := Except.ok.inj (hcheck.symm.trans (htokens record hrecord).1)
    exact ⟨record, hrecord, (congrArg Prod.fst hsame).symm⟩
  · have hcheck : notebook.check "RSI() 5 > 3" =
        .ok ([⟨.function, "RSI()"⟩, ⟨.number, "5"⟩, ⟨.comparison, ">"⟩, ⟨.number, "3"⟩],
          some (.misplaced .adjacentNumber 1)) := by decide +kernel
    have hrefused : ¬ ∃ formula, notebook.check "RSI() 5 > 3" = .ok (formula, none) := by
      rw [hcheck]
      rintro ⟨_, ⟨⟩⟩
    obtain ⟨hbuilt, -, hfailed⟩ := submit_agrees_with_check notebook none "RSI() 5 > 3" [] .absent
    cases hresult : refused with
    | ok record => exact absurd (hbuilt.1 ⟨record, hresult⟩).2 hrefused
    | error fault =>
      obtain ⟨errors, rfl, hname, hformula, hmessage⟩ := hfailed fault hresult
      obtain ⟨message, hmem⟩ := hformula.2 hrefused
      have htext : message = "a number must follow an operator (position 1)" :=
        ((hmessage message hmem).2.2 _ _ rfl hcheck).trans (by decide +kernel)
      exact ⟨errors, rfl, hname.2 rfl, htext ▸ hmem⟩

end Notebook

end Screener
