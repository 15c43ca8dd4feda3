import Screener.Record
import Screener.Proofs.Outcomes

namespace Screener

namespace Library

variable {library : Library} {name : Text} {record : Record} {index : Nat}

theorem indexOf?_of_nodup (hnodup : (library.map Record.name).Nodup) (hget : library[index]? = some record) :
    library.indexOf? record.name = some index := by
  rw [← firstNamed_iff]
  refine ⟨⟨record, hget, rfl⟩, ?_⟩
  intro i hi other hother hname
  obtain ⟨hlt, -⟩ := List.getElem?_eq_some_iff.1 hother
  have hsame : (library.map Record.name)[i]? = (library.map Record.name)[index]? := by
    rw [List.getElem?_map, List.getElem?_map, hother, hget, Option.map_some, Option.map_some, hname]
  exact absurd ((List.getElem?_inj (by simpa using hlt) hnodup).1 hsame) (Nat.ne_of_lt hi)

theorem get?_of_indexOf? (hindex : library.indexOf? name = some index) (hget : library[index]? = some record) :
    library.get? name = some record := by
  rw [get?_eq, hindex, Option.bind_some, hget]

theorem replace_of_free (hindex : library.indexOf? name = some index)
    (hfree : ∀ other, library.indexOf? record.name = some other → other = index) :
    library.replace name record = .ok (library.set index record) := by
  rw [replace, hindex]
  cases hother : library.indexOf? record.name with
  | none => rfl
  | some other => exact if_pos (hfree other hother)

theorem replace_of_taken {other : Nat} (hindex : library.indexOf? name = some index)
    (htaken : library.indexOf? record.name = some other) (hne : other ≠ index) :
    library.replace name record = .error (.duplicate record.name) := by
  rw [replace, hindex, htaken]
  exact if_neg hne

end Library

namespace Record

variable {record changed : Record} {name description : Text}

structure Relabels (record : Record) (name description : Text) (changed : Record) : Prop where
  name : changed.name = name.trim
  description : changed.description = description.trim
  tokens : changed.tokens = record.tokens
  equation : changed.equation = record.equation
  fingerprint : changed.fingerprint = record.fingerprint

theorem relabels_of_tokens (hne : record.tokens ≠ []) (hname : changed.name = name.trim)
    (hdescription : changed.description = description.trim) (htokens : changed.tokens = record.tokens) :
    record.Relabels name description changed := by
  refine ⟨hname, hdescription, htokens, ?_, ?_⟩
  · rw [changed.equation_eq (htokens ▸ hne), record.equation_eq hne, htokens]
  · rw [fingerprint, fingerprintText, htokens]
    rfl

end Record

namespace Notebook

variable {notebook : Notebook} {file : FileState} {library : Library} {record : Record} {name : Text} {index : Nat}

theorem update_details (h : library.IsKeptIn file) (hindex : library.indexOf? name = some index)
    (hget : library[index]? = some record) (haccepted : notebook.catalog.check record.equation = .ok (record.tokens, none))
    (description : Text) (newName : Option Text) :
    let given := newName.getD record.name
    let outcome := (notebook.update name none (some (.str description)) newName).run file
    (given.blank ∧ outcome = (.error (.invalid ⟨true, none⟩), file)) ∨
      (given.blank = false ∧ (∃ other, library.indexOf? given.trim = some other ∧ other ≠ index) ∧
        outcome = (.error (.duplicate given.trim), file)) ∨
      (given.blank = false ∧ (∀ other, library.indexOf? given.trim = some other → other = index) ∧
        ∃ changed, record.Relabels given description changed ∧
          outcome = (.ok changed, .contents (Library.encode (library.set index changed)))) := by
  intro given outcome
  have htokens := Catalog.ne_nil_of_check haccepted
  have houtcome : outcome = _ := settled_update h (by decide) (Library.get?_of_indexOf? hindex hget) htokens description newName
  cases hblank : given.blank with
  | true =>
    rw [@Form.submit_of_blank _ (some given) _ _ hblank haccepted] at houtcome
    exact .inl ⟨rfl, houtcome⟩
  | false =>
    obtain ⟨changed, hsubmit, hname, hdescription, hchanged⟩ :=
      @Form.exists_submit _ (some given) _ _ hblank haccepted description
    rw [hsubmit, Except.bind] at houtcome
    rw [Option.getD_some] at hname
    by_cases hfree : ∀ other, library.indexOf? given.trim = some other → other = index
    · rw [Library.replace_of_free hindex (hname ▸ hfree)] at houtcome
      exact .inr (.inr ⟨rfl, hfree, changed, Record.relabels_of_tokens htokens hname hdescription hchanged, houtcome⟩)
    · push Not at hfree
      obtain ⟨other, htaken, hne⟩ := hfree
      rw [Library.replace_of_taken hindex (hname ▸ htaken) hne, hname] at houtcome
      exact .inr (.inl ⟨rfl, ⟨other, htaken, hne⟩, houtcome⟩)

theorem update_description (h : library.IsKeptIn file) (hindex : library.indexOf? record.name = some index)
    (hget : library[index]? = some record) (haccepted : notebook.catalog.check record.equation = .ok (record.tokens, none))
    (description : Text) :
    ∃ changed, record.Relabels record.name description changed ∧
      (notebook.update record.name none (some (.str description)) none).run file =
        (.ok changed, .contents (Library.encode (library.set index changed))) := by
  rcases update_details h hindex hget haccepted description none with
    ⟨hblank, -⟩ | ⟨-, ⟨other, htaken, hne⟩, -⟩ | ⟨-, -, hchanged⟩
  · cases record.blank_name.symm.trans hblank
  · rw [Option.getD_none, record.trim_name, hindex] at htaken
    cases htaken
    exact absurd rfl hne
  · exact hchanged

def Request.savesSession : Request → Bool
  | .saveSession _ _ _ _ => true
  | _ => false

theorem Request.Makes.check_equation {catalog : Catalog} {request : Request} (hrequest : request.savesSession = false)
    (h : request.Makes catalog record) : catalog.check record.equation = .ok (record.tokens, none) := by
  have hsubmit {name equation : Option Text} {description : Json}
      (h : Form.submit catalog name equation description = .ok record) :
      catalog.check record.equation = .ok (record.tokens, none) := by
    obtain ⟨formula, hcheck, -, hrecord⟩ := Form.submit_eq_ok_iff.1 h
    obtain rfl := (Form.record_eq_ok hrecord).2
    rw [record.equation_eq (Catalog.ne_nil_of_check hcheck)]
    exact Catalog.check_equation hcheck
  cases h with
  | create h => exact hsubmit h
  | update h => exact hsubmit h
  | saveSession => cases hrequest

/-- After any requests but those that save an edit session, an update of name and description is refused only for a
new name that is blank or that of another record; otherwise it leaves the formula, its place, and all other records. -/
theorem update_details_fileAfter {notebook : Notebook} {requests : List Request}
    (hrequests : ∀ request ∈ requests, request.savesSession = false) :
    let file := notebook.fileAfter .absent requests
    ∃ library : Library, (Store.load.run file).1 = .ok library ∧
      ∀ (index : Nat) (record : Record), library[index]? = some record →
        ∀ (description : Text) (newName : Option Text),
          let outcome := (notebook.update record.name none (some (.str description)) newName).run file
          (outcome = (.error (.invalid ⟨true, none⟩), file) ∧ ∃ name, newName = some name ∧ name.blank) ∨
          (∃ name, newName = some name ∧ outcome = (.error (.duplicate name.trim), file) ∧
            ∃ other taken, library[other]? = some taken ∧ other ≠ index ∧ taken.name = name.trim) ∨
          ∃ changed next, outcome = (.ok changed, next) ∧
            record.Relabels (newName.getD record.name) description changed ∧
              (Store.load.run next).1 = .ok (library.set index changed) := by
  intro file
  -- The invariant of the run: every record is accepted as text, and with the tokens that it has.
  have haccepted : Store.Holds (fun library => library.IsSound ∧
      ∀ record ∈ library, notebook.catalog.check record.equation = .ok (record.tokens, none)) file := by
    refine holds_fileAfter (fun request hmem => .and (keeps_perform notebook request) ?_) ?_
    · exact keeps_forall_perform fun record hmakes => hmakes.check_equation (hrequests request hmem)
    · exact ⟨[], Library.isKeptIn_absent, ⟨List.nodup_nil, by simp⟩, by simp⟩
  obtain ⟨library, hload, hsound, hall⟩ := haccepted
  refine ⟨library, by rw [Store.run_load, hload.ofFile (by decide)], ?_⟩
  intro index record hget description newName outcome
  have hindex := Library.indexOf?_of_nodup hsound.nodup_names hget
  have hcheck := hall record (List.mem_of_getElem? hget)
  cases newName with
  | none =>
    obtain ⟨changed, hrelabels, houtcome⟩ := update_description hload hindex hget hcheck description
    exact .inr (.inr ⟨changed, _, houtcome, hrelabels, Store.load_saved _ (by decide)⟩)
  | some name =>
    rcases update_details hload hindex hget hcheck description (some name) with
      ⟨hblank, houtcome⟩ | ⟨-, ⟨other, htaken, hne⟩, houtcome⟩ | ⟨-, -, changed, hrelabels, houtcome⟩
    · exact .inl ⟨houtcome, name, rfl, hblank⟩
    · obtain ⟨⟨taken, hother, hname⟩, -⟩ := Library.firstNamed_iff.2 htaken
      exact .inr (.inl ⟨name, rfl, houtcome, other, taken, hother, hne, hname⟩)
    · exact .inr (.inr ⟨changed, _, houtcome, hrelabels, Store.load_saved _ (by decide)⟩)

/-- A formula with a signed number and one that ends with two calls: the first gets a new name and a description. -/
theorem update_details_fileAfter_two :
    let notebook : Notebook := ⟨.builtIn⟩
    let requests : List Request := [.create (some " A ") (some "RSI()>-5") .null,
      .create (some "B") (some "1 < OBV() MFI(7)") (.str "b ")]
    let first : Record := ⟨"A", [], [⟨.function, "RSI()"⟩, ⟨.comparison, ">"⟩, ⟨.number, "-5"⟩], "RSI() > -5",
      by decide, by decide, by decide, by decide⟩
    let second : Record := ⟨"B", "b", [⟨.number, "1"⟩, ⟨.comparison, "<"⟩, ⟨.function, "OBV()"⟩, ⟨.function, "MFI(7)"⟩],
      "1 < OBV() MFI(7)", by decide, by decide, by decide, by decide⟩
    (∀ request ∈ requests, request.savesSession = false) ∧
      ∃ changed next, (notebook.update "A" none (some (.str " old")) (some "C ")).run
          (notebook.fileAfter .absent requests) = (.ok changed, next) ∧
        first.Relabels "C " " old" changed ∧ (Store.load.run next).1 = .ok [changed, second] := by
  intro notebook requests first second
  have hrequests : ∀ request ∈ requests, request.savesSession = false := by simp [requests, Request.savesSession]
  have hfirst : Form.submit .builtIn (some " A ") (some "RSI()>-5") .null = .ok first := by decide +kernel
  have hsecond : Form.submit .builtIn (some "B") (some "1 < OBV() MFI(7)") (.str "b ") = .ok second := by decide +kernel
  have hfile : notebook.fileAfter .absent requests = .contents (Library.encode [first, second]) := by
    have hone := @file_of_create notebook .absent [] first Json.depthLimit [first] _ _ _ rfl hfirst rfl
    have htwo := @file_of_create notebook _ _ second Json.depthLimit [first, second] _ _ _
      ((Library.isKeptIn_encode [first]).ofFile (by decide)) hsecond rfl
    rw [fileAfter_cons, hone, fileAfter_cons, htwo]
    rfl
  obtain ⟨library, hload, hupdate⟩ := update_details_fileAfter hrequests
  rw [hfile] at hload hupdate ⊢
  rw [Store.load_saved _ (by decide)] at hload
  cases hload
  refine ⟨hrequests, ?_⟩
  rcases hupdate 0 first rfl " old" (some "C ") with ⟨-, _, ⟨⟩, hblank⟩ | ⟨_, ⟨⟩, -, other, taken, hother, -, hname⟩ | hdone
  · exact absurd hblank (by decide)
  · have hfree : ∀ record ∈ [first, second], record.name ≠ Text.trim "C " := by decide
    exact absurd hname (hfree taken (List.mem_of_getElem? hother))
  · exact hdone

end Notebook

end Screener
