import Mathlib.Data.List.Nodup
import Screener.Proofs.Forms

namespace Screener

namespace Store

variable {α β : Type} {P : Library → Prop}

def Holds (P : Library → Prop) (file : FileState) : Prop := ∃ library : Library, library.IsKeptIn file ∧ P library

def Keeps (P : Library → Prop) (operation : Store α) : Prop :=
  ∀ file levels, Holds P file → Holds P (operation.run file levels).2

theorem Keeps.pure (value : α) : Keeps P (pure value) := fun _ _ h => h

theorem Keeps.throw (fault : Fault) : Keeps P (throw fault : Store α) := fun _ _ h => h

theorem Keeps.load : Keeps P load := by
  intro file levels h
  rwa [run_load]

theorem Keeps.around {operation : Store α} (h : Keeps P operation) : Keeps P (around operation) :=
  fun file levels => h file (levels - 1)

theorem Keeps.bind {operation : Store α} {next : α → Store β} (h : Keeps P operation)
    (hnext : ∀ value, Keeps P (next value)) : Keeps P (operation >>= next) := by
  intro file levels hfile
  have hkept := h file levels hfile
  rcases run_bind_cases operation next file levels with ⟨value, changed, hrun, hbind⟩ | ⟨fault, changed, hrun, hbind⟩
  · rw [hrun] at hkept
    rw [hbind]
    exact hnext value changed levels hkept
  · rw [hrun] at hkept
    rw [hbind]
    exact hkept

theorem Keeps.and {R : Library → Prop} {operation : Store α} (h : Keeps P operation) (hother : Keeps R operation) :
    Keeps (fun library => P library ∧ R library) operation := by
  rintro file levels ⟨library, hfile, hlibrary, hmore⟩
  obtain ⟨changed, hchanged, hkept⟩ := h file levels ⟨library, hfile, hlibrary⟩
  obtain ⟨other, hother, hmore⟩ := hother file levels ⟨library, hfile, hmore⟩
  cases (hchanged.ofFile le_rfl).symm.trans (hother.ofFile le_rfl)
  exact ⟨changed, hchanged, hkept, hmore⟩

theorem Keeps.ofExcept_bind {result : Except Fault α} {next : α → Store β}
    (hnext : ∀ value, result = .ok value → Keeps P (next value)) :
    Keeps P (MonadExcept.ofExcept result >>= next) := by
  intro file levels hfile
  rw [run_bind, run_ofExcept]
  cases result with
  | ok value => exact hnext value rfl file levels hfile
  | error fault => exact hfile

theorem Keeps.change {edit : Library → Except Fault Library}
    (h : ∀ library changed, P library → edit library = .ok changed → P changed) : Keeps P (change edit) := by
  rintro file levels ⟨library, hfile, hlibrary⟩
  obtain hload | ⟨fault, hload⟩ := hfile.ofFile_or levels
  · rw [run_change hload]
    cases hedit : edit library with
    | ok changed => exact ⟨changed, changed.isKeptIn_encode, h library changed hlibrary hedit⟩
    | error fault => exact ⟨library, hfile, hlibrary⟩
  · rw [Store.change, run_bind, run_load, hload]
    exact ⟨library, hfile, hlibrary⟩

end Store

structure Library.IsSound (library : Library) : Prop where
  nodup_names : (library.map Record.name).Nodup
  complete : ∀ record ∈ library, record.tokens.defect? = none

namespace Library

variable {library changed : Library} {name : Text} {record : Record}

theorem mem_of_add (h : library.add record = .ok changed) : ∀ other ∈ changed, other ∈ library ∨ other = record := by
  unfold add at h
  split at h
  case h_1 => cases h
  case h_2 => cases h; simp

theorem mem_of_replace (h : library.replace name record = .ok changed) :
    ∀ other ∈ changed, other ∈ library ∨ other = record := by
  unfold replace at h
  split at h
  case h_1 => cases h
  case h_2 =>
    split at h
    case h_1 =>
      split at h
      case isTrue => cases h; exact fun _ => List.mem_or_eq_of_mem_set
      case isFalse => cases h
    case h_2 => cases h; exact fun _ => List.mem_or_eq_of_mem_set

theorem mem_of_remove (h : library.remove name = .ok changed) : ∀ other ∈ changed, other ∈ library := by
  unfold remove at h
  split at h
  case h_1 => cases h
  case h_2 => cases h; exact fun _ => List.mem_of_mem_eraseIdx

theorem IsSound.add (h : library.IsSound) (hrecord : record.tokens.defect? = none)
    (hadd : library.add record = .ok changed) : changed.IsSound := by
  unfold Library.add at hadd
  split at hadd
  case h_1 => cases hadd
  case h_2 hnone =>
    cases hadd
    have hnew := indexOf?_eq_none_iff.1 hnone
    constructor
    · rw [List.map_append, List.map_singleton, List.nodup_append]
      refine ⟨h.nodup_names, List.nodup_singleton _, ?_⟩
      rw [List.forall_mem_map]
      intro other hmem name hname
      rw [List.mem_singleton.1 hname]
      exact hnew other hmem
    · rw [List.forall_mem_append]
      exact ⟨h.complete, List.forall_mem_singleton.2 hrecord⟩

theorem IsSound.set (h : library.IsSound) (hrecord : record.tokens.defect? = none) {index : Nat}
    (hname : library.indexOf? record.name = none ∨ library.indexOf? record.name = some index) :
    IsSound (library.set index record) := by
  constructor
  · rw [List.map_set]
    cases hname with
    | inl hnone =>
      apply h.nodup_names.set
      intro hmem
      obtain ⟨other, hother, heq⟩ := List.mem_map.1 hmem
      exact indexOf?_eq_none_iff.1 hnone other hother heq
    | inr hsome =>
      obtain ⟨⟨other, hget, heq⟩, -⟩ := firstNamed_iff.2 hsome
      obtain ⟨hlt, rfl⟩ := List.getElem?_eq_some_iff.1 hget
      have hsame : (library.map Record.name).set index record.name = library.map Record.name := by
        rw [← heq, ← List.map_set, List.set_getElem_self]
      rw [hsame]
      exact h.nodup_names
  · intro other hmem
    cases List.mem_or_eq_of_mem_set hmem with
    | inl hold => exact h.complete other hold
    | inr hnew => exact hnew ▸ hrecord

theorem IsSound.replace (h : library.IsSound) (hrecord : record.tokens.defect? = none)
    (hreplace : library.replace name record = .ok changed) : changed.IsSound := by
  unfold Library.replace at hreplace
  split at hreplace
  case h_1 => cases hreplace
  case h_2 index hindex =>
    split at hreplace
    case h_1 other hother =>
      split at hreplace
      case isTrue heq =>
        cases hreplace
        exact h.set hrecord (.inr (heq ▸ hother))
      case isFalse => cases hreplace
    case h_2 hnone =>
      cases hreplace
      exact h.set hrecord (.inl hnone)

theorem IsSound.remove (h : library.IsSound) (hremove : library.remove name = .ok changed) : changed.IsSound := by
  unfold Library.remove at hremove
  split at hremove
  case h_1 => cases hremove
  case h_2 index _ =>
    cases hremove
    have hsub := List.eraseIdx_sublist library index
    exact ⟨h.nodup_names.sublist (hsub.map Record.name), fun record hmem => h.complete record (hsub.subset hmem)⟩

end Library

namespace Form

variable {name equation : Option Text} {description : Json} {formula : Formula} {result : Record}

theorem defect?_of_submit {catalog : Catalog} (h : submit catalog name equation description = .ok result) :
    result.tokens.defect? = none := by
  obtain ⟨formula, hcheck, -, hrecord⟩ := submit_eq_ok_iff.1 h
  rw [(record_eq_ok hrecord).2]
  exact Catalog.defect?_of_problem? (Catalog.check_eq_ok_iff.1 hcheck).2

theorem defect?_of_commitErrors (h : (commitErrors name formula).isEmpty) : formula.defect? = none := by
  have hformula := (Bool.and_eq_true_iff.1 h).2
  unfold commitErrors at hformula
  cases hdefect : formula.defect? with
  | none => rfl
  | some defect => cases hnil : formula.isEmpty <;> simp [hnil, hdefect] at hformula

theorem commit_eq_ok (h : commit name formula description = .ok result) :
    (commitErrors name formula).isEmpty ∧ record name formula description = .ok result := by
  simp only [commit] at h
  split at h
  case isTrue hempty => exact ⟨hempty, h⟩
  case isFalse => cases h

theorem defect?_of_commit (h : commit name formula description = .ok result) : result.tokens.defect? = none := by
  obtain ⟨hempty, hrecord⟩ := commit_eq_ok h
  rw [(record_eq_ok hrecord).2]
  exact defect?_of_commitErrors hempty

end Form

namespace Notebook

inductive Request
  | create (name equation : Option Text) (description : Json)
  | update (name : Text) (equation : Option Text) (description : Option Json) (newName : Option Text)
  | delete (name : Text)
  | saveSession (session : Session) (name : Option Text) (description : Json) (replacing : Option Text)

def perform (notebook : Notebook) : Request → Store Unit
  | .create name equation description => do let _ ← notebook.create name equation description
  | .update name equation description newName => do let _ ← notebook.update name equation description newName
  | .delete name => delete name
  | .saveSession session name description replacing => do let _ ← saveSession session name description replacing

def fileAfter (notebook : Notebook) (file : FileState) (requests : List Request) : FileState :=
  requests.foldl (fun file request => ((notebook.perform request).run file).2) file

theorem fileAfter_cons (notebook : Notebook) (file : FileState) (request : Request) (rest : List Request) :
    notebook.fileAfter file (request :: rest) = notebook.fileAfter ((notebook.perform request).run file).2 rest := rfl

inductive Request.Makes (catalog : Catalog) : Request → Record → Prop
  | create {name equation : Option Text} {description : Json} {record : Record} :
      Form.submit catalog name equation description = .ok record →
        Makes catalog (.create name equation description) record
  | update {name : Text} {equation newName : Option Text} {description : Option Json} {given text : Option Text}
      {details : Json} {record : Record} : Form.submit catalog given text details = .ok record →
        Makes catalog (.update name equation description newName) record
  | saveSession {session : Session} {name replacing : Option Text} {description : Json} {record : Record} :
      Form.commit name session.formula description = .ok record →
        Makes catalog (.saveSession session name description replacing) record

open Store (Keeps)

variable {P : Library → Prop} {Q : Record → Prop}

theorem keeps_get (name : Text) : Keeps P (get name) := by
  refine .around (.bind (.around (.bind .load fun _ => .pure _)) fun found => ?_)
  cases found with
  | none => exact .throw _
  | some record => exact .pure _

theorem keeps_perform_of {notebook : Notebook} {request : Request}
    (hadd : ∀ record, Q record → Keeps P (Store.add record))
    (hreplace : ∀ name record, Q record → Keeps P (Store.replace name record))
    (hremove : ∀ name, Keeps P (Store.remove name))
    (hmakes : ∀ record, request.Makes notebook.catalog record → Q record) : Keeps P (notebook.perform request) := by
  cases request with
  | create name equation description =>
    refine .bind (.around (.ofExcept_bind fun record hsubmit => ?_)) fun _ => .pure _
    exact .bind (hadd record (hmakes record (.create hsubmit))) fun _ => .pure _
  | update name equation description newName =>
    refine .bind (.around (.bind (keeps_get name) fun existing => .ofExcept_bind fun record hsubmit => ?_)) fun _ => .pure _
    exact .bind (hreplace name record (hmakes record (.update hsubmit))) fun _ => .pure _
  | delete name => exact .around (hremove name)
  | saveSession session name description replacing =>
    refine .bind (.around (.ofExcept_bind fun record hcommit => ?_)) fun _ => .pure _
    have hrecord := hmakes record (.saveSession hcommit)
    cases replacing with
    | none => exact .bind (hadd record hrecord) fun _ => .pure _
    | some other => exact .bind (hreplace other record hrecord) fun _ => .pure _

theorem keeps_forall_perform {notebook : Notebook} {request : Request}
    (hmakes : ∀ record, request.Makes notebook.catalog record → Q record) :
    Keeps (fun library => ∀ record ∈ library, Q record) (notebook.perform request) := by
  apply keeps_perform_of _ _ _ hmakes
  · intro record hrecord
    refine .around (.change fun library changed hall hadd other hmem => ?_)
    cases Library.mem_of_add hadd other hmem with
    | inl hold => exact hall other hold
    | inr hnew => exact hnew ▸ hrecord
  · intro name record hrecord
    refine .around (.change fun library changed hall hreplace other hmem => ?_)
    cases Library.mem_of_replace hreplace other hmem with
    | inl hold => exact hall other hold
    | inr hnew => exact hnew ▸ hrecord
  · intro name
    refine .around (.change fun library changed hall hremove other hmem => ?_)
    exact hall other (Library.mem_of_remove hremove other hmem)

theorem Request.Makes.defect?_eq_none {catalog : Catalog} {request : Request} {record : Record}
    (h : request.Makes catalog record) : record.tokens.defect? = none := by
  cases h with
  | create hsubmit => exact Form.defect?_of_submit hsubmit
  | update hsubmit => exact Form.defect?_of_submit hsubmit
  | saveSession hcommit => exact Form.defect?_of_commit hcommit

theorem keeps_perform (notebook : Notebook) (request : Request) :
    Keeps Library.IsSound (notebook.perform request) := by
  apply keeps_perform_of _ _ _ fun record hmakes => hmakes.defect?_eq_none
  · exact fun record hrecord => .around (.change fun _ _ hsound hadd => hsound.add hrecord hadd)
  · exact fun name record hrecord => .around (.change fun _ _ hsound hreplace => hsound.replace hrecord hreplace)
  · exact fun name => .around (.change fun _ _ hsound hremove => hsound.remove hremove)

theorem holds_fileAfter {notebook : Notebook} {requests : List Request} {file : FileState}
    (hkeeps : ∀ request ∈ requests, Keeps P (notebook.perform request)) (h : Store.Holds P file) :
    Store.Holds P (notebook.fileAfter file requests) := by
  induction requests generalizing file with
  | nil => exact h
  | cons request rest ih =>
    rw [List.forall_mem_cons] at hkeeps
    exact ih hkeeps.2 (hkeeps.1 file _ h)

/-- From an absent file, and whatever is asked of the notebook, the file loads as a library of different names, of
trimmed texts, and of complete formulas with their texts as equations. -/
theorem load_fileAfter (notebook : Notebook) (requests : List Request) :
    ∃ library : Library, (Store.load.run (notebook.fileAfter .absent requests)).1 = .ok library ∧
      (library.map Record.name).Nodup ∧
      ∀ record ∈ library, record.name.trim = record.name ∧ record.name ≠ [] ∧
        record.description.trim = record.description ∧ record.tokens ≠ [] ∧
        record.equation = record.tokens.equation ∧ record.tokens.defect? = none := by
  have hkept : Store.Holds Library.IsSound (notebook.fileAfter .absent requests) :=
    holds_fileAfter (fun request _ => keeps_perform notebook request) ⟨[], Library.isKeptIn_absent, List.nodup_nil, by simp⟩
  obtain ⟨library, hload, hsound⟩ := hkept
  refine ⟨library, by rw [Store.run_load, hload.ofFile (by decide)], hsound.nodup_names, fun record hmem => ?_⟩
  have hcomplete := hsound.complete record hmem
  have htokens := Formula.ne_nil_of_defect? hcomplete
  exact ⟨record.trim_name, record.name_ne_nil, record.trim_description, htokens, record.equation_eq htokens, hcomplete⟩

end Notebook

end Screener
