import Screener.Proofs.Outcomes

namespace Screener

namespace Store

variable {α β : Type} {operation : Store α}

def ReadsOnly (operation : Store α) : Prop := ∀ file levels, (operation.run file levels).2 = file

def Aborts (operation : Store α) : Prop :=
  ∀ file levels fault, (operation.run file levels).1 = .error fault → (operation.run file levels).2 = file

theorem ReadsOnly.pure (value : α) : ReadsOnly (pure value) := fun _ _ => rfl

theorem ReadsOnly.throw (fault : Fault) : ReadsOnly (throw fault : Store α) := fun _ _ => rfl

theorem ReadsOnly.ofExcept (result : Except Fault α) : ReadsOnly (MonadExcept.ofExcept result : Store α) := by
  intro file levels
  rw [run_ofExcept]

theorem ReadsOnly.load : ReadsOnly load := by
  intro file levels
  rw [run_load]

theorem ReadsOnly.around (h : ReadsOnly operation) : ReadsOnly (around operation) :=
  fun file levels => h file (levels - 1)

theorem ReadsOnly.bind {next : α → Store β} (h : ReadsOnly operation) (hnext : ∀ value, ReadsOnly (next value)) :
    ReadsOnly (operation >>= next) := by
  intro file levels
  have hfile := h file levels
  rcases run_bind_cases operation next file levels with ⟨value, changed, hrun, hbind⟩ | ⟨fault, changed, hrun, hbind⟩
  · rw [hrun] at hfile
    rw [hbind, hnext value changed]
    exact hfile
  · rw [hrun] at hfile
    rw [hbind]
    exact hfile

theorem ReadsOnly.aborts (h : ReadsOnly operation) : Aborts operation := fun file levels _ _ => h file levels

theorem Aborts.save (library : Library) : Aborts (save library) := by
  -- Writing never fails, so there is nothing to show.
  rintro file levels fault ⟨⟩

theorem Aborts.around (h : Aborts operation) : Aborts (around operation) := fun file levels => h file (levels - 1)

theorem Aborts.after {next : α → Store β} (h : ReadsOnly operation) (hnext : ∀ value, Aborts (next value)) :
    Aborts (operation >>= next) := by
  intro file levels fault hfault
  have hfile := h file levels
  rcases run_bind_cases operation next file levels with ⟨value, changed, hrun, hbind⟩ | ⟨inner, changed, hrun, hbind⟩
  · rw [hrun] at hfile
    obtain rfl : changed = file := hfile
    rw [hbind] at hfault ⊢
    exact hnext value changed levels fault hfault
  · rw [hrun] at hfile
    rw [hbind]
    exact hfile

theorem Aborts.returning {f : α → β} (h : Aborts operation) : Aborts (do return f (← operation)) := by
  intro file levels fault hfault
  have hfile := h file levels
  rcases run_bind_cases operation (fun value => return f value) file levels with
    ⟨value, changed, hrun, hbind⟩ | ⟨inner, changed, hrun, hbind⟩
  · rw [hbind] at hfault
    cases hfault
  · rw [hrun] at hfile
    rw [hbind]
    exact hfile inner rfl

theorem Aborts.change (edit : Library → Except Fault Library) : Aborts (change edit) :=
  .after .load fun library => .after (.ofExcept (edit library)) fun changed => .save changed

theorem readsOnly_list : ReadsOnly list := .around .load

theorem readsOnly_get? (name : Text) : ReadsOnly (get? name) := .around (.bind .load fun _ => .pure _)

theorem aborts_add (record : Record) : Aborts (add record) := .around (.change _)

theorem aborts_replace (name : Text) (record : Record) : Aborts (replace name record) := .around (.change _)

theorem aborts_remove (name : Text) : Aborts (remove name) := .around (.change _)

theorem aborts_answer (request : Request) : Aborts (answer request) := by
  cases request with
  | list => exact (readsOnly_list.bind fun _ => .pure _).aborts
  | get name => exact ((readsOnly_get? name).bind fun _ => .pure _).aborts
  | add record => exact (aborts_add record).returning
  | replace name record => exact (aborts_replace name record).returning
  | remove name => exact (aborts_remove name).returning

end Store

namespace Notebook

open Store (ReadsOnly Aborts)

inductive Query
  | check (equation : Text)
  | get (name : Text)
  | list
  | openSession (name : Option Text)

def consult (notebook : Notebook) : Query → Store Unit
  | .check equation => do let _ ← MonadExcept.ofExcept ((notebook.check equation).mapError .unreadable)
  | .get name => do let _ ← get name
  | .list => do let _ ← list
  | .openSession name => do let _ ← notebook.openSession name

theorem readsOnly_get (name : Text) : ReadsOnly (get name) := by
  refine .around (.bind (Store.readsOnly_get? name) fun found => ?_)
  cases found with
  | none => exact .throw _
  | some record => exact .pure _

theorem readsOnly_openSession (notebook : Notebook) (name : Option Text) : ReadsOnly (notebook.openSession name) := by
  refine .around ?_
  split
  case h_1 => exact .pure _
  case h_2 => exact .bind (readsOnly_get _) fun _ => .pure _

theorem readsOnly_consult (notebook : Notebook) (query : Query) : ReadsOnly (notebook.consult query) := by
  cases query with
  | check equation => exact .bind (.ofExcept _) fun _ => .pure _
  | get name => exact .bind (readsOnly_get name) fun _ => .pure _
  | list => exact .bind (.around (.bind Store.readsOnly_list fun _ => .pure _)) fun _ => .pure _
  | openSession name => exact .bind (readsOnly_openSession notebook name) fun _ => .pure _

theorem aborts_perform (notebook : Notebook) (request : Request) : Aborts (notebook.perform request) := by
  cases request with
  | create name equation description =>
    exact (Aborts.around (.after (.ofExcept _) fun record => (Store.aborts_add record).returning)).returning
  | update name equation description newName =>
    refine (Aborts.around (.after (readsOnly_get name) fun existing => .after (.ofExcept _) fun record => ?_)).returning
    exact (Store.aborts_replace name record).returning
  | delete name => exact .around (Store.aborts_remove name)
  | saveSession session name description replacing =>
    refine (Aborts.around (.after (.ofExcept _) fun record => ?_)).returning
    cases replacing with
    | none => exact (Store.aborts_add record).returning
    | some other => exact (Store.aborts_replace other record).returning

/-- Whatever the file is, a request to the notebook or to its library that fails leaves it as it was, and a query
leaves it always. -/
theorem file_of_failure (notebook : Notebook) (file : FileState) (levels : Nat) :
    (∀ (request : Request) (fault : Fault), ((notebook.perform request).run file levels).1 = .error fault →
        ((notebook.perform request).run file levels).2 = file) ∧
      (∀ (request : Store.Request) (fault : Fault), ((Store.answer request).run file levels).1 = .error fault →
        ((Store.answer request).run file levels).2 = file) ∧
      ∀ query : Query, ((notebook.consult query).run file levels).2 = file :=
  ⟨fun request => aborts_perform notebook request file levels, fun request => Store.aborts_answer request file levels,
    fun query => readsOnly_consult notebook query file levels⟩

/-- A name that is taken, and one that is missing. -/
theorem file_of_failure_taken_missing :
    let notebook : Notebook := ⟨.builtIn⟩
    let record : Record := ⟨"A", [], [⟨.number, "1"⟩, ⟨.comparison, "<"⟩, ⟨.number, "2"⟩], "1 < 2",
      by decide, by decide, by decide, by decide⟩
    let file := FileState.contents (Library.encode [record])
    let create : Request := .create (some "A") (some "1 < 2") (.str [])
    (((notebook.perform create).run file).1 = .error (.duplicate "A") ∧ ((notebook.perform create).run file).2 = file) ∧
      (((Store.answer (.remove "B")).run file).1 = .error (.notFound "B") ∧
        ((Store.answer (.remove "B")).run file).2 = file) ∧
      ((notebook.consult (.openSession (some "B"))).run file).2 = file := by
  intro notebook record file create
  have hkept : Library.IsKeptIn [record] file := Library.isKeptIn_encode [record]
  have hsubmit : Form.submit .builtIn (some "A") (some "1 < 2") (.str []) = .ok record := by decide +kernel
  have hadd : Library.add [record] record = .error (.duplicate "A") := rfl
  have hcreate : ((notebook.perform create).run file).1 = .error (.duplicate "A") := by
    rw [settled_perform_create (hkept.ofFile (by decide)), hsubmit, Except.bind, hadd]
    rfl
  have hremove : ((Store.answer (.remove "B")).run file).1 = .error (.notFound "B") := by
    obtain ⟨next, hrun, -⟩ := @Store.run_answer _ _ (Json.depthLimit - 1) (hkept.ofFile (by decide)) (by decide) (.remove "B")
    exact congrArg Prod.fst hrun
  obtain ⟨hperform, hanswer, hconsult⟩ := file_of_failure notebook file Json.depthLimit
  exact ⟨⟨hcreate, hperform _ _ hcreate⟩, ⟨hremove, hanswer _ _ hremove⟩, hconsult _⟩

end Notebook

end Screener
