import Screener.Proofs.Notebooks

namespace Screener

namespace Store

variable {α : Type} {file next : FileState} {library changed : Library} {levels : Nat}

/-- How an operation that changes the library in a file ends: with a value and the changed library, or with a fault
and the file as it was. -/
def settled (file : FileState) : Except Fault (α × Library) → Except Fault α × FileState
  | .ok (value, changed) => (.ok value, .contents changed.encode)
  | .error fault => (.error fault, file)

theorem settled_eq_ok {value : α} {result : Except Fault (α × Library)} (h : settled file result = (.ok value, next)) :
    ∃ changed : Library, result = .ok (value, changed) ∧ next = .contents changed.encode := by
  cases result with
  | ok outcome => cases h; exact ⟨outcome.2, rfl, rfl⟩
  | error fault => cases h

theorem settled_change (file : FileState) (levels : Nat) (edit : Library → Except Fault Library) :
    (change edit).run file levels = settled file (((Library.ofFile levels file).bind edit).map ((), ·)) := by
  cases hload : Library.ofFile levels file with
  | error fault =>
    rw [change, run_bind, run_load, hload]
    rfl
  | ok library =>
    rw [run_change hload, Except.bind]
    cases edit library <;> rfl

theorem settled_put {made : Except Fault Record} {put : Record → Store Unit} {result : Record → Except Fault Library}
    (hput : ∀ record, (put record).run file levels = settled file ((result record).map ((), ·))) :
    (do let record ← MonadExcept.ofExcept made; put record; return record : Store Record).run file levels =
      settled file (made.bind fun record => (result record).map (record, ·)) := by
  rw [run_bind, run_ofExcept]
  cases made with
  | error fault => rfl
  | ok record =>
    simp only [Except.bind]
    rw [run_bind, hput]
    cases result record <;> rfl

theorem settled_replace (h : Library.ofFile (levels - 1) file = .ok library) (name : Text) (record : Record) :
    (replace name record).run file levels = settled file ((library.replace name record).map ((), ·)) := by
  rw [replace, run_around, settled_change, h]
  rfl

theorem settled_add (h : Library.ofFile (levels - 1) file = .ok library) (record : Record) :
    (add record).run file levels = settled file ((library.add record).map ((), ·)) := by
  rw [add, run_around, settled_change, h]
  rfl

theorem run_get? (h : Library.ofFile (levels - 1) file = .ok library) (name : Text) :
    (get? name).run file levels = (.ok (library.get? name), file) := by
  rw [get?, run_around, run_bind, run_load, h]
  rfl

end Store

def Library.put (library : Library) (record : Record) : Option Text → Except Fault Library
  | none => library.add record
  | some other => library.replace other record

theorem Record.withTokens_of_tokens {record : Record} (h : record.tokens ≠ []) : record.withTokens = record :=
  if_pos (.inl h)

namespace Notebook

variable {notebook : Notebook} {file : FileState} {library : Library} {record : Record} {name : Text} {levels : Nat}

theorem run_get_of_some (h : Library.ofFile (levels - 2) file = .ok library) (hget : library.get? name = some record) :
    (get name).run file levels = (.ok record.withTokens, file) := by
  have hfound : (Store.get? name).run file (levels - 1) = (.ok (library.get? name), file) := Store.run_get? h name
  rw [get, Store.run_around, Store.run_bind, hfound, hget]
  rfl

theorem settled_update (h : library.IsKeptIn file) (hlevels : Library.nesting + 3 ≤ levels)
    (hget : library.get? name = some record) (htokens : record.tokens ≠ []) (description : Text)
    (newName : Option Text) :
    (notebook.update name none (some (.str description)) newName).run file levels =
      Store.settled file ((Form.submit notebook.catalog (some (newName.getD record.name)) (some record.equation)
        (.str description)).bind fun changed => (library.replace name changed).map (changed, ·)) := by
  rw [update, Store.run_around, Store.run_bind, run_get_of_some (h.ofFile (by omega)) hget,
    Record.withTokens_of_tokens htokens]
  exact Store.settled_put fun changed => Store.settled_replace (h.ofFile (by omega)) name changed

theorem settled_create (h : Library.ofFile (levels - 2) file = .ok library) (name equation : Option Text)
    (description : Json) :
    (notebook.create name equation description).run file levels =
      Store.settled file ((Form.submit notebook.catalog name equation description).bind fun record =>
        (library.add record).map (record, ·)) :=
  Store.settled_put fun record => Store.settled_add h record

theorem settled_saveSession (session : Session) (given : Option Text) (description : Json) (replacing : Option Text)
    (file : FileState) (levels : Nat) :
    (saveSession session given description replacing).run file levels =
      Store.settled file ((Form.commit given session.formula description).bind fun record =>
        ((Library.ofFile (levels - 2) file).bind fun library => library.put record replacing).map (record, ·)) := by
  cases replacing with
  | none => exact Store.settled_put fun record => Store.settled_change file _ _
  | some other => exact Store.settled_put fun record => Store.settled_change file _ _

theorem settled_perform_create (h : Library.ofFile (levels - 2) file = .ok library) (given equation : Option Text)
    (description : Json) :
    (notebook.perform (.create given equation description)).run file levels =
      Store.settled file ((Form.submit notebook.catalog given equation description).bind fun record =>
        (library.add record).map ((), ·)) := by
  rw [perform, Store.run_bind, settled_create h]
  cases Form.submit notebook.catalog given equation description with
  | error fault => rfl
  | ok record =>
    simp only [Except.bind]
    cases library.add record <;> rfl

theorem file_of_create {changed : Library} {equation given : Option Text} {description : Json}
    (h : Library.ofFile (levels - 2) file = .ok library)
    (hsubmit : Form.submit notebook.catalog given equation description = .ok record)
    (hadd : library.add record = .ok changed) :
    ((notebook.perform (.create given equation description)).run file levels).2 = .contents changed.encode := by
  rw [settled_perform_create h, hsubmit, Except.bind, hadd]
  rfl

end Notebook

end Screener
