import Screener.Proofs.Saved

namespace Screener

inductive Store.Request
  | list
  | get (name : Text)
  | add (record : Record)
  | replace (name : Text) (record : Record)
  | remove (name : Text)

inductive Store.Answer
  | done
  | record (found : Option Record)
  | records (library : Library)

abbrev Store.Reply := Except Fault Store.Answer

namespace Library

open Store (Request Answer Reply)

variable {library : Library} {name : Text} {record : Record} {index : Nat}

structure FirstNamed (library : Library) (name : Text) (index : Nat) : Prop where
  named : ∃ record, library[index]? = some record ∧ record.name = name
  first : ∀ i < index, ∀ record, library[i]? = some record → record.name ≠ name

inductive Replies (library : Library) : Request → Reply → Library → Prop
  | list : Replies library .list (.ok (.records library)) library
  | found {name : Text} {index : Nat} {record : Record} : library.FirstNamed name index →
      library[index]? = some record → Replies library (.get name) (.ok (.record (some record))) library
  | unfound {name : Text} : (∀ record ∈ library, record.name ≠ name) →
      Replies library (.get name) (.ok (.record none)) library
  | added {record : Record} : (∀ other ∈ library, other.name ≠ record.name) →
      Replies library (.add record) (.ok .done) (library ++ [record])
  | taken {record other : Record} : other ∈ library → other.name = record.name →
      Replies library (.add record) (.error (.duplicate record.name)) library
  | replaced {name : Text} {record : Record} {index : Nat} : library.FirstNamed name index →
      (∀ other, library.FirstNamed record.name other → other = index) →
        Replies library (.replace name record) (.ok .done) (library.set index record)
  | replacedTaken {name : Text} {record : Record} {index other : Nat} : library.FirstNamed name index →
      library.FirstNamed record.name other → other ≠ index →
        Replies library (.replace name record) (.error (.duplicate record.name)) library
  | replacedMissing {name : Text} {record : Record} : (∀ other ∈ library, other.name ≠ name) →
      Replies library (.replace name record) (.error (.notFound name)) library
  | removed {name : Text} {index : Nat} : library.FirstNamed name index →
      Replies library (.remove name) (.ok .done) (library.eraseIdx index)
  | removedMissing {name : Text} : (∀ other ∈ library, other.name ≠ name) →
      Replies library (.remove name) (.error (.notFound name)) library

inductive Run : Library → List Request → List (Reply × Library) → Prop
  | nil {library : Library} : Run library [] []
  | cons {library next : Library} {request : Request} {reply : Reply} {requests : List Request}
      {trace : List (Reply × Library)} : library.Replies request reply next → Run next requests trace →
        Run library (request :: requests) ((reply, next) :: trace)

theorem firstNamed_iff : library.FirstNamed name index ↔ library.indexOf? name = some index := by
  rw [indexOf?, List.findIdx?_eq_some_iff_getElem]
  constructor
  · rintro ⟨⟨record, hget, hname⟩, hfirst⟩
    obtain ⟨hlt, rfl⟩ := List.getElem?_eq_some_iff.1 hget
    refine ⟨hlt, by simpa using hname, fun i hi => ?_⟩
    simpa using hfirst i hi _ (List.getElem?_eq_getElem (by omega))
  · rintro ⟨hlt, hname, hfirst⟩
    refine ⟨⟨_, List.getElem?_eq_getElem hlt, by simpa using hname⟩, fun i hi record hget => ?_⟩
    obtain ⟨-, rfl⟩ := List.getElem?_eq_some_iff.1 hget
    simpa using hfirst i hi

theorem indexOf?_eq_none_iff : library.indexOf? name = none ↔ ∀ record ∈ library, record.name ≠ name := by
  simp [indexOf?, List.findIdx?_eq_none_iff]

theorem get?_eq (library : Library) (name : Text) :
    library.get? name = (library.indexOf? name).bind fun index => library[index]? :=
  List.find?_eq_bind_findIdx?_getElem?

def settle (library : Library) : Except Fault Library → Reply × Library
  | .ok changed => (.ok .done, changed)
  | .error fault => (.error fault, library)

def respond (library : Library) : Request → Reply × Library
  | .list => (.ok (.records library), library)
  | .get name => (.ok (.record (library.get? name)), library)
  | .add record => library.settle (library.add record)
  | .replace name record => library.settle (library.replace name record)
  | .remove name => library.settle (library.remove name)

theorem Replies.respond_eq {request : Request} {reply : Reply} {next : Library}
    (h : library.Replies request reply next) : library.respond request = (reply, next) := by
  cases h with
  | list => rfl
  | found hfirst hget =>
    rw [respond, get?_eq, firstNamed_iff.1 hfirst, ← hget]
    rfl
  | unfound hnone =>
    rw [respond, get?_eq, indexOf?_eq_none_iff.2 hnone]
    rfl
  | added hnone =>
    rw [respond, add, indexOf?_eq_none_iff.2 hnone]
    rfl
  | @taken record other hmem hname =>
    rw [respond, add]
    cases hindex : library.indexOf? record.name with
    | none => exact absurd hname (indexOf?_eq_none_iff.1 hindex other hmem)
    | some index => rfl
  | @replaced name record index hfirst hothers =>
    rw [respond, replace, firstNamed_iff.1 hfirst]
    cases hother : library.indexOf? record.name with
    | none => rfl
    | some other =>
      simp only [hothers other (firstNamed_iff.2 hother), if_true]
      rfl
  | replacedTaken hfirst hother hne =>
    rw [respond, replace, firstNamed_iff.1 hfirst]
    simp only [firstNamed_iff.1 hother, hne, if_false]
    rfl
  | replacedMissing hnone =>
    rw [respond, replace, indexOf?_eq_none_iff.2 hnone]
    rfl
  | removed hfirst =>
    rw [respond, remove, firstNamed_iff.1 hfirst]
    rfl
  | removedMissing hnone =>
    rw [respond, remove, indexOf?_eq_none_iff.2 hnone]
    rfl

theorem exists_replies (library : Library) (request : Request) :
    ∃ reply next, library.Replies request reply next := by
  have hcases (name : Text) : (∀ record ∈ library, record.name ≠ name) ∨ ∃ index, library.FirstNamed name index := by
    cases hindex : library.indexOf? name with
    | none => exact .inl (indexOf?_eq_none_iff.1 hindex)
    | some index => exact .inr ⟨index, firstNamed_iff.2 hindex⟩
  cases request with
  | list => exact ⟨_, _, .list⟩
  | get name =>
    rcases hcases name with hnone | ⟨index, hfirst⟩
    · exact ⟨_, _, .unfound hnone⟩
    · obtain ⟨record, hget, -⟩ := hfirst.named
      exact ⟨_, _, .found hfirst hget⟩
  | add record =>
    rcases hcases record.name with hnone | ⟨index, hfirst⟩
    · exact ⟨_, _, .added hnone⟩
    · obtain ⟨other, hget, hname⟩ := hfirst.named
      exact ⟨_, _, .taken (List.mem_of_getElem? hget) hname⟩
  | replace name record =>
    rcases hcases name with hnone | ⟨index, hfirst⟩
    · exact ⟨_, _, .replacedMissing hnone⟩
    · by_cases hothers : ∀ other, library.FirstNamed record.name other → other = index
      · exact ⟨_, _, .replaced hfirst hothers⟩
      · push Not at hothers
        obtain ⟨other, hother, hne⟩ := hothers
        exact ⟨_, _, .replacedTaken hfirst hother hne⟩
  | remove name =>
    rcases hcases name with hnone | ⟨index, hfirst⟩
    · exact ⟨_, _, .removedMissing hnone⟩
    · exact ⟨_, _, .removed hfirst⟩

theorem replies_iff {request : Request} {reply : Reply} {next : Library} :
    library.Replies request reply next ↔ library.respond request = (reply, next) := by
  refine ⟨Replies.respond_eq, fun h => ?_⟩
  obtain ⟨reply', next', hreplies⟩ := library.exists_replies request
  rw [hreplies.respond_eq] at h
  cases h
  exact hreplies

end Library

namespace Store

variable {α β : Type} {file : FileState} {library : Library} {levels : Nat}

theorem run_ofExcept (result : Except Fault α) (file : FileState) (levels : Nat) :
    (MonadExcept.ofExcept result : Store α).run file levels = (result, file) := by
  cases result <;> rfl

theorem run_bind (operation : Store α) (next : α → Store β) (file : FileState) (levels : Nat) :
    (operation >>= next).run file levels =
      match operation.run file levels with
      | (.ok value, file) => (next value).run file levels
      | (.error fault, file) => (.error fault, file) := by
  change (match operation.run file levels with
    | (result, file) => (ExceptT.bindCont (fun value => ReaderT.run (next value) levels) result) file) = _
  obtain ⟨result, file⟩ := operation.run file levels
  cases result <;> rfl

theorem run_bind_cases (operation : Store α) (next : α → Store β) (file : FileState) (levels : Nat) :
    (∃ value changed, operation.run file levels = (.ok value, changed) ∧
        (operation >>= next).run file levels = (next value).run changed levels) ∨
      ∃ fault changed, operation.run file levels = (.error fault, changed) ∧
        (operation >>= next).run file levels = (.error fault, changed) := by
  rw [run_bind]
  cases hrun : operation.run file levels with
  | mk result changed =>
    cases result with
    | ok value => exact .inl ⟨value, changed, rfl, rfl⟩
    | error fault => exact .inr ⟨fault, changed, rfl, rfl⟩

theorem run_load (file : FileState) (levels : Nat) : load.run file levels = (Library.ofFile levels file, file) := by
  have hload : load = (read >>= fun levels => get >>= fun file => MonadExcept.ofExcept (Library.ofFile levels file)) := rfl
  rw [hload, run_bind]
  exact run_ofExcept _ file levels

theorem run_change (h : Library.ofFile levels file = .ok library) (edit : Library → Except Fault Library) :
    (change edit).run file levels =
      match edit library with
      | .ok changed => (.ok (), .contents changed.encode)
      | .error fault => (.error fault, file) := by
  rw [change, run_bind, run_load, h]
  simp only []
  rw [run_bind, run_ofExcept]
  cases edit library <;> rfl

def answer : Request → Store Answer
  | .list => return .records (← list)
  | .get name => return .record (← get? name)
  | .add record => do add record; return .done
  | .replace name record => do replace name record; return .done
  | .remove name => do remove name; return .done

def trace (file : FileState) (levels : Nat) : List Request → List (Reply × Except Fault Library)
  | [] => []
  | request :: rest =>
    let (reply, next) := (answer request).run file (levels + 1)
    (reply, (load.run next levels).1) :: trace next levels rest

theorem run_answer_edit (h : Library.ofFile levels file = .ok library) (hlevels : Library.nesting ≤ levels)
    (edit : Library → Except Fault Library) :
    ∃ next, (do around (change edit); return .done : Store Answer).run file (levels + 1) =
        ((library.settle (edit library)).1, next) ∧
      Library.ofFile levels next = .ok (library.settle (edit library)).2 := by
  rw [run_bind, run_around, Nat.add_sub_cancel, run_change h]
  cases hedit : edit library with
  | ok changed => exact ⟨_, rfl, changed.isKeptIn_encode.ofFile hlevels⟩
  | error fault => exact ⟨file, rfl, h⟩

theorem run_answer (h : Library.ofFile levels file = .ok library) (hlevels : Library.nesting ≤ levels)
    (request : Request) :
    ∃ next, (answer request).run file (levels + 1) = ((library.respond request).1, next) ∧
      Library.ofFile levels next = .ok (library.respond request).2 := by
  cases request with
  | list =>
    refine ⟨file, ?_, h⟩
    rw [answer, run_bind, list, run_around, Nat.add_sub_cancel, run_load, h]
    rfl
  | get name =>
    refine ⟨file, ?_, h⟩
    rw [answer, run_bind, get?, run_around, Nat.add_sub_cancel, run_bind, run_load, h]
    rfl
  | add record => exact run_answer_edit h hlevels _
  | replace name record => exact run_answer_edit h hlevels _
  | remove name => exact run_answer_edit h hlevels _

/-- A library in a file refines a list of records: from any file that loads, the list that was loaded has one run
for the requests, and the file replies and loads as the list does all along it. -/
theorem trace_refines_run (hlevels : Library.nesting ≤ levels) (h : (load.run file levels).1 = .ok library)
    (requests : List Request) :
    ∃ trace, (∀ other, library.Run requests other ↔ other = trace) ∧
      Store.trace file levels requests = trace.map fun (reply, library) => (reply, .ok library) := by
  rw [run_load] at h
  induction requests generalizing file library with
  | nil =>
    refine ⟨[], fun other => ⟨?_, ?_⟩, rfl⟩
    · rintro ⟨⟩
      rfl
    · rintro rfl
      exact .nil
  | cons request rest ih =>
    obtain ⟨next, hrun, hnext⟩ := run_answer h hlevels request
    obtain ⟨trace, hunique, htrace⟩ := ih hnext
    refine ⟨library.respond request :: trace, fun other => ⟨?_, ?_⟩, ?_⟩
    · intro hlist
      cases hlist with
      | cons hreplies hrest =>
        have hrespond := hreplies.respond_eq
        rw [hrespond] at hunique ⊢
        rw [(hunique _).1 hrest]
    · rintro rfl
      exact .cons (Library.replies_iff.2 rfl) ((hunique trace).2 rfl)
    · rw [Store.trace, hrun]
      simp only [run_load, hnext, htrace]
      rfl

theorem load_saved (library : Library) (h : Library.nesting ≤ levels) :
    (load.run (.contents library.encode) levels).1 = .ok library := by
  rw [run_load]
  exact library.isKeptIn_encode.ofFile h

/-- A record with an equation alone stays what it is beside a formula that may not take its name. -/
theorem trace_refines_run_equation_only :
    let old : Record := ⟨"A", [], [], "RSI() > 70", by decide, by decide, by decide, by decide⟩
    let new : Record := ⟨"B", [], [⟨.number, "1"⟩], "1", by decide, by decide, by decide, by decide⟩
    Library.nesting ≤ Json.depthLimit ∧ (load.run (.contents (Library.encode [old, new]))).1 = .ok [old, new] ∧
      trace (.contents (Library.encode [old, new])) Json.depthLimit [.replace "B" old, .remove "B", .get "A"] =
        [(.error (.duplicate "A"), .ok [old, new]), (.ok .done, .ok [old]), (.ok (.record (some old)), .ok [old])] := by
  intro old new
  have hlevels : Library.nesting ≤ Json.depthLimit := by decide
  refine ⟨hlevels, load_saved [old, new] hlevels, ?_⟩
  obtain ⟨trace, hunique, htrace⟩ :=
    trace_refines_run hlevels (load_saved [old, new] hlevels) [.replace "B" old, .remove "B", .get "A"]
  have hrun : trace = [(.error (.duplicate "A"), [old, new]), (.ok .done, [old]), (.ok (.record (some old)), [old])] := by
    apply Eq.symm
    apply (hunique _).1
    refine .cons (Library.replies_iff.2 rfl) (.cons (Library.replies_iff.2 rfl) (.cons (Library.replies_iff.2 rfl) .nil))
  rw [htrace, hrun]
  rfl

end Store

end Screener
