import Mathlib.Data.List.Basic
import Screener.Cli.Disk

namespace Screener.Cli

namespace Disk

variable {disk : Disk} {place other last : Place} {part name : RawText} {parts : List RawText} {bytes : Bytes}

theorem state_of_lookup (h : disk.files.lookup place = some bytes) : disk.state place = .contents bytes := by
  simp only [state, h]

theorem state_eq_directory :
    disk.state place = .directory ↔
      disk.files.lookup place = none ∧ ∃ held ∈ disk.directories ++ disk.files.map (·.1), place <+: held := by
  rw [state]
  cases hfile : disk.files.lookup place with
  | some bytes => simp
  | none =>
    simp only [ite_eq_left_iff, reduceCtorEq, imp_false, not_not, List.any_eq_true, List.isPrefixOf_iff_prefix, true_and]

theorem state_ne_unreachable (disk : Disk) (place : Place) : disk.state place ≠ .unreachable := by
  rw [state]
  cases disk.files.lookup place with
  | some bytes => simp
  | none =>
    simp only
    split <;> simp

theorem state_write_self (disk : Disk) (place : Place) (bytes : Bytes) :
    (disk.write place bytes).state place = .contents bytes := state_of_lookup (by simp [write])

theorem lookup_filter_ne (files : List (Place × Bytes)) (h : other ≠ place) :
    (files.filter (·.1 ≠ place)).lookup other = files.lookup other := by
  induction files with
  | nil => rfl
  | cons file files ih =>
    by_cases hfile : file.1 = place
    · have hother : (other == file.1) = false := by simpa [hfile] using h
      rw [List.filter_cons_of_neg (by simpa using hfile), ih, List.lookup_cons, hother]
    · rw [List.filter_cons_of_pos (by simpa using hfile), List.lookup_cons, List.lookup_cons, ih]

theorem state_write (hplace : disk.state place ≠ .directory) (h : disk.state other = .directory) (bytes : Bytes) :
    (disk.write place bytes).state other = .directory := by
  obtain ⟨hfile, held, hmem, hprefix⟩ := state_eq_directory.1 h
  have hother : other ≠ place := fun heq => hplace (heq ▸ h)
  refine state_eq_directory.2 ⟨?_, held, ?_, hprefix⟩
  · have hne : (other == place) = false := by simpa using hother
    rw [write, List.lookup_cons, hne]
    exact (lookup_filter_ne disk.files hother).trans hfile
  · rw [write, List.mem_append] at *
    refine hmem.imp_right fun hfiles => ?_
    obtain ⟨file, hfile, rfl⟩ := List.mem_map.1 hfiles
    by_cases hat : file.1 = place
    · simp [hat]
    · exact List.mem_map.2 ⟨file, List.mem_cons_of_mem _ (by simpa [hat] using hfile), rfl⟩

inductive Leads (disk : Disk) : Place → List RawText → Place → Prop
  | nil {place : Place} : disk.state place = .directory → Leads disk place [] place
  | cons {place last : Place} {part : RawText} {rest : List RawText} : disk.state place = .directory →
      Path.isLongName part = false → Leads disk (enter place part) rest last → Leads disk place (part :: rest) last

theorem Leads.state_start (h : Leads disk place parts last) : disk.state place = .directory := by
  cases h <;> assumption

theorem Leads.mono {after : Disk} (h : Leads disk place parts last)
    (hkept : ∀ other, disk.state other = .directory → after.state other = .directory) :
    Leads after place parts last := by
  induction h with
  | nil hplace => exact .nil (hkept _ hplace)
  | cons hplace hpart _ ih => exact .cons (hkept _ hplace) hpart ih

theorem follow_of_leads (h : Leads disk place parts last) (hname : Path.isLongName name = false) :
    disk.follow place (parts ++ [name]) = disk.state (enter last name) := by
  induction h with
  | nil hplace => simp [follow, hplace, hname]
  | cons hplace hpart _ ih => simp [follow, hplace, hpart, ih]

end Disk

namespace DiskChange

variable {α β : Type} {disk after : Disk} {place last : Place} {part : RawText} {parts rest passed : List RawText}
variable {path directory : Path} {made : Bool} {bytes : Bytes}

def result (change : DiskChange α) (disk : Disk) : Except FileFault α × Disk := change.run.run disk

def Gives (change : DiskChange α) (disk : Disk) (value : α) (after : Disk) : Prop :=
  result change disk = (.ok value, after)

theorem result_bind (change : DiskChange α) (next : α → DiskChange β) (disk : Disk) :
    result (change >>= next) disk =
      match result change disk with
      | (.ok value, middle) => result (next value) middle
      | (.error fault, middle) => (.error fault, middle) := by
  simp only [result]
  rw [ExceptT.run_bind, StateT.run_bind]
  obtain ⟨value | fault, middle⟩ := change.run.run disk <;> rfl

@[simp] theorem gives_pure {value other : α} : Gives (pure value) disk other after ↔ value = other ∧ disk = after := by
  change (Except.ok value, disk) = (.ok other, after) ↔ _
  simp

@[simp] theorem not_gives_throw {fault : FileFault} {value : α} : ¬ Gives (throw fault) disk value after := by
  change (Except.error fault, disk) ≠ (.ok value, after)
  simp

@[simp] theorem gives_get {held : Disk} : Gives get disk held after ↔ disk = held ∧ disk = after := by
  change (Except.ok disk, disk) = (.ok held, after) ↔ _
  simp

@[simp] theorem gives_modify {change : Disk → Disk} {value : Unit} :
    Gives (modify change) disk value after ↔ change disk = after := by
  change (Except.ok (), change disk) = (.ok value, after) ↔ _
  simp

@[simp] theorem gives_bind {change : DiskChange α} {next : α → DiskChange β} {last : β} :
    Gives (change >>= next) disk last after ↔
      ∃ value middle, Gives change disk value middle ∧ Gives (next value) middle last after := by
  rw [Gives, result_bind]
  simp only [Gives]
  obtain ⟨value | value, middle⟩ := result change disk <;> simp

@[simp] theorem gives_ite {condition : Prop} [Decidable condition] {change other : DiskChange α} {value : α} :
    Gives (if condition then change else other) disk value after ↔
      (condition → Gives change disk value after) ∧ (¬condition → Gives other disk value after) := by
  split <;> simp [*]

theorem gives_makeWay_cons :
    Gives (makeWay path passed made place (part :: rest)) disk last after ↔ Path.isLongName part = false ∧
      (disk.state (Disk.enter place part) = .absent ∧ (made = false → rest.length < missingLimit) ∧
          Gives (makeWay path (passed ++ [part]) true (Disk.enter place part) rest)
            (disk.addDirectory (Disk.enter place part)) last after ∨
        disk.state (Disk.enter place part) = .directory ∧
          Gives (makeWay path (passed ++ [part]) made (Disk.enter place part) rest) disk last after) := by
  rw [makeWay]
  cases hpart : Path.isLongName part with
  | true => simp
  | false =>
    cases hstate : disk.state (Disk.enter place part) with
    | absent => simpa [hstate] using Or.inl
    | contents bytes => simp [hstate]
    | directory => simp [hstate]
    | unreachable => exact absurd hstate (Disk.state_ne_unreachable _ _)

theorem makeWay_of_leads (h : disk.Leads place parts last) :
    Gives (makeWay path passed made place parts) disk last disk := by
  induction h generalizing passed made with
  | nil => exact gives_pure.2 ⟨rfl, rfl⟩
  | cons _ hpart hrest ih => exact gives_makeWay_cons.2 ⟨hpart, .inr ⟨hrest.state_start, ih⟩⟩

theorem gives_checkText {value : Unit} :
    Gives (checkText path) disk value after ↔ path.hasNull = false ∧ path.isTooLong = false ∧ disk = after := by
  rw [checkText]
  cases path.hasNull <;> cases path.isTooLong <;> simp

end DiskChange

namespace Disk

variable {disk after : Disk} {directory path : Path} {last : Place} {name : RawText} {bytes : Bytes}

/-- A path in a directory leads through directories, the last of which is at a place, to a name that is not one. -/
structure HasWay (disk : Disk) (directory path : Path) (last : Place) (name : RawText) : Prop where
  parentText : path.parent.hasNull = false ∧ path.parent.isTooLong = false
  text : path.hasNull = false ∧ path.isTooLong = false
  leads : disk.Leads (start directory path) path.parent.parts last
  getLast? : path.parts.getLast? = some name
  isLongName : Path.isLongName name = false
  state : disk.state (enter last name) ≠ .directory

theorem HasWay.look (h : disk.HasWay directory path last name) :
    disk.look directory path = disk.state (enter last name) := by
  have hparts : path.parts = path.parent.parts ++ [name] := by
    obtain ⟨front, hfront⟩ := List.getLast?_eq_some_iff.1 h.getLast?
    simp [Path.parent, hfront]
  rw [Disk.look, h.text.1, h.text.2, hparts, ← follow_of_leads h.leads h.isLongName]
  rfl

theorem HasWay.save (h : disk.HasWay directory path last name) (bytes : Bytes) :
    (DiskChange.save directory path bytes).Gives disk () (disk.write (enter last name) bytes) := by
  rw [DiskChange.save]
  simp only [DiskChange.gives_bind, DiskChange.gives_checkText]
  refine ⟨(), disk, ⟨h.parentText.1, h.parentText.2, rfl⟩, last, disk, DiskChange.makeWay_of_leads h.leads, (), disk,
    ⟨h.text.1, h.text.2, rfl⟩, ?_⟩
  simp [h.getLast?, h.isLongName, h.state]

theorem HasWay.write (h : disk.HasWay directory path last name) (bytes : Bytes) :
    (disk.write (enter last name) bytes).HasWay directory path last name where
  parentText := h.parentText
  text := h.text
  leads := h.leads.mono fun _ hother => state_write h.state hother bytes
  getLast? := h.getLast?
  isLongName := h.isLongName
  state := by simp [state_write_self]

end Disk

end Screener.Cli
