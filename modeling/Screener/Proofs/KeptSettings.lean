import Mathlib.Data.List.Nodup
import Screener.Proofs.CallShapes
import Screener.Proofs.Written
import Screener.Settings

/-!
Settings written and read back.  What is read from a text, however it was edited, is what could have been written: keys
without an equals sign or a blank in front, values without a blank at the end, and no line ends in either.  Such entries
come back from their text as they are, so that setting one changes no other, unless it cannot be written: a line with a
surrogate breaks the writing off, and what was to come after it is lost.
-/

namespace Screener

namespace Text

theorem mem_join {separator part : Text} {parts : List Text} {c : Char} (hpart : part ∈ parts) (hc : c ∈ part) :
    c ∈ join separator parts := by
  induction parts with
  | nil => cases hpart
  | cons first rest ih =>
    cases rest with
    | nil => exact List.mem_singleton.1 hpart ▸ hc
    | cons next rest =>
      rw [join_cons_cons, List.mem_append]
      cases List.mem_cons.1 hpart with
      | inl hfirst => exact .inl (List.mem_append_left _ (hfirst ▸ hc))
      | inr hrest => exact .inr (ih hrest)

theorem mem_of_mem_splitOn {mark c : Char} {text piece : Text} (hpiece : piece ∈ splitOn mark text) (hc : c ∈ piece) :
    c ∈ text := by
  rw [← join_splitOn mark text]
  exact mem_join hpiece hc

theorem cutAt_append {mark : Char} {before : Text} (h : mark ∉ before) (after : Text) :
    cutAt mark (before ++ mark :: after) = some (before, after) := by
  induction before with
  | nil => simp [cutAt]
  | cons c before ih =>
    rw [List.mem_cons, not_or] at h
    rw [List.cons_append, cutAt, if_neg (Ne.symm h.1), ih h.2]
    rfl

theorem eq_append_of_cutAt {mark : Char} {text before after : Text} (h : cutAt mark text = some (before, after)) :
    text = before ++ mark :: after ∧ mark ∉ before := by
  induction text generalizing before with
  | nil => cases h
  | cons c text ih =>
    rw [cutAt] at h
    split at h
    case isTrue hmark =>
      cases h
      exact ⟨hmark ▸ rfl, by simp⟩
    case isFalse hmark =>
      obtain ⟨⟨front, back⟩, hcut, ⟨⟩⟩ := Option.map_eq_some_iff.1 h
      obtain ⟨rfl, hnone⟩ := ih hcut
      exact ⟨rfl, List.not_mem_cons_of_ne_of_not_mem (Ne.symm hmark) hnone⟩

theorem isBlank_head?_of_trim {text : Text} (h : trim text = text) : ∀ c ∈ text.head?, isBlank c = false := by
  intro c hc
  have hstart := trimStart_trim text
  rw [h] at hstart
  rcases trimStart_eq_nil_or text with hnil | ⟨d, rest, hcons, hd⟩
  · rw [← hstart, hnil] at hc
    cases hc
  · rw [← hstart, hcons] at hc
    cases hc
    exact hd

theorem isBlank_getLast?_of_trim {text : Text} (h : trim text = text) : ∀ c ∈ text.getLast?, isBlank c = false := by
  intro c hc
  have hend : trimEnd text = text := by
    have htwice := trimEnd_trimEnd (trimStart text)
    rwa [← trim, h] at htwice
  obtain ⟨front, rfl⟩ := List.getLast?_eq_some_iff.1 hc
  rw [Bool.eq_false_iff]
  intro hblank
  obtain ⟨gap, -, hfront⟩ := exists_trimEnd front
  rw [trimEnd_append_of_blank (by simpa using hblank)] at hend
  have hlength := congrArg List.length hfront
  rw [hend] at hlength
  simp at hlength

end Text

namespace Entries

variable {α : Type} {entries : Entries α} {name : Text} {value : α}

theorem mem_of_mem_put {entry : Text × α} (h : entry ∈ put entries name value) :
    entry ∈ entries ∨ entry = (name, value) := by
  induction entries with
  | nil => exact .inr (List.mem_singleton.1 h)
  | cons first rest ih =>
    rw [put] at h
    split at h
    case isTrue =>
      cases List.mem_cons.1 h with
      | inl hnew => exact .inr hnew
      | inr hrest => exact .inl (List.mem_cons_of_mem _ hrest)
    case isFalse =>
      cases List.mem_cons.1 h with
      | inl hfirst => exact .inl (hfirst ▸ List.mem_cons_self)
      | inr hrest => exact (ih hrest).imp_left (List.mem_cons_of_mem _)

theorem names_put (entries : Entries α) (name : Text) (value : α) :
    names (put entries name value) = if name ∈ names entries then names entries else names entries ++ [name] := by
  split
  case isTrue hmem => exact names_put_of_mem value hmem
  case isFalse hnone =>
    rw [put_of_not_mem value hnone, names, List.map_append]
    rfl

theorem nodup_names_put (h : (names entries).Nodup) (name : Text) (value : α) :
    (names (put entries name value)).Nodup := by
  rw [names_put]
  split
  case isTrue => exact h
  case isFalse hnone =>
    rw [← List.concat_eq_append]
    exact List.Nodup.concat hnone h

theorem mem_of_lookup (h : entries.lookup name = some value) : (name, value) ∈ entries := by
  obtain ⟨front, back, rfl, -⟩ := List.lookup_eq_some_iff.1 h
  simp

end Entries

namespace Settings

structure OnLine (text : Text) : Prop where
  noReturn : '\r' ∉ text
  noFeed : '\n' ∉ text

/-- A key that can be read: it ends at the first equals sign, and what is in front of it is trimmed. -/
structure IsKey (key : Text) : Prop where
  noMark : '=' ∉ key
  onLine : OnLine key
  starts : ∀ c ∈ key.head?, isBlank c = false

/-- A value that can be read: it goes on to the end of the line, which is trimmed. -/
structure IsValue (value : Text) : Prop where
  onLine : OnLine value
  ends : ∀ c ∈ value.getLast?, isBlank c = false

structure AreReadable (entries : Entries Text) : Prop where
  nodup : entries.names.Nodup
  keys : ∀ entry ∈ entries, IsKey entry.1
  values : ∀ entry ∈ entries, IsValue entry.2

inductive IsReadable : FileState → Prop
  | absent : IsReadable .absent
  | contents {bytes : Bytes} {text : Text} : Text.decode? bytes = some text → IsReadable (.contents bytes)

def line (entry : Text × Text) : Text := entry.1 ++ '=' :: entry.2

variable {text key value : Text} {entries : Entries Text}

theorem onLine_append {more : Text} : OnLine (text ++ more) ↔ OnLine text ∧ OnLine more := by
  constructor
  · rintro ⟨hreturn, hfeed⟩
    simp only [List.mem_append, not_or] at hreturn hfeed
    exact ⟨⟨hreturn.1, hfeed.1⟩, ⟨hreturn.2, hfeed.2⟩⟩
  · rintro ⟨htext, hmore⟩
    exact ⟨by simp [htext.noReturn, hmore.noReturn], by simp [htext.noFeed, hmore.noFeed]⟩

theorem noReturn_unifyLineEnds (text : Text) : '\r' ∉ unifyLineEnds text := by
  fun_induction unifyLineEnds text with
  | case1 rest ih => simpa using ih
  | case2 rest _ ih => simpa using ih
  | case3 c rest _ hc ih => simpa [ih] using fun h => hc h.symm
  | case4 => simp

theorem unifyLineEnds_of_noReturn (h : '\r' ∉ text) : unifyLineEnds text = text := by
  fun_induction unifyLineEnds text with
  | case1 rest ih => simp at h
  | case2 rest _ ih => simp at h
  | case3 c rest _ hc ih => rw [ih fun hmem => h (List.mem_cons_of_mem _ hmem)]
  | case4 => rfl

theorem getLast?_line (key front : Text) (last : Char) : (line (key, front ++ [last])).getLast? = some last := by
  have hline : line (key, front ++ [last]) = key ++ '=' :: front ++ [last] := by simp [line]
  rw [hline, List.getLast?_concat]

theorem isKey_isValue_of_cutAt (hline : OnLine text) (hcut : Text.cutAt '=' text.trim = some (key, value)) :
    IsKey key ∧ IsValue value := by
  obtain ⟨htext, hmark⟩ := Text.eq_append_of_cutAt hcut
  have hends := Text.trim_trim text
  rw [htext] at hends
  have honLine : OnLine (key ++ '=' :: value) := by
    rw [← htext]
    exact ⟨fun h => hline.noReturn (Text.mem_of_mem_trim h), fun h => hline.noFeed (Text.mem_of_mem_trim h)⟩
  obtain ⟨hkey, hvalue⟩ := onLine_append.1 honLine
  refine ⟨⟨hmark, hkey, fun c hc => ?_⟩, ⟨⟨?_, ?_⟩, fun c hc => ?_⟩⟩
  · cases key with
    | nil => cases hc
    | cons d key => exact Text.isBlank_head?_of_trim hends c hc
  · exact fun h => hvalue.noReturn (List.mem_cons_of_mem _ h)
  · exact fun h => hvalue.noFeed (List.mem_cons_of_mem _ h)
  · obtain ⟨front, rfl⟩ := List.getLast?_eq_some_iff.1 hc
    exact Text.isBlank_getLast?_of_trim hends c (getLast?_line key front c)

theorem cutAt_trim_line {entry : Text × Text} (hkey : IsKey entry.1) (hvalue : IsValue entry.2) :
    Text.cutAt '=' (line entry).trim = some entry := by
  obtain ⟨key, value⟩ := entry
  have htrim : (line (key, value)).trim = line (key, value) := by
    apply Text.trim_of_isBlank_ends
    · intro c hc
      cases key with
      | nil => cases hc; decide
      | cons d key => exact hkey.starts c hc
    · intro c hc
      cases value using List.reverseRecOn with
      | nil =>
        obtain rfl : '=' = c := by simpa [line] using hc
        decide
      | append_singleton front last =>
        obtain rfl : last = c := by simpa [getLast?_line] using hc
        exact hvalue.ends last (by simp)
  rw [htrim]
  exact Text.cutAt_append hkey.noMark value

theorem onLine_line {entry : Text × Text} (hkey : IsKey entry.1) (hvalue : IsValue entry.2) : OnLine (line entry) := by
  refine onLine_append.2 ⟨hkey.onLine, ?_⟩
  exact ⟨by simpa using hvalue.onLine.noReturn, by simpa using hvalue.onLine.noFeed⟩

theorem toText_cons (entry : Text × Text) (entries : Entries Text) :
    toText (entry :: entries) = line entry ++ '\n' :: toText entries := by
  simp [toText, line]

theorem splitOn_toText (h : ∀ entry ∈ entries, OnLine (line entry)) :
    Text.splitOn '\n' (toText entries) = entries.map line ++ [[]] := by
  induction entries with
  | nil => rfl
  | cons entry rest ih =>
    rw [List.forall_mem_cons] at h
    rw [toText_cons, Text.splitOn_append h.1.noFeed, ih h.2]
    rfl

theorem noReturn_toText (h : ∀ entry ∈ entries, OnLine (line entry)) : '\r' ∉ toText entries := by
  induction entries with
  | nil => simp [toText]
  | cons entry rest ih =>
    rw [List.forall_mem_cons] at h
    rw [toText_cons]
    simp [h.1.noReturn, ih h.2]

theorem AreReadable.put (h : AreReadable entries) (hkey : IsKey key) (hvalue : IsValue value) :
    AreReadable (entries.put key value) := by
  refine ⟨Entries.nodup_names_put h.nodup key value, fun entry hmem => ?_, fun entry hmem => ?_⟩
  · cases Entries.mem_of_mem_put hmem with
    | inl hold => exact h.keys entry hold
    | inr hnew => exact hnew ▸ hkey
  · cases Entries.mem_of_mem_put hmem with
    | inl hold => exact h.values entry hold
    | inr hnew => exact hnew ▸ hvalue

theorem areReadable_ofText (text : Text) : AreReadable (ofText text) := by
  refine List.foldlRecOn _ _ ⟨List.nodup_nil, by simp, by simp⟩ fun seen hseen entry hmem => ?_
  obtain ⟨piece, hpiece, hcut⟩ := List.mem_filterMap.1 hmem
  have hline : OnLine piece := ⟨fun h => noReturn_unifyLineEnds text (Text.mem_of_mem_splitOn hpiece h),
    Text.notMem_of_mem_splitOn hpiece⟩
  obtain ⟨hkey, hvalue⟩ := isKey_isValue_of_cutAt hline hcut
  exact hseen.put hkey hvalue

theorem ofText_toText (h : AreReadable entries) : ofText (toText entries) = entries := by
  have hlines : ∀ entry ∈ entries, OnLine (line entry) := fun entry hmem =>
    onLine_line (h.keys entry hmem) (h.values entry hmem)
  rw [ofText, unifyLineEnds_of_noReturn (noReturn_toText hlines), splitOn_toText hlines, List.filterMap_append,
    List.filterMap_map]
  have hread : entries.filterMap ((fun line => Text.cutAt '=' (Text.trim line)) ∘ line) = entries :=
    calc
      _ = entries.filterMap some :=
        List.filterMap_congr fun entry hmem => cutAt_trim_line (h.keys entry hmem) (h.values entry hmem)
      _ = entries := List.filterMap_some
  rw [hread]
  simp [Text.cutAt, Entries.ofList_of_nodup h.nodup]

theorem exists_ofFile {file : FileState} (h : IsReadable file) :
    ∃ entries, ofFile file = .ok entries ∧ AreReadable entries := by
  cases h with
  | absent => exact ⟨[], rfl, ⟨List.nodup_nil, by simp, by simp⟩⟩
  | @contents bytes text htext => exact ⟨ofText text, by simp only [ofFile, htext], areReadable_ofText text⟩

theorem ofFile_encode (text : Text) : ofFile (.contents text.encode) = .ok (ofText text) := by
  simp only [ofFile, Text.decode?_encode]

theorem get_eq {file : FileState} (h : ofFile file = .ok entries) (key : RawText) :
    get file key = .ok (key.toText?.bind fun key => entries.lookup key) := by
  rw [get, h]
  rfl

theorem get_raw_eq {file : FileState} (h : ofFile file = .ok entries) (key : Text) :
    get file key.raw = .ok (entries.lookup key) := by
  rw [get_eq h, RawText.toText?_raw, Option.bind_some]

theorem set_of_writeLines (path : RawText) {file : FileState} {name content : RawText} {unwritten : Option RawText}
    (hfile : IsReadable file) (hentries : ofFile file = .ok entries)
    (hwrite : writeLines (((rawEntries entries).put name content).map entryLine) = (text, unwritten)) :
    set path file name content = (unwritten.elim (.ok ()) fun line => .error (.unencodable line), .contents text.encode) := by
  rw [set, hentries]
  cases hfile <;> cases unwritten <;> simp only [hwrite, Option.elim]

theorem entryLine_raw (entry : Text × Text) :
    entryLine (entry.1.raw, entry.2.raw) = Text.raw (line entry ++ ['\n']) := by
  simp [entryLine, line, Text.raw]

theorem writeLines_append (entries : Entries Text) (rest : List RawText) :
    writeLines ((rawEntries entries).map entryLine ++ rest) =
      (toText entries ++ (writeLines rest).1, (writeLines rest).2) := by
  induction entries with
  | nil => rfl
  | cons entry entries ih =>
    rw [rawEntries, List.map_cons, List.map_cons, List.cons_append, writeLines, entryLine_raw, RawText.toText?_raw]
    simp only
    rw [← rawEntries, ih, toText_cons]
    simp

theorem writeLines_raw (entries : Entries Text) :
    writeLines ((rawEntries entries).map entryLine) = (toText entries, none) := by
  simpa [writeLines] using writeLines_append entries []

theorem rawEntries_put (entries : Entries Text) (key value : Text) :
    (rawEntries entries).put key.raw value.raw = rawEntries (entries.put key value) := by
  induction entries with
  | nil => rfl
  | cons entry rest ih =>
    rw [rawEntries, List.map_cons, Entries.put, Entries.put]
    simp only [Text.raw_injective.eq_iff]
    rw [← rawEntries, ih]
    split <;> rfl

def before (entries : Entries Text) (key : RawText) : Entries Text := entries.takeWhile fun entry => entry.1.raw ≠ key

theorem exists_put_eq_append (entries : Entries Text) (key value : RawText) :
    ∃ rest, (rawEntries entries).put key value = rawEntries (before entries key) ++ (key, value) :: rest := by
  induction entries with
  | nil => exact ⟨[], rfl⟩
  | cons entry entries ih =>
    obtain ⟨rest, hrest⟩ := ih
    rw [rawEntries, List.map_cons, Entries.put, before, List.takeWhile_cons, ← rawEntries]
    by_cases h : entry.1.raw = key
    · exact ⟨rawEntries entries, by simp [h, rawEntries]⟩
    · refine ⟨rest, ?_⟩
      rw [if_neg h, hrest]
      simp [h, rawEntries, before]

theorem writeLines_of_unencodable (entries : Entries Text) {key value : RawText}
    (h : (entryLine (key, value)).toText? = none) :
    writeLines (((rawEntries entries).put key value).map entryLine) =
      (toText (before entries key), some (entryLine (key, value))) := by
  obtain ⟨rest, hput⟩ := exists_put_eq_append entries key value
  rw [hput, List.map_append, writeLines_append, List.map_cons, writeLines, h]
  simp

theorem AreReadable.before (h : AreReadable entries) (key : RawText) : AreReadable (before entries key) := by
  have hsublist : (Settings.before entries key).Sublist entries := List.takeWhile_sublist _
  exact ⟨h.nodup.sublist (hsublist.map _), fun entry hmem => h.keys entry (hsublist.subset hmem),
    fun entry hmem => h.values entry (hsublist.subset hmem)⟩

theorem lookup_before (entries : Entries Text) (key : Text) : (before entries key.raw).lookup key = none := by
  rw [List.lookup_eq_none_iff]
  intro entry hmem
  have hne := of_decide_eq_true (List.all_eq_true.1 List.all_takeWhile entry hmem)
  rw [bne_iff_ne]
  rintro rfl
  exact hne rfl

theorem toText?_entryLine {key value : RawText} {half : Surrogate} (h : .surrogate half ∈ key ++ value) :
    (entryLine (key, value)).toText? = none := by
  refine Option.eq_none_iff_forall_ne_some.2 fun text htext => ?_
  have hmem : CodePoint.surrogate half ∈ entryLine (key, value) := by
    rw [entryLine, List.append_assoc, List.append_assoc, List.mem_append, List.mem_append, List.mem_append]
    exact (List.mem_append.1 h).imp_right fun hvalue => .inr (.inl hvalue)
  rw [RawText.toText?_eq_some_iff.1 htext, Text.raw, List.mem_map] at hmem
  obtain ⟨c, -, ⟨⟩⟩ := hmem

theorem set_of_surrogate (path : RawText) {file : FileState} {key value : RawText} {half : Surrogate}
    (hfile : IsReadable file) (hentries : ofFile file = .ok entries) (hreadable : AreReadable entries)
    (h : .surrogate half ∈ key ++ value) :
    ∃ next, set path file key value = (.error (.unencodable (key ++ "=" ++ value ++ "\n")), next) ∧
      ofFile next = .ok (entries.takeWhile fun entry => entry.1.raw ≠ key) ∧ get next key = .ok none := by
  have hset := set_of_writeLines path hfile hentries (writeLines_of_unencodable entries (toText?_entryLine h))
  have hnext := ofFile_encode (toText (before entries key))
  rw [ofText_toText (hreadable.before key)] at hnext
  refine ⟨_, hset, hnext, ?_⟩
  rw [get_eq hnext]
  cases htext : key.toText? with
  | none => rfl
  | some text =>
    obtain rfl := RawText.toText?_eq_some_iff.1 htext
    rw [Option.bind_some, lookup_before]

/-- Setting a key in a file that can be read gives a file from which the value is got again exactly if it is without
line ends and without a blank at the end.  Then every other key has the value that it had, and the keys stay in their
order, a new one coming last.  But a surrogate in the key or in the value makes it fail, and leaves the entries in front
of where the key is to be, and nothing under the key. -/
theorem get_set (path : RawText) {file : FileState} (hfile : IsReadable file) :
    ∃ entries, ofFile file = .ok entries ∧
      (∀ key value : Text, IsKey key → ∃ after next, set path file key.raw value.raw = (.ok (), next) ∧
        ofFile next = .ok after ∧
        (get next key.raw = .ok (some value) ↔ IsValue value) ∧
        (IsValue value → (∀ other, other ≠ key.raw → get next other = get file other) ∧
          after.names = if key ∈ entries.names then entries.names else entries.names ++ [key])) ∧
      ∀ (key value : RawText) (half : Surrogate), .surrogate half ∈ key ++ value →
        ∃ next, set path file key value = (.error (.unencodable (key ++ "=" ++ value ++ "\n")), next) ∧
          ofFile next = .ok (entries.takeWhile fun entry => entry.1.raw ≠ key) ∧ get next key = .ok none := by
  obtain ⟨entries, hentries, hreadable⟩ := exists_ofFile hfile
  refine ⟨entries, hentries, fun key value hkey => ?_, fun _ _ _ => set_of_surrogate path hfile hentries hreadable⟩
  have hset := set_of_writeLines path hfile hentries (rawEntries_put entries key value ▸ writeLines_raw _)
  have hnext := ofFile_encode (toText (entries.put key value))
  refine ⟨_, _, hset, hnext, ⟨fun hget => ?_, fun hvalue => ?_⟩, fun hvalue => ⟨fun other hother => ?_, ?_⟩⟩
  · rw [get_raw_eq hnext, Except.ok.injEq] at hget
    exact (areReadable_ofText _).values _ (Entries.mem_of_lookup hget)
  · rw [get_raw_eq hnext, ofText_toText (hreadable.put hkey hvalue), Entries.lookup_put, if_pos rfl]
  · rw [get_eq hnext, get_eq hentries, ofText_toText (hreadable.put hkey hvalue)]
    cases htext : other.toText? with
    | none => rfl
    | some text =>
      obtain rfl := RawText.toText?_eq_some_iff.1 htext
      rw [Option.bind_some, Option.bind_some, Entries.lookup_put, if_neg (ne_of_apply_ne Text.raw hother)]
  · rw [ofText_toText (hreadable.put hkey hvalue), Entries.names_put]

/-- A file that was edited by hand, with a key set to a value that starts with a blank and has an equals sign. -/
theorem get_set_edited :
    let file : FileState := .contents (Text.encode " A = 1 \r\nnone\nB=2\rA =3\x0b")
    IsReadable file ∧ IsKey "B" ∧ ∃ next after, set "config" file "B" " x=y" = (.ok (), next) ∧
      get next "B" = .ok (some " x=y") ∧ get next "A " = .ok (some "3") ∧ ofFile next = .ok after ∧
        after.names = ["A ", "B"] := by
  intro file
  have hfile : IsReadable file := .contents (Text.decode?_encode _)
  have hkey : IsKey "B" := ⟨by decide, ⟨by decide, by decide⟩, by rintro c ⟨⟩; decide⟩
  obtain ⟨entries, hentries, hunicode, -⟩ := get_set "config" hfile
  obtain ⟨after, next, hset, hafter, hget, hkept⟩ := hunicode "B" " x=y" hkey
  have hvalue : IsValue " x=y" := ⟨⟨by decide, by decide⟩, by rintro c ⟨⟩; decide⟩
  obtain ⟨hothers, hnames⟩ := hkept hvalue
  have hread : entries = [(("A " : Text), ("3" : Text)), (("B" : Text), ("2" : Text))] := by
    rw [ofFile_encode] at hentries
    exact (Except.ok.inj hentries).symm.trans (by decide)
  refine ⟨hfile, hkey, next, after, hset, hget.2 hvalue, ?_, hafter, ?_⟩
  · have hother := hothers (Text.raw "A ") (by decide)
    rw [hother, get_raw_eq hentries, hread]
    decide
  · rw [hnames, hread]
    decide

/-- A path that is not UTF-8, set under the second of three keys: it is not got, and the third key is lost. -/
theorem set_surrogate :
    let file : FileState := .contents (Text.encode "A=1\nK=2\nB=3\n")
    let value : RawText := ("/data/caf" : RawText) ++ [.surrogate ⟨0xdce9, by decide⟩] ++ (".json" : RawText)
    IsReadable file ∧ IsKey "K" ∧ get file "B" = .ok (some "3") ∧
      ∃ next, set "config" file "K" value =
          (.error (.unencodable (("K=" : RawText) ++ value ++ ("\n" : RawText))), next) ∧
        get next "A" = .ok (some "1") ∧ get next "K" = .ok none ∧ get next "B" = .ok none := by
  intro file value
  have hfile : IsReadable file := .contents (Text.decode?_encode _)
  have hkey : IsKey "K" := ⟨by decide, ⟨by decide, by decide⟩, by rintro c ⟨⟩; decide⟩
  obtain ⟨entries, hentries, hreadable⟩ := exists_ofFile hfile
  obtain ⟨next, hset, hnext, hget⟩ :=
    @set_of_surrogate _ "config" _ "K" value ⟨0xdce9, by decide⟩ hfile hentries hreadable (by decide)
  have hread : entries = [(("A" : Text), ("1" : Text)), (("K" : Text), ("2" : Text)), (("B" : Text), ("3" : Text))] := by
    rw [ofFile_encode] at hentries
    exact (Except.ok.inj hentries).symm.trans (by decide)
  subst hread
  refine ⟨hfile, hkey, ?_, next, hset, ?_, hget, ?_⟩
  · exact (get_raw_eq hentries "B").trans (by decide)
  · exact (get_raw_eq hnext "A").trans (by decide)
  · exact (get_raw_eq hnext "B").trans (by decide)

end Settings

end Screener
