import Mathlib.Data.List.Nodup
import Mathlib.Data.List.Infix
import Screener.Proofs.CallShapes
import Screener.Proofs.Items

/-!
Catalogs by their names.  Functions make a catalog unless two names differ in case alone.  The same catalog can be kept
in two tables, one of the names as they are spelled and one of their spellings by upper case; what is found by a name in
both, first as it is spelled and then in upper case, is what the catalog finds in upper case alone.
-/

namespace Screener

namespace Text

theorem includes_iff {text piece : Text} : text.includes piece ↔ piece <:+: text := by
  induction text with
  | nil => cases piece <;> simp [includes]
  | cons c rest ih =>
    rw [includes, Bool.or_eq_true, ih, List.isPrefixOf_iff_prefix, List.infix_cons_iff]

end Text

namespace Entries

variable {α β : Type}

theorem lookup_map (items : List α) (key : α → Text) (value : α → β) (name : Text) :
    (items.map fun item => (key item, value item)).lookup name = (items.find? (key · == name)).map value := by
  induction items with
  | nil => rfl
  | cons item rest ih =>
    rw [List.map_cons, List.lookup_cons, ih, List.find?_cons]
    by_cases h : name = key item
    · simp [h]
    · simp [beq_false_of_ne h, beq_false_of_ne (Ne.symm h)]

end Entries

namespace Catalog

variable {catalog result : Catalog} {functions : List Signature} {signature : Signature} {name query : Text}

def upperNames (functions : List Signature) : List Text := functions.map (·.name.upper)

theorem eq_of_functions_eq (h : catalog.functions = result.functions) : catalog = result := by
  cases catalog
  cases h
  rfl

theorem add?_eq_none_iff : catalog.add? signature = none ↔ signature.name.upper ∈ upperNames catalog.functions := by
  simp [add?, upperNames]

theorem functions_of_add? (h : catalog.add? signature = some result) :
    result.functions = catalog.functions ++ [signature] := by
  unfold add? at h
  split at h
  case isTrue => cases h
  case isFalse =>
    cases h
    rfl

def addAll (catalog : Catalog) (functions : List Signature) : Except Text Catalog :=
  functions.foldlM (fun catalog signature =>
    match catalog.add? signature with
    | some catalog => .ok catalog
    | none => .error signature.name) catalog

theorem addAll_cons (signature : Signature) (rest : List Signature) :
    catalog.addAll (signature :: rest) =
      match catalog.add? signature with
      | some next => next.addAll rest
      | none => .error signature.name := by
  rw [addAll, List.foldlM_cons]
  cases catalog.add? signature <;> rfl

theorem addAll_eq_ok : catalog.addAll functions = .ok result ↔ result.functions = catalog.functions ++ functions := by
  induction functions generalizing catalog with
  | nil =>
    rw [List.append_nil]
    constructor
    · intro h
      cases h
      rfl
    · intro h
      rw [eq_of_functions_eq h]
      rfl
  | cons signature rest ih =>
    rw [addAll_cons, List.append_cons]
    cases hadd : catalog.add? signature with
    | some next => rw [ih, functions_of_add? hadd]
    | none =>
      simp only [reduceCtorEq, false_iff]
      intro h
      have hnodup := result.nodup_upper
      rw [h, List.map_append, List.map_append, List.nodup_append, List.nodup_append] at hnodup
      exact hnodup.1.2.2 _ (add?_eq_none_iff.1 hadd) _ (List.mem_singleton_self _) rfl

def FirstRepeated (functions : List Signature) (signature : Signature) : Prop :=
  ∃ before after, functions = before ++ signature :: after ∧ (upperNames before).Nodup ∧
    signature.name.upper ∈ upperNames before

theorem addAll_eq_error :
    catalog.addAll functions = .error name ↔ ∃ before signature after, functions = before ++ signature :: after ∧
      (upperNames (catalog.functions ++ before)).Nodup ∧
        signature.name.upper ∈ upperNames (catalog.functions ++ before) ∧ signature.name = name := by
  induction functions generalizing catalog with
  | nil => simp [addAll, pure, Except.pure]
  | cons first rest ih =>
    rw [addAll_cons]
    cases hadd : catalog.add? first with
    | none =>
      have hmem := add?_eq_none_iff.1 hadd
      rw [Except.error.injEq]
      constructor
      · rintro rfl
        exact ⟨[], first, rest, rfl, by rw [List.append_nil]; exact catalog.nodup_upper, by rwa [List.append_nil], rfl⟩
      · rintro ⟨before, signature, after, hsplit, hnodup, -, hname⟩
        cases before with
        | nil =>
          cases hsplit
          exact hname
        | cons other before =>
          cases hsplit
          rw [upperNames, List.map_append, List.nodup_append] at hnodup
          exact absurd rfl (hnodup.2.2 _ hmem _ List.mem_cons_self)
    | some next =>
      simp only [ih, functions_of_add? hadd, List.append_assoc, List.singleton_append]
      constructor
      · rintro ⟨before, signature, after, rfl, h⟩
        exact ⟨first :: before, signature, after, rfl, h⟩
      · rintro ⟨before, signature, after, hsplit, hnodup, hmem, hname⟩
        cases before with
        | nil =>
          cases hsplit
          rw [List.append_nil, ← add?_eq_none_iff, hadd] at hmem
          cases hmem
        | cons other before =>
          cases hsplit
          exact ⟨before, signature, after, rfl, hnodup, hmem, hname⟩

theorem ofSignatures_eq_ok : ofSignatures functions = .ok catalog ↔ catalog.functions = functions :=
  @addAll_eq_ok empty catalog functions

theorem ofSignatures_eq_error :
    ofSignatures functions = .error name ↔ ∃ signature, FirstRepeated functions signature ∧ signature.name = name := by
  refine (@addAll_eq_error empty functions name).trans ?_
  constructor
  · rintro ⟨before, signature, after, hsplit, hnodup, hmem, hname⟩
    exact ⟨signature, ⟨before, after, hsplit, hnodup, hmem⟩, hname⟩
  · rintro ⟨signature, ⟨before, after, hsplit, hnodup, hmem⟩, hname⟩
    exact ⟨before, signature, after, hsplit, hnodup, hmem, hname⟩

theorem exists_ofSignatures_eq_error :
    (∃ name, ofSignatures functions = .error name) ↔ ∃ (i j : Nat) (first second : Signature), i < j ∧
      functions[i]? = some first ∧ functions[j]? = some second ∧ first.name.upper = second.name.upper := by
  constructor
  · rintro ⟨name, h⟩
    obtain ⟨second, ⟨before, after, rfl, -, hmem⟩, -⟩ := ofSignatures_eq_error.1 h
    obtain ⟨first, hfirst, hupper⟩ := List.mem_map.1 hmem
    obtain ⟨i, hi, hget⟩ := List.mem_iff_getElem.1 hfirst
    refine ⟨i, before.length, first, second, hi, ?_, ?_, hupper⟩
    · rw [List.getElem?_append_left hi, List.getElem?_eq_getElem hi, hget]
    · rw [List.getElem?_append_right (Nat.le_refl _), Nat.sub_self]
      rfl
  · rintro ⟨i, j, first, second, hlt, hfirst, hsecond, hupper⟩
    cases hresult : ofSignatures functions with
    | error name => exact ⟨name, rfl⟩
    | ok catalog =>
      have hnodup := catalog.nodup_upper
      rw [ofSignatures_eq_ok.1 hresult, List.nodup_iff_getElem?_ne_getElem?] at hnodup
      obtain ⟨hj, -⟩ := List.getElem?_eq_some_iff.1 hsecond
      exact absurd (by simp [hfirst, hsecond, hupper]) (hnodup i j hlt (by rwa [List.length_map]))

end Catalog

/-- The functions of a catalog under their names as they are spelled, and the spellings under the names in upper case. -/
structure NameTables where
  exact : Entries Signature
  spellings : Entries Text

namespace NameTables

def enter (tables : NameTables) (signature : Signature) : Except Text NameTables :=
  if (tables.spellings.lookup signature.name.upper).isSome then .error signature.name
  else .ok ⟨tables.exact.put signature.name signature, tables.spellings.put signature.name.upper signature.name⟩

def ofSignatures (functions : List Signature) : Except Text NameTables := functions.foldlM enter ⟨[], []⟩

def lookup (tables : NameTables) (name : Text) : Option Signature :=
  (tables.exact.lookup name).or ((tables.spellings.lookup name.upper).bind fun spelling => tables.exact.lookup spelling)

def contains (tables : NameTables) (name : Text) : Bool := (tables.spellings.lookup name.upper).isSome

def names (tables : NameTables) : List Text := tables.exact.names

def functions (tables : NameTables) : List Signature := tables.exact.map (·.2)

def search (tables : NameTables) (piece : Text) : List Text := tables.names.filter (·.upper.includes piece.upper)

end NameTables

namespace Catalog

variable {catalog result : Catalog} {functions : List Signature} {signature : Signature} {name query : Text}

def nameTables (catalog : Catalog) : NameTables where
  exact := catalog.functions.map fun signature => (signature.name, signature)
  spellings := catalog.functions.map fun signature => (signature.name.upper, signature.name)

theorem lookup_spellings (catalog : Catalog) (name : Text) :
    catalog.nameTables.spellings.lookup name.upper = (catalog.lookup name).map Signature.name :=
  Entries.lookup_map catalog.functions (·.name.upper) Signature.name name.upper

theorem lookup_exact_eq_some (h : catalog.nameTables.exact.lookup name = some signature) :
    signature ∈ catalog.functions ∧ signature.name = name := by
  have hfind : (catalog.functions.find? (·.name == name)).map id = some signature :=
    (Entries.lookup_map catalog.functions Signature.name id name).symm.trans h
  rw [Option.map_id] at hfind
  exact ⟨List.mem_of_find?_eq_some hfind, by simpa using List.find?_some hfind⟩

theorem eq_of_upper_eq {other : Signature} (hmem : signature ∈ catalog.functions) (hother : other ∈ catalog.functions)
    (hupper : other.name.upper = signature.name.upper) : other = signature := by
  have hfound := (lookup_eq_some_iff.2 ⟨hother, hupper⟩).symm.trans (lookup_eq_some_iff.2 ⟨hmem, rfl⟩)
  exact Option.some.inj hfound

theorem lookup_exact_name (hmem : signature ∈ catalog.functions) :
    catalog.nameTables.exact.lookup signature.name = some signature := by
  cases hfind : catalog.nameTables.exact.lookup signature.name with
  | some other =>
    obtain ⟨hother, hname⟩ := lookup_exact_eq_some hfind
    rw [eq_of_upper_eq hmem hother (congrArg Text.upper hname)]
  | none =>
    have hnone : (catalog.functions.find? (·.name == signature.name)).map id = none :=
      (Entries.lookup_map catalog.functions Signature.name id signature.name).symm.trans hfind
    rw [Option.map_id, id, List.find?_eq_none] at hnone
    exact absurd (beq_self_eq_true _) (hnone signature hmem)

theorem nameTables_lookup (catalog : Catalog) (name : Text) : catalog.nameTables.lookup name = catalog.lookup name := by
  rw [NameTables.lookup, lookup_spellings]
  cases hexact : catalog.nameTables.exact.lookup name with
  | some signature =>
    obtain ⟨hmem, hname⟩ := lookup_exact_eq_some hexact
    rw [Option.some_or, lookup_eq_some_iff.2 ⟨hmem, congrArg Text.upper hname⟩]
  | none =>
    rw [Option.none_or]
    cases hlookup : catalog.lookup name with
    | none => rfl
    | some signature => exact lookup_exact_name (lookup_eq_some_iff.1 hlookup).1

theorem nameTables_contains (catalog : Catalog) (name : Text) :
    catalog.nameTables.contains name = catalog.contains name := by
  rw [NameTables.contains, lookup_spellings, Option.isSome_map]
  rfl

theorem nameTables_names (catalog : Catalog) : catalog.nameTables.names = catalog.names := by
  simp [NameTables.names, Entries.names, nameTables, names]

theorem nameTables_functions (catalog : Catalog) : catalog.nameTables.functions = catalog.functions := by
  simp [NameTables.functions, nameTables, Function.comp_def]

theorem nameTables_search (catalog : Catalog) (piece : Text) :
    catalog.nameTables.search piece = catalog.search piece := by
  rw [NameTables.search, nameTables_names, names, List.filter_map]
  rfl

theorem isSome_lookup_iff : (catalog.lookup name).isSome ↔ name.upper ∈ upperNames catalog.functions :=
  contains_iff.trans List.mem_map.symm

theorem names_spellings (catalog : Catalog) :
    Entries.names catalog.nameTables.spellings = upperNames catalog.functions := by
  simp [Entries.names, nameTables, upperNames]

theorem upper_mem_of_mem_names (h : name ∈ catalog.names) : name.upper ∈ upperNames catalog.functions := by
  obtain ⟨signature, hmem, rfl⟩ := List.mem_map.1 h
  exact List.mem_map_of_mem hmem

theorem enter_nameTables (catalog : Catalog) (signature : Signature) :
    catalog.nameTables.enter signature =
      match catalog.add? signature with
      | some next => .ok next.nameTables
      | none => .error signature.name := by
  rw [NameTables.enter, lookup_spellings, Option.isSome_map]
  cases hadd : catalog.add? signature with
  | none => rw [if_pos (isSome_lookup_iff.2 (add?_eq_none_iff.1 hadd))]
  | some next =>
    have hfresh : signature.name.upper ∉ upperNames catalog.functions := by
      rw [← add?_eq_none_iff, hadd]
      exact Option.some_ne_none next
    have hexact : signature.name ∉ Entries.names catalog.nameTables.exact := by
      intro hmem
      exact hfresh (upper_mem_of_mem_names (catalog.nameTables_names ▸ hmem))
    rw [if_neg (fun h => hfresh (isSome_lookup_iff.1 h)), Entries.put_of_not_mem _ hexact,
      Entries.put_of_not_mem _ (names_spellings catalog ▸ hfresh)]
    simp only [nameTables, functions_of_add? hadd, List.map_append, List.map_cons, List.map_nil]

theorem nameTables_ofSignatures (functions : List Signature) :
    NameTables.ofSignatures functions = (ofSignatures functions).map nameTables := by
  have hall (catalog : Catalog) :
      functions.foldlM NameTables.enter catalog.nameTables = (catalog.addAll functions).map nameTables := by
    induction functions generalizing catalog with
    | nil => rfl
    | cons signature rest ih =>
      rw [List.foldlM_cons, enter_nameTables, addAll_cons]
      cases catalog.add? signature with
      | none => rfl
      | some next => exact ih next
  exact hall empty

structure Finds (catalog : Catalog) (functions : List Signature) (query : Text) : Prop where
  contains : catalog.contains query ↔ ∃ signature ∈ functions, signature.name.upper = query.upper
  lookup : (catalog.lookup query).isSome ↔ ∃ signature ∈ functions, signature.name.upper = query.upper
  found : ∀ signature ∈ functions, signature.name.upper = query.upper →
    catalog.lookup query = some signature ∧ signature.name ∈ catalog.search query ∧
      ∀ other ∈ functions, other.name.upper = query.upper → other = signature
  search : catalog.search query = (functions.map Signature.name).filter fun name => query.upper <:+: name.upper
  tables : catalog.nameTables.contains query = catalog.contains query ∧
    catalog.nameTables.lookup query = catalog.lookup query ∧ catalog.nameTables.search query = catalog.search query

theorem search_eq (catalog : Catalog) (piece : Text) :
    catalog.search piece = catalog.names.filter fun name => piece.upper <:+: name.upper := by
  rw [search, matching, names, List.filter_map]
  congr 2
  funext signature
  rw [Bool.eq_iff_iff, Text.includes_iff, Function.comp_apply, decide_eq_true_iff]

theorem finds (catalog : Catalog) (query : Text) : catalog.Finds catalog.functions query := by
  refine ⟨contains_iff, contains_iff, ?_, catalog.search_eq query, catalog.nameTables_contains query,
    catalog.nameTables_lookup query, catalog.nameTables_search query⟩
  intro signature hmem hupper
  refine ⟨lookup_eq_some_iff.2 ⟨hmem, hupper⟩, ?_, ?_⟩
  · rw [search_eq, List.mem_filter, decide_eq_true_iff, hupper]
    exact ⟨List.mem_map_of_mem hmem, List.infix_refl _⟩
  · intro other hother hsame
    exact eq_of_upper_eq hmem hother (hsame.trans hupper.symm)

/-- Functions make a catalog unless two of their names are the same in upper case, and then the first that repeats an
earlier one is named.  The catalog has the functions in their order, a name finds the one function whose name is the same
in upper case, and a search gives the names that contain a text in upper case, in order.  Two tables that are filled in
one go, and asked for a name as it is spelled first, say the same throughout. -/
theorem ofSignatures_finds (functions : List Signature) :
    ((∃ name, ofSignatures functions = .error name) ↔ ∃ (i j : Nat) (first second : Signature), i < j ∧
      functions[i]? = some first ∧ functions[j]? = some second ∧ first.name.upper = second.name.upper) ∧
    (∀ name, ofSignatures functions = .error name ↔
      ∃ signature, FirstRepeated functions signature ∧ signature.name = name) ∧
    NameTables.ofSignatures functions = (ofSignatures functions).map nameTables ∧
    ∀ catalog, ofSignatures functions = .ok catalog →
      catalog.functions = functions ∧ catalog.names = functions.map Signature.name ∧
        catalog.nameTables.functions = functions ∧ catalog.nameTables.names = functions.map Signature.name ∧
          ∀ query, catalog.Finds functions query := by
  refine ⟨exists_ofSignatures_eq_error, fun name => ofSignatures_eq_error, nameTables_ofSignatures functions, ?_⟩
  intro catalog h
  obtain rfl := ofSignatures_eq_ok.1 h
  exact ⟨rfl, rfl, catalog.nameTables_functions, catalog.nameTables_names, catalog.finds⟩

-- The long s is an S in upper case.
example : builtIn.lookup "ſma" = builtIn.lookup "SMA" ∧ builtIn.search "ſma" = ["SMA"] := by decide +kernel

end Catalog

end Screener
