import Screener.Proofs.CanonicalCalls

namespace Screener

namespace Text

theorem exists_trimStart (text : Text) : ∃ gap, gap.blank ∧ text = gap ++ trimStart text :=
  ⟨text.takeWhile isBlank, List.all_takeWhile, List.takeWhile_append_dropWhile.symm⟩

theorem exists_trimEnd (text : Text) : ∃ gap, gap.blank ∧ text = trimEnd text ++ gap := by
  induction text with
  | nil => exact ⟨[], rfl, rfl⟩
  | cons c text ih =>
    rw [trimEnd]
    split
    case isTrue hblank => exact ⟨c :: text, hblank, rfl⟩
    case isFalse =>
      obtain ⟨gap, hgap, htext⟩ := ih
      exact ⟨gap, hgap, by rw [List.cons_append, ← htext]⟩

theorem join_splitOn (mark : Char) (text : Text) : join [mark] (splitOn mark text) = text := by
  induction text with
  | nil => rfl
  | cons c text ih =>
    rw [splitOn]
    cases hpieces : splitOn mark text with
    | nil => exact absurd hpieces (splitOn_ne_nil mark text)
    | cons piece pieces =>
      rw [hpieces] at ih
      split
      case isTrue hmark => rw [join_cons_cons, ih, hmark]; rfl
      case isFalse =>
        rw [← ih]
        cases pieces <;> rfl

theorem splitOn_join {mark : Char} {pieces : List Text} (hne : pieces ≠ []) (h : ∀ piece ∈ pieces, mark ∉ piece) :
    splitOn mark (join [mark] pieces) = pieces := by
  induction pieces with
  | nil => exact absurd rfl hne
  | cons piece pieces ih =>
    rw [List.forall_mem_cons] at h
    cases pieces with
    | nil => exact splitOn_of_notMem h.1
    | cons next rest =>
      rw [join_cons_cons, List.append_assoc, List.singleton_append, splitOn_append h.1, ih (by simp) h.2]

end Text

namespace Call

/-- The arguments between the parentheses: none if there are only blanks, else the trimmed pieces between commas. -/
inductive HasArguments : Text → List Text → Prop
  | none {inner : Text} : inner.blank → HasArguments inner []
  | pieces {pieces : List Text} : Text.blank (Text.join "," pieces) = false → (∀ piece ∈ pieces, ',' ∉ piece) →
      HasArguments (Text.join "," pieces) (pieces.map Text.trim)

variable {text before name inner after : Text}

theorem hasArguments_iff {arguments : List Text} : HasArguments inner arguments ↔ splitArguments inner = arguments := by
  constructor
  · intro h
    cases h with
    | none hblank => rw [splitArguments, if_pos hblank]
    | @pieces pieces hblank hcommas =>
      have hne : pieces ≠ [] := by
        rintro rfl
        cases hblank
      have hsplit : Text.splitOn ',' (Text.join "," pieces) = pieces := Text.splitOn_join hne hcommas
      rw [splitArguments, hblank, hsplit]
      rfl
  · rintro rfl
    rw [splitArguments]
    split
    case isTrue hblank => exact .none hblank
    case isFalse hblank =>
      have hjoin : Text.join "," (Text.splitOn ',' inner) = inner := Text.join_splitOn ',' inner
      have hpieces := @HasArguments.pieces (Text.splitOn ',' inner)
      rw [hjoin] at hpieces
      exact hpieces (Bool.eq_false_iff.2 hblank) fun piece => Text.notMem_of_mem_splitOn

theorem exists_isLaidOut (h : parts? text = some (name, inner)) : ∃ before after, IsLaidOut text before name inner after := by
  obtain ⟨before, hbefore, htext⟩ := text.exists_trimStart
  simp only [parts?] at h
  split at h
  case isTrue => cases h
  case isFalse hlength =>
    split at h
    case h_2 => cases h
    case h_1 rest hopening =>
      split at h
      case isFalse => cases h
      case isTrue hclosing =>
        cases h
        obtain ⟨after, hafter, hrest⟩ := Text.exists_trimEnd rest
        have hend : rest = (Text.trimEnd rest).dropLast ++ ')' :: after :=
          calc
            rest = Text.trimEnd rest ++ after := hrest
            _ = (Text.trimEnd rest).dropLast ++ [')'] ++ after := by rw [List.dropLast_append_getLast? ')' hclosing]
            _ = (Text.trimEnd rest).dropLast ++ ')' :: after := by simp
        refine ⟨before, after, ?_, hbefore, isIdentifier_take (Nat.pos_of_ne_zero hlength), hafter⟩
        rw [← hend, ← hopening, List.take_append_drop]
        exact htext

theorem parts?_eq_some_iff :
    parts? text = some (name, inner) ↔ ∃ before after, IsLaidOut text before name inner after :=
  ⟨exists_isLaidOut, fun ⟨_, _, h⟩ => h.parts?⟩

theorem IsLaidOut.unique {before' name' inner' after' : Text} (h : IsLaidOut text before name inner after)
    (h' : IsLaidOut text before' name' inner' after') :
    before = before' ∧ name = name' ∧ inner = inner' ∧ after = after' := by
  have hparts := h.parts?.symm.trans h'.parts?
  obtain ⟨rfl, rfl⟩ := Prod.mk.inj (Option.some.inj hparts)
  have hstart := h.trimStart.symm.trans h'.trimStart
  have htext := h.text_eq.symm.trans h'.text_eq
  rw [hstart] at htext
  exact ⟨List.append_cancel_right htext, rfl, rfl, by simpa using hstart⟩

end Call

/-- What a parameter takes of its argument: the default stands for one that is missing or empty. -/
inductive Parameter.Reads (parameter : Parameter) : Option Text → Text → Prop
  | given {argument : Text} : argument ≠ [] → Reads parameter (some argument) argument
  | empty : Reads parameter (some []) parameter.default
  | missing : Reads parameter none parameter.default

theorem Parameter.reads_orDefault (parameter : Parameter) (argument : Option Text) :
    parameter.Reads argument (parameter.orDefault argument) := by
  cases argument with
  | none => exact .missing
  | some argument =>
    cases argument with
    | nil => exact .empty
    | cons c argument => exact .given (List.cons_ne_nil c argument)

theorem Signature.getElem?_fill (signature : Signature) (arguments : List Text) (i : Nat) :
    (signature.fill arguments)[i]? = signature.parameters[i]?.map (Parameter.orDefault · arguments[i]?) :=
  List.getElem?_mapIdx

namespace CallReading

structure IsOf (reading : CallReading) (signature : Signature) : Prop where
  known : reading.known
  name : reading.name = signature.name
  names : reading.namedValues.map Prod.fst = signature.parameters.map Parameter.name
  values : reading.namedValues.map Prod.snd = reading.values
  reads : ∀ (i : Nat) (parameter : Parameter), signature.parameters[i]? = some parameter →
    ∃ value, reading.values[i]? = some value ∧ parameter.Reads reading.call.arguments[i]? value

structure IsUnknown (reading : CallReading) : Prop where
  known : reading.known = false
  name : reading.name = reading.call.name
  namedValues : reading.namedValues = []

variable {reading : CallReading} {signature : Signature}

theorem isUnknown_of_function (h : reading.function = none) : reading.IsUnknown :=
  ⟨by simp [known, h], by simp [name, h], by simp [namedValues, h]⟩

theorem isOf_of_function (h : reading.function = some signature) : reading.IsOf signature := by
  have hvalues := values_of_function h
  have hlength : signature.parameterNames.length = reading.values.length := by
    simp [hvalues, Signature.fill, Signature.parameterNames]
  refine ⟨known_iff.2 ⟨signature, h⟩, name_of_function h, ?_, ?_, ?_⟩
  · rw [namedValues_of_function h, Signature.named, List.map_fst_zip hlength.le]
    rfl
  · rw [namedValues_of_function h, Signature.named, List.map_snd_zip hlength.ge]
  · intro i parameter hparameter
    refine ⟨parameter.orDefault reading.call.arguments[i]?, ?_, parameter.reads_orDefault _⟩
    rw [hvalues, signature.getElem?_fill, hparameter]
    rfl

end CallReading

namespace Catalog

variable {catalog : Catalog} {text before name inner after : Text}

theorem decode?_of_isLaidOut (h : Call.IsLaidOut text before name inner after) :
    catalog.decode? text = some ⟨⟨name, Call.splitArguments inner⟩, catalog.lookup name⟩ := by
  rw [decode?, Call.ofText?, h.parts?]
  rfl

theorem decode?_eq_none_iff :
    catalog.decode? text = none ↔ ∀ before name inner after, ¬ Call.IsLaidOut text before name inner after := by
  constructor
  · intro h before name inner after hlayout
    rw [decode?_of_isLaidOut hlayout] at h
    cases h
  · intro h
    rw [decode?, Call.ofText?]
    cases hparts : Call.parts? text with
    | none => rfl
    | some parts =>
      obtain ⟨before, after, hlayout⟩ := Call.parts?_eq_some_iff.1 hparts
      exact absurd hlayout (h _ _ _ _)

theorem lookup_eq_none_iff :
    catalog.lookup name = none ↔ ∀ signature ∈ catalog.functions, signature.name.upper ≠ name.upper := by
  simp [lookup]

/-- A text is not a call exactly when it is not laid out as one, and it is laid out as one in one way at most.  By its
layout it is read with the arguments that stand between the parentheses, as a call of the function whose name is the
same but for case, or as one of an unknown function if the catalog has none. -/
theorem decode?_by_layout (catalog : Catalog) (text : Text) :
    (catalog.decode? text = none ↔ ∀ before name inner after, ¬ Call.IsLaidOut text before name inner after) ∧
    (∀ before name inner after before' name' inner' after', Call.IsLaidOut text before name inner after →
      Call.IsLaidOut text before' name' inner' after' →
        before = before' ∧ name = name' ∧ inner = inner' ∧ after = after') ∧
    ∀ before name inner after, Call.IsLaidOut text before name inner after →
      ∃ reading, catalog.decode? text = some reading ∧ reading.call.name = name ∧
        Call.HasArguments inner reading.call.arguments ∧
        ((∀ signature ∈ catalog.functions, signature.name.upper ≠ name.upper) → reading.IsUnknown) ∧
        ∀ signature ∈ catalog.functions, signature.name.upper = name.upper → reading.IsOf signature := by
  refine ⟨decode?_eq_none_iff, fun _ _ _ _ _ _ _ _ h h' => h.unique h', fun before name inner after hlayout => ?_⟩
  refine ⟨_, decode?_of_isLaidOut hlayout, rfl, Call.hasArguments_iff.2 rfl, ?_, ?_⟩
  · intro hnone
    exact CallReading.isUnknown_of_function (lookup_eq_none_iff.2 hnone)
  · intro signature hmem hupper
    exact CallReading.isOf_of_function (lookup_eq_some_iff.2 ⟨hmem, hupper⟩)

end Catalog

end Screener
