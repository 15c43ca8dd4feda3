import Mathlib.Data.List.Forall2
import Mathlib.Data.List.Induction
import Screener.Formula.Assess
import Screener.Proofs.Literals

namespace Screener

namespace Text

theorem splitOn_of_notMem {mark : Char} {text : Text} (h : mark ∉ text) : splitOn mark text = [text] := by
  induction text with
  | nil => rfl
  | cons c rest ih =>
    rw [List.mem_cons, not_or] at h
    rw [splitOn, if_neg (Ne.symm h.1), ih h.2]

theorem splitOn_append {mark : Char} {text : Text} (h : mark ∉ text) (rest : Text) :
    splitOn mark (text ++ mark :: rest) = text :: splitOn mark rest := by
  induction text with
  | nil => simp [splitOn]
  | cons c text ih =>
    rw [List.mem_cons, not_or] at h
    rw [List.cons_append, splitOn, if_neg (Ne.symm h.1), ih h.2]

theorem notMem_of_mem_splitOn {mark : Char} {text piece : Text} (h : piece ∈ splitOn mark text) :
    mark ∉ piece := by
  induction text generalizing piece with
  | nil =>
    rw [List.mem_singleton.1 h]
    simp
  | cons c rest ih =>
    rw [splitOn] at h
    split at h
    case isTrue =>
      cases List.mem_cons.1 h with
      | inl h => simp [h]
      | inr h => exact ih h
    case isFalse hne =>
      cases hpieces : splitOn mark rest with
      | nil => exact absurd hpieces (splitOn_ne_nil mark rest)
      | cons first pieces =>
        rw [hpieces] at h ih
        cases List.mem_cons.1 h with
        | inl h => simp [h, Ne.symm hne, ih List.mem_cons_self]
        | inr h => exact ih (List.mem_cons_of_mem _ h)

theorem mem_of_mem_trimEnd {c : Char} {text : Text} (h : c ∈ trimEnd text) : c ∈ text := by
  induction text with
  | nil => cases h
  | cons d rest ih =>
    rw [trimEnd] at h
    split at h
    case isTrue => cases h
    case isFalse =>
      cases List.mem_cons.1 h with
      | inl h => simp [h]
      | inr h => exact List.mem_cons_of_mem _ (ih h)

theorem mem_of_mem_trim {c : Char} {text : Text} (h : c ∈ trim text) : c ∈ text :=
  (List.dropWhile_suffix isBlank).subset (mem_of_mem_trimEnd h)

theorem blank_append (text more : Text) : blank (text ++ more) = (blank text && blank more) := List.all_append

theorem trimStart_append_of_blank {gap : Text} (h : gap.blank) (text : Text) :
    trimStart (gap ++ text) = trimStart text := List.dropWhile_append_of_pos (List.all_eq_true.1 h)

theorem trimEnd_append_of_blank {gap : Text} (h : gap.blank) (text : Text) : trimEnd (text ++ gap) = trimEnd text := by
  induction text with
  | nil => exact trimEnd_eq_nil.2 h
  | cons c text ih => rw [List.cons_append, trimEnd, trimEnd, ih, ← List.cons_append, blank_append, h, Bool.and_true]

theorem trimEnd_concat {c : Char} (h : isBlank c = false) (text : Text) :
    trimEnd (text ++ [c]) = text ++ [c] := by
  induction text with
  | nil => simp [trimEnd, h]
  | cons d rest ih => simp [trimEnd, ih, blank, h]

theorem trim_of_isBlank_ends {text : Text} (hfirst : ∀ c ∈ text.head?, isBlank c = false)
    (hlast : ∀ c ∈ text.getLast?, isBlank c = false) : trim text = text := by
  cases text using List.reverseRecOn with
  | nil => rfl
  | append_singleton front last =>
    have hstart : trimStart (front ++ [last]) = front ++ [last] := by
      cases front with
      | nil => exact trimStart_of_not_isBlank _ (hfirst _ rfl)
      | cons c front => exact trimStart_of_not_isBlank _ (hfirst _ rfl)
    rw [trim, hstart, trimEnd_concat (hlast last (by simp))]

theorem trim_of_isDecimal {text : Text} (h : isDecimal text) : trim text = text := by
  have hblank := isBlank_of_isDecimal h
  apply trim_of_isBlank_ends
  · intro c hc
    exact hblank c (List.mem_of_mem_head? hc)
  · intro c hc
    exact hblank c (List.mem_of_getLast? hc)

theorem trim_space_cons (text : Text) : trim (' ' :: text) = trim text := rfl

theorem map_trim_splitOn_space_cons {mark : Char} (text : Text) (h : mark ≠ ' ') :
    (splitOn mark (' ' :: text)).map trim = (splitOn mark text).map trim := by
  rw [splitOn, if_neg h.symm]
  cases hpieces : splitOn mark text with
  | nil => exact absurd hpieces (splitOn_ne_nil mark text)
  | cons piece pieces => simp [trim_space_cons]

theorem map_trim_splitOn_join {values : List Text} (hne : values ≠ []) (h : ∀ value ∈ values, ',' ∉ value) :
    (splitOn ',' (join ", " values)).map trim = values.map trim := by
  induction values with
  | nil => exact absurd rfl hne
  | cons value rest ih =>
    rw [List.forall_mem_cons] at h
    cases rest with
    | nil => simp [splitOn_of_notMem h.1]
    | cons next rest =>
      have hjoin : join ", " (value :: next :: rest) = value ++ ',' :: ' ' :: join ", " (next :: rest) := by
        simp [join_cons_cons]
      rw [hjoin, splitOn_append h.1, List.map_cons, map_trim_splitOn_space_cons _ (by decide),
        ih (by simp) h.2]
      rfl

end Text

structure Text.IsArgument (text : Text) : Prop where
  noComma : ',' ∉ text
  trimmed : text.trim = text

instance (text : Text) : Decidable text.IsArgument :=
  decidable_of_iff (',' ∉ text ∧ text.trim = text)
    ⟨fun h => ⟨h.1, h.2⟩, fun h => ⟨h.noComma, h.trimmed⟩⟩

namespace Parameter

/-- A value that is read as it was written: an empty argument stands for the default. -/
structure Keeps (parameter : Parameter) (value : Text) : Prop where
  argument : value.IsArgument
  default_of_empty : value = [] → parameter.default = []

theorem Keeps.orDefault {parameter : Parameter} {value : Text} (h : parameter.Keeps value) :
    parameter.orDefault (some value) = value := by
  cases value with
  | nil => exact h.default_of_empty rfl
  | cons c rest => rfl

end Parameter

namespace Signature

variable {signature : Signature} {values : List Text}

theorem forall_mem_of_forall₂ {R : Parameter → Text → Prop} {p : Text → Prop}
    (h : List.Forall₂ R signature.parameters values) (hp : ∀ parameter value, R parameter value → p value) :
    ∀ value ∈ values, p value := by
  generalize signature.parameters = parameters at h
  induction h with
  | nil => simp
  | cons hvalue _ ih => exact List.forall_mem_cons.2 ⟨hp _ _ hvalue, ih⟩

theorem settle_of_keeps (h : List.Forall₂ Parameter.Keeps signature.parameters values) :
    signature.settle values = values := by
  unfold settle
  generalize signature.parameters = parameters at h ⊢
  induction h with
  | nil => rfl
  | cons hvalue _ ih => rw [List.zipWith_cons_cons, ih, hvalue.argument.trimmed, hvalue.orDefault]

theorem fill_of_keeps (h : List.Forall₂ Parameter.Keeps signature.parameters values) :
    signature.fill values = values := by
  unfold fill
  generalize signature.parameters = parameters at h ⊢
  induction h with
  | nil => rfl
  | cons hvalue _ ih =>
    rw [List.mapIdx_cons]
    simp [hvalue.orDefault, ih]

/-- Empty parentheses stand for one empty value too, whose parameter then has an empty default. -/
theorem fill_nil_of_keeps (h : List.Forall₂ Parameter.Keeps signature.parameters [[]]) :
    signature.fill [] = [[]] := by
  obtain ⟨parameter, rest, hvalue, hrest, hparameters⟩ := List.forall₂_cons_right_iff.1 h
  rw [List.forall₂_nil_right_iff.1 hrest] at hparameters
  simp [fill, hparameters, Parameter.orDefault, hvalue.default_of_empty rfl]

theorem forall₂_fill {R : Parameter → Text → Prop} {arguments : List Text}
    (hdefault : ∀ parameter ∈ signature.parameters, R parameter parameter.default)
    (hargument : ∀ parameter ∈ signature.parameters, ∀ argument ∈ arguments, argument ≠ [] →
      R parameter argument) : List.Forall₂ R signature.parameters (signature.fill arguments) := by
  unfold fill
  generalize signature.parameters = parameters at hdefault hargument ⊢
  induction parameters generalizing arguments with
  | nil => exact .nil
  | cons parameter rest ih =>
    rw [List.forall_mem_cons] at hdefault hargument
    rw [List.mapIdx_cons]
    constructor
    · cases arguments with
      | nil => exact hdefault.1
      | cons argument arguments =>
        cases argument with
        | nil => exact hdefault.1
        | cons c argument => exact hargument.1 (c :: argument) List.mem_cons_self (List.cons_ne_nil c argument)
    · have htail := @ih arguments.tail hdefault.2 fun parameter hmem argument hargument' =>
        hargument.2 parameter hmem argument (List.mem_of_mem_tail hargument')
      simpa [List.getElem?_tail] using htail

end Signature

namespace Call

theorem isArgument_of_mem_splitArguments {text argument : Text} (h : argument ∈ splitArguments text) :
    argument.IsArgument := by
  rw [splitArguments] at h
  split at h
  case isTrue => cases h
  case isFalse =>
    obtain ⟨piece, hpiece, rfl⟩ := List.mem_map.1 h
    constructor
    · intro hmem
      exact Text.notMem_of_mem_splitOn hpiece (Text.mem_of_mem_trim hmem)
    · exact Text.trim_trim piece

theorem isArgument_of_ofText? {text : Text} {call : Call} (h : ofText? text = some call) :
    ∀ argument ∈ call.arguments, argument.IsArgument := by
  obtain ⟨⟨name, inner⟩, -, rfl⟩ := Option.map_eq_some_iff.1 h
  intro argument hmem
  exact isArgument_of_mem_splitArguments hmem

theorem format_eq (name : Text) (values : List Text) :
    format name values = name ++ '(' :: (Text.join ", " values ++ [')']) := by
  simp [format]

/-- A text laid out as a call: blanks, an identifier, any text between parentheses, and blanks. -/
structure IsLaidOut (text before name inner after : Text) : Prop where
  text_eq : text = before ++ (name ++ '(' :: (inner ++ ')' :: after))
  before_blank : before.blank
  isIdentifier_name : isIdentifier name
  after_blank : after.blank

theorem IsLaidOut.trimStart {text before name inner after : Text}
    (h : IsLaidOut text before name inner after) :
    text.trimStart = name ++ '(' :: (inner ++ ')' :: after) := by
  obtain ⟨c, rest, hname, hc, -⟩ := exists_of_isIdentifier h.isIdentifier_name
  rw [h.text_eq, Text.trimStart_append_of_blank h.before_blank, hname, List.cons_append,
    Text.trimStart_of_not_isBlank _ (isBlank_of_isIdentifierStart hc)]

theorem IsLaidOut.parts? {text before name inner after : Text}
    (h : IsLaidOut text before name inner after) : parts? text = some (name, inner) := by
  have hopening : ∀ c ∈ ('(' :: (inner ++ ')' :: after)).head?, isIdentifierChar c = false := by
    rintro c ⟨⟩
    decide
  have hextent : identifierExtent text.trimStart = name.length := by
    rw [h.trimStart, identifierExtent_append hopening, length_of_isIdentifier h.isIdentifier_name]
  have hne : name.length ≠ 0 := by
    obtain ⟨c, rest, hname, -, -⟩ := exists_of_isIdentifier h.isIdentifier_name
    simp [hname]
  have hclosing : Text.trimEnd (inner ++ ')' :: after) = inner ++ [')'] := by
    rw [← List.singleton_append, ← List.append_assoc, Text.trimEnd_append_of_blank h.after_blank,
      Text.trimEnd_concat (by decide)]
  unfold Call.parts?
  simp only [hextent, hne, if_false]
  rw [h.trimStart, List.drop_left, List.take_left]
  simp [hclosing]

theorem isLaidOut_format {name : Text} (h : isIdentifier name) (values : List Text) :
    IsLaidOut (format name values) [] name (Text.join ", " values) [] :=
  ⟨format_eq name values, rfl, h, rfl⟩

theorem parts?_format {name : Text} (h : isIdentifier name) (values : List Text) :
    parts? (format name values) = some (name, Text.join ", " values) := (isLaidOut_format h values).parts?

theorem splitArguments_join {values : List Text} (h : ∀ value ∈ values, value.IsArgument) :
    splitArguments (Text.join ", " values) = if values = [[]] then [] else values := by
  rw [splitArguments]
  split
  case isTrue hblank =>
    match values with
    | [] => rfl
    | [value] =>
      have hempty : value.trim = [] := Text.trim_eq_nil.2 hblank
      rw [(h value List.mem_cons_self).trimmed] at hempty
      simp [hempty]
    | value :: next :: rest =>
      have hmem : ',' ∈ Text.join ", " (value :: next :: rest) := by simp [Text.join_cons_cons]
      exact absurd (List.all_eq_true.1 hblank _ hmem) (by decide)
  case isFalse hblank =>
    have hne : values ≠ [] := by
      rintro rfl
      exact hblank rfl
    have hone : values ≠ [[]] := by
      rintro rfl
      exact hblank rfl
    rw [Text.map_trim_splitOn_join hne fun value hmem => (h value hmem).noComma, if_neg hone]
    calc
      values.map Text.trim = values.map id := List.map_congr_left fun value hmem => (h value hmem).trimmed
      _ = values := List.map_id values

end Call

theorem Signature.keeps_fill {signature : Signature} {text : Text} {call : Call}
    (hdefaults : ∀ parameter ∈ signature.parameters, parameter.default.IsArgument)
    (h : Call.ofText? text = some call) :
    List.Forall₂ Parameter.Keeps signature.parameters (signature.fill call.arguments) := by
  apply forall₂_fill
  · intro parameter hmem
    exact ⟨hdefaults parameter hmem, id⟩
  · intro parameter _ argument hmem hne
    exact ⟨Call.isArgument_of_ofText? h argument hmem, fun hempty => absurd hempty hne⟩

namespace Catalog

variable {catalog : Catalog} {name : Text} {signature : Signature}

theorem mem_of_lookup (h : catalog.lookup name = some signature) : signature ∈ catalog.functions :=
  List.mem_of_find?_eq_some h

theorem lookup_name (h : catalog.lookup name = some signature) :
    catalog.lookup signature.name = some signature := by
  have hupper : signature.name.upper = name.upper := by
    simpa using List.find?_some h
  rw [← h, lookup, hupper]
  rfl

theorem decode?_format {values : List Text} (hlookup : catalog.lookup name = some signature)
    (h : List.Forall₂ Parameter.Keeps signature.parameters values) :
    ∃ reading, catalog.decode? (Call.format signature.name values) = some reading ∧
      reading.function = some signature ∧ reading.values = values := by
  refine ⟨⟨⟨signature.name, Call.splitArguments (Text.join ", " values)⟩, some signature⟩, ?_, rfl, ?_⟩
  · simp [decode?, Call.ofText?, Call.parts?_format signature.isIdentifier_name, lookup_name hlookup]
  · simp only [CallReading.values]
    rw [Call.splitArguments_join (Signature.forall_mem_of_forall₂ h fun _ _ hkeeps => hkeeps.argument)]
    split
    case isTrue hempty =>
      rw [hempty] at h ⊢
      exact Signature.fill_nil_of_keeps h
    case isFalse => exact Signature.fill_of_keeps h

theorem callProblem?_format {values : List Text} (hlookup : catalog.lookup name = some signature)
    (h : List.Forall₂ Parameter.Keeps signature.parameters values) :
    catalog.callProblem? ⟨.function, Call.format signature.name values⟩ =
      (signature.check values).map (.badValue signature.name) := by
  obtain ⟨reading, hdecode, hfunction, hvalues⟩ := decode?_format hlookup h
  simp [callProblem?, hdecode, hfunction, hvalues, Signature.settle_of_keeps h]

theorem callProblem?_eq_none_iff {token : Token} (hkind : token.kind = .function) :
    catalog.callProblem? token = none ↔
      ∃ call signature, Call.ofText? token.text = some call ∧ catalog.lookup call.name = some signature ∧
        signature.check (signature.settle (signature.fill call.arguments)) = none := by
  rw [callProblem?, if_neg (not_not.2 hkind), decode?]
  cases Call.ofText? token.text with
  | none => simp
  | some call =>
    cases hlookup : catalog.lookup call.name with
    | none => simp [hlookup]
    | some signature => simp [hlookup, CallReading.values]

end Catalog

end Screener
