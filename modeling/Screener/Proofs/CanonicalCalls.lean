import Screener.Proofs.Rebuilt

namespace Screener

instance (parameter : Parameter) (value : Text) : Decidable (parameter.Keeps value) :=
  decidable_of_iff (value.IsArgument ∧ (value = [] → parameter.default = []))
    ⟨fun h => ⟨h.1, h.2⟩, fun h => ⟨h.argument, h.default_of_empty⟩⟩

namespace CallReading

variable {reading : CallReading} {signature : Signature}

theorem known_iff : reading.known ↔ ∃ signature, reading.function = some signature := Option.isSome_iff_exists

theorem name_of_function (h : reading.function = some signature) : reading.name = signature.name := by
  rw [name, h]

theorem values_of_function (h : reading.function = some signature) :
    reading.values = signature.fill reading.call.arguments := by rw [values, h]

theorem namedValues_of_function (h : reading.function = some signature) :
    reading.namedValues = signature.named reading.values := by rw [namedValues, h]

end CallReading

namespace Catalog

variable {catalog : Catalog} {signature : Signature} {name text : Text} {values : List Text}
  {reading : CallReading}

theorem lookup_eq_some_iff :
    catalog.lookup name = some signature ↔
      signature ∈ catalog.functions ∧ signature.name.upper = name.upper := by
  constructor
  · intro h
    exact ⟨mem_of_lookup h, by simpa using List.find?_some h⟩
  · intro ⟨hmem, hupper⟩
    have hnodup := catalog.nodup_upper
    unfold lookup
    generalize catalog.functions = functions at hmem hnodup
    induction functions with
    | nil => cases hmem
    | cons first rest ih =>
      rw [List.map_cons, List.nodup_cons] at hnodup
      rw [List.find?_cons]
      cases List.mem_cons.1 hmem with
      | inl hfirst => simp [← hfirst, hupper]
      | inr hrest =>
        have hne : first.name.upper ≠ name.upper := by
          rw [← hupper]
          intro heq
          exact hnodup.1 (heq ▸ List.mem_map_of_mem hrest)
        rw [beq_false_of_ne hne]
        exact ih hrest hnodup.2

theorem encode_of_lookup (h : catalog.lookup name = some signature)
    (hlength : values.length = signature.parameters.length) :
    catalog.encode name values = .ok (Call.format signature.name values) := by
  rw [encode, h]
  exact if_pos hlength

theorem decode?_of_lookup (h : catalog.lookup name = some signature) (values : List Text) :
    catalog.decode? (Call.format signature.name values) =
      some ⟨⟨signature.name, Call.splitArguments (Text.join ", " values)⟩, some signature⟩ := by
  simp [decode?, Call.ofText?, Call.parts?_format signature.isIdentifier_name, lookup_name h]

theorem lookup_of_decode? (h : catalog.decode? text = some reading) (hfunction : reading.function = some signature) :
    catalog.lookup reading.name = some signature := by
  obtain ⟨call, -, rfl⟩ := Option.map_eq_some_iff.1 h
  rw [CallReading.name_of_function hfunction]
  exact lookup_name hfunction

theorem keeps_values (hdefaults : catalog.HasPlainDefaults) (h : catalog.decode? text = some reading)
    (hfunction : reading.function = some signature) :
    List.Forall₂ Parameter.Keeps signature.parameters reading.values := by
  have hmem := mem_of_lookup (lookup_of_decode? h hfunction)
  obtain ⟨call, hcall, rfl⟩ := Option.map_eq_some_iff.1 h
  rw [CallReading.values_of_function hfunction]
  exact Signature.keeps_fill (hdefaults signature hmem) hcall

/-- What is encoded is read as a call of its function, by the name that the catalog has for it.  The values come back
exactly when each has no comma, is trimmed, and is not empty unless its parameter's default is. -/
theorem values_of_encode_iff (hdefaults : catalog.HasPlainDefaults) (hsignature : signature ∈ catalog.functions)
    (hname : signature.name.upper = name.upper) (hlength : values.length = signature.parameters.length) :
    ∃ text reading, catalog.encode name values = .ok text ∧ catalog.decode? text = some reading ∧
      reading.known ∧ reading.name = signature.name ∧
        (reading.values = values ↔ List.Forall₂ Parameter.Keeps signature.parameters values) := by
  have hlookup := lookup_eq_some_iff.2 ⟨hsignature, hname⟩
  have hdecode := decode?_of_lookup hlookup values
  refine ⟨_, _, encode_of_lookup hlookup hlength, hdecode, rfl, rfl, ?_, ?_⟩
  · intro heq
    rw [← heq]
    exact keeps_values hdefaults hdecode rfl
  · intro hkeeps
    obtain ⟨reading, hreading, -, hvalues⟩ := decode?_format hlookup hkeeps
    rw [hdecode] at hreading
    cases hreading
    exact hvalues

/-- Parentheses and line ends stay as they are, and so does an empty value if it is the default; elsewhere an empty
value is lost. -/
theorem values_of_encode_iff_empty_default :
    let catalog : Catalog := ⟨[⟨"Pick", [⟨"mode", .select ["", "fast"], "", none, rfl⟩,
      ⟨"shift", .number false, "0", none, rfl⟩], none, by decide, by decide⟩], by decide⟩
    (∃ text reading, catalog.encode "PICK" ["", ")\n("] = .ok text ∧ catalog.decode? text = some reading ∧
        reading.known ∧ reading.name = "Pick" ∧ reading.values = ["", ")\n("]) ∧
      ∃ text reading, catalog.encode "PICK" ["fast", ""] = .ok text ∧ catalog.decode? text = some reading ∧
        reading.known ∧ reading.name = "Pick" ∧ reading.values ≠ ["fast", ""] := by
  intro catalog
  have hdefaults : catalog.HasPlainDefaults := by
    unfold HasPlainDefaults
    decide
  have hmem : catalog.functions.head (by decide) ∈ catalog.functions := List.head_mem _
  constructor
  · obtain ⟨text, reading, hencode, hdecode, hknown, hname, hvalues⟩ :=
      @values_of_encode_iff catalog _ "PICK" ["", ")\n("] hdefaults hmem (by decide) (by decide)
    exact ⟨text, reading, hencode, hdecode, hknown, hname, hvalues.2 (by decide)⟩
  · obtain ⟨text, reading, hencode, hdecode, hknown, hname, hvalues⟩ :=
      @values_of_encode_iff catalog _ "PICK" ["fast", ""] hdefaults hmem (by decide) (by decide)
    exact ⟨text, reading, hencode, hdecode, hknown, hname, fun heq => absurd (hvalues.1 heq) (by decide)⟩

/-- A known call can be written with the values that it is read with.  What is written means the same and is written
as itself again; it is the text that was read exactly when that is the text of values that come back. -/
theorem encode_values_canonical (hdefaults : catalog.HasPlainDefaults) (hread : catalog.decode? text = some reading)
    (hknown : reading.known) :
    ∃ signature ∈ catalog.functions, reading.name = signature.name ∧
      ∃ written again, catalog.encode reading.name reading.values = .ok written ∧
        catalog.decode? written = some again ∧ again.known ∧ again.name = reading.name ∧
          again.namedValues = reading.namedValues ∧ catalog.encode again.name again.values = .ok written ∧
            (written = text ↔ ∃ values, List.Forall₂ Parameter.Keeps signature.parameters values ∧
              catalog.encode reading.name values = .ok text) := by
  obtain ⟨signature, hfunction⟩ := CallReading.known_iff.1 hknown
  have hlookup := lookup_of_decode? hread hfunction
  have hkeeps := keeps_values hdefaults hread hfunction
  have hencode := encode_of_lookup hlookup hkeeps.length_eq.symm
  obtain ⟨again, hagain, hsame, hvalues⟩ := decode?_format hlookup hkeeps
  have hname : again.name = reading.name := by
    rw [CallReading.name_of_function hsame, CallReading.name_of_function hfunction]
  refine ⟨signature, mem_of_lookup hlookup, CallReading.name_of_function hfunction, _, again, hencode, hagain,
    CallReading.known_iff.2 ⟨signature, hsame⟩, hname, ?_, ?_, ?_, ?_⟩
  · rw [CallReading.namedValues_of_function hsame, CallReading.namedValues_of_function hfunction, hvalues]
  · rw [hname, hvalues, hencode]
  · rintro rfl
    exact ⟨reading.values, hkeeps, hencode⟩
  · intro ⟨values, hvalues, htext⟩
    rw [encode_of_lookup hlookup hvalues.length_eq.symm, Except.ok.injEq] at htext
    obtain ⟨other, hother, -, hback⟩ := decode?_format hlookup hvalues
    rw [htext, hread] at hother
    cases hother
    rw [hback, htext]

/-- A name in other case, a blank argument, spaces, and one argument too many. -/
theorem encode_values_canonical_builtIn :
    let reading : CallReading := ⟨⟨"rsi", ["", "1", "7", "9"]⟩, builtIn.lookup "RSI"⟩
    builtIn.decode? " rsi( , 1 ,7, 9) " = some reading ∧ reading.known ∧
      ∃ again, builtIn.encode reading.name reading.values = .ok "RSI(CLOSE, 1, 7)" ∧
        builtIn.decode? "RSI(CLOSE, 1, 7)" = some again ∧ again.known ∧ again.name = reading.name ∧
          again.namedValues = reading.namedValues ∧
            builtIn.encode again.name again.values = .ok "RSI(CLOSE, 1, 7)" := by
  intro reading
  have hread : builtIn.decode? " rsi( , 1 ,7, 9) " = some reading := by decide +kernel
  have hknown : reading.known := by decide +kernel
  have hwritten : builtIn.encode reading.name reading.values = .ok "RSI(CLOSE, 1, 7)" := by decide +kernel
  obtain ⟨-, -, -, written, again, hencode, hagain, hagainKnown, hname, hvalues, hback, -⟩ :=
    encode_values_canonical hasPlainDefaults_builtIn hread hknown
  rw [hwritten, Except.ok.injEq] at hencode
  rw [← hencode] at hagain hback
  exact ⟨hread, hknown, again, hwritten, hagain, hagainKnown, hname, hvalues, hback⟩

end Catalog

end Screener
