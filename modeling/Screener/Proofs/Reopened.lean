import Screener.Proofs.Built
import Screener.Proofs.CanonicalCalls
import Screener.Proofs.Committed

namespace Screener

theorem zip_set {α β : Type} {as : List α} {bs : List β} {j : Nat} {a : α} (h : as[j]? = some a) (b : β) :
    as.zip (bs.set j b) = (as.zip bs).set j (a, b) := by
  induction as generalizing bs j with
  | nil => cases h
  | cons first rest ih =>
    cases bs with
    | nil => rfl
    | cons head tail =>
      cases j with
      | zero =>
        obtain rfl := Option.some.inj h
        rfl
      | succ j => rw [List.set_cons_succ, List.zip_cons_cons, ih h, List.zip_cons_cons, List.set_cons_succ]

theorem Entries.put_eq_set {α : Type} {entries : Entries α} {j : Nat} {name : Text} (hnodup : entries.names.Nodup)
    (h : entries.names[j]? = some name) (value : α) : put entries name value = entries.set j (name, value) := by
  induction entries generalizing j with
  | nil => cases h
  | cons entry rest ih =>
    obtain ⟨first, held⟩ := entry
    obtain ⟨hfirst, hrest⟩ := List.nodup_cons.1 hnodup
    cases j with
    | zero =>
      obtain rfl := Option.some.inj h
      simp [put]
    | succ j =>
      have hne : first ≠ name := by
        rintro rfl
        exact hfirst (List.mem_of_getElem? h)
      rw [put, if_neg hne, ih hrest h, List.set_cons_succ]

theorem Parameter.orDefault_trim (parameter : Parameter) (text : Text) :
    parameter.orDefault (some text.trim) = if text.blank then parameter.default else text.trim := by
  split
  case isTrue hblank => rw [Text.trim_eq_nil.2 hblank, orDefault]
  case isFalse hblank =>
    cases htrim : text.trim with
    | nil => exact absurd (Text.trim_eq_nil.1 htrim) hblank
    | cons c rest => rfl

namespace Signature

variable {signature : Signature} {values : List Text} {j : Nat} {parameter : Parameter}

theorem given_eq (signature : Signature) (values : List Text) :
    signature.given values = signature.parameterNames.zip (values.map .str) := by
  rw [List.zip_map_right]
  rfl

theorem map_fst_zip_parameterNames {α : Type} {others : List α}
    (hlength : signature.parameters.length = others.length) :
    (signature.parameterNames.zip others).map Prod.fst = signature.parameterNames := by
  apply List.map_fst_zip
  rw [parameterNames, List.length_map, hlength]

theorem put_zip {α : Type} {others : List α} (hlength : signature.parameters.length = others.length)
    (h : signature.parameters[j]? = some parameter) (value : α) :
    Entries.put (signature.parameterNames.zip others) parameter.name value =
      signature.parameterNames.zip (others.set j value) := by
  have hname : signature.parameterNames[j]? = some parameter.name := by
    rw [parameterNames, List.getElem?_map, h]
    rfl
  have hnames : Entries.names (signature.parameterNames.zip others) = signature.parameterNames :=
    map_fst_zip_parameterNames hlength
  rw [zip_set hname]
  apply Entries.put_eq_set
  · rw [hnames]
    exact signature.nodup_names
  · rw [hnames, hname]

section Set

variable (hlength : signature.parameters.length = values.length) (h : signature.parameters[j]? = some parameter)

include hlength h

theorem put_named (value : Text) :
    Entries.put (signature.named values) parameter.name value = signature.named (values.set j value) :=
  put_zip hlength h value

theorem put_given (text : Text) :
    Entries.put (signature.given values) parameter.name (.str text) = signature.given (values.set j text) := by
  rw [given_eq, given_eq, List.map_set, put_zip (by rw [List.length_map, hlength]) h]

end Set

theorem settle_set (h : signature.parameters[j]? = some parameter) (values : List Text) (text : Text) :
    signature.settle (values.set j text) = (signature.settle values).set j (parameter.orDefault (some text.trim)) := by
  simp only [settle, ← List.map_uncurry_zip_eq_zipWith, zip_set h, List.map_set, Function.uncurry_apply_pair]

theorem forall₂_set {R : Parameter → Text → Prop} (h : signature.parameters[j]? = some parameter)
    (hall : List.Forall₂ R signature.parameters values) {value : Text} (hvalue : R parameter value) :
    List.Forall₂ R signature.parameters (values.set j value) := by
  rw [List.forall₂_iff_zip] at hall ⊢
  refine ⟨by rw [List.length_set, hall.1], fun hmem => ?_⟩
  rw [zip_set h] at hmem
  cases List.mem_or_eq_of_mem_set hmem with
  | inl hmem => exact hall.2 hmem
  | inr heq =>
    cases heq
    exact hvalue

theorem check_set (h : signature.parameters[j]? = some parameter)
    (haccepted : List.Forall₂ (fun parameter value => parameter.check value = none) signature.parameters values)
    (value : Text) : signature.check (values.set j value) = parameter.check value := by
  rw [List.forall₂_iff_zip] at haccepted
  have hlt : j < (signature.parameters.zip values).length := by
    rw [List.length_zip, ← haccepted.1, min_self]
    exact (List.getElem?_eq_some_iff.1 h).1
  have hnone {pairs : List (Parameter × Text)} (hsub : pairs ⊆ signature.parameters.zip values) :
      pairs.findSome? (fun pair => pair.1.check pair.2) = none :=
    List.findSome?_eq_none_iff.2 fun pair hmem => haccepted.2 (hsub hmem)
  change (signature.parameters.zip _).findSome? (fun pair => pair.1.check pair.2) = _
  rw [zip_set h, List.set_eq_take_append_cons_drop, if_pos hlt, List.findSome?_append, List.findSome?_cons,
    hnone (List.take_subset _ _), hnone (List.drop_subset _ _)]
  cases parameter.check value <;> rfl

end Signature

theorem Catalog.decode?_of_takes {catalog : Catalog} {signature : Signature} {values : List Text}
    (hoptions : catalog.HasArgumentOptions) (hlookup : catalog.lookup signature.name = some signature)
    (h : List.Forall₂ Parameter.Takes signature.parameters values) :
    ∃ reading, catalog.decode? (Call.format signature.name values) = some reading ∧ reading.known ∧
      reading.name = signature.name ∧ reading.namedValues = signature.named values := by
  have hkeeps := Signature.keeps_of_takes hoptions (mem_of_lookup hlookup) h
  obtain ⟨reading, hread, hfunction, hvalues⟩ := decode?_format hlookup hkeeps
  refine ⟨reading, hread, CallReading.known_iff.2 ⟨signature, hfunction⟩, CallReading.name_of_function hfunction, ?_⟩
  rw [CallReading.namedValues_of_function hfunction, hvalues]

def TokenView.given (view : TokenView) : List (Text × Argument) :=
  view.values.map fun (name, value) => (name, .str value)

namespace Formula

structure ReplacesCall (catalog : Catalog) (formula changed : Formula) (index : Nat) (name : Text)
    (values : List (Text × Text)) : Prop where
  length : changed.length = formula.length
  others : ∀ i, i ≠ index → changed[i]? = formula[i]?
  call : ∃ token reading, changed[index]? = some token ∧ token.kind = .function ∧
    catalog.decode? token.text = some reading ∧ reading.known ∧ reading.name = name ∧ reading.namedValues = values

variable {catalog : Catalog} {formula changed : Formula} {index j : Nat} {token : Token} {signature : Signature}
  {values : List Text} {parameter : Parameter}

theorem apply_putCall_given (hget : formula[index]? = some token) (hkind : token.kind = .function)
    (hlookup : catalog.lookup signature.name = some signature) (hlength : signature.parameters.length = values.length) :
    (Edit.putCall signature.name (signature.given values) (some index)).apply catalog formula =
      match signature.check (signature.settle values) with
      | some problem => .error (.rejected (.badValue problem))
      | none => .ok (formula.set index ⟨.function, Call.format signature.name (signature.settle values)⟩) := by
  simp only [Edit.apply, callToken, hlookup, Signature.resolve_given_eq_settle hlength]
  cases signature.check (signature.settle values) with
  | some problem => rfl
  | none =>
    show putCall formula _ (some (index : Int)) = _
    rw [putCall, at?_natCast, hget]
    exact if_pos hkind

theorem view?_of_decode? {reading : CallReading} (hget : formula[index]? = some token)
    (hkind : token.kind = .function) (hread : catalog.decode? token.text = some reading) (hknown : reading.known) :
    formula.view? catalog index = some ⟨index, token, .call reading.name reading.namedValues⟩ := by
  rw [view?, at?_natCast, hget, Option.map_some, TokenView.contentOf, if_neg (not_not.2 hkind), hread]
  simp only [hknown, if_true]

theorem exists_view_of_isBuilt (hoptions : catalog.HasArgumentOptions) (hget : formula[index]? = some token)
    (hkind : token.kind = .function) (hbuilt : token.IsBuilt catalog) :
    ∃ signature values, catalog.lookup signature.name = some signature ∧
      List.Forall₂ Parameter.Takes signature.parameters values ∧
      formula[index]? = some ⟨.function, Call.format signature.name values⟩ ∧
      formula.view? catalog index = some ⟨index, token, .call signature.name (signature.named values)⟩ := by
  obtain ⟨kind, text⟩ := token
  cases hkind
  obtain ⟨signature, values, hlookup, htakes, rfl⟩ := hbuilt
  obtain ⟨reading, hread, hknown, hname, hvalues⟩ := catalog.decode?_of_takes hoptions hlookup htakes
  refine ⟨signature, values, hlookup, htakes, hget, ?_⟩
  rw [view?_of_decode? hget rfl hread hknown, hname, hvalues]

section Commit

variable (hoptions : catalog.HasArgumentOptions) (hlookup : catalog.lookup signature.name = some signature)
  (htakes : List.Forall₂ Parameter.Takes signature.parameters values)
  (hget : formula[index]? = some ⟨.function, Call.format signature.name values⟩)

include hoptions hlookup htakes hget

theorem apply_putCall_self :
    (Edit.putCall signature.name (signature.given values) (some index)).apply catalog formula = .ok formula := by
  have hkeeps := Signature.keeps_of_takes hoptions (Catalog.mem_of_lookup hlookup) htakes
  have haccepted := htakes.imp fun _ _ hvalue => hvalue.accepted
  rw [apply_putCall_given hget rfl hlookup htakes.length_eq, Signature.settle_of_keeps hkeeps,
    (Signature.check_eq_none_iff htakes.length_eq).2 haccepted]
  obtain ⟨hlt, hcall⟩ := List.getElem?_eq_some_iff.1 hget
  simp only [← hcall, List.set_getElem_self]

theorem apply_putCall_put (h : signature.parameters[j]? = some parameter) (text : Text) :
    (Edit.putCall signature.name (Entries.put (signature.given values) parameter.name (.str text))
      (some index)).apply catalog formula =
        match parameter.check (parameter.orDefault (some text.trim)) with
        | some problem => .error (.rejected (.badValue problem))
        | none => .ok (formula.set index ⟨.function, Call.format signature.name
            (values.set j (parameter.orDefault (some text.trim)))⟩) := by
  have hkeeps := Signature.keeps_of_takes hoptions (Catalog.mem_of_lookup hlookup) htakes
  have haccepted := htakes.imp fun _ _ hvalue => hvalue.accepted
  have hlength : signature.parameters.length = (values.set j text).length := by
    rw [List.length_set, htakes.length_eq]
  rw [Signature.put_given htakes.length_eq h, apply_putCall_given hget rfl hlookup hlength,
    Signature.settle_set h, Signature.settle_of_keeps hkeeps, Signature.check_set h haccepted]

theorem replacesCall_set (h : signature.parameters[j]? = some parameter) {value : Text} (hvalue : parameter.Takes value) :
    ReplacesCall catalog formula (formula.set index ⟨.function, Call.format signature.name (values.set j value)⟩) index
      signature.name (Entries.put (signature.named values) parameter.name value) := by
  obtain ⟨hlt, -⟩ := List.getElem?_eq_some_iff.1 hget
  obtain ⟨reading, hread, hknown, hname, hvalues⟩ :=
    catalog.decode?_of_takes hoptions hlookup (Signature.forall₂_set h htakes hvalue)
  refine ⟨List.length_set, fun i hne => List.getElem?_set_ne hne.symm, _, reading, List.getElem?_set_self hlt, rfl, hread,
    hknown, hname, ?_⟩
  rw [hvalues, Signature.put_named htakes.length_eq h]

end Commit

end Formula

namespace Session

/-- Every call in what a run of edits builds can be opened.  Put back as it is shown, it leaves the formula as it is.
With one value changed, it is put back exactly when the parameter accepts the trimmed value, or its default for a blank
one, and then that value alone has changed. -/
theorem putCall_view_run {catalog : Catalog} (hoptions : catalog.HasArgumentOptions) {edits : List Edit} {index : Nat}
    {token : Token} (hget : ((Session.mk catalog [] none).run edits).1.formula[index]? = some token)
    (hkind : token.kind = .function) :
    let formula := ((Session.mk catalog [] none).run edits).1.formula
    ∃ view signature, formula.view? catalog index = some view ∧ view.editable ∧ signature ∈ catalog.functions ∧
      view.functionName = some signature.name ∧ view.values.map Prod.fst = signature.parameterNames ∧
      (Edit.putCall signature.name view.given (some index)).apply catalog formula = .ok formula ∧
      ∀ parameter ∈ signature.parameters, ∀ text : Text,
        let value := if text.blank then parameter.default else text.trim
        let committed := (Edit.putCall signature.name (Entries.put view.given parameter.name (.str text))
          (some index)).apply catalog formula
        ((∃ changed, committed = .ok changed) ↔ parameter.check value = none) ∧
          ∀ changed, committed = .ok changed →
            formula.ReplacesCall catalog changed index signature.name (Entries.put view.values parameter.name value) := by
  intro formula
  -- Whatever is deleted, the tokens that are left were built from values that their parameters take.
  have hbuilt := @isBuilt_run (Session.mk catalog [] none) rfl edits token (List.mem_of_getElem? hget)
  obtain ⟨signature, values, hlookup, htakes, hcall, hview⟩ :=
    Formula.exists_view_of_isBuilt hoptions hget hkind hbuilt
  have hnames : (signature.named values).map Prod.fst = signature.parameterNames :=
    Signature.map_fst_zip_parameterNames htakes.length_eq
  refine ⟨_, signature, hview, rfl, Catalog.mem_of_lookup hlookup, rfl, hnames,
    Formula.apply_putCall_self hoptions hlookup htakes hcall, ?_⟩
  intro parameter hmem text value committed
  obtain ⟨j, hj⟩ := List.getElem?_of_mem hmem
  have hvalue : parameter.orDefault (some text.trim) = value := parameter.orDefault_trim text
  have hcommitted := Formula.apply_putCall_put hoptions hlookup htakes hcall hj text
  rw [hvalue] at hcommitted
  change committed = _ at hcommitted
  rw [hcommitted]
  cases hcheck : parameter.check value with
  | some problem => simp
  | none =>
    have htaken : parameter.Takes value := by
      refine ⟨hcheck, fun hempty => ?_⟩
      rw [← hvalue] at hempty
      exact Parameter.default_of_orDefault_empty hempty
    refine ⟨by simp, ?_⟩
    rintro _ ⟨⟩
    exact Formula.replacesCall_set hoptions hlookup htakes hcall hj htaken

/-- The second of two calls that a deletion has left side by side, with an empty option: another option can be put in,
another value than the locked one cannot. -/
theorem putCall_view_run_locked :
    let catalog : Catalog := ⟨[⟨"Pick", [⟨"mode", .select ["", "fast"], "", none, rfl⟩,
      ⟨"shift", .number true, "0", none, rfl⟩], none, by decide, by decide⟩], by decide⟩
    let edits : List Edit := [.putCall "pick" [("mode", .str " fast ")] none, .appendOperator "*",
      .putCall "PICK" [("shift", .str " ")] none, .delete 1]
    let formula : Formula := [⟨.function, "Pick(fast, 0)"⟩, ⟨.function, "Pick(, 0)"⟩]
    let shown : List (Text × Text) := [("mode", ""), ("shift", "0")]
    catalog.HasArgumentOptions ∧ ((Session.mk catalog [] none).run edits).1.formula = formula ∧
      ∃ view, formula.view? catalog 1 = some view ∧ view.editable ∧ view.values = shown ∧
        (Edit.putCall "Pick" view.given (some 1)).apply catalog formula = .ok formula ∧
        (∃ changed, (Edit.putCall "Pick" (Entries.put view.given "mode" (.str " fast ")) (some 1)).apply catalog formula =
          .ok changed ∧ formula.ReplacesCall catalog changed 1 "Pick" [("mode", "fast"), ("shift", "0")]) ∧
        ¬ ∃ changed, (Edit.putCall "Pick" (Entries.put view.given "shift" (.str "1")) (some 1)).apply catalog formula =
          .ok changed := by
  intro catalog edits formula shown
  have hoptions : catalog.HasArgumentOptions := by decide
  have hrun : ((Session.mk catalog [] none).run edits).1.formula = formula := by decide +kernel
  have hget : ((Session.mk catalog [] none).run edits).1.formula[1]? = some ⟨.function, "Pick(, 0)"⟩ := by
    rw [hrun]
    rfl
  have hopened := @putCall_view_run catalog hoptions edits 1 _ hget rfl
  rw [hrun] at hopened
  obtain ⟨view, signature, hview, heditable, hsignature, -, -, hsame, hset⟩ := hopened
  change formula.view? catalog 1 = some view at hview
  obtain rfl := List.mem_singleton.1 hsignature
  have hvalues : view.values = shown := by
    have hshown : (formula.view? catalog 1).map TokenView.values = some shown := by decide +kernel
    rw [hview] at hshown
    exact Option.some.inj hshown
  obtain ⟨hmode, hreplaced⟩ := hset _ List.mem_cons_self " fast "
  obtain ⟨hshift, -⟩ := hset _ (List.mem_cons_of_mem _ List.mem_cons_self) "1"
  obtain ⟨changed, hchanged⟩ := hmode.2 (by decide)
  refine ⟨hoptions, hrun, view, hview, heditable, hvalues, hsame, ⟨changed, hchanged, ?_⟩, ?_⟩
  · have hreplaces := hreplaced changed hchanged
    rw [hvalues] at hreplaces
    exact hreplaces
  · intro happlied
    exact absurd (hshift.1 happlied) (by decide)

end Session

end Screener
