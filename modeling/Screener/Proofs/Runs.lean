import Screener.Proofs.Changes

namespace Screener

def Catalog.Encodes (catalog : Catalog) (text : Text) : Prop :=
  ∃ signature ∈ catalog.functions, ∃ values, signature.check values = none ∧
    List.Forall₂ Parameter.Admits signature.parameters values ∧ catalog.encode signature.name values = .ok text

theorem Catalog.Writes.encodes {catalog : Catalog} {text : Text} (h : catalog.Writes text) : catalog.Encodes text := by
  obtain ⟨signature, values, hlookup, htakes, rfl⟩ := h
  have haccepted := htakes.imp fun _ _ hvalue => hvalue.accepted
  refine ⟨signature, mem_of_lookup hlookup, values, ?_, ?_, ?_⟩
  · exact (Signature.check_eq_none_iff htakes.length_eq).2 haccepted
  · exact haccepted.imp fun _ _ hvalue => Parameter.check_eq_none_iff.1 hvalue
  · rw [encode, hlookup]
    exact if_pos htakes.length_eq.symm

namespace Formula

variable {catalog : Catalog} {formula changed : Formula}

theorem count_le_one_of_sublist {shorter longer : Formula} (hsub : shorter.Sublist longer)
    (hone : longer.kinds.count .comparison ≤ 1) : shorter.kinds.count .comparison ≤ 1 :=
  le_trans ((hsub.map Token.kind).count_le _) hone

theorem Change.count_le_one (h : Change catalog formula changed) (hone : formula.kinds.count .comparison ≤ 1) :
    changed.kinds.count .comparison ≤ 1 := by
  cases h with
  | append hnew hrules =>
    rw [kinds_append_singleton, count_append_singleton_le_one hone]
    exact ((misplacement?_eq_none_iff hnew.isKinded).1 hrules).2
  | sameKind hold _ hkind => rwa [kinds_set_of_kind_eq hold hkind]
  | symbol _ _ _ _ hbesides =>
    rw [kinds_set]
    exact count_set_le_one hone (eq_of_hasComparisonBesides hbesides)
  | truncate => exact count_le_one_of_sublist (List.dropLast_sublist formula) hone
  | clear => exact Nat.zero_le 1

theorem count_le_one_apply {edit : Edit} (h : edit.apply catalog formula = .ok changed)
    (hone : formula.kinds.count .comparison ≤ 1) : changed.kinds.count .comparison ≤ 1 := by
  cases Edit.apply_cases h with
  | inl hchange => exact hchange.count_le_one hone
  | inr hdelete =>
    obtain ⟨index, -, hremove⟩ := hdelete
    obtain ⟨i, -, -, rfl⟩ := remove?_eq_some_iff.1 hremove
    exact count_le_one_of_sublist (List.eraseIdx_sublist formula i) hone

end Formula

namespace Session

theorem count_le_one_edit {session : Session} (edit : Edit) (hone : session.formula.kinds.count .comparison ≤ 1) :
    (session.edit edit).1.formula.kinds.count .comparison ≤ 1 := by
  cases (edit_cases session edit).2 with
  | inl hsame => rwa [hsame]
  | inr happly => exact Formula.count_le_one_apply happly hone

/-- A run of any edits from the empty formula makes one comparison at most, symbols of the kind of their text,
decimals, and calls that the catalog encodes with values that the parameters accept.  No edit makes a second
comparison in any formula. -/
theorem oneComparison_hasText_run :
    (∀ (catalog : Catalog) (edits : List Edit),
      let formula := ((Session.mk catalog [] none).run edits).1.formula
      formula.kinds.count .comparison ≤ 1 ∧ ∀ token ∈ formula, token.HasText catalog.Encodes) ∧
    ∀ (session : Session) (edit : Edit), session.formula.kinds.count .comparison ≤ 1 →
      (session.edit edit).1.formula.kinds.count .comparison ≤ 1 := by
  refine ⟨?_, fun session edit => count_le_one_edit edit⟩
  intro catalog edits
  have hrun : ((Session.mk catalog [] none).run edits).1.formula.kinds.count .comparison ≤ 1 ∧
      ((Session.mk catalog [] none).run edits).1.formula.IsBuilt catalog := by
    apply run_induction (P := fun formula => formula.kinds.count .comparison ≤ 1 ∧ formula.IsBuilt catalog)
    · intro edit _ formula changed ⟨hone, hbuilt⟩ happly
      exact ⟨Formula.count_le_one_apply happly hone, Formula.isBuilt_apply happly hbuilt⟩
    · exact ⟨Nat.zero_le 1, by simp [Formula.IsBuilt]⟩
  refine ⟨hrun.1, fun token hmem => ?_⟩
  exact (hrun.2 token hmem).imp fun _ => Catalog.Writes.encodes

/-- A locked offset takes its default alone, and the symbol after a comparison does not become a second one. -/
theorem oneComparison_hasText_run_locked :
    let session : Session := ⟨.builtIn, [⟨.comparison, ">"⟩, ⟨.operator, "-"⟩], none⟩
    Catalog.builtIn.Encodes "OBV(0)" ∧ session.formula.kinds.count .comparison ≤ 1 ∧
      (session.edit (.setOperator 1 "<")).1.formula.kinds.count .comparison ≤ 1 := by
  intro session
  let edits : List Edit :=
    [.putCall "obv" [("N", .str "1")] none, .appendOperator "<", .putCall "obv" [("N", .str " 0 ")] none]
  have hrun : ((Session.mk .builtIn [] none).run edits).1.formula = [⟨.function, "OBV(0)"⟩] := by decide +kernel
  have hone : session.formula.kinds.count .comparison ≤ 1 := by decide
  obtain ⟨hruns, hedits⟩ := oneComparison_hasText_run
  have htexts := (hruns .builtIn edits).2
  rw [hrun] at htexts
  exact ⟨htexts _ List.mem_cons_self, hone, hedits session _ hone⟩

end Session

end Screener
