import Screener.Proofs.CallShapes
import Screener.Proofs.Items

namespace Screener

theorem Token.exists_isLaidOut {token : Token} (hkind : token.kind = .function) (h : token.IsLexical) :
    ∃ inner, Call.IsLaidOut token.text [] token.callee inner [] := by
  obtain ⟨kind, text⟩ := token
  cases hkind
  obtain ⟨name, inner, hname, -, rfl⟩ := h
  have hcallee : Token.callee ⟨.function, name ++ '(' :: inner ++ [')']⟩ = name := by
    rw [List.append_assoc, List.cons_append, Formula.callee_of_isIdentifier hname]
  refine ⟨inner, ?_, rfl, ?_, rfl⟩
  · rw [hcallee, List.append_assoc, List.cons_append]
    rfl
  · rw [hcallee]
    exact hname

theorem CallReading.IsOf.length_values {reading : CallReading} {signature : Signature} (h : reading.IsOf signature) :
    reading.values.length = signature.parameters.length := by
  rw [← h.values, List.length_map, ← List.length_map Prod.fst, h.names, List.length_map]

namespace Catalog

variable {catalog : Catalog} {formula : Formula} {token : Token} {signature : Signature} {reading : CallReading}
  {problem : Formula.Problem}

/-- A token is read as a call of a function: its text is the function's name in any case of letters and parentheses
from there to the end, and nothing is wrong with it as a call but its values. -/
structure ReadsCall (catalog : Catalog) (token : Token) (signature : Signature) (reading : CallReading) : Prop where
  laidOut : ∃ inner, Call.IsLaidOut token.text [] token.callee inner []
  upper_name : signature.name.upper = token.callee.upper
  decoded : catalog.decode? token.text = some reading
  callee : reading.call.name = token.callee
  isOf : reading.IsOf signature
  problem : catalog.callProblem? token =
    (signature.check (signature.settle reading.values)).map (.badValue signature.name)

theorem callProblem?_of_decode? (hkind : token.kind = .function) (hread : catalog.decode? token.text = some reading)
    (hfunction : reading.function = some signature) :
    catalog.callProblem? token =
      (signature.check (signature.settle reading.values)).map (.badValue signature.name) := by
  simp only [callProblem?, hkind, hread, hfunction, ne_eq, not_true_eq_false, if_false]

theorem exists_readsCall (hkind : token.kind = .function) (hlexical : token.IsLexical)
    (hknown : catalog.contains token.callee) :
    ∃ signature ∈ catalog.functions, ∃ reading, catalog.ReadsCall token signature reading := by
  obtain ⟨inner, hlaid⟩ := Token.exists_isLaidOut hkind hlexical
  obtain ⟨signature, hmem, hupper⟩ := contains_iff.1 hknown
  have hlookup := lookup_eq_some_iff.2 ⟨hmem, hupper⟩
  have hread : catalog.decode? token.text = _ := decode?_of_isLaidOut hlaid
  refine ⟨signature, hmem, _, ⟨inner, hlaid⟩, hupper, hread, rfl, CallReading.isOf_of_function hlookup, ?_⟩
  exact callProblem?_of_decode? hkind hread hlookup

theorem badValue_of_callProblem? (h : token.kind = .function → ∃ signature reading, catalog.ReadsCall token signature reading)
    (hproblem : catalog.callProblem? token = some problem) : ∃ name cause, problem = .badValue name cause := by
  by_cases hkind : token.kind = .function
  · obtain ⟨signature, reading, hreads⟩ := h hkind
    rw [hreads.problem] at hproblem
    obtain ⟨cause, -, rfl⟩ := Option.map_eq_some_iff.1 hproblem
    exact ⟨signature.name, cause, rfl⟩
  · rw [callProblem?, if_pos hkind] at hproblem
    cases hproblem

theorem problem?_ne_of_badValue
    (h : ∀ token ∈ formula, ∀ problem, catalog.callProblem? token = some problem → ∃ name cause, problem = .badValue name cause)
    (hproblem : catalog.problem? formula = some problem) :
    (∀ text, problem ≠ .notCall text) ∧ ∀ name, problem ≠ .unknownFunction name := by
  unfold problem? at hproblem
  split at hproblem
  case h_1 =>
    cases hproblem
    exact ⟨fun _ => nofun, fun _ => nofun⟩
  case h_2 =>
    split at hproblem
    case h_1 =>
      cases hproblem
      exact ⟨fun _ => nofun, fun _ => nofun⟩
    case h_2 =>
      obtain ⟨token, hmem, htoken⟩ := List.exists_of_findSome?_eq_some hproblem
      obtain ⟨name, cause, rfl⟩ := h token hmem problem htoken
      exact ⟨fun _ => nofun, fun _ => nofun⟩

/-- Each call of a formula that is read from a text is read as a call of the function of the catalog whose name it
starts with, in any case of letters, with one value for each parameter.  So only the values of a call can be wrong: the
check of the text finds no token that is not a call and no function that is not known. -/
theorem readsCall_of_read {text : Text} (h : catalog.read text = .ok formula) :
    (∀ token ∈ formula, token.kind = .function →
      ∃ signature ∈ catalog.functions, ∃ reading, catalog.ReadsCall token signature reading ∧
        reading.values.length = signature.parameters.length) ∧
      (∀ token ∈ formula, ∀ problem, catalog.callProblem? token = some problem →
        ∃ name cause, problem = .badValue name cause) ∧
      ∀ problem, catalog.problem? formula = some problem →
        (∀ call, problem ≠ .notCall call) ∧ ∀ name, problem ≠ .unknownFunction name := by
  obtain ⟨hcanonical, hcalls⟩ := Formula.isCanonical_of_ofEquation h
  have hreads (token : Token) (hmem : token ∈ formula) (hkind : token.kind = .function) :=
    exists_readsCall hkind (hcanonical.lexical token hmem) (hcalls token hmem hkind)
  have hvalues (token : Token) (hmem : token ∈ formula) (problem : Formula.Problem)
      (hproblem : catalog.callProblem? token = some problem) : ∃ name cause, problem = .badValue name cause := by
    refine badValue_of_callProblem? (fun hkind => ?_) hproblem
    obtain ⟨signature, -, reading, hread⟩ := hreads token hmem hkind
    exact ⟨signature, reading, hread⟩
  refine ⟨?_, hvalues, fun problem => problem?_ne_of_badValue hvalues⟩
  intro token hmem hkind
  obtain ⟨signature, hsignature, reading, hread⟩ := hreads token hmem hkind
  exact ⟨signature, hsignature, reading, hread, hread.isOf.length_values⟩

/-- A name in other case, parentheses and a line end among the arguments, and a letter of another alphabet. -/
theorem readsCall_of_read_builtIn :
    let call : Token := ⟨.function, "rsi((é,\n), 2)"⟩
    builtIn.read "rsi((é,\n), 2)>OBV( )" = .ok [call, ⟨.comparison, ">"⟩, ⟨.function, "OBV( )"⟩] ∧
      ∃ signature ∈ builtIn.functions, ∃ reading, builtIn.ReadsCall call signature reading ∧
        reading.values.length = signature.parameters.length := by
  intro call
  have hread : builtIn.read "rsi((é,\n), 2)>OBV( )" = .ok [call, ⟨.comparison, ">"⟩, ⟨.function, "OBV( )"⟩] := by
    decide +kernel
  exact ⟨hread, (readsCall_of_read hread).1 call List.mem_cons_self rfl⟩

end Catalog

end Screener
