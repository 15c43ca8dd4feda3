import Screener.Form
import Screener.Proofs.Changes

namespace Screener

theorem Formula.Misplacement.message_ne_nil (cause : Misplacement) : cause.message ≠ [] := by
  cases cause <;> exact List.cons_ne_nil _ _

theorem Parameter.Problem.message_ne_nil (problem : Problem) : problem.message ≠ [] := by
  cases problem <;> simp [message]

theorem Argument.Unwritten.message_ne_nil (cause : Unwritten) : cause.message ≠ [] := by
  unfold message
  cases cause <;> exact mt String.toList_eq_nil_iff.1 (by decide)

theorem Parameter.NoText.message_ne_nil (cause : NoText) : cause.message ≠ [] := by
  cases cause with
  | boolean => exact List.cons_ne_nil _ _
  | unwritten cause => exact cause.message_ne_nil

theorem Rejection.message_ne_nil (rejection : Rejection) : rejection.message ≠ [] := by
  cases rejection with
  | misplaced cause => exact cause.message_ne_nil
  | noText cause => exact cause.message_ne_nil
  | badValue problem => exact problem.message_ne_nil
  | _ => exact List.cons_ne_nil _ _

def Signature.Stumbles (signature : Signature) (values : List (Text × Argument)) (cause : Parameter.NoText) : Prop :=
  ∃ before parameter after, signature.parameters = before ++ parameter :: after ∧
    (∃ value, values.lookup parameter.name = some value ∧ Parameter.textOf value = .error cause) ∧
      ∀ other ∈ before, ∀ value, values.lookup other.name = some value → ∃ text, Parameter.textOf value = .ok text

/-- An edit fails when it has to write what has no text: a literal, a value, or a long index at which there is not what
the edit is about.  A value with a number that is too long is a reason to reject the edit instead. -/
inductive Edit.Fails (catalog : Catalog) (formula : Formula) : Edit → Argument.Unwritten → Prop
  | appendNumber {literal : Argument} {cause : Argument.Unwritten} : literal.text = .error cause →
      Fails catalog formula (.appendNumber literal) cause
  | setNumber {index : Int} {literal : Argument} {cause : Argument.Unwritten} : literal.text = .error cause →
      Fails catalog formula (.setNumber index literal) cause
  | noNumberAt {index : Int} {literal : Argument} {text : Text} : literal.text = .ok text → Text.isLong index →
      (∀ token, formula.at? index = some token → token.kind ≠ .number) →
        Fails catalog formula (.setNumber index literal) .longNumber
  | noOperatorAt {index : Int} {symbol : Text} {kind : Token.Kind} : classify symbol = some kind → Text.isLong index →
      (∀ token, formula.at? index = some token → token.isSymbol = false) →
        Fails catalog formula (.setOperator index symbol) .longNumber
  | noTokenAt {index : Int} : Text.isLong index → formula.at? index = none →
      Fails catalog formula (.delete index) .longNumber
  | value {name : Text} {values : List (Text × Argument)} {target : Option Int} {signature : Signature} :
      catalog.lookup name = some signature → signature.Stumbles values (.unwritten .tooDeep) →
        Fails catalog formula (.putCall name values target) .tooDeep
  | noCallAt {name : Text} {values : List (Text × Argument)} {index : Int} {token : Token} :
      Formula.callToken catalog name values = .ok token → Text.isLong index →
      (∀ token, formula.at? index = some token → token.kind ≠ .function) →
        Fails catalog formula (.putCall name values (some index)) .longNumber

theorem Parameter.resolve_eq_error {parameter : Parameter} {value : Option Argument} {cause : NoText} :
    parameter.resolve value = .error cause ↔ ∃ given, value = some given ∧ textOf given = .error cause := by
  unfold resolve
  split
  case h_1 => simp
  case h_2 => simp [textOf, Argument.text, Except.mapError]
  case h_3 given _ => cases h : textOf given <;> simp [Except.map, h]

theorem Parameter.exists_resolve_eq_ok {parameter : Parameter} {value : Option Argument} :
    (∃ text, parameter.resolve value = .ok text) ↔ ∀ given, value = some given → ∃ text, textOf given = .ok text := by
  unfold resolve
  split
  case h_1 => simp
  case h_2 => simp [textOf, Argument.text, Except.mapError]
  case h_3 given _ => cases h : textOf given <;> simp [Except.map, h]

theorem Signature.resolve_eq_error {signature : Signature} {values : List (Text × Argument)}
    {cause : Parameter.NoText} : signature.resolve values = .error cause ↔ signature.Stumbles values cause := by
  rw [resolve, Fallible.mapM_eq_error]
  constructor
  · rintro ⟨before, parameter, after, texts, hsplit, hbefore, herror⟩
    have hresolved := Fallible.exists_results_iff.1 ⟨texts, hbefore⟩
    exact ⟨before, parameter, after, hsplit, Parameter.resolve_eq_error.1 herror, fun other hmem =>
      Parameter.exists_resolve_eq_ok.1 (hresolved other hmem)⟩
  · rintro ⟨before, parameter, after, hsplit, hvalue, hbefore⟩
    obtain ⟨texts, htexts⟩ := Fallible.exists_results_iff.2 fun other hmem =>
      Parameter.exists_resolve_eq_ok.2 (hbefore other hmem)
    exact ⟨before, parameter, after, texts, hsplit, htexts, Parameter.resolve_eq_error.2 hvalue⟩

namespace Formula

variable {formula : Formula}

variable {cause : Argument.Unwritten} {index : Int}

theorem rejectAt_eq_failed {reason : Int → Rejection} :
    rejectAt reason index = .error (.failed cause) ↔ Text.isLong index ∧ cause = .longNumber := by
  unfold rejectAt
  split
  case isTrue h => simp [h, eq_comm]
  case isFalse h => simp [h, reject]

theorem remove?_eq_none_iff : formula.remove? index = none ↔ formula.at? index = none := by
  simp only [remove?, at?, ite_eq_right_iff, reduceCtorEq, imp_false, inRange_iff, List.getElem?_eq_none_iff]
  omega

theorem delete_eq_failed :
    formula.delete index = .error (.failed cause) ↔
      (Text.isLong index ∧ formula.at? index = none) ∧ cause = .longNumber := by
  rw [delete, ← remove?_eq_none_iff]
  cases formula.remove? index with
  | none => simp [rejectAt_eq_failed]
  | some changed => simp

theorem setNumber_eq_failed {literal : Text} :
    formula.setNumber index literal = .error (.failed cause) ↔
      (Text.isLong index ∧ ∀ token, formula.at? index = some token → token.kind ≠ .number) ∧ cause = .longNumber := by
  rw [setNumber]
  cases hold : formula.at? index with
  | none => simp [rejectAt_eq_failed]
  | some old =>
    by_cases hkind : old.kind = .number
    · cases isDecimal literal <;> simp [hkind, reject]
    · simp [hkind, rejectAt_eq_failed]

theorem setOperator_eq_failed {symbol : Text} :
    formula.setOperator index symbol = .error (.failed cause) ↔
      ((∃ kind, classify symbol = some kind) ∧ Text.isLong index ∧
        ∀ token, formula.at? index = some token → token.isSymbol = false) ∧ cause = .longNumber := by
  rw [setOperator]
  cases hkind : classify symbol with
  | none => simp [reject]
  | some kind =>
    cases hold : formula.at? index with
    | none => simp [rejectAt_eq_failed]
    | some old =>
      simp only [Option.some.injEq, exists_eq', true_and, forall_eq']
      cases old.isSymbol with
      | false => simp [rejectAt_eq_failed]
      | true => cases formula.canSetOperator index symbol <;> simp [reject]

theorem putCall_eq_failed {token : Token} {target : Option Int} :
    formula.putCall token target = .error (.failed cause) ↔
      (∃ index, target = some index ∧ Text.isLong index ∧
        ∀ old, formula.at? index = some old → old.kind ≠ .function) ∧ cause = .longNumber := by
  cases target with
  | none => simp [putCall]
  | some index =>
    simp only [putCall, Option.some.injEq, exists_eq_left']
    cases hold : formula.at? index with
    | none => simp [rejectAt_eq_failed]
    | some old =>
      by_cases hkind : old.kind = .function
      · simp [hkind]
      · simp [hkind, rejectAt_eq_failed]

theorem callToken_eq_failed {catalog : Catalog} {name : Text} {values : List (Text × Argument)} :
    callToken catalog name values = .error (.failed cause) ↔
      (∃ signature, catalog.lookup name = some signature ∧ signature.Stumbles values (.unwritten .tooDeep)) ∧
        cause = .tooDeep := by
  rw [callToken]
  cases catalog.lookup name with
  | none => simp
  | some signature =>
    simp only [Option.some.injEq, exists_eq_left', ← Signature.resolve_eq_error]
    cases signature.resolve values with
    | error found =>
      cases found with
      | boolean => simp [Edit.Refusal.ofNoText]
      | unwritten found => cases found <;> simp [Edit.Refusal.ofNoText, eq_comm]
    | ok ordered => cases hcheck : signature.check ordered <;> simp [hcheck]

theorem appendOperator_ne_failed (symbol : Text) : formula.appendOperator symbol ≠ .error (.failed cause) := by
  unfold appendOperator
  split <;> simp [reject]

theorem appendNumber_ne_failed (literal : Text) : formula.appendNumber literal ≠ .error (.failed cause) := by
  unfold appendNumber
  cases isDecimal literal <;> cases formula.canAppendNumber <;> simp [reject]

theorem truncate_ne_failed : formula.truncate ≠ .error (.failed cause) := by
  unfold truncate
  split <;> simp [reject]

theorem clear_ne_failed : formula.clear ≠ .error (.failed cause) := by
  unfold clear
  split <;> simp [reject]

end Formula

namespace Edit

variable {catalog : Catalog} {formula : Formula} {edit : Edit} {cause : Argument.Unwritten}

theorem literalText_eq_error {literal : Argument} :
    literalText literal = .error cause ↔ literal.text = .error cause := by
  cases literal <;> simp [literalText, Argument.text]

theorem exists_literalText_eq_ok {literal : Argument} :
    (∃ text, literalText literal = .ok text) ↔ ∃ text, literal.text = .ok text := by
  cases literal <;> simp [literalText, Argument.text]

theorem apply_putCall_eq_failed {name : Text} {values : List (Text × Argument)} {target : Option Int} :
    (putCall name values target).apply catalog formula = .error (.failed cause) ↔
      Formula.callToken catalog name values = .error (.failed cause) ∨
        ∃ token, Formula.callToken catalog name values = .ok token ∧
          formula.putCall token target = .error (.failed cause) := Fallible.bind_eq_error

theorem apply_appendNumber_eq_failed {literal : Argument} :
    (appendNumber literal).apply catalog formula = .error (.failed cause) ↔ literal.text = .error cause := by
  rw [← literalText_eq_error]
  cases hliteral : literalText literal with
  | ok text =>
    rw [apply_appendNumber hliteral]
    simp [Formula.appendNumber_ne_failed]
  | error found =>
    rw [apply, hliteral]
    simp [Except.mapError, bind, Except.bind]

theorem apply_setNumber_eq_failed {index : Int} {literal : Argument} :
    (setNumber index literal).apply catalog formula = .error (.failed cause) ↔ literal.text = .error cause ∨
      (∃ text, literal.text = .ok text) ∧ (Text.isLong index ∧
        ∀ token, formula.at? index = some token → token.kind ≠ .number) ∧ cause = .longNumber := by
  rw [← literalText_eq_error, ← exists_literalText_eq_ok]
  cases hliteral : literalText literal with
  | ok text =>
    rw [apply_setNumber hliteral, Formula.setNumber_eq_failed]
    simp
  | error found =>
    rw [apply, hliteral]
    simp [Except.mapError, bind, Except.bind]

theorem fails_of_apply (h : edit.apply catalog formula = .error (.failed cause)) :
    edit.Fails catalog formula cause := by
  cases edit with
  | appendOperator symbol => exact absurd h (Formula.appendOperator_ne_failed symbol)
  | appendNumber literal => exact .appendNumber (apply_appendNumber_eq_failed.1 h)
  | putCall name values target =>
    obtain hvalue | ⟨token, htoken, htarget⟩ := apply_putCall_eq_failed.1 h
    · obtain ⟨⟨signature, hlookup, hstumbles⟩, rfl⟩ := Formula.callToken_eq_failed.1 hvalue
      exact .value hlookup hstumbles
    · obtain ⟨⟨index, rfl, hlong, hnone⟩, rfl⟩ := Formula.putCall_eq_failed.1 htarget
      exact .noCallAt htoken hlong hnone
  | setOperator index symbol =>
    obtain ⟨⟨⟨kind, hkind⟩, hlong, hnone⟩, rfl⟩ := Formula.setOperator_eq_failed.1 h
    exact .noOperatorAt hkind hlong hnone
  | setNumber index literal =>
    obtain hliteral | ⟨⟨text, htext⟩, ⟨hlong, hnone⟩, rfl⟩ := apply_setNumber_eq_failed.1 h
    · exact .setNumber hliteral
    · exact .noNumberAt htext hlong hnone
  | delete index =>
    obtain ⟨⟨hlong, hnone⟩, rfl⟩ := Formula.delete_eq_failed.1 h
    exact .noTokenAt hlong hnone
  | truncate => exact absurd h Formula.truncate_ne_failed
  | clear => exact absurd h Formula.clear_ne_failed

theorem Fails.apply (h : edit.Fails catalog formula cause) :
    edit.apply catalog formula = .error (.failed cause) := by
  cases h with
  | appendNumber hliteral => exact apply_appendNumber_eq_failed.2 hliteral
  | setNumber hliteral => exact apply_setNumber_eq_failed.2 (.inl hliteral)
  | noNumberAt htext hlong hnone => exact apply_setNumber_eq_failed.2 (.inr ⟨⟨_, htext⟩, ⟨hlong, hnone⟩, rfl⟩)
  | noOperatorAt hkind hlong hnone => exact Formula.setOperator_eq_failed.2 ⟨⟨⟨_, hkind⟩, hlong, hnone⟩, rfl⟩
  | noTokenAt hlong hnone => exact Formula.delete_eq_failed.2 ⟨⟨hlong, hnone⟩, rfl⟩
  | value hlookup hstumbles =>
    exact apply_putCall_eq_failed.2 (.inl (Formula.callToken_eq_failed.2 ⟨⟨_, hlookup, hstumbles⟩, rfl⟩))
  | noCallAt htoken hlong hnone =>
    refine apply_putCall_eq_failed.2 (.inr ⟨_, htoken, ?_⟩)
    exact Formula.putCall_eq_failed.2 ⟨⟨_, rfl, hlong, hnone⟩, rfl⟩

end Edit

namespace Session

inductive Question
  | view (index : Int)
  | canAppendOperator (symbol : Text)
  | canAppendNumber
  | search (piece : Text)
  | preview (name : Text) (values : List (Text × Argument))
  | defect
  | snapshot
  | record (name : Option Text) (description : Json)

inductive Reply
  | truth (value : Bool)
  | failed (cause : Argument.Unwritten)
  | view (view : Option TokenView)
  | names (names : List Text)
  | text (text : Except Argument.Unwritten (Option Text))
  | defect (defect : Option Formula.Defect)
  | snapshot (snapshot : Snapshot)
  | record (record : Except Fault Record)

def Reply.ofEdited : Formula.Edited → Reply
  | .ok _ => .truth true
  | .error (.rejected _) => .truth false
  | .error (.failed cause) => .failed cause

def answer (session : Session) : Question → Reply
  | .view index => .view (session.formula.view? session.catalog index)
  | .canAppendOperator symbol => .truth (session.formula.canAppendOperator symbol)
  | .canAppendNumber => .truth session.formula.canAppendNumber
  | .search piece => .names (session.catalog.search piece)
  | .preview name values => .text (session.preview name values)
  | .defect => .defect session.formula.defect?
  | .snapshot => .snapshot session.formula.snapshot
  | .record name description => .record (Form.commit name session.formula description)

inductive Request
  | edit (edit : Edit)
  | ask (question : Question)

def Request.edit? : Request → Option Edit
  | .edit change => some change
  | .ask _ => none

structure Exchange where
  before : Session
  request : Request
  reply : Reply
  report : Option Snapshot
  after : Session

def exchange (session : Session) : Request → Exchange
  | .edit edit =>
    let (after, report) := session.edit edit
    ⟨session, .edit edit, .ofEdited (edit.apply session.catalog session.formula), report, after⟩
  | .ask question => ⟨session, .ask question, session.answer question, none, session⟩

def exchanges (session : Session) : List Request → List Exchange
  | [] => []
  | first :: rest => session.exchange first :: (session.exchange first).after.exchanges rest

namespace Exchange

def isApplied (exchange : Exchange) : Bool :=
  match exchange.request, exchange.reply with
  | .edit _, .truth value => value
  | _, _ => false

/-- What an exchange may be: an edit that applied, reported with the formula it left and what that lacks; one that was
rejected with a reason in words and left the formula as it was; one that failed, or a question, which left everything as
it was. -/
inductive IsFaithful : Exchange → Prop
  | applied {catalog : Catalog} {formula changed : Formula} {last : Option Rejection} {edit : Edit} :
      edit.apply catalog formula = .ok changed →
        IsFaithful ⟨⟨catalog, formula, last⟩, .edit edit, .truth true, some ⟨changed, changed.defect?⟩,
          ⟨catalog, changed, none⟩⟩
  | rejected {catalog : Catalog} {formula : Formula} {last : Option Rejection} {edit : Edit}
      {rejection : Rejection} :
      edit.apply catalog formula = .error (.rejected rejection) → rejection.message ≠ [] →
        IsFaithful ⟨⟨catalog, formula, last⟩, .edit edit, .truth false, none,
          ⟨catalog, formula, some rejection⟩⟩
  | failed {session : Session} {edit : Edit} {cause : Argument.Unwritten} :
      edit.Fails session.catalog session.formula cause →
        IsFaithful ⟨session, .edit edit, .failed cause, none, session⟩
  | answered {session : Session} {question : Question} :
      IsFaithful ⟨session, .ask question, session.answer question, none, session⟩

/-- The next exchange takes up where the first leaves off, and if the first asks whether a symbol or a number may be
put at the end and the next puts it there, both have the same reply. -/
structure Leads (first next : Exchange) : Prop where
  before_eq : next.before = first.after
  operator : ∀ symbol, first.request = .ask (.canAppendOperator symbol) →
    next.request = .edit (.appendOperator symbol) → next.reply = first.reply
  number : ∀ literal text, literalText literal = .ok text → isDecimal text → first.request = .ask .canAppendNumber →
    next.request = .edit (.appendNumber literal) → next.reply = first.reply

end Exchange

namespace Reply

variable {edited : Formula.Edited} {cause : Argument.Unwritten}

theorem ofEdited_eq_failed : ofEdited edited = .failed cause ↔ edited = .error (.failed cause) := by
  rcases edited with (reason | found) | changed <;> simp [ofEdited]

theorem ofEdited_appendOperator (formula : Formula) (symbol : Text) :
    ofEdited (formula.appendOperator symbol) = .truth (formula.canAppendOperator symbol) := by
  have hcan := @Formula.canAppendOperator_iff formula symbol
  unfold Formula.appendOperator
  split
  case h_1 hnone => rw [ofEdited, hcan.2 hnone]
  case h_2 cause hsome =>
    rw [Bool.eq_false_iff.2 (mt hcan.1 (by simp [hsome]))]
    rfl
  case h_3 hclass hnone => simp [Formula.operatorRejection, hclass] at hnone

theorem ofEdited_appendNumber {formula : Formula} {literal : Text} (h : isDecimal literal) :
    ofEdited (formula.appendNumber literal) = .truth formula.canAppendNumber := by
  rw [Formula.appendNumber, h]
  cases formula.canAppendNumber <;> rfl

theorem ofEdited_setOperator (formula : Formula) (index : Int) (symbol : Text) :
    ofEdited (formula.setOperator index symbol) = .truth true ↔ formula.canSetOperator index symbol := by
  have hat : ofEdited (Formula.rejectAt .noOperatorAt index) ≠ .truth true := by
    unfold Formula.rejectAt
    split <;> simp [ofEdited, Formula.reject]
  rw [Formula.setOperator, Formula.canSetOperator]
  cases classify symbol with
  | none => simp [ofEdited, Formula.reject]
  | some kind =>
    cases formula.at? index with
    | none => simpa using hat
    | some old =>
      cases hsymbol : old.isSymbol with
      | false => simpa only [hsymbol, Bool.not_false, if_true, Bool.false_and, Bool.false_eq_true, iff_false] using hat
      | true =>
        cases hsecond : kind == .comparison && formula.hasComparisonBesides index <;>
          simp only [hsymbol, hsecond] <;> simp [ofEdited, Formula.reject]

end Reply

variable {session : Session} {request : Request}

theorem exchange_edit_of_ok {edit : Edit} {changed : Formula}
    (h : edit.apply session.catalog session.formula = .ok changed) :
    session.exchange (.edit edit) =
      ⟨session, .edit edit, .truth true, some changed.snapshot, ⟨session.catalog, changed, none⟩⟩ := by
  simp [exchange, Session.edit, h, Reply.ofEdited]

theorem exchange_edit_of_rejected {edit : Edit} {rejection : Rejection}
    (h : edit.apply session.catalog session.formula = .error (.rejected rejection)) :
    session.exchange (.edit edit) =
      ⟨session, .edit edit, .truth false, none, ⟨session.catalog, session.formula, some rejection⟩⟩ := by
  simp [exchange, Session.edit, h, Reply.ofEdited]

theorem exchange_edit_of_failed {edit : Edit} {cause : Argument.Unwritten}
    (h : edit.apply session.catalog session.formula = .error (.failed cause)) :
    session.exchange (.edit edit) = ⟨session, .edit edit, .failed cause, none, session⟩ := by
  simp [exchange, Session.edit, h, Reply.ofEdited]

theorem exchange_isFaithful (session : Session) (request : Request) : (session.exchange request).IsFaithful := by
  cases request with
  | ask question => exact .answered
  | edit edit =>
    cases h : edit.apply session.catalog session.formula with
    | ok changed =>
      rw [exchange_edit_of_ok h]
      exact .applied h
    | error refusal =>
      cases refusal with
      | rejected rejection =>
        rw [exchange_edit_of_rejected h]
        exact .rejected h rejection.message_ne_nil
      | failed cause =>
        rw [exchange_edit_of_failed h]
        exact .failed (Edit.fails_of_apply h)

@[simp] theorem before_exchange (session : Session) (request : Request) :
    (session.exchange request).before = session := by
  cases request <;> rfl

@[simp] theorem request_exchange (session : Session) (request : Request) :
    (session.exchange request).request = request := by
  cases request <;> rfl

theorem reply_exchange_edit (session : Session) (edit : Edit) :
    (session.exchange (.edit edit)).reply = .ofEdited (edit.apply session.catalog session.formula) := rfl

theorem reply_exchange_eq_failed {edit : Edit} {cause : Argument.Unwritten} :
    (session.exchange (.edit edit)).reply = .failed cause ↔ edit.Fails session.catalog session.formula cause := by
  rw [reply_exchange_edit, Reply.ofEdited_eq_failed]
  exact ⟨Edit.fails_of_apply, Edit.Fails.apply⟩

theorem exchange_leads (session : Session) (first next : Request) :
    (session.exchange first).Leads ((session.exchange first).after.exchange next) := by
  refine ⟨before_exchange _ _, ?_, ?_⟩
  · intro symbol hask hedit
    rw [request_exchange] at hask hedit
    subst hask hedit
    exact Reply.ofEdited_appendOperator session.formula symbol
  · intro literal text hliteral hdecimal hask hedit
    rw [request_exchange] at hask hedit
    subst hask hedit
    rw [reply_exchange_edit, Edit.apply_appendNumber hliteral]
    exact Reply.ofEdited_appendNumber hdecimal

theorem exists_exchange_of_mem {exchange : Exchange} {requests : List Request}
    (h : exchange ∈ session.exchanges requests) : ∃ before request, exchange = Session.exchange before request := by
  induction requests generalizing session with
  | nil => cases h
  | cons first rest ih =>
    cases h with
    | head => exact ⟨session, first, rfl⟩
    | tail _ h => exact ih h

theorem before_head?_exchanges {first : Exchange} {requests : List Request}
    (h : first ∈ (session.exchanges requests).head?) : first.before = session := by
  cases requests with
  | nil => cases h
  | cons request rest =>
    cases h
    exact before_exchange session request

theorem map_request_exchanges (session : Session) (requests : List Request) :
    (session.exchanges requests).map Exchange.request = requests := by
  induction requests generalizing session with
  | nil => rfl
  | cons first rest ih => rw [exchanges, List.map_cons, request_exchange, ih]

theorem isChain_exchanges (session : Session) (requests : List Request) :
    (session.exchanges requests).IsChain Exchange.Leads := by
  induction requests generalizing session with
  | nil => exact .nil
  | cons first rest ih =>
    rw [exchanges, List.isChain_cons]
    refine ⟨?_, ih _⟩
    intro next hnext
    cases rest with
    | nil => cases hnext
    | cons second rest =>
      cases hnext
      exact exchange_leads session first second

theorem filterMap_report {exchanges : List Exchange} (h : ∀ exchange ∈ exchanges, exchange.IsFaithful) :
    exchanges.filterMap Exchange.report =
      (exchanges.filter Exchange.isApplied).map fun exchange => exchange.after.formula.snapshot := by
  induction exchanges with
  | nil => rfl
  | cons first rest ih =>
    obtain ⟨hfirst, hrest⟩ := List.forall_mem_cons.1 h
    cases hfirst with
    | applied _ => exact congrArg (List.cons _) (ih hrest)
    | rejected _ _ => exact ih hrest
    | failed _ => exact ih hrest
    | answered => exact ih hrest

theorem snd_run_cons (session : Session) (first : Edit) (rest : List Edit) :
    (session.run (first :: rest)).2 =
      (session.edit first).2.toList ++ ((session.edit first).1.run rest).2 := rfl

theorem filterMap_report_cons (first : Exchange) (rest : List Exchange) :
    (first :: rest).filterMap Exchange.report = first.report.toList ++ rest.filterMap Exchange.report := by
  rw [List.filterMap_cons]
  cases first.report <;> rfl

theorem run_edits (session : Session) (requests : List Request) :
    session.run (requests.filterMap Request.edit?) =
      (((session.exchanges requests).map Exchange.after).getLastD session,
        (session.exchanges requests).filterMap Exchange.report) := by
  induction requests generalizing session with
  | nil => rfl
  | cons first rest ih =>
    rw [exchanges, List.map_cons, List.getLastD_cons]
    cases first with
    | ask question => exact ih session
    | edit edit =>
      have hedits : (Request.edit edit :: rest).filterMap Request.edit? =
          edit :: rest.filterMap Request.edit? := rfl
      rw [hedits, filterMap_report_cons]
      refine Prod.ext ?_ ?_
      · rw [run_cons, ih]
        rfl
      · rw [snd_run_cons, ih]
        rfl

/-- Whatever a host asks for and in whatever order, from any session: each request makes one exchange, and each
exchange takes up where the one before it leaves off.  An edit applies, and is reported once with the formula it leaves,
or is rejected for a reason in words and leaves the formula as it was, unless it fails; a question leaves everything as
it was.  What the host is told besides is in order the formula after each edit that was answered with yes, and nothing
more.  An operator is appended exactly when the question for it is answered with yes, and so is a decimal; a symbol is
replaced exactly when the check for that allows it. -/
theorem exchanges_faithful (session : Session) (requests : List Request) :
    let exchanges := session.exchanges requests
    (exchanges.map Exchange.request = requests ∧ (∀ first ∈ exchanges.head?, first.before = session) ∧
      exchanges.IsChain Exchange.Leads) ∧
    (∀ exchange ∈ exchanges, exchange.IsFaithful) ∧
    (∀ exchange ∈ exchanges, ∀ edit, exchange.request = .edit edit → ∀ cause, exchange.reply = .failed cause ↔
      edit.Fails exchange.before.catalog exchange.before.formula cause) ∧
    (exchanges.filterMap Exchange.report =
      (exchanges.filter Exchange.isApplied).map fun exchange =>
        ⟨exchange.after.formula, exchange.after.formula.defect?⟩) ∧
    session.run (requests.filterMap Request.edit?) =
      ((exchanges.map Exchange.after).getLastD session, exchanges.filterMap Exchange.report) ∧
    ∀ exchange ∈ exchanges, ∀ index symbol, exchange.request = .edit (.setOperator index symbol) →
      (exchange.reply = .truth true ↔ exchange.before.formula.canSetOperator index symbol) := by
  have hfaithful : ∀ exchange ∈ session.exchanges requests, exchange.IsFaithful := by
    intro exchange hmem
    obtain ⟨before, request, rfl⟩ := exists_exchange_of_mem hmem
    exact exchange_isFaithful before request
  refine ⟨⟨map_request_exchanges session requests, fun _ => before_head?_exchanges,
    isChain_exchanges session requests⟩, hfaithful, ?_, filterMap_report hfaithful, run_edits session requests, ?_⟩
  · intro exchange hmem edit hedit cause
    obtain ⟨before, request, rfl⟩ := exists_exchange_of_mem hmem
    rw [request_exchange] at hedit
    subst hedit
    exact reply_exchange_eq_failed
  · intro exchange hmem index symbol hedit
    obtain ⟨before, request, rfl⟩ := exists_exchange_of_mem hmem
    rw [request_exchange] at hedit
    subst hedit
    exact Reply.ofEdited_setOperator before.formula index symbol

/-- No token stands at a position with more digits than are written, and the reason would have to name it. -/
theorem exchanges_delete_long :
    ((Session.start .builtIn []).exchanges [.edit (.delete (Nat.pow 10 Text.digitLimit))]).map Exchange.reply =
      [.failed .longNumber] := by
  have hfails : Edit.Fails (Session.start .builtIn []).catalog [] (.delete (Nat.pow 10 Text.digitLimit)) .longNumber := by
    refine .noTokenAt (Text.isLong_iff.2 (Int.natAbs_natCast _).ge) ?_
    unfold Formula.at?
    split <;> rfl
  exact congrArg (fun reply => [reply]) (reply_exchange_eq_failed.2 hfails)

/-- Tokens that no edit would make can be started from; what is said of them is true all the same. -/
example :
    ((Session.mk Catalog.builtIn [⟨.operator, "RSI"⟩, ⟨.comparison, "5"⟩] none).exchanges
      [.edit (.appendOperator "+"), .ask .canAppendNumber, .edit (.appendNumber (.str " 7 ")), .ask (.view 0),
        .edit (.setOperator 0 ">"), .edit (.setOperator 1 "+"), .edit (.delete 9)]).map Exchange.isApplied =
      [false, false, true, false, false, true, false] := by
  decide

end Session

end Screener
