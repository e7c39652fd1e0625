namespace LagrangeDb.Pgwire

/-! The state a PostgreSQL connection keeps on the server, and how the engine's
answer to a statement moves it. -/

inductive TransactionState where
  | idle
  | inTransaction
  | failed
deriving DecidableEq

inductive Control where
  | begin
  | commit
  | rollback
deriving DecidableEq

def Control.endsTransaction : Control → Bool
  | begin => false
  | commit | rollback => true

/-- The kind the engine stamps on a result. A kind without a tag is one the wire
has no answer for. -/
inductive StatementType where
  | control (control : Control)
  | other (tag : Option String)
deriving DecidableEq

def StatementType.transactionEnd : Option StatementType → Option Control
  | some (.control ending) => if ending.endsTransaction then some ending else none
  | _ => none

inductive ErrorCode where
  | emptyStatement
  | noTransaction
  | timeout
  | other (code : String)
deriving DecidableEq

structure Failure where
  statementType : Option StatementType := none
  errorCode : Option ErrorCode := none
  message : String := ""
  sqlState : String := "XX000"
  commitPointReached : Option Bool := none
  sessionTransactionActive : Option Bool := none
deriving DecidableEq

inductive Answer where
  | succeeded (statementType : Option StatementType)
      (transactionId : Option String)
  | failed (failure : Failure)
  | provisioningDeadlineExpired
deriving DecidableEq

/-- What is written to the client. Row frames are left out. -/
inductive Reply where
  | emptyQueryResponse
  | notice (code message : String)
  | commandComplete (tag : String)
  | errorResponse (code message : String)
  | parseComplete
  | bindComplete
  | closeComplete
  | noData
  | readyForQuery (state : TransactionState)
deriving DecidableEq

structure PreparedStatement where
  query : String
  paramTypes : List Int
deriving DecidableEq

structure Portal where
  statementName : String
  params : List (Option String)
deriving DecidableEq

abbrev Names (α : Type) := String → Option α

namespace Names

variable {α : Type}

def set (names : Names α) (name : String) (value : α) : Names α :=
  fun other => if other = name then some value else names other

def delete (names : Names α) (name : String) : Names α :=
  fun other => if other = name then none else names other

end Names

structure Session where
  txState : TransactionState
  transactionId : Option String
  transactionOutcomeUnknown : Bool
  statements : Names PreparedStatement
  portals : Names Portal

namespace Session

def fresh : Session where
  txState := .idle
  transactionId := none
  transactionOutcomeUnknown := false
  statements := fun _ => none
  portals := fun _ => none

variable (session : Session)

/-- The portal of the same name goes with the statement it replaces. -/
def setPreparedStatement (name query : String) (paramTypes : List Int) : Session :=
  { session with
    statements := session.statements.set name ⟨query, paramTypes⟩
    portals := session.portals.delete name }

def closePreparedStatement (name : String) : Session :=
  { session with
    statements := session.statements.delete name
    portals := session.portals.delete name }

def setPortal (portalName statementName : String) (params : List (Option String)) : Session :=
  { session with
    portals := session.portals.set portalName ⟨statementName, params⟩ }

def closePortal (name : String) : Session :=
  { session with portals := session.portals.delete name }

def setTransactionState (state : TransactionState) : Session :=
  match state with
  | .idle => { session with
      txState := .idle, transactionId := none,
      transactionOutcomeUnknown := false }
  | state => { session with txState := state }

def markTransactionOutcomeUnknown : Session :=
  { session with transactionOutcomeUnknown := true }

def forgetTransactionOutcomeUnknown : Session :=
  { session with transactionOutcomeUnknown := false }

def enterTransaction (transactionId : Option String) : Session :=
  { session with
    txState := .inTransaction
    transactionId := transactionId.filter fun id => !id.isEmpty }

/-- The statement to execute; none where a failed block refuses it. The grammar
says which texts are transaction control. -/
def admitStatement (grammar : String → Option Control) (query : String) : Option String :=
  if session.txState = .failed then
    match grammar query with
    | some .rollback => some query
    | some .commit => some "ROLLBACK"
    | _ => none
  else some query

end Session

def noTransactionWarning : Reply := .notice "25P01" "there is no transaction in progress"

def previousOutcomeUnknownNotice : Reply :=
  .notice "08007" ("the previous transaction's outcome is unknown; " ++
    "some changes may have been committed")

def outcomeUnknownMessage : String :=
  "the transaction's outcome is unknown; some changes may have been committed"

def rolledBackBeforeCommitMessage : ErrorCode → Option String
  | .noTransaction =>
    some ("the transaction is no longer active on the server: it was rolled " ++
      "back (its transaction budget expired); no changes were committed")
  | .timeout =>
    some ("the transaction exceeded its transaction budget and was rolled " ++
      "back; no changes were committed")
  | _ => none

def tagOf : Control → String
  | .begin => "BEGIN"
  | .commit => "COMMIT"
  | .rollback => "ROLLBACK"

inductive Outcome where
  | complete (control : Control) (warn : Bool)
  | error (code message : String) (outcomeUnknown : Bool)
  | engineError
deriving DecidableEq

def heldState (failure : Failure) : TransactionState :=
  if failure.sessionTransactionActive ≠ some false then .failed else .idle

def failedCommitOutcome (failure : Failure) : Outcome × TransactionState :=
  let state := heldState failure
  if failure.commitPointReached ≠ some false then (.error "08007" outcomeUnknownMessage true, state)
  else
    match failure.errorCode.bind rolledBackBeforeCommitMessage with
    | some message => (.error "25P04" message false, state)
    | none => (.engineError, state)

def failedTransactionEndOutcome (idle : Bool) (control : Control)
    (failure : Failure) : Outcome × TransactionState :=
  let noTransaction := failure.errorCode = some .noTransaction
  let rollback := control = .rollback
  if noTransaction && (rollback || idle) then (.complete control idle, .idle)
  else if !rollback && !idle then failedCommitOutcome failure
  else (.engineError, heldState failure)

def resolveFailedStatementOutcome (stateBefore : TransactionState)
    (failure : Failure) : Outcome × TransactionState :=
  let idle := stateBefore = .idle
  match StatementType.transactionEnd failure.statementType with
  | some control => failedTransactionEndOutcome idle control failure
  | none =>
    if idle then (.engineError, .idle)
    else if failure.errorCode = some .noTransaction then
      (.error "25P04" failure.message false, .failed)
    else (.engineError, .failed)

def Outcome.isUnknown : Outcome → Bool
  | error _ _ outcomeUnknown => outcomeUnknown
  | _ => false

def outcomeReplies (failure : Failure) (previousOutcomeUnknown : Bool) : Outcome → List Reply
  | .complete control warn =>
    (if previousOutcomeUnknown then [previousOutcomeUnknownNotice]
    else if warn then [noTransactionWarning] else []) ++
      [.commandComplete (tagOf control)]
  | .error code message _ => [.errorResponse code message]
  | .engineError => [.errorResponse failure.sqlState failure.message]

def answerFailedStatement (session : Session) (stateBefore : TransactionState)
    (failure : Failure) : Session × List Reply :=
  let (outcome, state) := resolveFailedStatementOutcome stateBefore failure
  let ends := (StatementType.transactionEnd failure.statementType).isSome
  let previousOutcomeUnknown := ends && session.transactionOutcomeUnknown
  let taken := if ends then session.forgetTransactionOutcomeUnknown else session
  let moved := taken.setTransactionState state
  let marked :=
    if (outcome.isUnknown || previousOutcomeUnknown) && state = .failed then
      moved.markTransactionOutcomeUnknown
    else moved
  (marked, outcomeReplies failure previousOutcomeUnknown outcome)

def deriveCommandTag : Option StatementType → Option String
  | some (.control control) => some (tagOf control)
  | some (.other tag) => tag
  | none => none

def applyTransactionOutcome (session : Session)
    (statementType : Option StatementType) (transactionId : Option String) : Session :=
  match statementType with
  | some (.control .begin) => session.enterTransaction transactionId
  | some (.control _) => session.setTransactionState .idle
  | _ => session

/-- An error of the wire itself carries none of the engine's fields. -/
def unknownStatementTypeFailure : Failure :=
  { message := "unknown statement type" }

def provisioningFailure : Failure :=
  { message := "Schema provisioning remains active", sqlState := "55P03" }

/-- The engine's answer moves the session and is written to the client. -/
def answerStatement (session : Session) : Answer → Session × List Reply
  | .provisioningDeadlineExpired =>
    answerFailedStatement session session.txState provisioningFailure
  | .failed failure =>
    if failure.errorCode = some .emptyStatement then (session, [.emptyQueryResponse])
    else answerFailedStatement session session.txState failure
  | .succeeded statementType transactionId =>
    match deriveCommandTag statementType with
    | none =>
      answerFailedStatement session session.txState
        unknownStatementTypeFailure
    | some tag =>
      let ends := (StatementType.transactionEnd statementType).isSome
      let notice :=
        if ends && session.transactionOutcomeUnknown then [previousOutcomeUnknownNotice]
        else []
      let taken := if ends then session.forgetTransactionOutcomeUnknown else session
      (applyTransactionOutcome taken statementType transactionId, notice ++ [.commandComplete tag])

@[simp] theorem Session.portals_setTransactionState (session : Session) (state : TransactionState) :
    (session.setTransactionState state).portals = session.portals := by
  cases state <;> rfl

@[simp] theorem Session.statements_setTransactionState (session : Session)
    (state : TransactionState) :
    (session.setTransactionState state).statements = session.statements := by
  cases state <;> rfl

theorem answerFailedStatement_names (session : Session)
    (stateBefore : TransactionState) (failure : Failure) :
    (answerFailedStatement session stateBefore failure).1.statements = session.statements ∧
      (answerFailedStatement session stateBefore failure).1.portals = session.portals := by
  unfold answerFailedStatement
  generalize resolveFailedStatementOutcome stateBefore failure = resolved
  obtain ⟨outcome, state⟩ := resolved
  dsimp only
  split <;> split <;>
    simp [Session.markTransactionOutcomeUnknown, Session.forgetTransactionOutcomeUnknown]

theorem answerStatement_names (session : Session) (answer : Answer) :
    (answerStatement session answer).1.statements = session.statements ∧
      (answerStatement session answer).1.portals = session.portals := by
  cases answer with
  | provisioningDeadlineExpired => exact answerFailedStatement_names ..
  | failed failure =>
    simp only [answerStatement]
    split
    · exact ⟨rfl, rfl⟩
    · exact answerFailedStatement_names ..
  | succeeded statementType transactionId =>
    simp only [answerStatement]
    split
    · exact answerFailedStatement_names ..
    unfold applyTransactionOutcome
    split <;> split <;>
      simp [Session.enterTransaction, Session.forgetTransactionOutcomeUnknown]

end LagrangeDb.Pgwire
