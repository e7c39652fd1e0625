import LagrangeDb.Transaction.Coordinator

namespace LagrangeDb.Transaction

open Data LagrangeDb.Participant

/-! The decision protocol, the recovery re-drive, and the operations a session
and the recovery sweep run on the transaction. -/

variable (setting : Setting)

inductive ErrorCode where
  | timeout
  | transactionConflict
  | distributedParticipantFailure
  | transactionDecisionInDoubt
  | transactionCommitDecided
  | transactionParticipantsFrozen
  | noTransaction
deriving DecidableEq

structure Result where
  success : Bool
  participants : List String := []
  failedParticipants : List FailedParticipant := []
  rollbackFailedParticipants : List FailedParticipant := []
  stage : Option Status := none
  deferred : Bool := false
  decisionReadState : Option ReadState := none
  errorCode : Option ErrorCode := none
  commitPointReached : Option Bool := none
deriving DecidableEq

def getOrderedParticipantIds (tx : Tx) : List String := Text.sort tx.participants.keys

def buildDecisionInDoubtResult (tx : Tx) : Result :=
  { success := false
    participants := getOrderedParticipantIds tx
    stage := some tx.status
    deferred := true
    decisionReadState := tx.decisionReadState
    errorCode := some .transactionDecisionInDoubt }

def endTransaction (memory : Memory) : Memory :=
  if memory.active then
    { memory with
      active := false, ended := some (commitPointReached memory.tx) }
  else memory

def ensureTransactionStatus (status : Status) : Prog Unit := do
  if (← readMemory).tx.status ≠ status then setTransactionStatus status

def runCommitStage : Prog (List FailedParticipant) := do
  let memory ← readMemory
  let participantKeys := getCommitParticipantKeys memory
  if participantKeys.isEmpty && !memory.tx.participants.keys.isEmpty then return []
  executeParticipantStage .commit participantKeys true

def endCommitted : Prog Result := do
  setTransactionStatus .committed
  let memory ← updateMemory endTransaction
  return {
    success := true, participants := getOrderedParticipantIds memory.tx }

def completeCommitDecision : Prog Result := do
  ensureTransactionStatus .committing
  let failedParticipants ← runCommitStage
  if failedParticipants.isEmpty then endCommitted
  else
    return {
      success := false
      participants := getOrderedParticipantIds (← readMemory).tx
      failedParticipants
      stage := some .committing
      deferred := true
      errorCode := some .distributedParticipantFailure }

def endRolledBack (rollbackFailures : List FailedParticipant) : Prog Unit := do
  if rollbackFailures.isEmpty then
    setTransactionStatus .rolledBack
    let _ ← updateMemory endTransaction
  else
    setTransactionStatus .rollingBack

def runRollbackStage (bound : Bool) : Prog Result := do
  ensureTransactionStatus .rollingBack
  let memory ← readMemory
  let rollbackFailures ← executeParticipantStage (.rollback bound)
    (getRollbackParticipantKeys memory) false
  endRolledBack rollbackFailures
  return {
    success := rollbackFailures.isEmpty
    participants := getOrderedParticipantIds (← readMemory).tx
    failedParticipants := rollbackFailures
    errorCode := if rollbackFailures.isEmpty then none
      else some .distributedParticipantFailure }

def completeRollbackDecision : Prog Result := runRollbackStage true

structure Preparation where
  decision : Decision
  stage : Status
  failedParticipants : List FailedParticipant
  timedOut : Bool

def hasTimeoutFailure (failedParticipants : List FailedParticipant) : Bool :=
  failedParticipants.any fun entry => entry.2 = .timeout

def isConflict : Failure → Bool
  | .participant _ _ refusalCause => refusalCause = some .conflict
  | _ => false

def rolledBackCommitFailure (preparation : Option Preparation) : ErrorCode :=
  match preparation with
  | none => .distributedParticipantFailure
  | some preparation =>
    if preparation.timedOut then .timeout
    else if preparation.failedParticipants.any fun entry =>
        isConflict entry.2 then
      .transactionConflict
    else .distributedParticipantFailure

def budgetSpent (recovering : Bool) : Prog Bool :=
  if recovering then pure false else isTransactionBudgetExceeded

def timedOutPreparation : Prog Preparation := do
  return {
    decision := .rollback, stage := (← readMemory).tx.status
    failedParticipants := [], timedOut := true }

/-- A PREPARE is sent only from PREPARING or PREPARED. -/
def ensurePrepareSent : Prog Unit := do
  let status := (← readMemory).tx.status
  if status ≠ .preparing ∧ status ≠ .prepared then setTransactionStatus .preparing

def prepareForDecision (recovering : Bool) : Prog Preparation := do
  if ← budgetSpent recovering then return ← timedOutPreparation
  ensurePrepareSent
  let failedParticipants ← runPrepareStage recovering
  if !failedParticipants.isEmpty then
    return {
      decision := .rollback, stage := .preparing
      failedParticipants, timedOut := hasTimeoutFailure failedParticipants }
  if ← budgetSpent recovering then return ← timedOutPreparation
  ensureTransactionStatus .prepared
  return {
    decision := .commit, stage := .prepared
    failedParticipants := [], timedOut := false }

def driveTransactionDecision (decision : Decision) (preparation : Option Preparation) : Prog Result := do
  if decision = .commit then return ← completeCommitDecision
  let rollback ← completeRollbackDecision
  let tx := (← readMemory).tx
  return {
    success := false
    participants := getOrderedParticipantIds tx
    failedParticipants := (preparation.map Preparation.failedParticipants).getD []
    rollbackFailedParticipants := rollback.failedParticipants
    stage := some ((preparation.map Preparation.stage).getD tx.status)
    errorCode := some (rolledBackCommitFailure preparation) }

/-- The decision may be recorded although this coordinator holds none. -/
def mayBeDecided (tx : Tx) : Bool :=
  tx.decision.isNone && (tx.status = .committing || tx.commitPointReached)

/-- Adopts a decision that may have been recorded; tells whether the protocol
may go on. -/
def adoptWhereDecided : Prog Bool := do
  if mayBeDecided (← readMemory).tx then
    return (← adoptRecordedTransactionDecision setting) = .recorded
  return true

def decisionInDoubt : Prog Result := do
  return buildDecisionInDoubtResult (← readMemory).tx

def heldDecision (tx : Tx) : Option Decision := tx.decision.map fun record => record.body.decision

def runCommitProtocol (recovering : Bool) : Prog Result := do
  if !(← adoptWhereDecided setting) then return ← decisionInDoubt
  if let some decision := heldDecision (← readMemory).tx then
    return ← driveTransactionDecision decision none
  let preparation ← prepareForDecision recovering
  if (← recordTransactionDecision setting preparation.decision) ≠ .recorded then
    return ← decisionInDoubt
  match heldDecision (← readMemory).tx with
  | some decision => driveTransactionDecision decision (some preparation)
  | none => throw .recoveryIncomplete

/-- The ROLLBACK is recorded over the frozen set, unless a decision is held. -/
def recordRollback : Prog Recording := do
  if (← readMemory).tx.decision.isSome then return .recorded
  freezeParticipantSet
  recordTransactionDecision setting .rollback

def runRollbackProtocol : Prog Result := do
  if !(← adoptWhereDecided setting) then return ← decisionInDoubt
  if (← recordRollback setting) ≠ .recorded then return ← decisionInDoubt
  match heldDecision (← readMemory).tx with
  | some .commit =>
    let _ ← completeCommitDecision
    return {
      success := false
      participants := getOrderedParticipantIds (← readMemory).tx
      errorCode := some .transactionCommitDecided }
  | some .rollback => completeRollbackDecision
  | none => runRollbackStage false

end LagrangeDb.Transaction
