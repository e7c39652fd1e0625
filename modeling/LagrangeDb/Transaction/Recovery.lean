import LagrangeDb.Transaction.Protocol

namespace LagrangeDb.Transaction

open Data LagrangeDb.Participant

/-! The recovery re-drive from the durable rows, and the operations a session
and the recovery sweep run on the transaction. -/

variable (setting : Setting)

/-! The authoritative read.  The participant rows count only between two equal
reads of the transaction row. -/

def sameAuthority (first row : TransactionRow) : Bool :=
  first.participantSetState = row.participantSetState &&
  first.participantSetText = row.participantSetText &&
  first.commitMode = row.commitMode &&
  first.frozenParticipantCount = row.frozenParticipantCount &&
  first.decision = row.decision

abbrev ParticipantRecords := AList fun _ : String => ParticipantRecord

def readTransactionRecoveryState :
    Prog (Option (TransactionRow × ParticipantRecords)) := do
  let some first ← readRow | return none
  let some participants ← readParticipants | return none
  let some row ← readRow | return none
  return if sameAuthority first row then some (row, participants) else none

def restoredParticipant (rows : ParticipantRecords) (partitionId : String) : Participant :=
  match rows.lookup partitionId with
  | none => { partitionId }
  | some row =>
    match completePrepareEvidenceOf row.preparedDigest row.prepareIndex
        row.prepareTerm with
    | none => { partitionId }
    | some evidence =>
      if row.status = .prepared then
        { partitionId
          status := .prepared
          preparedDigest := some evidence.preparedDigest
          prepareIndex := some evidence.prepareIndex
          prepareTerm := some evidence.prepareTerm
          prepareEvidenceRetained := true }
      else { partitionId }

def restoredParticipants (pairs : List String) (rows : ParticipantRecords) :
    Option (List Participant) :=
  if rows.keys.all fun partitionId => pairs.contains partitionId then
    some (pairs.map (restoredParticipant rows))
  else none

structure Candidate where
  row : TransactionRow
  participants : List Participant
  decision : Option DecisionRecord
  decisionReadState : ReadState

def isOpenDecisionState (row : TransactionRow) : Bool :=
  row.participantSetState = .opened && row.commitMode = .notSelected &&
    row.frozenParticipantCount = 0

def isFrozenDecisionState (row : TransactionRow) (participantCount : Nat) : Bool :=
  row.participantSetState = .frozen && row.commitMode ≠ .notSelected &&
    row.frozenParticipantCount = participantCount

def validateRecoveredTransactionDecision (candidate : Candidate) : Bool :=
  (candidate.decision.all fun record =>
    hasExactDecisionParticipants setting
      (candidate.participants.map Participant.partitionId) record) &&
  (isOpenDecisionState candidate.row ||
    isFrozenDecisionState candidate.row candidate.participants.length)

/-- A decision the coordinator already holds must be the recorded one. -/
def holdsRecorded (held recorded : Option DecisionRecord) : Bool :=
  match held, recorded with
  | none, _ => true
  | some _, none => false
  | some held, some recorded =>
    held.decisionText = recorded.decisionText &&
    held.decisionDigest = recorded.decisionDigest

def authorityCandidate (tx : Tx) (row : TransactionRow)
    (rows : ParticipantRecords) : Option Candidate := do
  let pairs ← readParticipantSet row.participantSetText
  let participants ← restoredParticipants pairs rows
  let (decisionReadState, decision) := decisionRecordOfRow setting row
  if decisionReadState = .invalid then none
  else if decision.isSome && row.participantSetState ≠ .frozen then none
  else if !holdsRecorded tx.decision decision then none
  else
    let candidate := { row, participants, decision, decisionReadState }
    if validateRecoveredTransactionDecision setting candidate then some candidate
    else none

/-- The candidate's fields and its new participant records take the place of
the transaction's. -/
def Memory.assign (memory : Memory) (candidate : Candidate) : Memory :=
  candidate.participants.foldl Memory.install
    { memory with
      tx := { memory.tx with
        status := if candidate.row.participantSetState = .frozen then .preparing else .active
        participantSetState := candidate.row.participantSetState
        participantSetText := candidate.row.participantSetText
        commitMode := candidate.row.commitMode
        frozenParticipantCount := candidate.row.frozenParticipantCount
        participants := ∅
        decision := candidate.decision
        decisionReadState := some candidate.decisionReadState } }

def refreshRecoveryAuthority : Prog Bool := do
  match ← readTransactionRecoveryState with
  | none =>
    updateTx fun tx => { tx with decisionReadState := some .unavailable }
    return false
  | some (row, rows) =>
    let found ← updateMemory fun memory =>
      match authorityCandidate setting memory.tx row rows with
      | none =>
        { memory with tx.decisionReadState := some .invalid }
      | some candidate => memory.assign candidate
    return (authorityCandidate setting found.tx row rows).isSome

def allEvidenceRetained (memory : Memory) : Bool :=
  memory.participants.all Participant.prepareEvidenceRetained

/-- The decision an undecided obligation is driven to, where it is driven:
COMMIT on a frozen set with all its evidence, else ROLLBACK once the budget is
spent. -/
def recoveryDecision : Prog (Option Decision) := do
  let memory ← readMemory
  if memory.tx.participantSetState = .frozen && allEvidenceRetained memory then return some .commit
  if ← isTransactionBudgetExceeded then return some .rollback
  return none

def completeRecoveredDecision : Prog Result := do
  match heldDecision (← readMemory).tx with
  | none => throw .recoveryIncomplete
  | some decision =>
    let result ← if decision = .commit then completeCommitDecision
      else completeRollbackDecision
    if result.success then updateTx fun tx => { tx with recoveryDiscovered := false }
    return result

def redriveAuthoritativeRecovery : Prog Result := do
  if !(← refreshRecoveryAuthority setting) then return ← decisionInDoubt
  if (← readMemory).tx.decision.isSome then return ← completeRecoveredDecision
  match ← recoveryDecision with
  | none => decisionInDoubt
  | some decision =>
    match ← attempt freezeParticipantSet with
    | .error _ => decisionInDoubt
    | .ok _ =>
      if (← recordTransactionDecision setting decision) ≠ .recorded then return ← decisionInDoubt
      completeRecoveredDecision

def redriveRecoveredTransaction : Prog Result := do
  let tx := (← readMemory).tx
  if tx.recoveryDiscovered then return ← redriveAuthoritativeRecovery setting
  match heldDecision tx with
  | some .commit => completeCommitDecision
  | some .rollback => completeRollbackDecision
  | none =>
    if tx.status = .prepared ∨ tx.status = .committing then
      let result ← runCommitProtocol setting true
      if heldDecision (← readMemory).tx = some .rollback then
        return { result with
          success := result.rollbackFailedParticipants.isEmpty }
      return result
    runRollbackProtocol setting

def isTerminal (status : Status) : Bool := status = .committed || status = .rolledBack

inductive Operation where
  | enlist (partitionIds : List String)
  | commit
  | rollback
  | redrive
deriving DecidableEq

inductive Outcome where
  | returned (result : Result)
  | threw (failure : Failure) (commitPointReached : Option Bool)
deriving DecidableEq

def outcomeOf : Except Failure Outcome → Outcome
  | .ok outcome => outcome
  | .error failure => .threw failure none

def recoveryObligationAnswer (tx : Tx) : Result :=
  { buildDecisionInDoubtResult tx with
    decisionReadState := some (tx.decisionReadState.getD .notRead) }

def withCommitPoint (tx : Tx) (result : Result) : Result :=
  if result.success then result
  else { result with commitPointReached := some (commitPointReached tx) }

def commitOwned : Prog Outcome := do
  let memory ← readMemory
  if memory.tx.recoveryDiscovered then return .returned (recoveryObligationAnswer memory.tx)
  if !memory.active then
    return .returned {
      success := false
      errorCode := some .noTransaction
      commitPointReached := memory.ended }
  freezeParticipantSet
  let outcome ← attempt (runCommitProtocol setting false)
  let tx := (← readMemory).tx
  match outcome with
  | .ok result => return .returned (withCommitPoint tx result)
  | .error failure => return .threw failure (some (commitPointReached tx))

def rollbackOwned : Prog Outcome := do
  let memory ← readMemory
  if memory.tx.recoveryDiscovered then return .returned (recoveryObligationAnswer memory.tx)
  if !memory.active then return .returned { success := false, errorCode := some .noTransaction }
  return .returned (← runRollbackProtocol setting)

def enlistParticipantsOwned (partitionIds : List String) : Prog Outcome := do
  let memory ← readMemory
  if !memory.active then return .returned { success := false, errorCode := some .noTransaction }
  if memory.tx.recoveryDiscovered then return .returned (recoveryObligationAnswer memory.tx)
  if memory.tx.participantSetState ≠ .opened then
    return .returned {
      success := false, errorCode := some .transactionParticipantsFrozen }
  let requested := partitionIds.dedup
  retainParticipantSet requested
  let memory ← readMemory
  let newlyEnlisted := requested.filter fun partitionId =>
    (memory.participantAt partitionId).map Participant.status ≠ some .active
  let _ ← raise (← awaitStage (newlyEnlisted.map fun partitionId =>
    .begin partitionId (memory.tx.participants.lookup partitionId)))
  return .returned {
    success := true
    participants := getOrderedParticipantIds (← readMemory).tx }

/-- When the sweep takes up the transaction is the environment's choice. -/
def sweepTransaction : Prog Outcome := do
  let tx := (← readMemory).tx
  if !tx.recoveryDiscovered && isTerminal tx.status then return .returned { success := true }
  return .returned (← redriveRecoveredTransaction setting)

def Operation.program : Operation → Prog Outcome
  | .enlist partitionIds => enlistParticipantsOwned partitionIds
  | .commit => commitOwned setting
  | .rollback => rollbackOwned setting
  | .redrive => sweepTransaction setting

end LagrangeDb.Transaction
