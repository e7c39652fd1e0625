import LagrangeDb.Transaction.Calls

namespace LagrangeDb.Transaction

open Data LagrangeDb.Participant

/-! The coordinator's programs: admission, the stages, the decision record and the recovery re-
drive. -/

variable (setting : Setting)

def noteCommitPoint (tx : Tx) (status : Status) : Tx :=
  if status = .committing ∨ tx.status = .committing then
    { tx with commitPointReached := true }
  else tx

def commitPointReached (tx : Tx) : Bool :=
  tx.commitPointReached || tx.status = .committing || tx.status = .committed

def persistTransactionRecord (status : Status) : Prog Unit := do
  match ← mutate (.status status) with
  | some _ => return
  | none => throw .persistence

def setTransactionStatus (status : Status) : Prog Unit := do
  let previousStatus := (← readMemory).tx.status
  updateTx fun tx => { noteCommitPoint tx status with status }
  try persistTransactionRecord status
  catch failure =>
    updateTx fun tx => { tx with status := previousStatus }
    throw failure

def isTransient (participant : Participant) : Bool :=
  (participant.status = .preparing || participant.status = .committing ||
    participant.status = .rollingBack) && participant.lastError.isNone

/-- Progress of a stage is not written; evidence counts as retained once the
row that carries it is. -/
def persistParticipant (reference : Nat) : Prog Unit := do
  match (← readMemory).records.lookup reference with
  | none => return
  | some participant =>
    if !isTransient participant then
      match ← mutate (.participant participant.partitionId
          participant.record) with
      | some _ => pure ()
      | none => throw .persistence
    updateRecord reference fun participant =>
      if participant.status = .prepared then
        { participant with prepareEvidenceRetained := true }
      else participant

def participantIdentityOf (tx : Tx) (partitionId : String) : Identity :=
  { sessionId := some setting.sessionId
    transactionId := setting.transactionId
    participantId := participantIdOf setting.transactionId partitionId
    commitMode := tx.commitMode.text
    transactionEpoch := setting.transactionEpoch }

structure Evidence where
  preparedDigest : String
  (prepareIndex prepareTerm : Nat)
deriving DecidableEq

def isPositiveSafeInteger (value : Nat) : Bool := decide (0 < value) && isSafeInteger value

def completePrepareEvidenceOf (preparedDigest : Option String)
    (prepareIndex prepareTerm : Option Nat) : Option Evidence :=
  match preparedDigest, prepareIndex, prepareTerm with
  | some digest, some index, some term =>
    if isNonEmptyString digest && isPositiveSafeInteger index &&
        isPositiveSafeInteger term then
      some { preparedDigest := digest, prepareIndex := index,
             prepareTerm := term }
    else none
  | _, _, _ => none

def untypedAnswer (answer : ParticipantAnswer) : Failure :=
  .participant (some .refused) false (answer.outcome.bind ParticipantOutcome.refusalCause)

def preparedEvidenceOf (answer : ParticipantAnswer) : Except Failure Evidence :=
  match answer.outcome with
  | none => .error (untypedAnswer answer)
  | some outcome =>
    match completePrepareEvidenceOf outcome.preparedDigest
        (outcome.prepareAt.map Position.index)
        (outcome.prepareAt.map Position.term) with
    | none => .error (untypedAnswer answer)
    | some evidence =>
      if answer.success && outcome.durable &&
          outcome.state = .row .prepared &&
          outcome.outcome = .unknown then
        .ok evidence
      else .error (untypedAnswer answer)

def committedAnswerOf (answer : ParticipantAnswer) : Except Failure Unit :=
  match answer.outcome with
  | some outcome =>
    if answer.success && outcome.durable &&
        outcome.state = .row .committed && outcome.outcome = .committed then
      .ok ()
    else .error (untypedAnswer answer)
  | none => .error (untypedAnswer answer)

def rolledBackAnswerOf (answer : ParticipantAnswer) (bound : Bool) : Except Failure Unit :=
  match answer.outcome with
  | some outcome =>
    if answer.success &&
        (if bound then
          outcome.durable &&
          (outcome.state = .row .rolledBack || outcome.state = .row .refused) &&
          outcome.outcome = .notCommitted
        else
          !outcome.durable && outcome.state = .absent &&
          outcome.outcome = .unknown) then
      .ok ()
    else .error (untypedAnswer answer)
  | none => .error (untypedAnswer answer)

def transactionOutcomeAnswerOf (answer : ParticipantAnswer) : Except Failure CommitOutcome :=
  match answer.outcome with
  | some outcome =>
    match outcome.state with
    | .row state =>
      if answer.success && outcome.durable &&
          outcome.outcome = outcomeOfState state then
        .ok outcome.outcome
      else .error (untypedAnswer answer)
    | .absent =>
      if answer.success && !outcome.durable &&
          outcome.outcome = .unknown then
        .ok .unknown
      else .error (untypedAnswer answer)
  | none => .error (untypedAnswer answer)

def prepareParticipant (tx : Tx) (partitionId : String) : Prog Evidence := do
  let answer ← deliver {
    partitionId
    identity := participantIdentityOf setting tx partitionId
    body := .prepare }
  raise (preparedEvidenceOf answer)

def commitParticipant (tx : Tx) (partitionId : String) (binding : Binding) :
    Prog Unit := do
  let answer ← deliver {
    partitionId
    identity := participantIdentityOf setting tx partitionId
    body := .decide binding }
  raise (committedAnswerOf answer)

def rollbackParticipant (tx : Tx) (partitionId : String) (binding : Option Binding) : Prog Unit := do
  let answer ← deliver {
    partitionId
    identity := participantIdentityOf setting tx partitionId
    body := match binding with
      | some binding => .decide binding
      | none => .unboundRollback }
  raise (rolledBackAnswerOf answer binding.isSome)

def participantDecisionBindingOf (tx : Tx) (partitionId : String) : Except Failure Binding :=
  match tx.decision with
  | none => .error .recoveryIncomplete
  | some recorded =>
    match canonicalDecisionRecord setting.platform.sha256Hex {
        transactionId := some setting.transactionId
        decision := some recorded.body.decision
        decisionText := recorded.decisionText
        decisionDigest := recorded.decisionDigest } with
    | none => .error .recoveryIncomplete
    | some record =>
      match record.body.participants.find? (·.1 =
          participantIdOf setting.transactionId partitionId) with
      | none => .error .recoveryIncomplete
      | some (_, preparedDigest) =>
        .ok {
          decision := record.body.decision
          preparedDigest
          decisionText := record.decisionText
          decisionDigest := record.decisionDigest }

def retainPrepareEvidence (evidence : Evidence) (participant : Participant) : Participant :=
  { participant with
    preparedDigest := some evidence.preparedDigest
    prepareIndex := some evidence.prepareIndex
    prepareTerm := some evidence.prepareTerm
    prepareEvidenceRetained := false }

def stageOperation (stage : Stage) (partitionId : String) (reference : Nat) :
    Prog Unit := do
  let tx := (← readMemory).tx
  match stage with
  | .prepare =>
    let evidence ← prepareParticipant setting tx partitionId
    updateRecord reference (retainPrepareEvidence evidence)
  | .commit =>
    let binding ← raise (participantDecisionBindingOf setting tx partitionId)
    commitParticipant setting tx partitionId binding
  | .rollback true =>
    let binding ← raise (participantDecisionBindingOf setting tx partitionId)
    rollbackParticipant setting tx partitionId (some binding)
  | .rollback false => rollbackParticipant setting tx partitionId none

inductive CommitMissResolution where
  | notAMiss
  | outcome (outcome : CommitOutcome)
deriving DecidableEq

def isParticipantCommitMiss (stage : Stage) : Failure → Bool
  | .participant _ commitMiss _ => stage = .commit && commitMiss
  | _ => false

def resolveParticipantCommitMiss (stage : Stage) (partitionId : String)
    (failure : Failure) : Prog CommitMissResolution := do
  if !isParticipantCommitMiss stage failure then return .notAMiss
  let tx := (← readMemory).tx
  let answer ← deliver {
    partitionId
    identity := participantIdentityOf setting tx partitionId
    body := .outcome }
  return .outcome (← raise (transactionOutcomeAnswerOf answer))

def assertStageBudgetNotExceeded (budgetBound : Bool) : Prog Unit := do
  if budgetBound then
    if ← isTransactionBudgetExceeded then throw .timeout

def isRetriedParticipantFailure (failure : Failure) (attempt : Nat) (budgetBound : Bool) : Bool :=
  match failure with
  | .participant (some .refused) _ _ => false
  | .participant (some .defer) _ _ =>
    budgetBound || decide (attempt < setting.participantRetryMaxRetries)
  | .participant (some .unknown) _ _ =>
    budgetBound || decide (attempt < setting.participantRetryMaxRetries)
  | _ => decide (attempt < setting.participantRetryMaxRetries)

/-- The retry loop over one attempt.  Within the budget it is as long as the
budget lasts, so its length is the environment's, and there it ends as the
budget does. -/
def executeParticipantOperationWithRetry (stage : Stage)
    (partitionId : String) (budgetBound : Bool) (operation : Prog Unit) : Nat → Nat → Prog Unit
  | 0, _ => throw .timeout
  | remaining + 1, attempts => do
    assertStageBudgetNotExceeded budgetBound
    match ← attempt operation with
    | .ok _ => return
    | .error failure =>
      let resolution ← resolveParticipantCommitMiss setting stage
        partitionId failure
      if resolution = .outcome .committed then return
      if !isRetriedParticipantFailure setting failure attempts budgetBound
          then
        throw failure
      assertStageBudgetNotExceeded budgetBound
      executeParticipantOperationWithRetry stage partitionId budgetBound
        operation remaining (attempts + 1)

def Participant.settled (participant : Participant) (stage : Stage) :
    Except Failure Unit → Participant
  | .ok _ =>
    { participant with status := stage.successStatus, lastError := none }
  | .error failure =>
    { participant with status := .failed, lastError := some failure }

/-- One participant of a stage, over the record the stage found. -/
def runStageTask (stage : Stage) (partitionId : String) (budgetBound : Bool) :
    Prog (List FailedParticipant) := do
  match (← readMemory).tx.participants.lookup partitionId with
  | none => return [(partitionId, .enlistedParticipantsMissing)]
  | some reference =>
    updateRecord reference fun participant =>
      { participant with
        status := stage.transientStatus, lastError := none }
    persistParticipant reference
    let bound ← if budgetBound then perform Call.attempts
      else pure (setting.participantRetryMaxRetries + 1)
    let outcome ← attempt
      (executeParticipantOperationWithRetry setting stage partitionId
        budgetBound (stageOperation setting stage partitionId reference)
        bound 0)
    updateRecord reference fun participant => participant.settled stage outcome
    persistParticipant reference
    match outcome with
    | .ok _ => return []
    | .error failure => return [(partitionId, failure)]

/-- The record a participant is upserted with: what the session was given,
over what its place in the map holds by now. -/
def Participant.over (existing given : Participant) : Participant :=
  { given with
    preparedDigest := given.preparedDigest.or existing.preparedDigest
    prepareIndex := given.prepareIndex.or existing.prepareIndex
    prepareTerm := given.prepareTerm.or existing.prepareTerm
    prepareEvidenceRetained :=
      if given.preparedDigest.isSome then given.prepareEvidenceRetained
      else existing.prepareEvidenceRetained }

def upsertedParticipant (memory : Memory) (partitionId : String)
    (reference : Option Nat) : Participant :=
  let given := (reference.bind fun reference =>
    memory.records.lookup reference).getD { partitionId }
  let existing := (memory.participantAt partitionId).getD { partitionId }
  { existing.over given with
    partitionId, status := .active, lastError := none }

def upsertParticipant (partitionId : String) (reference : Option Nat) :
    Prog Unit := do
  let found ← updateMemory fun memory => memory.install
    (upsertedParticipant memory partitionId reference)
  try persistParticipant found.nextRecord
  catch failure =>
    let _ ← updateMemory fun memory => memory.bind partitionId
      (found.tx.participants.lookup partitionId)
    throw failure

def runBeginTask (partitionId : String) (reference : Option Nat) :
    Prog (List FailedParticipant) := do
  raise (← perform (Call.begin partitionId))
  upsertParticipant partitionId reference
  return []

def runTask : Task → Prog (List FailedParticipant)
  | .stage stage partitionId budgetBound => runStageTask setting stage partitionId budgetBound
  | .begin partitionId reference => runBeginTask partitionId reference

def executeParticipantStage (stage : Stage) (keys : List String)
    (skipBudgetEnforcement : Bool) : Prog (List FailedParticipant) := do
  let tx := (← readMemory).tx
  let resolved := if keys.isEmpty then tx.participants.keys else keys
  let budgetBound := !skipBudgetEnforcement &&
    stage.transientStatus ≠ .rollingBack
  raise (← awaitStage (resolved.map fun partitionId => .stage stage partitionId budgetBound))

def participantKeysWhere (memory : Memory) (selected : Participant → Bool) : List String :=
  Text.sort ((memory.participants.filter selected).map Participant.partitionId)

def getPrepareParticipantKeys (memory : Memory) : List String :=
  participantKeysWhere memory fun participant =>
    participant.status ≠ .committed &&
      !(participant.status = .prepared && participant.prepareEvidenceRetained)

def getCommitParticipantKeys (memory : Memory) : List String :=
  participantKeysWhere memory fun participant => participant.status ≠ .committed

def getRollbackParticipantKeys (memory : Memory) : List String :=
  participantKeysWhere memory fun participant => participant.status ≠ .rolledBack

def runPrepareStage (skipBudgetEnforcement : Bool) :
    Prog (List FailedParticipant) := do
  let memory ← readMemory
  let participantKeys := getPrepareParticipantKeys memory
  if participantKeys.isEmpty && !memory.tx.participants.keys.isEmpty then return []
  executeParticipantStage .prepare participantKeys skipBudgetEnforcement

def decisionParticipantsOf (memory : Memory) : List (String × Option String) :=
  sortEntries (memory.participants.map fun participant =>
    (participantIdOf setting.transactionId participant.partitionId,
      participant.preparedDigest.filter isNonEmptyString))

def buildTransactionDecisionRecord (memory : Memory) (decision : Decision) :
    Except Failure DecisionRecord :=
  match buildDecisionRecord setting.platform.sha256Hex setting.transactionId
      decision (decisionParticipantsOf setting memory) with
  | some record => .ok record
  | none => .error .recoveryIncomplete

def decisionRecordOfRow (row : TransactionRow) : ReadState × Option DecisionRecord :=
  match row.decision with
  | none => (.absent, none)
  | some stored =>
    match canonicalDecisionRecord setting.platform.sha256Hex {
        transactionId := some setting.transactionId
        decision := some stored.decision
        decisionText := stored.decisionText
        decisionDigest := stored.decisionDigest } with
    | some record => (.recorded, some record)
    | none => (.invalid, none)

def hasExactDecisionParticipants (participantKeys : List String) (record : DecisionRecord) : Bool :=
  Text.sort (participantKeys.map fun partitionId =>
    participantIdOf setting.transactionId partitionId) =
  record.body.participants.map Prod.fst

def readTransactionDecisionForRegistry :
    Prog (ReadState × Option DecisionRecord) := do
  match ← readRow with
  | none => return (.unavailable, none)
  | some row =>
    let tx := (← readMemory).tx
    match decisionRecordOfRow setting row with
    | (.recorded, some record) =>
      if hasExactDecisionParticipants setting tx.participants.keys record
      then return (.recorded, some record)
      else return (.invalid, none)
    | other => return other

inductive Recording where
  | recorded
  | inDoubt
deriving DecidableEq

def adoptRecordedTransactionDecision : Prog Recording := do
  let (state, record) ← readTransactionDecisionForRegistry setting
  match record with
  | some record =>
    updateTx fun tx =>
      { tx with decisionReadState := some state, decision := some record }
    return .recorded
  | none =>
    updateTx fun tx =>
      { tx with decisionReadState := some state, commitPointReached := true }
    return .inDoubt

def persistTransactionDecision (participantSetText : List String)
    (record : DecisionRecord) : Prog Unit := do
  match ← mutate (.decision participantSetText {
      decision := record.body.decision
      decisionText := record.decisionText
      decisionDigest := record.decisionDigest }) with
  | some true => return
  | _ => throw .persistence

def recordTransactionDecision (decision : Decision) : Prog Recording := do
  let memory ← readMemory
  if memory.tx.decision.isSome then return .recorded
  if memory.tx.commitPointReached then return ← adoptRecordedTransactionDecision setting
  let record ← raise (buildTransactionDecisionRecord setting memory decision)
  match ← attempt
      (persistTransactionDecision memory.tx.participantSetText record) with
  | .ok _ =>
    updateTx fun tx => { tx with decision := some record }
    return .recorded
  | .error _ => adoptRecordedTransactionDecision setting

def persistTransactionParticipantSet (text previousText : List String) (state : ParticipantSetState)
    (commitMode : CommitMode) (frozenParticipantCount : Nat) : Prog Unit := do
  if (readParticipantSet text).isNone || (readParticipantSet previousText).isNone
      then
    throw .recoveryIncomplete
  let answer ← mutate (.participantSet previousText text state commitMode
    frozenParticipantCount)
  if answer = some true then return
  let row ← readRow
  if !(row.any fun row =>
      row.participantSetText = text &&
      row.participantSetState = state &&
      row.commitMode = commitMode &&
      row.frozenParticipantCount = frozenParticipantCount &&
      !(state = .opened && row.decision.isSome)) then
    if answer.isNone then throw .persistence
    throw .recoveryIncomplete

def persistAdmittedParticipantSet (text : List String) (state : ParticipantSetState)
    (commitMode : CommitMode) (frozenParticipantCount : Nat) : Prog Unit := do
  let previousText := (← readMemory).tx.participantSetText
  try
    persistTransactionParticipantSet text previousText state commitMode
      frozenParticipantCount
  catch failure =>
    updateTx fun tx => { tx with recoveryDiscovered := true }
    throw failure

def freezeParticipantSet : Prog Unit := do
  let tx := (← readMemory).tx
  match readParticipantSet tx.participantSetText with
  | none => throw .recoveryIncomplete
  | some pairs =>
    if pairs.length ≠ tx.participants.keys.length ||
        pairs.any fun partitionId => (tx.participants.lookup partitionId).isNone
    then throw .recoveryIncomplete
    if tx.participantSetState = .frozen then return
    persistAdmittedParticipantSet tx.participantSetText .frozen .twoPhaseCommit pairs.length
    updateTx fun tx =>
      { tx with
        participantSetState := .frozen
        commitMode := .twoPhaseCommit
        frozenParticipantCount := pairs.length }

def Memory.retain (memory : Memory) (text : List String) : Memory :=
  text.foldl (fun memory partitionId =>
    if (memory.tx.participants.lookup partitionId).isSome then memory
    else memory.install { partitionId }) memory

def retainParticipantSet (partitionIds : List String) : Prog Unit := do
  let tx := (← readMemory).tx
  match readParticipantSet tx.participantSetText with
  | none => throw .recoveryIncomplete
  | some prior =>
    let text := participantSetTextOf (prior ++ partitionIds)
    if text ≠ tx.participantSetText then
      persistAdmittedParticipantSet text tx.participantSetState
        tx.commitMode tx.frozenParticipantCount
      updateTx fun tx => { tx with participantSetText := text }
    let _ ← updateMemory fun memory => memory.retain text

end LagrangeDb.Transaction
