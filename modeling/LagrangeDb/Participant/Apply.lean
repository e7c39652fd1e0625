import LagrangeDb.Participant.Store

namespace LagrangeDb.Participant

/-! The committed application of one log entry on a partition. -/

inductive SqlCommandType where
  | write
  | insert
  | update
  | delete
  | upsert
  | query
  | migrationAlterTable
deriving DecidableEq

structure SqlCommand where
  type : SqlCommandType
  (entryId sql : String)
  params : List Param
deriving DecidableEq

inductive Command where
  | sql (command : SqlCommand)
  | prepare (command : PrepareCommand)
  | decision (command : DecisionCommand)
  | generationOrigin (command : GenerationOriginCommand)
  | unrecognised (type : String)
deriving DecidableEq

structure Committed where
  command : Command
  position : Position
deriving DecidableEq

/-! Admission before a command is proposed. -/

def admitCommittedCommand (sha256Hex : HashedText → String) : Command → Bool
  | .unrecognised _ => false
  | .sql command => isNonEmptyString command.entryId &&
      isNonEmptyString command.sql
  | .prepare command => carriesPinnedIdentity command.identity &&
      isPinnedPrepare sha256Hex command
  | .decision command => carriesPinnedIdentity command.identity &&
      isPinnedDecision sha256Hex command
  | .generationOrigin command => isPinnedGenerationOrigin command

inductive ParticipantStateName where
  | row (state : RowState)
  | absent
deriving DecidableEq

inductive CommitOutcome where
  | unknown
  | committed
  | notCommitted
deriving DecidableEq

structure ParticipantOutcome where
  durable : Bool
  state : ParticipantStateName
  outcome : CommitOutcome
  preparedDigest : Option String := none
  prepareAt : Option Position := none
  decisionAt : Option Position := none
  refusalCause : Option RefusalCause := none
deriving DecidableEq

def outcomeOfState : RowState → CommitOutcome
  | .prepared => .unknown
  | .committed => .committed
  | .rolledBack => .notCommitted
  | .refused => .notCommitted

def participantOutcomeOf : Option ParticipantRow → ParticipantOutcome
  | none => { durable := false, state := .absent, outcome := .unknown }
  | some row =>
    { durable := true
      state := .row row.state
      outcome := outcomeOfState row.state
      preparedDigest := row.preparedDigest
      prepareAt := row.prepareAt
      decisionAt := row.decisionAt
      refusalCause := row.refusalCause }

def FailureCode.text : FailureCode → String
  | .identityRequired => "participant_transaction_identity_required"
  | .identityMismatch => "participant_transaction_identity_mismatch"
  | .terminal => "participant_transaction_terminal"
  | .prepareRefused => "participant_transaction_prepare_refused"
  | .prepareContentConflict => "participant_transaction_prepare_content_conflict"
  | .reserved => "participant_transaction_reserved"
  | .notPrepared => "participant_transaction_not_prepared"
  | .commitRefused => "participant_transaction_commit_refused"
  | .decisionBindingRequired => "participant_transaction_decision_binding_required"
  | .decisionDigestMismatch => "participant_transaction_decision_digest_mismatch"
  | .decisionConflict => "participant_transaction_decision_conflict"

def messageOf (text code : String) : String := text ++ ": " ++ code

def commandRefusedMessage : String := "Participant transaction command refused at apply"

structure ParticipantAnswer where
  success : Bool
  failureCode : Option FailureCode := none
  error : Option String := none
  outcome : Option ParticipantOutcome := none
  idempotent : Bool := false
  replayed : Bool := false
  deferRetry : Bool := false
  results : Option (List (Option StatementInfo)) := none
deriving DecidableEq

inductive Answer where
  | participant (answer : ParticipantAnswer)
  | origin (idempotent : Bool) (position : Position)
  | statementApplied (info : StatementInfo)
  | statementSettled (recorded : OutcomeRow)
  | statementFailed (code message : String)
  | statementReserved
deriving DecidableEq

/-- What one application kept of the statements it ran: a plain statement
under its entry, or the operations of one participant. -/
inductive Execution where
  | statement (entryId : String)
  | operations (key : RowKey) (operations : List Operation)
deriving DecidableEq

structure Applied (platform : Platform) where
  state : PartitionState platform
  outcome : CommandOutcome
  answer : Option Answer
  executions : List Execution := []

def refusedAnswer (code : FailureCode) (outcome : Option ParticipantOutcome) : ParticipantAnswer :=
  { success := false
    failureCode := some code
    error := some (messageOf commandRefusedMessage code.text)
    outcome }

section Apply

variable {platform : Platform}

def consumedRefusal (state : PartitionState platform) (code : FailureCode)
    (outcome : Option ParticipantOutcome) : Applied platform :=
  { state
    outcome := .recordedOnly
    answer := some (.participant (refusedAnswer code outcome)) }

def answered (state : PartitionState platform) (outcome : CommandOutcome)
    (answer : ParticipantAnswer) : Applied platform :=
  { state, outcome, answer := some (.participant answer) }

def rowAnswer (state : PartitionState platform) (key : RowKey) : ParticipantOutcome :=
  participantOutcomeOf (state.readParticipantTransactionRow key)

structure Refusal where
  cause : RefusalCause
  detail : Option String

structure RefusalCauses where
  (statement ceiling : RefusalCause)

def prepareCauses : RefusalCauses :=
  { statement := .statementFailed, ceiling := .rowidCeiling }

def commitCauses : RefusalCauses :=
  { statement := .commitStatementFailed, ceiling := .commitStatementFailed }

def operationsUnreadable : String :=
  "the carried operations text is not a JSON array of " ++ "\x7bentryId, sql, params\x7d"

def carriedStatement (operation : Operation) : Statement :=
  { sql := operation.sql, params := operation.params, carried := true }

def deterministicRefusalOf (error : StatementError) (causes : RefusalCauses) :
    Except HostFailure Refusal :=
  if error.code = some statementRefusalCode then
    .ok {
      cause := if error.refusalLayer = some .rowidCeiling then causes.ceiling
        else causes.statement
      detail := some error.message
    }
  else if isDeterministicStatementFailure error then
    .ok {
      cause := causes.statement
      detail := some (messageOf error.message (error.code.getD error.name))
    }
  else .error (.statementEnvironmentFailed error)

def runCarriedOperations (host : platform.Host) :
    platform.Table → List Operation → Except StatementError platform.Table
  | table, [] => .ok table
  | table, operation :: rest =>
    match platform.runCommittedPartitionStatement host table
        (carriedStatement operation) with
    | .error error => .error error
    | .ok (next, _) => runCarriedOperations host next rest

/-- `none` when every carried operation ran; the savepoint then rolls them
back, so nothing of the run is kept. -/
def dryRunCarriedOperations (host : platform.Host) (table : platform.Table)
    (text : OperationsText) : Except HostFailure (Option Refusal) :=
  match operationsOf text with
  | none =>
    .ok (some {
      cause := .statementFailed
      detail := some operationsUnreadable
    })
  | some operations =>
    match runCarriedOperations host table operations with
    | .ok _ => .ok none
    | .error error => (deterministicRefusalOf error prepareCauses).map some

def preparedRowOf (command : PrepareCommand) (position : Position)
    (state : RowState) (refusal : Option Refusal) : ParticipantRow :=
  { sessionId := command.identity.sessionId
    commitMode := command.identity.commitMode
    transactionEpoch := command.identity.transactionEpoch
    state
    operationsText := some command.operationsText
    validationText := some command.validationText
    preparedDigest := some command.preparedDigest
    prepareEntryId := some command.entryId
    prepareAt := some position
    refusalCause := refusal.map Refusal.cause
    refusalDetail := refusal.bind Refusal.detail }

def refusePrepare (state : PartitionState platform) (command : PrepareCommand)
    (position : Position) (refusal : Refusal) :
    Except HostFailure (Applied platform) := do
  let rows ← insertParticipantTransactionRow state.rows command.identity.key
    (preparedRowOf command position .refused (some refusal))
  let next := { state with rows }
  return answered next .applied (refusedAnswer .prepareRefused
    (some (rowAnswer next command.identity.key)))

def prepareOverRow (state : PartitionState platform) (command : PrepareCommand)
    (row : ParticipantRow) : Applied platform :=
  let digest := preparedDigestOf platform.sha256Hex command.operationsText
    command.validationText
  if row.state ≠ .prepared then
    consumedRefusal state .terminal (some (participantOutcomeOf (some row)))
  else if digest ≠ command.preparedDigest then
    consumedRefusal state .prepareRefused (some
      { participantOutcomeOf (some row) with
        refusalCause := some .digestInvalid })
  else if some digest ≠ row.preparedDigest then
    consumedRefusal state .prepareContentConflict (some (participantOutcomeOf (some row)))
  else
    answered state .replayed {
      success := true
      idempotent := true
      outcome := some (participantOutcomeOf (some row))
    }

def originMatches (state : PartitionState platform) (text : ValidationText) : Bool :=
  match carriedOriginIndexOf text, state.origin with
  | some carried, some origin => carried = origin.index
  | _, _ => false

def applyParticipantPrepare (host : platform.Host) (state : PartitionState platform)
    (command : PrepareCommand) (position : Position) : Except HostFailure (Applied platform) :=
  match identityRefusalOf command.identity state.partitionId with
  | some code => .ok (consumedRefusal state code none)
  | none =>
  match state.readParticipantTransactionRow command.identity.key with
  | some row => .ok (prepareOverRow state command row)
  | none =>
  if preparedDigestOf platform.sha256Hex command.operationsText
      command.validationText ≠ command.preparedDigest then
    refusePrepare state command position { cause := .digestInvalid, detail := none }
  else if !originMatches state command.validationText then
    refusePrepare state command position { cause := .originMismatch, detail := none }
  else if state.isPartitionReserved then
    .ok (answered state .reservedRefused
      { refusedAnswer .reserved (some (participantOutcomeOf none)) with
        deferRetry := true })
  else if some command.validationText ≠ state.validationTextHereOf then
    refusePrepare state command position { cause := .conflict, detail := none }
  else do
    match ← dryRunCarriedOperations host state.table command.operationsText with
    | some refusal => refusePrepare state command position refusal
    | none =>
      let rows ← insertParticipantTransactionRow state.rows
        command.identity.key (preparedRowOf command position .prepared none)
      let next := { state with rows }
      return answered next .applied {
        success := true
        outcome := some (rowAnswer next command.identity.key)
      }

def decidedOf (command : DecisionCommand) (position : Position)
    (state : RowState) (refusal : Option Refusal) : Decided :=
  { state
    decision := command.decision
    decisionDigest := command.decisionDigest
    decisionEntryId := command.entryId
    decisionAt := position
    refusalCause := refusal.map Refusal.cause
    refusalDetail := refusal.bind Refusal.detail }

def operationResultsOf (state : PartitionState platform) (key : RowKey)
    (row : ParticipantRow) : List (Option StatementInfo) :=
  (row.operations?.getD []).mapIdx fun ordinal _ =>
    (state.outcomes.lookup (operationOutcomeKeyOf key.participantId ordinal)).bind OutcomeRow.result

def refuseCommit (state : PartitionState platform) (command : DecisionCommand)
    (position : Position) (refusal : Refusal) :
    Except HostFailure (Applied platform) := do
  let rows ← updateParticipantTransactionDecided state.rows
    command.identity.key (decidedOf command position .refused (some refusal))
  let next := { state with rows }
  return answered next .applied (refusedAnswer .commitRefused
    (some (rowAnswer next command.identity.key)))

/-- The outcome row's primary key, met a second time. -/
def outcomeKeyError : StatementError :=
  { code := some "SQLITE_CONSTRAINT_PRIMARYKEY"
    name := "SqliteError"
    message := "UNIQUE constraint failed: _partition_statement_outcomes.entry_key" }

structure OperationsRun (platform : Platform) where
  table : platform.Table
  outcomes : OutcomeTable
  results : List StatementInfo

def runCommittedOperations (host : platform.Host) (participantId : String) (position : Position) :
    Nat → platform.Table → OutcomeTable → List Operation →
      Except StatementError (OperationsRun platform)
  | _, table, outcomes, [] => .ok { table, outcomes, results := [] }
  | ordinal, table, outcomes, operation :: rest =>
    match platform.runCommittedPartitionStatement host table
        (carriedStatement operation) with
    | .error error => .error error
    | .ok (next, info) =>
      let entryKey := operationOutcomeKeyOf participantId ordinal
      if entryKey ∈ outcomes then .error outcomeKeyError
      else do
        let run ← runCommittedOperations host participantId position
          (ordinal + 1) next
          (outcomes.insert entryKey { outcome := .applied, position, result := some info })
          rest
        return { run with results := info :: run.results }

def commitPrepared (host : platform.Host) (state : PartitionState platform)
    (command : DecisionCommand) (position : Position) (row : ParticipantRow) :
    Except HostFailure (Applied platform) :=
  if row.validationText ≠ state.validationTextHereOf then
    refuseCommit state command position { cause := .commitBaseMoved, detail := none }
  else
    match row.operations? with
    | none =>
      refuseCommit state command position
        { cause := .commitStatementFailed
          detail := some operationsUnreadable }
    | some operations =>
      match runCommittedOperations host command.identity.participantId
          position 0 state.table state.outcomes operations with
      | .error error => do
        let refusal ← deterministicRefusalOf error commitCauses
        refuseCommit state command position refusal
      | .ok run => do
        let rows ← updateParticipantTransactionDecided state.rows
          command.identity.key (decidedOf command position .committed none)
        let generation :=
          if operations.length > 0 then state.generation + 1
          else state.generation
        let next :=
          { state with
            rows, generation, table := run.table, outcomes := run.outcomes }
        return {
          state := next
          outcome := .applied
          answer := some (.participant {
            success := true
            outcome := some (rowAnswer next command.identity.key)
            results := some (run.results.map some)
          })
          executions := [.operations command.identity.key operations]
        }

def decisionMatchesPreparedRow (command : DecisionCommand) (row : ParticipantRow) : Bool :=
  command.preparedDigest = row.preparedDigest ||
    (command.decision = .rollback && command.preparedDigest = none)

def decideOverPrepared (host : platform.Host) (state : PartitionState platform)
    (command : DecisionCommand) (position : Position) (row : ParticipantRow) :
    Except HostFailure (Applied platform) :=
  if !decisionMatchesPreparedRow command row then
    .ok (consumedRefusal state .decisionDigestMismatch (some (participantOutcomeOf (some row))))
  else if command.decision = .commit then commitPrepared host state command position row
  else do
    let rows ← updateParticipantTransactionDecided state.rows
      command.identity.key (decidedOf command position .rolledBack none)
    let next := { state with rows }
    return answered next .applied {
      success := true
      outcome := some (rowAnswer next command.identity.key)
    }

def replayDecision (state : PartitionState platform) (key : RowKey)
    (row : ParticipantRow) : Applied platform :=
  answered state .replayed {
    success := true
    replayed := true
    outcome := some (participantOutcomeOf (some row))
    results := if row.state = .committed then some (operationResultsOf state key row) else none
  }

def decideOverTerminal (state : PartitionState platform)
    (command : DecisionCommand) (row : ParticipantRow) (stands : Decision) : Applied platform :=
  if command.decision = stands ∧
      some command.decisionDigest = row.decisionDigest then
    replayDecision state command.identity.key row
  else
    consumedRefusal state .decisionConflict (some (participantOutcomeOf (some row)))

def decideOverRefused (state : PartitionState platform)
    (command : DecisionCommand) (row : ParticipantRow) : Applied platform :=
  if command.decision = .rollback then
    answered state .recordedOnly {
      success := true
      outcome := some (participantOutcomeOf (some row))
    }
  else
    consumedRefusal state .notPrepared (some (participantOutcomeOf (some row)))

def decisionOverState (host : platform.Host) (state : PartitionState platform)
    (command : DecisionCommand) (position : Position) (row : ParticipantRow) :
    Except HostFailure (Applied platform) :=
  match row.state with
  | .prepared => decideOverPrepared host state command position row
  | .committed => .ok (decideOverTerminal state command row .commit)
  | .rolledBack => .ok (decideOverTerminal state command row .rollback)
  | .refused => .ok (decideOverRefused state command row)

/-- The row a bound rollback leaves where nothing was ever prepared. -/
def tombstoneOf (command : DecisionCommand) (position : Position) : ParticipantRow :=
  { sessionId := command.identity.sessionId
    commitMode := command.identity.commitMode
    transactionEpoch := command.identity.transactionEpoch
    state := .rolledBack
    preparedDigest := command.preparedDigest
    decision := some command.decision
    decisionDigest := some command.decisionDigest
    decisionEntryId := some command.entryId
    decisionAt := some position }

def decideAbsent (state : PartitionState platform) (command : DecisionCommand)
    (position : Position) : Except HostFailure (Applied platform) :=
  if command.decision = .commit then
    .ok (consumedRefusal state .notPrepared (some (participantOutcomeOf none)))
  else do
    let rows ← insertParticipantTransactionRow state.rows command.identity.key
      (tombstoneOf command position)
    let next := { state with rows }
    return answered next .applied {
      success := true
      outcome := some (rowAnswer next command.identity.key)
    }

def applyParticipantDecision (host : platform.Host) (state : PartitionState platform)
    (command : DecisionCommand) (position : Position) : Except HostFailure (Applied platform) :=
  match (identityRefusalOf command.identity state.partitionId).or
      (decisionBindingRefusalOf platform.sha256Hex command) with
  | some code => .ok (consumedRefusal state code none)
  | none =>
  match state.readParticipantTransactionRow command.identity.key with
  | none => decideAbsent state command position
  | some row =>
    if row.commitMode ≠ command.identity.commitMode ∨
        row.transactionEpoch ≠ command.identity.transactionEpoch then
      .ok (consumedRefusal state .identityMismatch (some (participantOutcomeOf (some row))))
    else decisionOverState host state command position row

def applyGenerationOrigin (state : PartitionState platform)
    (command : GenerationOriginCommand) (position : Position) : Applied platform :=
  if command.partitionId ≠ state.partitionId then consumedRefusal state .identityMismatch none
  else
    match state.origin with
    | some recorded =>
      { state, outcome := .replayed, answer := some (.origin true recorded) }
    | none =>
      { state := { state with generation := 0, origin := some position }
        outcome := .applied
        answer := some (.origin false position) }

def statementOf (command : SqlCommand) : Statement :=
  { sql := command.sql
    params := command.params
    carried := false
    migration := command.type = .migrationAlterTable }

def settleRecordedCommittedStatement (state : PartitionState platform)
    (recorded : OutcomeRow) : Applied platform :=
  { state
    outcome := if recorded.outcome = .applied then .replayed
      else .statementFailed
    answer := some (.statementSettled recorded) }

def settleFailedCommittedStatement (state : PartitionState platform)
    (entryKey : String) (position : Position) (error : StatementError) :
    Except HostFailure (Applied platform) :=
  if isDeterministicStatementFailure error then
    let code := error.code.getD error.name
    .ok {
      state := { state with
        outcomes := state.outcomes.insert entryKey
          { outcome := .statementFailed
            position
            failureCode := some code
            failureMessage := some error.message } }
      outcome := .statementFailed
      answer := some (.statementFailed code error.message)
    }
  else .error (.statementEnvironmentFailed error)

def applyCommittedStatement (host : platform.Host) (state : PartitionState platform)
    (command : SqlCommand) (position : Position) : Except HostFailure (Applied platform) :=
  let entryKey := committedStatementEntryKey command.entryId
  match state.outcomes.lookup entryKey with
  | some recorded => .ok (settleRecordedCommittedStatement state recorded)
  | none =>
  if state.isPartitionReserved then
    .ok {
      state
      outcome := .reservedRefused
      answer := some .statementReserved
    }
  else
    match platform.runCommittedPartitionStatement host state.table
        (statementOf command) with
    | .error error => settleFailedCommittedStatement state entryKey position error
    | .ok (table, info) =>
      .ok {
        state := { state with
          table
          generation := state.generation + 1
          outcomes := state.outcomes.insert entryKey
            { outcome := .applied, position, result := some info } }
        outcome := .applied
        answer := some (.statementApplied info)
        executions := [.statement command.entryId]
      }

def applyCommittedEntry (host : platform.Host)
    (state : PartitionState platform) (committed : Committed) :
    Except HostFailure (Applied platform) :=
  match committed.command with
  | .unrecognised _ => .error .commandUnrecognised
  | .prepare command => applyParticipantPrepare host state command committed.position
  | .decision command => applyParticipantDecision host state command committed.position
  | .generationOrigin command => .ok (applyGenerationOrigin state command committed.position)
  | .sql command =>
    if !isNonEmptyString command.entryId then .error .entryIdMissing
    else if !isNonEmptyString command.sql then
      -- A write type without a statement is recorded in the log only.
      .ok { state, outcome := .recordedOnly, answer := none }
    else applyCommittedStatement host state command committed.position

end Apply

end LagrangeDb.Participant
