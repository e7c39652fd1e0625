import LagrangeDb.Cdc.Ledger
import LagrangeDb.Participant.Apply
import LagrangeDb.Partition.Mirror

namespace LagrangeDb.Cdc

open Participant LagrangeDb.Partition

/-! The committed application of one log entry on a replica that keeps a ledger
of the events it owes. -/

/-- The database also answers the fetches of the event generator, and the policy
of the tables says which of them owe events. -/
structure CdcPlatform extends Platform where
  isTableCdcObligationRecorded : String → Bool
  fetchRow : Host → Table → FetchRow StatementError
  paramValue : Param → KeyValue
  digestFields : ScopeFields → String
  digestScope : String → String → String
  digestEventKey : String → String

structure Stamp where
  (timestamp proposedBy : Option String)
deriving DecidableEq

/-- The fields of a write that only its event reads. -/
structure Details where
  (data whereClause : Option Fields)
  tableName : Option String
  splitMirrorOrigin : Option Mirror.Origin

inductive LogCommand where
  | partition (command : Command) (stamp : Stamp) (details : Details)
  | cdcDelivered (command : Acknowledgement)

structure LogEntry where
  command : LogCommand
  position : Position

structure Replica where
  (replicaId tableId : String)
  (rangeStart rangeEnd : Option String)
  (isLeader isShutdown : Bool)
  cdcSubscribers : Nat
  cdcSourceScopeEvidence : Option Scope

structure ReplicaState (platform : CdcPlatform) where
  partition : PartitionState platform.toPlatform
  tableName : String
  ledger : Ledger

inductive CapacityRefusal where
  | temporary
  | unsatisfiable
deriving DecidableEq

inductive AcknowledgementRefusal where
  | identityMismatch
  | bytesInvalid
  | identityCompacted (logIndex ordinal : Nat)
  | unknownEvent (logIndex ordinal : Nat)
  | positionMismatch (logIndex ordinal : Nat)
deriving DecidableEq

inductive EntryAnswer where
  | partition (answer : Option Answer)
  | capacity (refusal : CapacityRefusal)
  | acknowledged (delivered alreadyDelivered : Nat)
  | acknowledgementRefused (refusal : AcknowledgementRefusal)

structure AppliedEntry (platform : CdcPlatform) where
  state : ReplicaState platform
  outcome : CommandOutcome
  answer : EntryAnswer
  /-- Writes announced to subscribers without a ledger. -/
  transient : List WriteEntry := []
  drives : Bool := false

inductive EntryFailure where
  | host (failure : HostFailure)
  | fetch (error : StatementError)
  | ledger (failure : LedgerFailure)

section

variable {platform : CdcPlatform} (replica : Replica)

abbrev hostResult {α : Type} (result : Except HostFailure α) : Except EntryFailure α :=
  result.mapError .host

abbrev ledgerResult {α : Type} (result : Except LedgerFailure α) : Except EntryFailure α :=
  result.mapError .ledger

def ofApplied (state : ReplicaState platform)
    (applied : Applied platform.toPlatform) : AppliedEntry platform :=
  { state := { state with partition := applied.state }
    outcome := applied.outcome
    answer := .partition applied.answer }

def ReplicaState.owesCdc (state : ReplicaState platform) : Bool :=
  platform.isTableCdcObligationRecorded state.tableName

def isPresent (text : String) : Bool := !text.isEmpty

/-- The evidence says what it would say if it were built again. -/
def isCdcSourceScopeEvidence (platform : CdcPlatform) (scope : Scope) : Bool :=
  let fields := scope.fields
  isPresent fields.partitionId && isPresent fields.tableId &&
    isPresent fields.tableName && 0 < fields.partitionVersion &&
    fields.activePartitionVersion = fields.partitionVersion &&
    scope.descriptorDigest = platform.digestFields fields &&
    scope.scopeId = platform.digestScope fields.partitionId scope.descriptorDigest

def sourceScopeMatchesService (state : ReplicaState platform) (scope : Scope) : Bool :=
  scope.fields.partitionId = state.partition.partitionId &&
    scope.fields.tableId = replica.tableId &&
    scope.fields.tableName = state.tableName &&
    scope.fields.rangeStart = replica.rangeStart &&
    scope.fields.rangeEnd = replica.rangeEnd

def eventCdcSourceScope (state : ReplicaState platform) : Option Scope :=
  replica.cdcSourceScopeEvidence.filter fun scope =>
    isCdcSourceScopeEvidence platform scope && sourceScopeMatchesService replica state scope

def ReplicaState.source (state : ReplicaState platform) : Source where
  partitionId := state.partition.partitionId
  replicaId := replica.replicaId
  tableName := state.tableName

def hasTransientSubscribers (state : ReplicaState platform) : Bool :=
  !state.owesCdc && !replica.isShutdown && 0 < replica.cdcSubscribers

def SqlCommandType.operation : SqlCommandType → OperationType
  | .write => .other "WRITE"
  | .insert => .insert
  | .update => .update
  | .delete => .delete
  | .upsert => .upsert
  | .query => .query
  | .migrationAlterTable => .other "MIGRATION_ALTER_TABLE"

def statementEntryOf (platform : CdcPlatform) (command : SqlCommand)
    (stamp : Stamp) (details : Details) (changes : Nat) : WriteEntry where
  type := SqlCommandType.operation command.type
  sql := command.sql
  params := command.params.map platform.paramValue
  data := details.data
  whereClause := details.whereClause
  tableName := details.tableName
  timestamp := stamp.timestamp
  changes := some changes

def operationEntryOf (platform : CdcPlatform) (stamp : Stamp)
    (operation : Participant.Operation) (result : StatementInfo) : WriteEntry where
  type := .query
  sql := operation.sql
  params := operation.params.map platform.paramValue
  data := none
  whereClause := none
  tableName := none
  timestamp := stamp.timestamp
  changes := some result.changes

def eventJsonOf (state : ReplicaState platform) (host : platform.Host)
    (table : platform.Table) (stamp : Stamp) (entry : WriteEntry) :
    Except StatementError (Option EventJson) := do
  let built ← buildEvent (platform.fetchRow host table) (state.source replica)
    stamp.proposedBy entry
  return built.map fun event =>
    { event, sourceScope := eventCdcSourceScope replica state }

def owedMaxEvents : Nat := 4096

def capacityRefusalOf (state : ReplicaState platform) (required : Nat) : Option CapacityRefusal :=
  if required = 0 then none
  else if owedMaxEvents < required then some .unsatisfiable
  else if state.ledger.countOwed + required ≤ owedMaxEvents then none
  else some .temporary

def prepareSlots (state : ReplicaState platform) (command : PrepareCommand) : Nat :=
  if !state.owesCdc ||
      (state.partition.readParticipantTransactionRow command.identity.key).isSome
    then 0
  else ((operationsOf command.operationsText).getD []).length

def statementSlots (state : ReplicaState platform) (command : SqlCommand) (details : Details) : Nat :=
  if !state.owesCdc || command.type = .migrationAlterTable ||
      details.splitMirrorOrigin = some .snapshot then 0
  else 1

def settleCdcOwedRefusal (state : ReplicaState platform)
    (refusal : CapacityRefusal) : AppliedEntry platform :=
  { state, outcome := .recordedOnly, answer := .capacity refusal }

def insertCdcObligations (ledger : Ledger) (events : List Obligation) :
    Except LedgerFailure Ledger :=
  events.foldlM Ledger.insertCdcObligation ledger

/-- The statement ran; its event is owed, or announced once. -/
def recordCommittedStatementCdc (state : ReplicaState platform) (host : platform.Host)
    (command : SqlCommand) (stamp : Stamp) (details : Details) (position : Position)
    (applied : Applied platform.toPlatform) (info : StatementInfo) :
    Except EntryFailure (AppliedEntry platform) :=
  let entry := statementEntryOf platform command stamp details info.changes
  if details.splitMirrorOrigin = some .snapshot then .ok (ofApplied state applied)
  else if !state.owesCdc then
    .ok { ofApplied state applied with
      transient := if hasTransientSubscribers replica state then [entry] else [] }
  else do
    let json ← (eventJsonOf replica state host applied.state.table stamp
      entry).mapError .fetch
    match json with
    | none => return ofApplied state applied
    | some eventJson =>
      let ledger ← ledgerResult (state.ledger.insertCdcObligation {
        eventKey := committedStatementEntryKey command.entryId
        logIndex := position.index
        term := position.term
        ordinal := 0
        entryId := command.entryId
        eventJson
        delivered := none
      })
      return { ofApplied { state with ledger } applied with
        drives := replica.isLeader && !replica.isShutdown }

def applyStatement (state : ReplicaState platform) (host : platform.Host) (command : SqlCommand)
    (stamp : Stamp) (details : Details) (position : Position) :
    Except EntryFailure (AppliedEntry platform) := do
  let settled := (state.partition.outcomes.lookup
    (committedStatementEntryKey command.entryId)).isSome
  let refusal :=
    -- A settled or reserved statement is answered before room is asked for.
    if settled || state.partition.isPartitionReserved then none
    else capacityRefusalOf state (statementSlots state command details)
  match refusal with
  | some refusal => return settleCdcOwedRefusal state refusal
  | none =>
    let applied ← hostResult
      (applyCommittedStatement host state.partition command position)
    match applied.answer with
    | some (.statementApplied info) =>
      recordCommittedStatementCdc replica state host command stamp details position applied info
    | _ => return ofApplied state applied

def insertsPrepared (before after : ParticipantTable) (key : RowKey) : Bool :=
  (before.lookup key).isNone && (after.lookup key).any fun row => row.state = .prepared

def applyPrepare (state : ReplicaState platform) (host : platform.Host)
    (command : PrepareCommand) (position : Position) :
    Except EntryFailure (AppliedEntry platform) := do
  let applied ← hostResult
    (applyParticipantPrepare host state.partition command position)
  match capacityRefusalOf state (prepareSlots state command) with
  | some refusal =>
    -- Room is asked for by a transaction that would be prepared.
    if insertsPrepared state.partition.rows applied.state.rows
        command.identity.key then
      return settleCdcOwedRefusal state refusal
    else return ofApplied state applied
  | none => return ofApplied state applied

/-- The event an operation owes, or the write it announces once. -/
structure Capture where
  events : List Obligation := []
  transient : List WriteEntry := []

def captureCommittedOperationCdc (state : ReplicaState platform)
    (host : platform.Host) (command : DecisionCommand) (stamp : Stamp)
    (position : Position) (ordinal : Nat) (table : platform.Table)
    (operation : Participant.Operation) (result : StatementInfo) : Except StatementError Capture :=
  let entry := operationEntryOf platform stamp operation result
  if !state.owesCdc then
    .ok { transient := if hasTransientSubscribers replica state then [entry] else [] }
  else do
    let json ← eventJsonOf replica state host table stamp entry
    return { events := json.toList.map fun eventJson => {
      eventKey := operationOutcomeKeyOf command.identity.participantId ordinal
      logIndex := position.index
      term := position.term
      ordinal
      entryId := command.entryId
      eventJson
      delivered := none } }

structure CapturedRun (platform : CdcPlatform) where
  run : OperationsRun platform.toPlatform
  events : List Obligation
  transient : List WriteEntry

/-- Each operation runs, is recorded and has its event captured before the next
one. -/
def captureCommittedOperations (state : ReplicaState platform)
    (host : platform.Host) (command : DecisionCommand) (stamp : Stamp) (position : Position) :
    Nat → platform.Table → OutcomeTable → List Participant.Operation →
      Except StatementError (CapturedRun platform)
  | _, table, outcomes, [] => .ok ⟨⟨table, outcomes, []⟩, [], []⟩
  | ordinal, table, outcomes, operation :: rest => do
    let (next, info) ← platform.runCommittedPartitionStatement host table
      (carriedStatement operation)
    let eventKey := operationOutcomeKeyOf command.identity.participantId ordinal
    if eventKey ∈ outcomes then .error outcomeKeyError
    else
      let capture ← captureCommittedOperationCdc replica state host command stamp
        position ordinal next operation info
      let captured ← captureCommittedOperations state host command stamp position
        (ordinal + 1) next
        (outcomes.insert eventKey { outcome := .applied, position, result := some info }) rest
      return {
        run := { captured.run with results := info :: captured.run.results }
        events := capture.events ++ captured.events
        transient := capture.transient ++ captured.transient
      }

def committing (state : PartitionState platform.toPlatform) (command : DecisionCommand) :
    Option (ParticipantRow × List Participant.Operation) := do
  if (identityRefusalOf command.identity state.partitionId).or
      (decisionBindingRefusalOf platform.sha256Hex command) |>.isSome then none
  else
    let row ← state.readParticipantTransactionRow command.identity.key
    if row.commitMode = command.identity.commitMode &&
        row.transactionEpoch = command.identity.transactionEpoch &&
        row.state = .prepared && decisionMatchesPreparedRow command row &&
        command.decision = .commit &&
        row.validationText = state.validationTextHereOf then
      return (row, ← row.operations?)
    else none

def commitCaptured (state : ReplicaState platform) (host : platform.Host)
    (command : DecisionCommand) (stamp : Stamp) (position : Position)
    (operations : List Participant.Operation) : Except EntryFailure (AppliedEntry platform) :=
  match captureCommittedOperations replica state host command stamp position 0
      state.partition.table state.partition.outcomes operations with
  | .error error => do
    let refusal ← hostResult (deterministicRefusalOf error commitCauses)
    let applied ← hostResult
      (refuseCommit state.partition command position refusal)
    return ofApplied state applied
  | .ok captured => do
    let rows ← hostResult (updateParticipantTransactionDecided
      state.partition.rows command.identity.key
      (decidedOf command position .committed none))
    let next : PartitionState platform.toPlatform := { state.partition with
      rows
      generation := if operations.length > 0 then state.partition.generation + 1
        else state.partition.generation
      table := captured.run.table
      outcomes := captured.run.outcomes }
    let ledger ← ledgerResult
      (insertCdcObligations state.ledger captured.events)
    return {
      state := { state with partition := next, ledger }
      outcome := .applied
      answer := .partition (some (.participant {
        success := true
        outcome := some (rowAnswer next command.identity.key)
        results := some (captured.run.results.map some)
      }))
      transient := captured.transient
      drives := !captured.events.isEmpty && replica.isLeader && !replica.isShutdown
    }

def applyDecision (state : ReplicaState platform) (host : platform.Host)
    (command : DecisionCommand) (stamp : Stamp) (position : Position) :
    Except EntryFailure (AppliedEntry platform) :=
  match committing state.partition command with
  | some (_, operations) => commitCaptured replica state host command stamp position operations
  | none =>
    hostResult ((applyParticipantDecision host state.partition command
      position).map (ofApplied state))

structure Judgement where
  (owed alreadyDelivered : List String)

def judgeEvent (platform : CdcPlatform) (ledger : Ledger) (logIndex : Nat)
    (judged : Judgement) (event : AcknowledgedEvent) : Except AcknowledgementRefusal Judgement :=
  let known (row : Obligation) (judgement : Judgement) :=
    if platform.digestEventKey row.eventKey ≠ event.eventKeyDigest then
      .error (.positionMismatch logIndex event.ordinal)
    else .ok judgement
  match ledger.readCdcObligationStanding logIndex event.ordinal with
  | .reclaimed => .error (.identityCompacted logIndex event.ordinal)
  | .unknown => .error (.unknownEvent logIndex event.ordinal)
  | .owed row => known row { judged with owed := judged.owed ++ [row.eventKey] }
  | .delivered row =>
    known row { judged with
      alreadyDelivered := judged.alreadyDelivered ++ [row.eventKey] }

def acknowledgementJudgementOf (platform : CdcPlatform) (ledger : Ledger)
    (groups : List AcknowledgedGroup) : Except AcknowledgementRefusal Judgement :=
  groups.foldlM
    (fun judged group => group.events.foldlM (judgeEvent platform ledger group.logIndex) judged)
    ⟨[], []⟩

def refuseAcknowledgement (state : ReplicaState platform)
    (refusal : AcknowledgementRefusal) : AppliedEntry platform :=
  { state
    outcome := .recordedOnly
    answer := .acknowledgementRefused refusal }

def applyCdcAcknowledgementCommand (state : ReplicaState platform)
    (command : Acknowledgement) (position : Position) :
    Except EntryFailure (AppliedEntry platform) :=
  if command.partitionId ≠ state.partition.partitionId then
    .ok (refuseAcknowledgement state .identityMismatch)
  else
    match acknowledgedGroupsOf command with
    | none => .ok (refuseAcknowledgement state .bytesInvalid)
    | some groups =>
      match acknowledgementJudgementOf platform state.ledger groups with
      | .error refusal => .ok (refuseAcknowledgement state refusal)
      | .ok judged => do
        let marked ← ledgerResult (judged.owed.foldlM
          (Ledger.markCdcObligationDelivered position) state.ledger)
        let ledger ← ledgerResult
          (marked.reclaimDeliveredCdcObligations position)
        return {
          state := { state with ledger }
          outcome := if judged.owed.isEmpty then .replayed else .applied
          answer := .acknowledged judged.owed.length
            judged.alreadyDelivered.length
        }

def applyEntry (state : ReplicaState platform) (host : platform.Host) (entry : LogEntry) :
    Except EntryFailure (AppliedEntry platform) :=
  match entry.command with
  | .cdcDelivered command => applyCdcAcknowledgementCommand state command entry.position
  | .partition command stamp details =>
    match command with
    | .prepare command => applyPrepare state host command entry.position
    | .decision command => applyDecision replica state host command stamp entry.position
    | .sql command =>
      if isNonEmptyString command.entryId && isNonEmptyString command.sql then
        applyStatement replica state host command stamp details entry.position
      else
        hostResult ((applyCommittedEntry host state.partition
          { command := .sql command, position := entry.position }).map (ofApplied state))
    | other =>
      hostResult ((applyCommittedEntry host state.partition
        { command := other, position := entry.position }).map (ofApplied state))

end

end LagrangeDb.Cdc
