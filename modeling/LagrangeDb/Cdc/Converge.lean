import LagrangeDb.Cdc.Apply
import LagrangeDb.Participant.Change
import LagrangeDb.Participant.Uniform

namespace LagrangeDb.Cdc

open Data Participant LagrangeDb.Partition

/-- The database runs statements and fetches rows alike on every host. -/
structure CdcPlatform.Uniform (platform : CdcPlatform) : Prop where
  run : platform.toPlatform.Uniform
  fetch : ∀ first second table name fields,
    Consistent (platform.fetchRow first table name fields)
      (platform.fetchRow second table name fields)

section

variable {fetch fetch' : FetchRow StatementError}
  (same : ∀ name fields, Consistent (fetch name fields) (fetch' name fields))

include same

theorem fetchInsertRow_consistent (tableName keyColumn : String)
    (keyValue : KeyValue) (fallback : Fields) :
    Consistent (fetchInsertRow fetch tableName keyColumn keyValue fallback)
      (fetchInsertRow fetch' tableName keyColumn keyValue fallback) := by
  unfold fetchInsertRow
  split
  · exact .refl _
  · exact (same ..).bind fun _ => .refl _

theorem fetchUpdatedRow_consistent (tableName : String) (clause : Fields) :
    Consistent (fetchUpdatedRow fetch tableName clause)
      (fetchUpdatedRow fetch' tableName clause) := by
  unfold fetchUpdatedRow
  dsimp only
  split
  · exact .refl _
  · exact same ..

theorem extractParamData_consistent (tableName : String) (sql : List Char)
    (params : List KeyValue) (operation : OperationType) :
    Consistent (extractParamData fetch tableName sql params operation)
      (extractParamData fetch' tableName sql params operation) := by
  have insert : Consistent (extractParamInsertData fetch tableName sql params)
      (extractParamInsertData fetch' tableName sql params) := by
    unfold extractParamInsertData
    split
    · dsimp only
      split
      · exact fetchInsertRow_consistent same ..
      · exact .refl _
    · exact .refl _
  have update : Consistent (extractParamUpdateData fetch tableName sql params)
      (extractParamUpdateData fetch' tableName sql params) := by
    unfold extractParamUpdateData
    split
    · dsimp only
      split <;> split
      · exact (fetchUpdatedRow_consistent same ..).bind fun _ => .refl _
      · exact .refl _
      · exact (fetchUpdatedRow_consistent same ..).bind fun _ => .refl _
      · exact .refl _
    · exact .refl _
  cases operation with
  | insert => exact insert
  | upsert => exact insert
  | update => exact update
  | delete => exact .refl _
  | query => exact .refl _
  | other _ => exact .refl _

theorem extractInsertRow_consistent (tableName : String) (sql : List Char) :
    Consistent (extractInsertRow fetch tableName sql) (extractInsertRow fetch' tableName sql) := by
  unfold extractInsertRow
  split
  · dsimp only
    split
    · exact .refl _
    · exact (same ..).bind fun _ => .refl _
  · exact .refl _

theorem extractUpdateRow_consistent (tableName : String) (sql : List Char) :
    Consistent (extractUpdateRow fetch tableName sql) (extractUpdateRow fetch' tableName sql) := by
  unfold extractUpdateRow
  split
  · exact .refl _
  · exact (same ..).bind fun _ => .refl _

theorem extractQueryData_consistent (tableName : String) (entry : WriteEntry)
    (given : Fields) : Consistent (extractQueryData fetch tableName entry given)
      (extractQueryData fetch' tableName entry given) := by
  unfold extractQueryData
  dsimp only
  split
  on_goal 1 => refine (extractParamData_consistent same ..).bind fun fromParams => ?_
  on_goal 2 => refine (Consistent.refl _).bind fun fromParams => ?_
  all_goals
    split
    · exact .refl _
    split
    · exact extractInsertRow_consistent same ..
    · exact extractInsertRow_consistent same ..
    · exact extractUpdateRow_consistent same ..
    · exact .refl _
    · exact .refl _

theorem extractCDCData_consistent (tableName : String) (entry : WriteEntry) :
    Consistent (extractCDCData fetch tableName entry) (extractCDCData fetch' tableName entry) := by
  unfold extractCDCData
  dsimp only
  split
  on_goal 1 => refine (extractQueryData_consistent same ..).bind fun data => ?_
  on_goal 2 => refine (Consistent.refl _).bind fun data => ?_
  all_goals
    split
    · exact (fetchUpdatedRow_consistent same ..).bind fun _ => .refl _
    · exact .refl _

theorem buildEvent_consistent (source source' : Source)
    (samePartition : source.partitionId = source'.partitionId)
    (sameTable : source.tableName = source'.tableName) {proposedBy : Option String}
    (named : proposedBy.isSome ∨ source.replicaId = source'.replicaId)
    (entry : WriteEntry) : Consistent (buildEvent fetch source proposedBy entry)
      (buildEvent fetch' source' proposedBy entry) := by
  have replica : proposedBy.getD source.replicaId =
      proposedBy.getD source'.replicaId := by
    rcases named with some | same
    · obtain ⟨name, rfl⟩ := Option.isSome_iff_exists.mp some
      rfl
    · rw [same]
  have table : extractTableName source entry = extractTableName source' entry := by
    rw [extractTableName, extractTableName, sameTable]
  unfold buildEvent
  split
  · exact .refl _
  split
  · exact .refl _
  dsimp only
  rw [table, replica, samePartition]
  exact (extractCDCData_consistent same ..).bind fun _ => .refl _

end

section

variable {platform : CdcPlatform} (first second : Replica)
  (state : ReplicaState platform) (host host' : platform.Host)

/-- The replicas put the same scope into the events they owe, and the command
names its proposer. -/
def RecordAlike (stamp : Stamp) : Prop :=
  state.owesCdc = true →
    eventCdcSourceScope first state = eventCdcSourceScope second state ∧
      stamp.proposedBy.isSome

variable {first second state} {stamp : Stamp}

section

variable (uniform : platform.Uniform)

include uniform

theorem eventJsonOf_consistent (alike : RecordAlike first second state stamp)
    (owes : state.owesCdc = true) (table : platform.Table) (entry : WriteEntry) :
    Consistent (eventJsonOf first state host table stamp entry)
      (eventJsonOf second state host' table stamp entry) := by
  obtain ⟨scope, named⟩ := alike owes
  unfold eventJsonOf
  rw [scope]
  have built := buildEvent_consistent (uniform.fetch host host' table)
    (state.source first) (state.source second) rfl rfl (.inl named) entry
  exact built.bind fun _ => .refl _

abbrev left (result : Except EntryFailure (AppliedEntry platform)) :
    Except EntryFailure (ReplicaState platform) :=
  result.map AppliedEntry.state

theorem recordCommittedStatementCdc_agree (command : SqlCommand)
    (alike : RecordAlike first second state stamp) (details : Details)
    (position : Position) (applied : Applied platform.toPlatform) (info : StatementInfo) : Agree
      (left (recordCommittedStatementCdc first state host command stamp details
        position applied info))
      (left (recordCommittedStatementCdc second state host' command stamp details
        position applied info)) := by
  unfold recordCommittedStatementCdc
  dsimp only
  split
  · exact .refl _
  split
  · exact .refl _
  next owes =>
  have owed : state.owesCdc = true := by simpa using owes
  have same := eventJsonOf_consistent host host' uniform alike owed
    applied.state.table
    (statementEntryOf platform command stamp details info.changes)
  refine Agree.map_bind (same.agree.mapError _) fun json => ?_
  cases json with
  | none => exact .refl _
  | some json => exact Agree.map_bind (.refl _) fun _ => .refl _

theorem applyStatement_agree (command : SqlCommand)
    (alike : RecordAlike first second state stamp) (details : Details) (position : Position) : Agree
      (left (applyStatement first state host command stamp details position))
      (left (applyStatement second state host' command stamp details position)) :=
    by
  unfold applyStatement
  dsimp only
  split
  · exact .refl _
  refine Agree.map_bind ((applyCommittedStatement_agree host host' uniform.run
    state.partition command position).mapError _) fun applied => ?_
  split
  · exact recordCommittedStatementCdc_agree host host' uniform command alike
      details position applied _
  · exact .refl _

theorem applyPrepare_agree (command : PrepareCommand) (position : Position) :
    Agree (left (applyPrepare state host command position))
      (left (applyPrepare state host' command position)) := by
  unfold applyPrepare
  refine Agree.map_bind ((applyParticipantPrepare_agree host host' uniform.run
    state.partition command position).mapError _) fun applied => ?_
  exact .refl _

theorem captureCommittedOperationCdc_events (command : DecisionCommand)
    (alike : RecordAlike first second state stamp) (position : Position)
    (ordinal : Nat) (table : platform.Table) (operation : Participant.Operation)
    (result : StatementInfo) : Consistent
      (Capture.events <$> captureCommittedOperationCdc first state host command
        stamp position ordinal table operation result)
      (Capture.events <$> captureCommittedOperationCdc second state host' command
        stamp position ordinal table operation result) := by
  unfold captureCommittedOperationCdc
  dsimp only
  split
  · exact .refl _
  next owes =>
  have owed : state.owesCdc = true := by simpa using owes
  have same := eventJsonOf_consistent host host' uniform alike owed table
    (operationEntryOf platform stamp operation result)
  exact (same.bind fun _ => .refl _).map _

end

def CapturedRun.recorded (captured : CapturedRun platform) :
    OperationsRun platform.toPlatform × List Obligation :=
  (captured.run, captured.events)

theorem captureCommittedOperations_cons (replica : Replica)
    (command : DecisionCommand) (stamp : Stamp) (position : Position)
    (ordinal : Nat) (table : platform.Table) (outcomes : OutcomeTable)
    (operation : Participant.Operation) (rest : List Participant.Operation) :
    CapturedRun.recorded <$> captureCommittedOperations replica state host command
        stamp position ordinal table outcomes (operation :: rest) =
      (platform.runCommittedPartitionStatement host table
        (carriedStatement operation) >>= fun result =>
          let eventKey := operationOutcomeKeyOf command.identity.participantId
            ordinal
          if eventKey ∈ outcomes then .error outcomeKeyError
          else
            (Capture.events <$> captureCommittedOperationCdc replica state host
              command stamp position ordinal result.1 operation result.2) >>=
              fun events =>
            (fun recorded =>
                ({ recorded.1 with results := result.2 :: recorded.1.results },
                  events ++ recorded.2)) <$>
              (CapturedRun.recorded <$> captureCommittedOperations replica state
                host command stamp position (ordinal + 1) result.1
                (outcomes.insert eventKey
                  { outcome := .applied, position, result := some result.2 })
                rest)) := by
  rw [captureCommittedOperations]
  cases platform.runCommittedPartitionStatement host table (carriedStatement operation) with
  | error error => rfl
  | ok result =>
    dsimp only [bind, Except.bind]
    split
    · rfl
    cases captureCommittedOperationCdc replica state host command stamp position
      ordinal result.1 operation result.2 with
    | error error => rfl
    | ok capture =>
      dsimp only
      cases captureCommittedOperations replica state host command stamp
        position (ordinal + 1) _ _ rest <;> rfl

theorem captureCommittedOperations_consistent (uniform : platform.Uniform)
    (command : DecisionCommand) (alike : RecordAlike first second state stamp)
    (position : Position) (operations : List Participant.Operation)
    (ordinal : Nat) (table : platform.Table) (outcomes : OutcomeTable) : Consistent
      (CapturedRun.recorded <$> captureCommittedOperations first state host command
        stamp position ordinal table outcomes operations)
      (CapturedRun.recorded <$> captureCommittedOperations second state host'
        command stamp position ordinal table outcomes operations) := by
  induction operations generalizing ordinal table outcomes with
  | nil => exact .refl _
  | cons operation rest induction =>
    rw [captureCommittedOperations_cons, captureCommittedOperations_cons]
    refine (uniform.run ..).bind fun result => ?_
    dsimp only
    split
    · exact .refl _
    refine (captureCommittedOperationCdc_events host host' uniform command alike
      ..).bind fun events => ?_
    exact (induction ..).map _

def commitRecorded (state : ReplicaState platform) (command : DecisionCommand)
    (position : Position) (operations : List Participant.Operation) :
    Except StatementError (OperationsRun platform.toPlatform × List Obligation) →
      Except EntryFailure (ReplicaState platform)
  | .error error => do
    let refusal ← hostResult (deterministicRefusalOf error commitCauses)
    let applied ← hostResult
      (refuseCommit state.partition command position refusal)
    return { state with partition := applied.state }
  | .ok (run, events) => do
    let rows ← hostResult (updateParticipantTransactionDecided
      state.partition.rows command.identity.key
      (decidedOf command position .committed none))
    let ledger ← ledgerResult (insertCdcObligations state.ledger events)
    return { state with
      partition := { state.partition with
        rows
        generation := if operations.length > 0
          then state.partition.generation + 1 else state.partition.generation
        table := run.table
        outcomes := run.outcomes }
      ledger }

theorem commitCaptured_left (replica : Replica) (command : DecisionCommand)
    (stamp : Stamp) (position : Position) (operations : List Participant.Operation) :
    left (commitCaptured replica state host command stamp position operations) =
      commitRecorded state command position operations
        (CapturedRun.recorded <$> captureCommittedOperations replica state host
          command stamp position 0 state.partition.table state.partition.outcomes operations) := by
  unfold commitCaptured
  cases captureCommittedOperations replica state host command stamp position 0
      state.partition.table state.partition.outcomes operations with
  | error error =>
    simp only [left, Result.map_bind]
    rfl
  | ok captured =>
    simp only [left, Result.map_bind]
    rfl

theorem applyDecision_agree (uniform : platform.Uniform)
    (command : DecisionCommand) (alike : RecordAlike first second state stamp)
    (position : Position) : Agree (left (applyDecision first state host command stamp position))
      (left (applyDecision second state host' command stamp position)) := by
  unfold applyDecision
  split
  next operations _ =>
    rw [commitCaptured_left, commitCaptured_left]
    have same := captureCommittedOperations_consistent host host' uniform command
      alike position operations 0 state.partition.table state.partition.outcomes
    generalize CapturedRun.recorded <$> captureCommittedOperations first _ _ _ _
      _ _ _ _ _ = one at same ⊢
    generalize CapturedRun.recorded <$> captureCommittedOperations second _ _ _
      _ _ _ _ _ _ = other at same ⊢
    cases same with
    | ok recorded => exact .refl _
    | failed error error' equal =>
      exact ((deterministicRefusalOf_agree commitCauses equal).mapError _).bind fun _ => .refl _
    | hostFirst error _ own =>
      simp only [commitRecorded, deterministicRefusalOf_own commitCauses own]
      exact .of_error_left _ _
    | hostSecond _ error own =>
      simp only [commitRecorded, deterministicRefusalOf_own commitCauses own]
      exact .of_error_right _ _
  · exact ((((applyParticipantDecision_agree host host' uniform.run _ _ _).map _).mapError _).map _)

def LogEntry.Named (entry : LogEntry) : Prop :=
  match entry.command with
  | .partition (.sql _) stamp _ => stamp.proposedBy.isSome
  | .partition (.decision _) stamp _ => stamp.proposedBy.isSome
  | _ => True

theorem applyEntry_agree (uniform : platform.Uniform) {entry : LogEntry}
    (scope : state.owesCdc = true →
      eventCdcSourceScope first state = eventCdcSourceScope second state)
    (named : state.owesCdc = true → entry.Named) : Agree (left (applyEntry first state host entry))
      (left (applyEntry second state host' entry)) := by
  obtain ⟨command, position⟩ := entry
  cases command with
  | cdcDelivered command => exact .refl _
  | partition command stamp details =>
    cases command with
    | prepare command => exact applyPrepare_agree host host' uniform command _
    | decision command =>
      exact applyDecision_agree host host' uniform command
        (fun owes => ⟨scope owes, named owes⟩) position
    | sql command =>
      unfold applyEntry
      dsimp only
      split
      · exact applyStatement_agree host host' uniform command
          (fun owes => ⟨scope owes, named owes⟩) details position
      · exact ((((applyCommittedEntry_agree host host' uniform.run _ _).map _).mapError _).map _)
    | generationOrigin command => exact .refl _
    | unrecognised type => exact .refl _

end

section

variable {platform : CdcPlatform}

/-- A replica works through a log.  An application that fails leaves no trace,
and its entry comes again. -/
inductive Replays (replica : Replica) :
    ReplicaState platform → List LogEntry → ReplicaState platform → Prop where
  | done (state : ReplicaState platform) : Replays replica state [] state
  | failed (host : platform.Host) (failure : EntryFailure) :
      applyEntry replica state host entry = .error failure →
      Replays replica state (entry :: rest) final →
      Replays replica state (entry :: rest) final
  | applied (host : platform.Host)
      (applied : AppliedEntry platform) :
      applyEntry replica state host entry = .ok applied →
      Replays replica applied.state rest final →
      Replays replica state (entry :: rest) final

variable {entry : LogEntry}

theorem Replays.first (replays : Replays replica state (entry :: rest) final) :
    ∃ host applied, applyEntry replica state host entry = .ok applied ∧
      Replays replica applied.state rest final := by
  generalize isLog : entry :: rest = log at replays
  induction replays with
  | done => cases isLog
  | failed _ _ _ _ induction => exact induction isLog
  | applied host applied isApplied replays =>
    cases isLog
    exact ⟨host, applied, isApplied, replays⟩

/-- The replica stays the one of its partition and table. -/
structure SamePlace (state next : ReplicaState platform) : Prop where
  partitionId : next.partition.partitionId = state.partition.partitionId
  tableName : next.tableName = state.tableName

variable {state : ReplicaState platform}
  {host : platform.Host} {applied : Applied platform.toPlatform}

/-- The events an entry adds to the ledger carry its index and are owed. -/
structure Records (state next : ReplicaState platform) (index : Nat) : Prop
    extends SamePlace state next where
  records : ∃ events, (∀ event ∈ events, event.logIndex = index ∧ event.delivered = none) ∧
    insertCdcObligations state.ledger events = .ok next.ledger

theorem Records.none (same : SamePlace state next)
    (ledger : next.ledger = state.ledger) (index : Nat) : Records state next index :=
  ⟨same, [], by simp, congrArg Except.ok ledger.symm⟩

theorem SamePlace.of_change (ledger : Ledger)
    (change : Change host state.partition committed applied.state applied.executions) :
    SamePlace state (ofApplied { state with ledger } applied).state :=
  ⟨change.partitionId, rfl⟩

theorem recordCommittedStatementCdc_records {info : StatementInfo}
    (change : Change host state.partition { command := .sql command, position }
      applied.state applied.executions)
    (ok : recordCommittedStatementCdc replica state host command stamp details
      position applied info = .ok recorded) :
    Records state recorded.state position.index := by
  unfold recordCommittedStatementCdc at ok
  dsimp only at ok
  split at ok
  · cases ok
    exact .none (.of_change _ change) rfl _
  split at ok
  · cases ok
    exact .none (.of_change _ change) rfl _
  obtain ⟨json, _, ok⟩ := Result.ok_of_bind ok
  cases json with
  | none =>
    cases ok
    exact .none (.of_change _ change) rfl _
  | some json =>
    obtain ⟨ledger, inserted, ok⟩ := Result.ok_of_bind ok
    cases ok
    refine ⟨.of_change ledger change, [_], ?_,
      bind_pure _ |>.trans (Result.ok_of_mapError inserted)⟩
    exact List.forall_mem_singleton.mpr ⟨rfl, rfl⟩

theorem applyStatement_records
    (ok : applyStatement replica state host command stamp details position = .ok recorded) :
    Records state recorded.state position.index := by
  unfold applyStatement at ok
  dsimp only at ok
  split at ok
  · cases ok
    exact .none ⟨rfl, rfl⟩ rfl _
  obtain ⟨applied, isApplied, ok⟩ := Result.ok_of_bind ok
  have change := applyCommittedStatement_change (Result.ok_of_mapError isApplied)
  split at ok
  · exact recordCommittedStatementCdc_records change ok
  · cases ok
    exact .none (.of_change _ change) rfl _

theorem applyPrepare_records (ok : applyPrepare state host command position = .ok recorded) :
    Records state recorded.state position.index := by
  unfold applyPrepare at ok
  obtain ⟨applied, isApplied, ok⟩ := Result.ok_of_bind ok
  have change := applyParticipantPrepare_change (Result.ok_of_mapError isApplied)
  split at ok
  · split at ok
    · cases ok
      exact .none ⟨rfl, rfl⟩ rfl _
    · cases ok
      exact .none (.of_change _ change) rfl _
  · cases ok
    exact .none (.of_change _ change) rfl _

theorem captureCommittedOperations_owed
    (ok : captureCommittedOperations replica state host command stamp position ordinal table
      outcomes operations = .ok captured) :
    ∀ event ∈ captured.events, event.logIndex = position.index ∧ event.delivered = none := by
  induction operations generalizing ordinal table outcomes captured with
  | nil =>
    cases ok
    simp
  | cons operation rest induction =>
    obtain ⟨⟨next, info⟩, _, ok⟩ := Result.ok_of_bind ok
    dsimp only at ok
    split at ok
    · cases ok
    obtain ⟨capture, isCapture, ok⟩ := Result.ok_of_bind ok
    obtain ⟨later, isLater, ok⟩ := Result.ok_of_bind ok
    cases ok
    refine List.forall_mem_append.mpr ⟨?_, induction isLater⟩
    unfold captureCommittedOperationCdc at isCapture
    dsimp only at isCapture
    split at isCapture
    · cases isCapture
      simp
    obtain ⟨json, _, isCapture⟩ := Result.ok_of_bind isCapture
    cases isCapture
    simp

theorem commitCaptured_records
    (ok : commitCaptured replica state host command stamp position operations = .ok recorded) :
    Records state recorded.state position.index := by
  unfold commitCaptured at ok
  split at ok
  · obtain ⟨refusal, _, ok⟩ := Result.ok_of_bind ok
    obtain ⟨applied, isApplied, ok⟩ := Result.ok_of_bind ok
    cases ok
    obtain ⟨rows, _, isAnswered⟩ := Result.ok_of_bind (Result.ok_of_mapError isApplied)
    cases isAnswered
    exact ⟨⟨rfl, rfl⟩, [], by simp, rfl⟩
  next captured isCaptured =>
  obtain ⟨rows, _, ok⟩ := Result.ok_of_bind ok
  obtain ⟨ledger, inserted, ok⟩ := Result.ok_of_bind ok
  cases ok
  exact ⟨⟨rfl, rfl⟩, captured.events, captureCommittedOperations_owed isCaptured,
    Result.ok_of_mapError inserted⟩

theorem applyCdcAcknowledgementCommand_place
    (ok : applyCdcAcknowledgementCommand state command position = .ok recorded) :
    SamePlace state recorded.state := by
  unfold applyCdcAcknowledgementCommand at ok
  split at ok
  · cases ok
    exact ⟨rfl, rfl⟩
  split at ok
  · cases ok
    exact ⟨rfl, rfl⟩
  split at ok
  · cases ok
    exact ⟨rfl, rfl⟩
  obtain ⟨marked, _, ok⟩ := Result.ok_of_bind ok
  obtain ⟨ledger, _, ok⟩ := Result.ok_of_bind ok
  cases ok
  exact ⟨rfl, rfl⟩

theorem partition_records (host : platform.Host) (committed : Committed)
    (ok : hostResult ((applyCommittedEntry host state.partition committed).map
      (ofApplied state)) = .ok recorded) :
    Records state recorded.state committed.position.index := by
  obtain ⟨applied, isApplied, rfl⟩ := Result.ok_of_map (Result.ok_of_mapError ok)
  exact .none (.of_change _ (applyCommittedEntry_change isApplied)) rfl _

theorem applyPartition_records {applied : AppliedEntry platform}
    (ok : applyEntry replica state host ⟨.partition command stamp details, position⟩ =
      .ok applied) : Records state applied.state position.index := by
  cases command with
  | prepare command => exact applyPrepare_records ok
  | decision command =>
    unfold applyEntry applyDecision at ok
    dsimp only at ok
    split at ok
    · exact commitCaptured_records ok
    · exact partition_records host ⟨.decision command, position⟩ ok
  | sql command =>
    unfold applyEntry at ok
    dsimp only at ok
    split at ok
    · exact applyStatement_records ok
    · exact partition_records host ⟨.sql command, position⟩ ok
  | generationOrigin command =>
    exact partition_records host ⟨.generationOrigin command, position⟩ ok
  | unrecognised type => exact partition_records host ⟨.unrecognised type, position⟩ ok

theorem applyEntry_place {applied : AppliedEntry platform}
    (ok : applyEntry replica state host entry = .ok applied) : SamePlace state applied.state := by
  obtain ⟨command, position⟩ := entry
  cases command with
  | cdcDelivered command => exact applyCdcAcknowledgementCommand_place ok
  | partition command stamp details => exact (applyPartition_records ok).toSamePlace

theorem SamePlace.scope (same : SamePlace state next) :
    eventCdcSourceScope replica next = eventCdcSourceScope replica state := by
  simp only [eventCdcSourceScope, sourceScopeMatchesService, same.partitionId, same.tableName]

theorem SamePlace.owes (same : SamePlace state next) : next.owesCdc = state.owesCdc := by
  rw [ReplicaState.owesCdc, ReplicaState.owesCdc, same.tableName]

end

namespace Users

def platform : CdcPlatform where
  Table := Unit
  Host := Unit
  sha256Hex := fun _ => ""
  runCommittedPartitionStatement := fun _ _ _ =>
    .ok ((), { changes := 1, lastInsertRowid := some 1 })
  isTableCdcObligationRecorded := fun name => name = "users"
  fetchRow := fun _ _ _ _ => .ok none
  paramValue := fun _ => .primitive .null
  digestFields := fun _ => "fields"
  digestScope := fun _ _ => "scope"
  digestEventKey := fun _ => String.ofList (List.replicate 64 '0')

theorem uniform : platform.Uniform := ⟨fun _ _ _ _ => .refl _, fun _ _ _ _ _ => .refl _⟩

def scopeOf (authority : Authority) : Scope where
  fields := {
    authority
    partitionId := "p1"
    tableId := "t1"
    tableName := "users"
    rangeStart := none
    rangeEnd := none
    partitionVersion := 1
    activePartitionVersion := 1 }
  descriptorDigest := "fields"
  scopeId := "scope"

def replicaOf (replicaId : String) (authority : Authority) : Replica where
  replicaId
  tableId := "t1"
  rangeStart := none
  rangeEnd := none
  isLeader := false
  isShutdown := false
  cdcSubscribers := 0
  cdcSourceScopeEvidence := some (scopeOf authority)

def founder : Replica := replicaOf "r1" .bootstrapGenesis

def start : ReplicaState platform where
  partition := .fresh "p1" ()
  tableName := "users"
  ledger := .empty

def insertionAt (entryId : String) (index : Nat) (proposedBy : Option String) : LogEntry where
  command := .partition
    (.sql { type := .insert, entryId, sql := "INSERT", params := [] })
    { timestamp := none, proposedBy }
    { data := some [("id", .primitive (.string "1"))], whereClause := none,
      tableName := none, splitMirrorOrigin := none }
  position := { index, term := 1 }

def insertion : Option String → LogEntry := insertionAt "e1" 1

theorem insertion_replays (replica : Replica) (proposedBy : Option String)
    (scope : eventCdcSourceScope replica start = replica.cdcSourceScopeEvidence) :
    ∃ final, Replays replica start [insertion proposedBy] final ∧ final.ledger.rows.map (fun row =>
        (row.eventJson.event.sourceReplica, row.eventJson.sourceScope)) =
          [(proposedBy.getD replica.replicaId, replica.cdcSourceScopeEvidence)] :=
  ⟨_, .applied () _ rfl (.done _), by rw [← scope]; rfl⟩

end Users

end LagrangeDb.Cdc
