import Mathlib.Data.List.AList
import LagrangeDb.Participant.Bytes

namespace LagrangeDb.Participant

/-! The durable participant state of one partition replica. The key columns of a table are its key
and are not repeated in the row. -/

inductive RowState where
  | prepared
  | committed
  | rolledBack
  | refused
deriving DecidableEq

inductive RefusalCause where
  | digestInvalid
  | originMismatch
  | conflict
  | statementFailed
  | rowidCeiling
  | commitBaseMoved
  | commitStatementFailed
deriving DecidableEq

structure Position where
  (index term : Nat)
deriving DecidableEq

structure RowKey where
  (transactionId participantId : String)
deriving DecidableEq

def Identity.key (identity : Identity) : RowKey :=
  { transactionId := identity.transactionId
    participantId := identity.participantId }

structure ParticipantRow where
  sessionId : Option String
  commitMode : String
  transactionEpoch : Int
  state : RowState
  operationsText : Option OperationsText := none
  validationText : Option ValidationText := none
  preparedDigest : Option String := none
  prepareEntryId : Option String := none
  prepareAt : Option Position := none
  decision : Option Decision := none
  decisionDigest : Option String := none
  decisionEntryId : Option String := none
  decisionAt : Option Position := none
  refusalCause : Option RefusalCause := none
  refusalDetail : Option String := none
deriving DecidableEq

abbrev ParticipantTable := AList fun _ : RowKey => ParticipantRow

def ParticipantRow.operations? (row : ParticipantRow) : Option (List Operation) :=
  row.operationsText.bind operationsOf

inductive CommandOutcome where
  | applied
  | replayed
  | recordedOnly
  | statementFailed
  | reservedRefused
deriving DecidableEq

structure StatementInfo where
  changes : Nat
  lastInsertRowid : Option Int
deriving DecidableEq

structure OutcomeRow where
  outcome : CommandOutcome
  position : Position
  failureCode : Option String := none
  failureMessage : Option String := none
  result : Option StatementInfo := none
deriving DecidableEq

abbrev OutcomeTable := AList fun _ : String => OutcomeRow

/-! What SQLite and the host contribute.  `Host` is the environment one entry
application runs in; only it may make the same statement on the same table end
differently. -/

inductive RefusalLayer where
  | rowidCeiling
  | other (name : String)
deriving DecidableEq

structure StatementError where
  code : Option String
  (name message : String)
  refusalLayer : Option RefusalLayer := none
  connectionOpen : Bool := true
deriving DecidableEq

structure Statement where
  sql : String
  params : List Param
  carried : Bool
  migration : Bool := false
deriving DecidableEq

structure Platform where
  Table : Type
  Host : Type
  sha256Hex : HashedText → String
  runCommittedPartitionStatement :
    Host → Table → Statement → Except StatementError (Table × StatementInfo)

def statementRefusalCode : String := "partition_write_statement_refused"

def deterministicSqliteCodes : List String :=
  ["SQLITE_CONSTRAINT", "SQLITE_ERROR", "SQLITE_MISMATCH", "SQLITE_RANGE", "SQLITE_TOOBIG"]

def deterministicBindingErrors : List String := ["RangeError", "TypeError"]

def sqlitePrimaryCode (error : StatementError) : Option String :=
  match error.code with
  | none => none
  | some code =>
    if "SQLITE_".toList.isPrefixOf code.toList then
      some (String.ofList (['_'].intercalate ((code.toList.splitOn '_').take 2)))
    else none

def isDeterministicStatementFailure (error : StatementError) : Bool :=
  if error.code = some statementRefusalCode then true
  else
    match sqlitePrimaryCode error with
    | some primary => deterministicSqliteCodes.contains primary
    | none =>
      error.connectionOpen && deterministicBindingErrors.contains error.name

/-- A statement that ran once on a table runs again to the same result on the
same table, or fails for a reason that is the host's. -/
def Platform.Deterministic (platform : Platform) : Prop :=
  ∀ host again table statement result,
    platform.runCommittedPartitionStatement host table statement = .ok result →
    platform.runCommittedPartitionStatement again table statement = .ok result ∨
    ∃ error, platform.runCommittedPartitionStatement again table statement = .error error ∧
      isDeterministicStatementFailure error = false

structure PartitionState (platform : Platform) where
  partitionId : String
  table : platform.Table
  generation : Nat
  origin : Option Position
  rows : ParticipantTable
  outcomes : OutcomeTable

namespace PartitionState

variable {platform : Platform}

def fresh (partitionId : String) (table : platform.Table) : PartitionState platform :=
  { partitionId, table, generation := 0, origin := none, rows := ∅,
    outcomes := ∅ }

def readParticipantTransactionRow (state : PartitionState platform)
    (key : RowKey) : Option ParticipantRow :=
  state.rows.lookup key

def isPartitionReserved (state : PartitionState platform) : Bool :=
  state.rows.entries.any fun entry => entry.2.state = .prepared

def validationTextHereOf (state : PartitionState platform) : Option ValidationText :=
  state.origin.map fun origin =>
    validationTextOf platform.sha256Hex state.generation state.partitionId
      origin.index

theorem isPartitionReserved_iff (state : PartitionState platform) :
    state.isPartitionReserved = true ↔ ∃ key row, state.rows.lookup key = some row ∧
        row.state = .prepared := by
  simp only [isPartitionReserved, List.any_eq_true, decide_eq_true_eq]
  constructor
  · rintro ⟨⟨key, row⟩, hmem, hprepared⟩
    exact ⟨key, row, AList.mem_lookup_iff.mpr hmem, hprepared⟩
  · rintro ⟨key, row, hlookup, hprepared⟩
    exact ⟨⟨key, row⟩, AList.mem_lookup_iff.mp hlookup, hprepared⟩

end PartitionState

/-! Failures that end the application's SQLite transaction.  None of them
leaves a trace in the partition. -/

inductive HostFailure where
  | statementEnvironmentFailed (error : StatementError)
  | commandUnrecognised
  | entryIdMissing
  | rowExists
  | decidedUpdateNotOneRow
deriving DecidableEq

def insertParticipantTransactionRow (rows : ParticipantTable) (key : RowKey)
    (row : ParticipantRow) : Except HostFailure ParticipantTable :=
  if key ∈ rows then .error .rowExists else .ok (rows.insert key row)

structure Decided where
  state : RowState
  decision : Decision
  (decisionDigest decisionEntryId : String)
  decisionAt : Position
  refusalCause : Option RefusalCause
  refusalDetail : Option String

def ParticipantRow.decided (row : ParticipantRow) (decided : Decided) : ParticipantRow :=
  { row with
    state := decided.state
    decision := some decided.decision
    decisionDigest := some decided.decisionDigest
    decisionEntryId := some decided.decisionEntryId
    decisionAt := some decided.decisionAt
    refusalCause := decided.refusalCause
    refusalDetail := decided.refusalDetail }

def updateParticipantTransactionDecided (rows : ParticipantTable)
    (key : RowKey) (decided : Decided) : Except HostFailure ParticipantTable :=
  match rows.lookup key with
  | some row =>
    if row.state = .prepared then .ok (rows.insert key (row.decided decided))
    else .error .decidedUpdateNotOneRow
  | none => .error .decidedUpdateNotOneRow

variable {key : RowKey}

theorem insertParticipantTransactionRow_ok {rows inserted : ParticipantTable}
    (h : insertParticipantTransactionRow rows key row = .ok inserted) :
    rows.lookup key = none ∧ inserted = rows.insert key row := by
  unfold insertParticipantTransactionRow at h
  split at h
  · cases h
  next habsent => exact ⟨AList.lookup_eq_none.mpr habsent, (Except.ok.inj h).symm⟩

theorem updateParticipantTransactionDecided_ok {rows updated : ParticipantTable}
    (h : updateParticipantTransactionDecided rows key decided = .ok updated) :
    ∃ row, rows.lookup key = some row ∧ row.state = .prepared ∧
      updated = rows.insert key (row.decided decided) := by
  unfold updateParticipantTransactionDecided at h
  split at h
  next row hrow =>
    split at h
    next hprepared => exact ⟨row, hrow, hprepared, (Except.ok.inj h).symm⟩
    · cases h
  · cases h

end LagrangeDb.Participant
