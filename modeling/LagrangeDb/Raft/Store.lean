import Mathlib
import LagrangeDb.Data.Result

namespace LagrangeDb.Raft

/-! The SQLite file of one replica, and the durable Raft record it keeps next to
the tables of the application. -/

inductive EntryType where
  | normal
  | confChange
  | confChangeV2
deriving DecidableEq

structure Entry where
  (index term : Nat)
  entryType : EntryType
  data : Option String
deriving DecidableEq

structure HardState where
  (term vote commit : Nat)
deriving DecidableEq

structure ConfState where
  (voters learners votersOutgoing learnersNext : List Nat)
  autoLeave : Bool
deriving DecidableEq

def emptyConfState : ConfState := ⟨[], [], [], [], false⟩

def ConfState.members (confState : ConfState) : List (List Nat) :=
  [confState.voters, confState.learners, confState.votersOutgoing, confState.learnersNext]

/-- Two configurations have one key when they name the same members in the same
roles.  Keys are only compared, so any order sorts them. -/
def raftRsConfStateKey (confState : ConfState) : List (List Nat) × Bool :=
  ([confState.voters, confState.votersOutgoing, confState.learners,
    confState.learnersNext].map (List.insertionSort (· ≤ ·)), confState.autoLeave)

structure AppliedState where
  appliedIndex : Nat
  confState : ConfState
  (bootstrapIndex admissionIndex : Option Nat)
  membershipGenerationIndex : Nat
deriving DecidableEq

structure SnapshotMetadata where
  (index term : Nat)
  confState : ConfState
  membershipGenerationIndex : Option Nat
deriving DecidableEq

structure Snapshot where
  data : Option String
  metadata : SnapshotMetadata
deriving DecidableEq

inductive LifecycleState where
  | active
  | retired
deriving DecidableEq

inductive OpeningHistory where
  | neverOpened
  | established
deriving DecidableEq

structure LifecycleRow where
  groupId : String
  peerId : Nat
  replicaIdentity : String
  state : LifecycleState
  (reason incarnation : Option String)
  nativeHistoryState : Option OpeningHistory
deriving DecidableEq

structure Reservation where
  replicaIdentity : String
  peerId : Nat
  learnerAdmission : Option String
deriving DecidableEq

inductive EntityType where
  | bootstrap
  | messageGroup
  | partition
  | lifecycle
  | service
  | wasmService
deriving DecidableEq

structure CreateAuthority where
  (operationId operationType : String)
  entityType : EntityType
  (entityId partitionId replicaId targetNodeId admissionToken attemptToken : String)
  (attemptSeq workflowUpdatedAt replicaCreatedAt : Nat)
deriving DecidableEq

/-- What an install marker is bound to: nothing, the follower that catches up,
or the create operation. -/
inductive Authority where
  | none
  | follower (entityType : EntityType) (entityId partitionId replicaId : String)
  | create (authority : CreateAuthority)
deriving DecidableEq

/-- A database file: the tables of the application, and the tables named
`raft_rs_peer_identity` and `_raft_…`, each of which may be missing.  The four
record tables are keyed by their group. -/
structure Database (Content : Type) where
  content : Content
  reservations : Option (List Reservation)
  raftState : Option (List (String × String))
  lifecycle : Option (List LifecycleRow)
  log : Option (List (String × Entry))
  hardState : Option (List (String × HardState))
  appliedState : Option (List (String × AppliedState))
  snapshot : Option (List (String × Snapshot))
  installBinding : Option (List (String × Authority))
deriving DecidableEq

/-- The bytes of a file: a database, or a copy that was cut off. -/
inductive File (Content : Type) where
  | torn
  | database (db : Database Content)
deriving DecidableEq

structure LearnerOrigin where
  (groupId replicaIdentity : String)
  (peerId index term : Nat)
deriving DecidableEq

structure Platform (Content : Type) where
  sha256Digest : File Content → String
  /-- A prepared participant transaction is undecided. -/
  (pendingPrepared bare : Content → Bool)
  /-- The text is what its own base64 decoding encodes to. -/
  (canonicalBase64 decodesProposal : String → Bool)
  deriveRaftRsPeerId : String → Nat
  decodeLearnerAdmission : String → Option LearnerOrigin
  encodeSnapshotWitnessData : String → Option String

inductive HistoryReason where
  | integer
  | configuration
  | payload
  | frontier
  | term
  | gap
deriving DecidableEq

inductive Fault where
  | noSuchTable
  | membershipGenerationBoundary
  | retainedHistoryUnavailable
  | retainedHistoryInvalid (reason : HistoryReason)
  | lifecycleMissing
  | lifecycleIdentityMismatch
  | lifecycleRetired
  | openingHistoryIdentityChanged
  | uniqueConstraint
  | unreadableFile
  | missingFile
deriving DecidableEq

variable {Content Row : Type}

def openTable (table : Option (List Row)) : Except Fault (List Row) :=
  match table with
  | some rows => .ok rows
  | none => .error .noSuchTable

/-- `INSERT … ON CONFLICT(group_id) DO UPDATE`: one row for the group. -/
def upsert (table : List (String × Row)) (groupId : String)
    (row : Option Row → Row) : List (String × Row) :=
  (groupId, row (table.lookup groupId)) :: table.filter fun held => held.1 ≠ groupId

@[simp] theorem lookup_upsert (table : List (String × Row)) (groupId : String)
    (row : Option Row → Row) :
    (upsert table groupId row).lookup groupId = some (row (table.lookup groupId)) := by
  simp [upsert]

/-- All record tables, when none of them is there yet. -/
def createRecordTables (db : Database Content) : Database Content :=
  if db.log.isSome || db.hardState.isSome || db.appliedState.isSome ||
      db.snapshot.isSome then db
  else { db with
    log := some [], hardState := some [], appliedState := some [],
    snapshot := some [] }

def putHardState (groupId : String) (hardState : HardState)
    (db : Database Content) : Except Fault (Database Content) := do
  let table ← openTable db.hardState
  return { db with hardState := some (upsert table groupId fun _ => hardState) }

/-- The gate of an existing row is kept, and its generation where none is
given. -/
def putAppliedState (groupId : String) (appliedIndex : Nat)
    (confState : ConfState) (membershipGenerationIndex : Option Nat)
    (db : Database Content) : Except Fault (Database Content) := do
  let table ← openTable db.appliedState
  return { db with appliedState := some (upsert table groupId fun
    | none => ⟨appliedIndex, confState, none, none,
        membershipGenerationIndex.getD 0⟩
    | some row => { row with
        appliedIndex, confState,
        membershipGenerationIndex :=
          membershipGenerationIndex.getD row.membershipGenerationIndex }) }

def putBootstrapAppliedState (groupId : String) (confState : ConfState) (bootstrapIndex : Nat)
    (admissionIndex : Option Nat) (membershipGenerationIndex : Nat) (db : Database Content) :
    Except Fault (Database Content) := do
  let table ← openTable db.appliedState
  return { db with appliedState := some (upsert table groupId fun _ =>
    ⟨0, confState, some bootstrapIndex, admissionIndex, membershipGenerationIndex⟩) }

def maxSafeInteger : Nat := 2 ^ 53 - 1

/-- The generation a snapshot is stored with: none, or one that lies within the
snapshot and neither regresses nor contradicts the applied row. -/
def exactSnapshotMembershipGeneration (generation : Option Nat) (snapshotIndex : Nat)
    (confState : ConfState) (appliedRow : Option AppliedState) : Except Fault (Option Nat) :=
  match generation with
  | none => .ok none
  | some exact =>
    let exceedsBoundary := decide (snapshotIndex < exact) ||
      decide (maxSafeInteger < exact)
    let regresses := appliedRow.any fun row =>
      decide (row.membershipGenerationIndex ≤ snapshotIndex) &&
        decide (exact < row.membershipGenerationIndex)
    let contradictsCurrent := appliedRow.any fun row =>
      decide (exact = row.membershipGenerationIndex) &&
        decide (row.appliedIndex ≤ snapshotIndex) &&
        decide (raftRsConfStateKey confState ≠ raftRsConfStateKey row.confState)
    if exceedsBoundary || regresses || contradictsCurrent then .error .membershipGenerationBoundary
    else .ok (some exact)

def putSnapshot (groupId : String) (snapshot : Snapshot)
    (membershipGenerationIndex : Option Nat) (db : Database Content) :
    Except Fault (Database Content) := do
  let generation := snapshot.metadata.membershipGenerationIndex.or
    membershipGenerationIndex
  let applied ← openTable db.appliedState
  let exact ← exactSnapshotMembershipGeneration generation
    snapshot.metadata.index snapshot.metadata.confState (applied.lookup groupId)
  let table ← openTable db.snapshot
  return { db with snapshot := some (upsert table groupId fun _ =>
    { snapshot with
      metadata := { snapshot.metadata with membershipGenerationIndex := exact } }) }

structure Rows where
  hardState : Option HardState
  appliedState : Option AppliedState
  snapshot : Option Snapshot
  entries : List Entry
deriving DecidableEq

structure Record where
  hardState : Option HardState
  appliedIndex : Nat
  confState : ConfState
  (bootstrapIndex admissionIndex : Option Nat)
  membershipGenerationIndex : Nat
  entries : List Entry
  snapshot : Option Snapshot
deriving DecidableEq

def readDurableRowsIn (db : Database Content) (groupId : String) :
    Except Fault Rows := do
  let hardState ← openTable db.hardState
  let appliedState ← openTable db.appliedState
  let snapshot ← openTable db.snapshot
  let log ← openTable db.log
  return {
    hardState := hardState.lookup groupId
    appliedState := appliedState.lookup groupId
    snapshot := snapshot.lookup groupId
    entries := ((log.filter fun row => row.1 = groupId).map Prod.snd).insertionSort
      fun first second => first.index ≤ second.index }

def durableRecordOf (rows : Rows) : Record where
  hardState := rows.hardState
  appliedIndex := (rows.appliedState.map AppliedState.appliedIndex).getD 0
  confState := (rows.appliedState.map AppliedState.confState).getD emptyConfState
  bootstrapIndex := rows.appliedState.bind AppliedState.bootstrapIndex
  admissionIndex := rows.appliedState.bind AppliedState.admissionIndex
  membershipGenerationIndex := (rows.appliedState.map AppliedState.membershipGenerationIndex).getD 0
  entries := rows.entries
  snapshot := rows.snapshot

def readDurableRecordIn (db : Database Content) (groupId : String) :
    Except Fault Record := do
  return durableRecordOf (← readDurableRowsIn db groupId)

def hasDurableRecordIn (db : Database Content) (groupId : String) : Bool :=
  match readDurableRecordIn db groupId with
  | .error _ => false
  | .ok record => record.hardState.isSome || !record.entries.isEmpty ||
      !record.confState.voters.isEmpty

def requireFact (valid : Bool) (reason : HistoryReason) : Except Fault Unit :=
  if valid then .ok () else .error (.retainedHistoryInvalid reason)

structure Position where
  (index term : Nat)
deriving DecidableEq

section

variable (platform : Platform Content)

def validateRetainedRows (rows : Rows) : Except Fault Unit := do
  if rows.appliedState.isNone then throw .retainedHistoryUnavailable
  requireFact (rows.entries.all fun entry => 0 < entry.index && 0 < entry.term)
    .integer

def validateConfiguration (confState : ConfState) : Except Fault Unit :=
  requireFact (confState.members.all fun members =>
    members.all (0 < ·) && decide members.Nodup) .configuration

def payloadBytes (data : Option String) : Except Fault Unit :=
  requireFact (data.all platform.canonicalBase64) .payload

def entryContent (entry : Entry) : Except Fault Unit := do
  payloadBytes platform entry.data
  -- Only a normal entry that carries bytes is decoded here.
  if entry.entryType = .normal then
    requireFact (entry.data.all fun data => data.isEmpty || platform.decodesProposal data) .payload

def validateSnapshot (snapshot : Option Snapshot) (committed hardTerm : Nat) :
    Except Fault Position :=
  match snapshot with
  | none => .ok ⟨0, 0⟩
  | some snapshot => do
    let metadata := snapshot.metadata
    requireFact (decide (metadata.index ≤ committed) &&
      decide (metadata.term ≤ hardTerm) &&
      decide (metadata.index = 0 ↔ metadata.term = 0)) .frontier
    validateConfiguration metadata.confState
    payloadBytes platform snapshot.data
    requireFact (metadata.membershipGenerationIndex.all (· ≤ metadata.index))
      .frontier
    return ⟨metadata.index, metadata.term⟩

def validateEntryBoundary (entry : Entry) (previous snapshot : Position)
    (hardTerm : Nat) : Except Fault Position := do
  requireFact (previous.index < entry.index) .frontier
  requireFact (decide (previous.term ≤ entry.term) &&
    decide (entry.term ≤ hardTerm)) .term
  if entry.index ≤ snapshot.index then
    requireFact (decide (entry.term ≤ snapshot.term) &&
      (decide (entry.index ≠ snapshot.index) ||
        decide (entry.term = snapshot.term))) .term
  else
    let last := if snapshot.index < previous.index then previous else snapshot
    requireFact (entry.index = last.index + 1) .gap
    requireFact (last.term ≤ entry.term) .term
  return ⟨entry.index, entry.term⟩

def retainedHistoryOf (record : Record) : Except Fault Unit := do
  let applied := record.appliedIndex
  let committed := (record.hardState.map HardState.commit).getD 0
  let hardTerm := (record.hardState.map HardState.term).getD 0
  requireFact (decide (0 < hardTerm) ||
    decide ((record.hardState.map HardState.vote).getD 0 = 0)) .term
  validateConfiguration record.confState
  let snapshot ← validateSnapshot platform record.snapshot committed hardTerm
  let previous ← record.entries.foldlM (fun previous entry => do
    let reached ← validateEntryBoundary entry previous snapshot hardTerm
    entryContent platform entry
    return reached) ⟨0, 0⟩
  let last := max previous.index snapshot.index
  requireFact (decide (applied ≤ committed) && decide (committed ≤ last)) .frontier
  let generationBoundary := max applied (record.bootstrapIndex.getD 0)
  requireFact (record.membershipGenerationIndex ≤ generationBoundary) .frontier

def readRetainedHistoryIn (db : Database Content) (groupId : String) : Except Fault Unit :=
  match readDurableRowsIn db groupId with
  | .error _ => .error .retainedHistoryUnavailable
  | .ok rows => do
    validateRetainedRows rows
    retainedHistoryOf platform (durableRecordOf rows)

end

end LagrangeDb.Raft
