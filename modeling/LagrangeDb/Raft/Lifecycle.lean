import LagrangeDb.Raft.Store

namespace LagrangeDb.Raft

/-! The lifecycle row of a replica: who it is, and whether it has a history of
its own.  The row decides what may be installed over the replica. -/

structure Identity where
  groupId : String
  peerId : Nat
  replicaIdentity : String
deriving DecidableEq

variable {Content : Type}

def LifecycleRow.isOf (row : LifecycleRow) (identity : Identity) : Bool :=
  row.groupId = identity.groupId && row.peerId = identity.peerId &&
    row.replicaIdentity = identity.replicaIdentity

def lifecycleIdentityRow (rows : List LifecycleRow) (identity : Identity) : Option LifecycleRow :=
  rows.find? fun row => row.groupId = identity.groupId &&
    (row.peerId = identity.peerId || row.replicaIdentity = identity.replicaIdentity)

def hasDurableRaftRecord (db : Database Content) (groupId : String) : Bool :=
  (db.log.getD []).any (·.1 = groupId) || (db.hardState.getD []).any (·.1 = groupId) ||
    (db.appliedState.getD []).any (·.1 = groupId)

/-- A row is stamped once; the stamp is never replaced. -/
def stampUnstampedRow (identity : Identity) (incarnation : String)
    (row : LifecycleRow) : LifecycleRow :=
  if row.groupId = identity.groupId ∧ row.peerId = identity.peerId ∧
      row.incarnation = none then
    { row with incarnation := some incarnation }
  else row

/-- Opens the replica's row, which is born here when the group has no record. -/
def openLifecycleRecord (db : Database Content) (identity : Identity)
    (incarnation : String) : Database Content × Except Fault Unit :=
  let rows := db.lifecycle.getD []
  match lifecycleIdentityRow rows identity with
  | none =>
    if hasDurableRaftRecord db identity.groupId then
      ({ db with lifecycle := some rows }, .error .lifecycleMissing)
    else
      let born : LifecycleRow := {
        groupId := identity.groupId
        peerId := identity.peerId
        replicaIdentity := identity.replicaIdentity
        state := .active
        reason := none
        incarnation := some incarnation
        nativeHistoryState := some .neverOpened }
      ({ db with lifecycle := some (rows ++ [born]) }, .ok ())
  | some row =>
    if row.peerId ≠ identity.peerId ∨
        row.replicaIdentity ≠ identity.replicaIdentity then
      ({ db with lifecycle := some rows }, .error .lifecycleIdentityMismatch)
    else
      let stamped := rows.map (stampUnstampedRow identity incarnation)
      ({ db with lifecycle := some stamped },
        if row.state = .retired then .error .lifecycleRetired else .ok ())

def incarnationOf (rows : List LifecycleRow) (identity : Identity) : Option String :=
  (rows.find? (·.isOf identity)).bind LifecycleRow.incarnation

def recordOpeningHistory (db : Database Content) (identity : Identity)
    (incarnation : Option String) : Except Fault (Database Content) :=
  let rows := db.lifecycle.getD []
  let isIt (row : LifecycleRow) : Bool :=
    row.isOf identity && row.incarnation.isSome &&
      row.incarnation = incarnation && row.state = .active
  if rows.countP isIt = 1 then
    .ok { db with lifecycle := some (rows.map fun row =>
      if isIt row then { row with nativeHistoryState := some .established }
      else row) }
  else .error .openingHistoryIdentityChanged

/-- The row of a receiver that has an incarnation is born with it. -/
def openRetained (db : Database Content) (identity : Identity) : Option String → Database Content
  | some incarnation => (openLifecycleRecord db identity incarnation).1
  | none => db

/-- The staged image gets the receiver's row, with the receiver's incarnation
where it has one; `minted` is the stamp of a row born here. -/
def prepareReplicaLifecycleForSnapshot (identity : Identity) (receiverIncarnation : Option String)
    (minted : String) (db : Database Content) : Except Fault (Database Content) := do
  let (db, opened) := openLifecycleRecord
    (openRetained db identity receiverIncarnation) identity minted
  opened
  let incarnation := incarnationOf (db.lifecycle.getD []) identity
  if receiverIncarnation.isSome ∧ receiverIncarnation ≠ incarnation then
    throw .lifecycleIdentityMismatch
  recordOpeningHistory db identity incarnation

inductive ReceiverReason where
  | history
  | identity
  | retired
  | unavailable
  | journal
  | staging
  | descriptorMismatch
deriving DecidableEq

structure ReceiverDetail where
  incarnation : Option String
  (bootstrapIndex admissionIndex : Option Nat)
  hardState : Option HardState
deriving DecidableEq

structure ReceiverRequest where
  identity : Identity
  /-- Given when a receiver with a history may be replaced. -/
  snapshotAppliedIndex : Option Nat
deriving DecidableEq

def snapshotReceiverFresh (incarnation : Option String) : ReceiverDetail :=
  ⟨incarnation, none, none, none⟩

section

variable (platform : Platform Content)

def snapshotEstablishedReceiver (db : Database Content)
    (request : ReceiverRequest) (incarnation : Option String) :
    Except ReceiverReason ReceiverDetail :=
  let groupId := request.identity.groupId
  if !hasDurableRecordIn db groupId then .error .history
  else
    match readRetainedHistoryIn platform db groupId,
        readDurableRecordIn db groupId with
    | .ok (), .ok record =>
      let snapIndex := request.snapshotAppliedIndex.getD 0
      match record.bootstrapIndex, record.hardState with
      | some _, some hardState =>
        if snapIndex < record.appliedIndex || snapIndex < hardState.commit then .error .history
        else
          .ok ⟨incarnation, record.bootstrapIndex, record.admissionIndex, some hardState⟩
      | _, _ => .error .history
    | _, _ => .error .unavailable

def hasFreshReceiverConsensusRows (db : Database Content) : Bool :=
  !(db.log.getD []).isEmpty || !(db.hardState.getD []).isEmpty ||
    !(db.appliedState.getD []).isEmpty || !(db.snapshot.getD []).isEmpty

def receiverRowIdentityMismatch (row : LifecycleRow) (identity : Identity) : Bool :=
  !row.isOf identity || row.incarnation.all String.isEmpty

def validateReceiverLifecycleRow (row : LifecycleRow) (identity : Identity)
    (imported : Bool) : Except ReceiverReason Unit :=
  if receiverRowIdentityMismatch row identity then .error .identity
  else if row.state ≠ .active then .error .retired
  else if row.nativeHistoryState ≠
      some (if imported then .established else .neverOpened) then .error .history
  else .ok ()

/-- `imported` asks for a row with a history, `readEstablished` for the record
that history left. -/
def snapshotReceiverRow (db : Database Content) (request : ReceiverRequest)
    (imported readEstablished : Bool) : Except ReceiverReason ReceiverDetail :=
  if !imported && hasFreshReceiverConsensusRows db then .error .history
  else
    match db.lifecycle.getD [] with
    | [] => if imported then .error .identity else .ok (snapshotReceiverFresh none)
    | [row] => do
      validateReceiverLifecycleRow row request.identity imported
      if readEstablished then snapshotEstablishedReceiver platform db request row.incarnation
      else return snapshotReceiverFresh row.incarnation
    | _ => .error .identity

end

end LagrangeDb.Raft
