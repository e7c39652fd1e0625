import LagrangeDb.Raft.Lifecycle

namespace LagrangeDb.Raft

/-! Sealed checkpoints: a payload database and the descriptor that was published
for it.  Only replica images are installed over a replica with a Raft record. -/

structure Entity where
  kind : EntityType
  id : String
deriving DecidableEq

structure RaftRsDescriptor where
  groupId : String
  (appliedIndex appliedTerm membershipGenerationIndex : Nat)
  confState : ConfState
  peerReservations : List Reservation
deriving DecidableEq

structure Descriptor where
  (clusterId raftGroupId : String)
  entity : Entity
  (membershipEpoch lastIncludedIndex lastIncludedTerm : Nat)
  (maxCommittedHlc payloadDigest : String)
  raftRs : RaftRsDescriptor
deriving DecidableEq

structure ExpectedIdentity where
  (clusterId raftGroupId : String)
  entity : Entity
  membershipEpoch : Nat
deriving DecidableEq

inductive ValidationOutcome where
  | partialGeneration
  | corruptDescriptor
  | corruptPayload
  | foreignCluster
  | foreignGroup
  | foreignEntity
  | staleEpoch
deriving DecidableEq

/-- One generation directory.  The descriptor is missing until the payload is
durable. -/
structure Generation (Content : Type) where
  descriptor : Option Descriptor
  payload : Option (Database Content)

variable {Content : Type} (platform : Platform Content)

def learnerAdmissionMatchesReservation (reservation : Reservation)
    (boundary : RaftRsDescriptor) : Bool :=
  reservation.learnerAdmission.all fun encoded =>
    (platform.decodeLearnerAdmission encoded).any fun origin =>
      origin.groupId = boundary.groupId && origin.replicaIdentity = reservation.replicaIdentity &&
        origin.peerId = reservation.peerId &&
        decide (origin.index ≤ boundary.membershipGenerationIndex) &&
        decide (origin.index ≤ boundary.appliedIndex) &&
        decide (origin.term ≤ boundary.appliedTerm)

/-- Every reservation names the peer its identity derives, and none twice. -/
def validPeerReservations (reservations : List Reservation) : Bool :=
  (reservations.all fun reservation => !reservation.replicaIdentity.isEmpty &&
    reservation.peerId = platform.deriveRaftRsPeerId reservation.replicaIdentity) &&
    decide (reservations.map Reservation.replicaIdentity).Nodup &&
    decide (reservations.map Reservation.peerId).Nodup

def validRaftRsDescriptor (raftRs : RaftRsDescriptor) : Bool :=
  !raftRs.groupId.isEmpty &&
    decide (raftRs.appliedIndex ≤ maxSafeInteger) &&
    decide (raftRs.appliedTerm ≤ maxSafeInteger) &&
    decide (raftRs.membershipGenerationIndex ≤ maxSafeInteger) &&
    decide (raftRs.membershipGenerationIndex ≤ raftRs.appliedIndex) &&
    (raftRs.confState.members.all fun members => decide members.Nodup) &&
    validPeerReservations platform raftRs.peerReservations &&
    raftRs.peerReservations.all fun reservation =>
      learnerAdmissionMatchesReservation platform reservation raftRs

def raftRsDescriptorMatchesEnvelope (descriptor : Descriptor) : Bool :=
  validRaftRsDescriptor platform descriptor.raftRs &&
    descriptor.raftRs.groupId = descriptor.raftGroupId &&
    descriptor.raftRs.appliedIndex = descriptor.lastIncludedIndex &&
    descriptor.raftRs.appliedTerm = descriptor.lastIncludedTerm &&
    descriptor.raftRs.membershipGenerationIndex = descriptor.membershipEpoch

def validateCheckpointDescriptor (descriptor : Descriptor) : Bool :=
  !descriptor.clusterId.isEmpty && !descriptor.raftGroupId.isEmpty &&
    !descriptor.entity.id.isEmpty && !descriptor.maxCommittedHlc.isEmpty &&
    raftRsDescriptorMatchesEnvelope platform descriptor

/-- No table of the replica's own consensus state is in a payload. -/
def Database.scrubbed (db : Database Content) : Bool :=
  db.raftState.isNone && db.lifecycle.isNone && db.log.isNone &&
    db.hardState.isNone && db.appliedState.isNone && db.snapshot.isNone &&
    db.installBinding.isNone

def validateRaftRsPayloadTables (payload : Database Content) (descriptor : Descriptor) : Bool :=
  payload.reservations.isSome && payload.scrubbed &&
    if descriptor.entity.kind = .partition then !platform.pendingPrepared payload.content
    else platform.bare payload.content

def readRaftRsPeerIdentityReservations (db : Database Content) :
    Except Fault (List Reservation) := do
  let reservations ← openTable db.reservations
  if validPeerReservations platform reservations then return reservations
  else throw .unreadableFile

def validatePayloadAgainstDescriptor (generation : Generation Content)
    (descriptor : Descriptor) : Except ValidationOutcome Unit :=
  match generation.payload with
  | none => .error .partialGeneration
  | some payload =>
    if platform.sha256Digest (.database payload) ≠ descriptor.payloadDigest then
      .error .corruptPayload
    else
      match readRaftRsPeerIdentityReservations platform payload with
      | .error _ => .error .corruptPayload
      | .ok reservations =>
        if reservations ≠ descriptor.raftRs.peerReservations then .error .corruptPayload
        else if !validateRaftRsPayloadTables platform payload descriptor then .error .corruptPayload
        else .ok ()

def matchCheckpointIdentity (descriptor : Descriptor)
    (expected : ExpectedIdentity) : Except ValidationOutcome Unit :=
  if descriptor.clusterId ≠ expected.clusterId then .error .foreignCluster
  else if descriptor.raftGroupId ≠ expected.raftGroupId then .error .foreignGroup
  else if descriptor.entity ≠ expected.entity then .error .foreignEntity
  else if descriptor.membershipEpoch < expected.membershipEpoch then .error .staleEpoch
  else .ok ()

def readCheckpoint (generation : Option (Generation Content))
    (expected : Option ExpectedIdentity) : Except ValidationOutcome Descriptor :=
  match generation with
  | none => .error .partialGeneration
  | some generation =>
    match generation.descriptor with
    | none => .error .partialGeneration
    | some descriptor =>
      if !validateCheckpointDescriptor platform descriptor then .error .corruptDescriptor
      else do
        validatePayloadAgainstDescriptor platform generation descriptor
        match expected with
        | none => return descriptor
        | some expected =>
          matchCheckpointIdentity descriptor expected
          return descriptor

end LagrangeDb.Raft
