import LagrangeDb.Data.Crash
import LagrangeDb.Raft.Checkpoint

namespace LagrangeDb.Raft

open Data

/-! Installing a checkpoint over a replica, under a durable marker that says how far the install has
come. -/

inductive MarkerState where
  | staging
  | staged
  | installed
  | rejected
deriving DecidableEq

inductive MarkerKind where
  | legacyPartition
  | raftRsFreshCreate
  | raftRsFollowerCatchup
deriving DecidableEq

inductive Rejection where
  | stagingLost
  | stagingDigestMismatch
  | identityMismatch
  | checkpointInvalid
  | workerPathUnsupported
  | createAdmissionRequired
  | createGenerationMismatch
  | receiverStateRefused
deriving DecidableEq

structure Marker where
  state : MarkerState
  installId : String
  generationIndex : Nat
  rejectionReason : Option Rejection
  kind : MarkerKind
  createAuthority : Authority
  preInstallDigest : String
deriving DecidableEq

inductive ConflictDetail where
  | stagedCreateGenerationMismatch
  | legacyStagingNonceMismatch
  | nonceMatchesWithStagingPresent
  | installedMarkerNonceMismatch
deriving DecidableEq

inductive InstallResult where
  | noInstall
  | installed (installId : String) (generationIndex : Nat)
  | rejected (reason : Option Rejection)
  | installStateConflict (detail : ConflictDetail)
deriving DecidableEq

/-- A journal beside a database file.  One with frames in it makes the database
another than the file alone. -/
inductive Sidecar (Content : Type) where
  | absent
  | empty
  | pending (replayed : Database Content)
deriving DecidableEq

def Sidecar.isPending {Content : Type} : Sidecar Content → Bool
  | .pending _ => true
  | _ => false

structure Disk (Content : Type) where
  replica : Option (File Content)
  (wal journal : Sidecar Content)
  marker : Option Marker
  staging : Option (File Content)
  generations : Nat → Option (Generation Content)

variable {Content : Type}

/-- The replica's database as SQLite opens it, its journals replayed. -/
def Disk.opened (disk : Disk Content) : Option (File Content) :=
  match disk.replica, disk.journal, disk.wal with
  | none, _, _ => none
  | some _, .pending replayed, _ => some (.database replayed)
  | some _, _, .pending replayed => some (.database replayed)
  | some file, _, _ => some file

/-! The changes a crash can fall between. A copy of a file is not atomic. -/

inductive FileCall (Content : Type) where
  | look
  | writeMarker (marker : Marker)
  | clearMarker
  | removeStaging
  | beginCopy
  | finishCopy (generationIndex : Nat)
  | writeStaging (db : Database Content)
  | removeSidecars
  | rename

def FileCall.Answer : FileCall Content → Type
  | .look => Disk Content
  | _ => Unit

def operate : (request : FileCall Content) → Disk Content → request.Answer × Disk Content
  | .look, disk => (disk, disk)
  | .writeMarker marker, disk => ((), { disk with marker := some marker })
  | .clearMarker, disk => ((), { disk with marker := none })
  | .removeStaging, disk => ((), { disk with staging := none })
  | .beginCopy, disk => ((), { disk with staging := some .torn })
  | .finishCopy generationIndex, disk => ((), { disk with staging :=
      ((disk.generations generationIndex).bind Generation.payload).map .database })
  | .writeStaging db, disk => ((), { disk with staging := some (.database db) })
  | .removeSidecars, disk => ((), { disk with wal := .absent })
  | .rename, disk => ((), match disk.staging with
      | none => disk
      | some file => { disk with replica := some file, staging := none })

abbrev Install (Content : Type) := Program (FileCall Content) FileCall.Answer Fault

def look : Install Content (Disk Content) := Program.perform FileCall.look

def change (request : FileCall Content) : Install Content Unit :=
  Program.call request fun _ => Program.done (.ok ())

structure CreateAdmission where
  replicaId : String
  entityType : EntityType
  (entityId partitionId : String)
  revalidated : Bool
  (installAuthority commitAuthority : Option CreateAuthority)

structure Options where
  inMemory : Bool
  generationIndex : Nat
  expectedIdentity : Option ExpectedIdentity
  expectedReplicaIdentity : String
  expectedPeerId : Option Nat
  createAdmission : Option CreateAdmission
  installId : String
  /-- The random stamp of a lifecycle row born in the staged image. -/
  minted : String

def markerValue (state : MarkerState) (installId : String)
    (generationIndex : Nat) (rejectionReason : Option Rejection)
    (kind : MarkerKind) (createAuthority : Authority) (preInstallDigest : String) : Marker :=
  ⟨state, installId, generationIndex, rejectionReason, kind, createAuthority, preInstallDigest⟩

def Marker.at (marker : Marker) (state : MarkerState) (rejectionReason : Option Rejection) : Marker :=
  { marker with state, rejectionReason }

def isReplicaCreateInstallAuthority : Authority → Bool
  | .create authority =>
    ([authority.operationId, authority.operationType, authority.entityId,
      authority.partitionId, authority.replicaId, authority.targetNodeId,
      authority.admissionToken, authority.attemptToken].all (!·.isEmpty)) &&
      decide (0 < authority.attemptSeq)
  | _ => false

def replicaCreateInstallAuthoritiesEqual (left right : Authority) : Bool :=
  isReplicaCreateInstallAuthority left && isReplicaCreateInstallAuthority right &&
    left = right

section

variable (platform : Platform Content)

def fileDigest (file : Option (File Content)) : String :=
  match file with
  | none => "absent"
  | some file => platform.sha256Digest file

def isRaftRsBoundMarker (marker : Marker) : Bool :=
  marker.kind = .raftRsFreshCreate || marker.kind = .raftRsFollowerCatchup

def stagedInstallBindingMatches (file : Option (File Content)) (marker : Marker) : Bool :=
  match file with
  | some (.database db) =>
    match db.installBinding with
    | none => false
    | some rows =>
      let bound := rows.lookup marker.installId
      if marker.kind = .raftRsFollowerCatchup then bound = some marker.createAuthority
      else
        replicaCreateInstallAuthoritiesEqual (bound.getD .none)
          marker.createAuthority
  | _ => false

def stagingHasInstallBinding (file : Option (File Content)) : Bool :=
  match file with
  | some (.database db) => db.installBinding.isSome
  | _ => false

def stagingBelongsToMarker (disk : Disk Content) (marker : Marker) : Bool :=
  disk.staging.isNone ||
    if isRaftRsBoundMarker marker then stagedInstallBindingMatches disk.staging marker
    else !stagingHasInstallBinding disk.staging

/-- The identity of the install a legacy database was put in place by. -/
def readInstallIdFromDb (file : Option (File Content)) : Except Fault (Option String) :=
  match file with
  | none => .ok none
  | some .torn => .error .unreadableFile
  | some (.database db) =>
    .ok (((db.raftState.getD []).lookup "snapshotInstallId").filter (!·.isEmpty))

def inspectSnapshotLifecycleFile (file : Option (File Content))
    (wal journal : Sidecar Content) (request : ReceiverRequest)
    (imported readEstablished : Bool) : Except ReceiverReason ReceiverDetail :=
  if wal.isPending || journal.isPending then .error .journal
  else
    match file with
    | none =>
      if imported then .error .unavailable
      else .ok (snapshotReceiverFresh none)
    | some .torn => .error .unavailable
    | some (.database db) => snapshotReceiverRow platform db request imported readEstablished

def inspectReplicaLifecycleForSnapshot (disk : Disk Content)
    (request : ReceiverRequest) (checkStaging : Bool) :
    Except ReceiverReason ReceiverDetail := do
  let established := request.snapshotAppliedIndex.isSome
  let receiver ← inspectSnapshotLifecycleFile platform disk.replica disk.wal
    disk.journal request established established
  if !checkStaging then return receiver
  else
    match inspectSnapshotLifecycleFile platform disk.staging .absent .absent
        request true false with
    | .error _ => .error .staging
    | .ok staged =>
      if receiver.incarnation.isSome ∧
          receiver.incarnation ≠ staged.incarnation then .error .staging
      else return receiver

def isSnapshotPeerInConfState (raftRs : RaftRsDescriptor) (peerId : Nat)
    (allowEstablishedReceiver : Bool) : Bool :=
  raftRs.confState.learners.contains peerId ||
    allowEstablishedReceiver && raftRs.confState.voters.contains peerId

def RaftRsDescriptor.reservationOf (raftRs : RaftRsDescriptor)
    (replicaIdentity : String) : Option Reservation :=
  raftRs.peerReservations.find? (·.replicaIdentity = replicaIdentity)

def inspectSnapshotReceiver (disk : Disk Content) (descriptor : Descriptor)
    (replicaIdentity : String) (allowEstablishedReceiver checkStaging : Bool) :
    Except ReceiverReason ReceiverDetail :=
  let raftRs := descriptor.raftRs
  match raftRs.reservationOf replicaIdentity with
  | none => .error .descriptorMismatch
  | some peer =>
    if !isSnapshotPeerInConfState raftRs peer.peerId allowEstablishedReceiver then
      .error .descriptorMismatch
    else
      inspectReplicaLifecycleForSnapshot platform disk {
        identity := ⟨raftRs.groupId, peer.peerId, replicaIdentity⟩
        snapshotAppliedIndex :=
          if allowEstablishedReceiver then some raftRs.appliedIndex else none }
        checkStaging

def Authority.target : Authority → Option (EntityType × String × String × String)
  | .none => Option.none
  | .follower entityType entityId partitionId replicaId =>
    some (entityType, entityId, partitionId, replicaId)
  | .create authority => some (authority.entityType, authority.entityId,
      authority.partitionId, authority.replicaId)

def snapshotReceiverStillAdmitted (disk : Disk Content) (marker : Marker) : Bool :=
  match readCheckpoint platform (disk.generations marker.generationIndex) none,
      marker.createAuthority.target with
  | .ok descriptor, some (entityType, entityId, partitionId, replicaId) =>
    descriptor.raftRs.groupId = partitionId &&
      descriptor.entity.kind = entityType && descriptor.entity.id = entityId &&
      (inspectSnapshotReceiver platform disk descriptor replicaId
        (marker.kind = .raftRsFollowerCatchup) true).isOk
  | _, _ => false

def raftRsInstalledImageMatches (disk : Disk Content)
    (file : Option (File Content)) (marker : Marker) : Bool :=
  match file, readCheckpoint platform (disk.generations marker.generationIndex)
      none with
  | some (.database db), .ok descriptor =>
    match readDurableRecordIn db descriptor.raftRs.groupId,
        readRaftRsPeerIdentityReservations platform db with
    | .ok record, .ok reservations =>
      record.appliedIndex = descriptor.raftRs.appliedIndex &&
        record.membershipGenerationIndex = descriptor.raftRs.membershipGenerationIndex &&
        raftRsConfStateKey record.confState = raftRsConfStateKey descriptor.raftRs.confState &&
        reservations = descriptor.raftRs.peerReservations
    | _, _ => false
  | _, _ => false

def freshStagedInstallMatches (disk : Disk Content) (marker : Marker)
    (currentCreateAuthority : Option CreateAuthority) : Bool :=
  isReplicaCreateInstallAuthority marker.createAuthority &&
    replicaCreateInstallAuthoritiesEqual ((currentCreateAuthority.map Authority.create).getD .none)
      marker.createAuthority &&
    fileDigest platform disk.replica = marker.preInstallDigest &&
    snapshotReceiverStillAdmitted platform disk marker &&
    raftRsInstalledImageMatches platform disk disk.staging marker &&
    stagedInstallBindingMatches disk.staging marker

def followerCatchupStagedInstallMatches (disk : Disk Content) (marker : Marker) : Bool :=
  fileDigest platform disk.replica = marker.preInstallDigest &&
    snapshotReceiverStillAdmitted platform disk marker &&
    raftRsInstalledImageMatches platform disk disk.staging marker &&
    stagedInstallBindingMatches disk.staging marker

/-- The term never goes back, and the vote of a term that is kept is kept. -/
def resolveCatchupHardState (raftRs : RaftRsDescriptor)
    (localHardState : Option HardState) : HardState :=
  let localTerm := (localHardState.map HardState.term).getD 0
  let vote := (localHardState.map HardState.vote).getD 0
  if raftRs.appliedTerm < localTerm then ⟨localTerm, vote, raftRs.appliedIndex⟩
  else
    ⟨raftRs.appliedTerm, if localTerm = raftRs.appliedTerm then vote else 0,
      raftRs.appliedIndex⟩

structure Receiver where
  peerId : Nat
  replicaIdentity : String
  followerCatchup : Bool
  detail : ReceiverDetail

def putStagedRecord (descriptor : Descriptor) (receiver : Receiver)
    (db : Database Content) : Except Fault (Database Content) := do
  let raftRs := descriptor.raftRs
  let hardState := if receiver.followerCatchup then
      resolveCatchupHardState raftRs receiver.detail.hardState
    else ⟨raftRs.appliedTerm, 0, raftRs.appliedIndex⟩
  let snapshotData := if receiver.followerCatchup then
      platform.encodeSnapshotWitnessData descriptor.maxCommittedHlc
    else none
  let gate := if receiver.followerCatchup then receiver.detail.bootstrapIndex
    else none
  let bootstrapIndex := gate.getD raftRs.appliedIndex
  let admissionIndex := if gate.isSome then
      receiver.detail.admissionIndex.or
        (if raftRs.confState.voters.contains receiver.peerId then some raftRs.appliedIndex
        else none)
    else none
  let db ← putBootstrapAppliedState raftRs.groupId raftRs.confState
    bootstrapIndex admissionIndex raftRs.membershipGenerationIndex db
  let db ← putAppliedState raftRs.groupId raftRs.appliedIndex raftRs.confState
    (some raftRs.membershipGenerationIndex) db
  let db ← putHardState raftRs.groupId hardState db
  putSnapshot raftRs.groupId
    ⟨snapshotData, raftRs.appliedIndex, raftRs.appliedTerm, raftRs.confState,
      none⟩ (some raftRs.membershipGenerationIndex) db

def writeStagedInstallBinding (marker : Marker) (db : Database Content) :
    Except Fault (Database Content) :=
  let rows := db.installBinding.getD []
  if (rows.lookup marker.installId).isSome then .error .uniqueConstraint
  else .ok { db with
    installBinding := some (rows ++ [(marker.installId, marker.createAuthority)]) }

def openStore (db : Database Content) : Except Fault (Database Content) :=
  .ok (createRecordTables db)

def updateStaging (transaction : Database Content → Except Fault (Database Content)) :
    Install Content Unit := do
  let disk ← look
  match disk.staging with
  | none => throw .missingFile
  | some .torn => throw .unreadableFile
  | some (.database db) =>
    match transaction db with
    | .error fault => throw fault
    | .ok written => change (.writeStaging written)

def populateStagedInstallDb (options : Options) (descriptor : Descriptor)
    (receiver : Receiver) (marker : Marker) : Install Content Unit := do
  updateStaging (prepareReplicaLifecycleForSnapshot
    ⟨descriptor.raftRs.groupId, receiver.peerId, receiver.replicaIdentity⟩
    receiver.detail.incarnation options.minted)
  updateStaging openStore
  updateStaging (putStagedRecord platform descriptor receiver)
  updateStaging (writeStagedInstallBinding marker)

def rejectInstall (marker : Marker) (reason : Rejection) :
    Install Content InstallResult := do
  let disk ← look
  if !stagingBelongsToMarker disk marker then
    return .installStateConflict .stagedCreateGenerationMismatch
  else
    change (.writeMarker (marker.at .rejected (some reason)))
    change .removeStaging
    return .rejected (some reason)

def ValidationOutcome.rejection : ValidationOutcome → Rejection
  | .foreignCluster | .foreignGroup | .foreignEntity | .staleEpoch => .identityMismatch
  | _ => .checkpointInvalid

def rejectInvalidCheckpoint (options : Options) (outcome : ValidationOutcome) :
    Install Content InstallResult := do
  change (.writeMarker (markerValue .rejected options.installId
    options.generationIndex (some outcome.rejection) .legacyPartition .none
    "absent"))
  return .rejected (some outcome.rejection)

def isFollowerCatchupInstall (options : Options) (descriptor : Descriptor)
    (disk : Disk Content) : Bool :=
  options.createAdmission.isNone && descriptor.entity.kind = .partition &&
    !options.expectedReplicaIdentity.isEmpty && disk.replica.isSome

def admitsRaftRsInstall (options : Options) (descriptor : Descriptor) : Bool :=
  options.createAdmission.any fun evidence =>
    evidence.replicaId = options.expectedReplicaIdentity &&
      evidence.entityType = descriptor.entity.kind &&
      evidence.entityId = descriptor.raftGroupId &&
      evidence.partitionId = descriptor.raftGroupId && evidence.revalidated &&
      (descriptor.raftRs.reservationOf options.expectedReplicaIdentity).any
        fun reservation => some reservation.peerId = options.expectedPeerId &&
          descriptor.raftRs.confState.learners.contains reservation.peerId

def buildFreshCreateMarker (options : Options) (disk : Disk Content) : Option Marker :=
  (options.createAdmission.bind CreateAdmission.installAuthority).bind
    fun authority =>
      if isReplicaCreateInstallAuthority (.create authority) then
        some (markerValue .staging options.installId options.generationIndex none
          .raftRsFreshCreate (.create authority)
          (fileDigest platform disk.replica))
      else none

def buildFollowerCatchupMarker (options : Options) (descriptor : Descriptor)
    (disk : Disk Content) : Marker :=
  markerValue .staging options.installId options.generationIndex none
    .raftRsFollowerCatchup
    (.follower descriptor.entity.kind descriptor.entity.id descriptor.raftGroupId
      options.expectedReplicaIdentity)
    (fileDigest platform disk.replica)

def prepareInstallAdmissionAndMarker (options : Options)
    (descriptor : Descriptor) (followerCatchup : Bool) (disk : Disk Content) :
    Except Rejection (Marker × ReceiverDetail) :=
  if !followerCatchup && !admitsRaftRsInstall options descriptor then
    .error .createAdmissionRequired
  else
    match inspectSnapshotReceiver platform disk descriptor
        options.expectedReplicaIdentity followerCatchup false with
    | .error _ => .error .receiverStateRefused
    | .ok detail =>
      if followerCatchup then
        .ok (buildFollowerCatchupMarker platform options descriptor disk, detail)
      else
        match buildFreshCreateMarker platform options disk with
        | none => .error .createAdmissionRequired
        | some marker => .ok (marker, detail)

/-- The peer the caller names, else the one reserved for the replica; a receiver
that was admitted has a reservation. -/
def resolveInstallPeerId (options : Options) (descriptor : Descriptor) : Nat :=
  (options.expectedPeerId.or
    ((descriptor.raftRs.reservationOf options.expectedReplicaIdentity).map
      Reservation.peerId)).getD 0

def swapStagingIntoReplica : Install Content Unit := do
  change .removeSidecars
  change .rename

def swapPreparedInstall (marker : Marker)
    (authority : Option CreateAuthority) : Install Content Bool := do
  let disk ← look
  let valid := if marker.kind = .raftRsFollowerCatchup then
      followerCatchupStagedInstallMatches platform disk marker
    else freshStagedInstallMatches platform disk marker authority
  if !valid then return false
  else
    change (.writeMarker (marker.at .staged none))
    swapStagingIntoReplica
    change (.writeMarker (marker.at .installed none))
    return true

/-- A fresh replica is committed through the owner of its create operation. -/
def commitPreparedInstall (options : Options) (marker : Marker) : Install Content Bool :=
  if marker.kind = .raftRsFreshCreate then
    match options.createAdmission.bind CreateAdmission.commitAuthority with
    | none => return false
    | some authority => swapPreparedInstall platform marker (some authority)
  else swapPreparedInstall platform marker none

def installPrepared (options : Options) (descriptor : Descriptor)
    (receiver : Receiver) (marker : Marker) : Install Content InstallResult := do
  change (.writeMarker marker)
  change .removeStaging
  change .beginCopy
  change (.finishCopy options.generationIndex)
  let disk ← look
  if fileDigest platform disk.staging ≠ descriptor.payloadDigest then
    rejectInstall marker .stagingDigestMismatch
  else
    populateStagedInstallDb platform options descriptor receiver marker
    if ← commitPreparedInstall platform options marker then
      change .clearMarker
      return .installed options.installId options.generationIndex
    else rejectInstall marker .createGenerationMismatch

def requestSnapshotInstall (options : Options) :
    Install Content InstallResult := do
  if options.inMemory then return .rejected (some .workerPathUnsupported)
  else
    let disk ← look
    match readCheckpoint platform (disk.generations options.generationIndex)
        options.expectedIdentity with
    | .error outcome => rejectInvalidCheckpoint options outcome
    | .ok descriptor =>
      let followerCatchup := isFollowerCatchupInstall options descriptor disk
      match prepareInstallAdmissionAndMarker platform options descriptor
          followerCatchup disk with
      | .error reason => return .rejected (some reason)
      | .ok (marker, detail) =>
        installPrepared platform options descriptor
          ⟨resolveInstallPeerId options descriptor,
            options.expectedReplicaIdentity, followerCatchup, detail⟩ marker

def validateStagedMarkerTarget (disk : Disk Content) (marker : Marker)
    (currentCreateAuthority : Option CreateAuthority) : Except Fault (Option ConflictDetail) :=
  match marker.kind with
  | .raftRsFreshCreate =>
    .ok (if freshStagedInstallMatches platform disk marker
        currentCreateAuthority then none
      else some .stagedCreateGenerationMismatch)
  | .raftRsFollowerCatchup =>
    .ok (if followerCatchupStagedInstallMatches platform disk marker then none
      else some .stagedCreateGenerationMismatch)
  | .legacyPartition => do
    let nonce ← readInstallIdFromDb disk.staging
    return if nonce = some marker.installId then none
      else some .legacyStagingNonceMismatch

def installedBy (disk : Disk Content) (marker : Marker) : Bool :=
  raftRsInstalledImageMatches platform disk disk.opened marker &&
    (!isRaftRsBoundMarker marker || stagedInstallBindingMatches disk.opened marker)

def resolveStagedMarker (marker : Marker) (currentCreateAuthority : Option CreateAuthority) :
    Install Content InstallResult := do
  let disk ← look
  match readInstallIdFromDb disk.opened with
  | .error fault => throw fault
  | .ok mainInstallId =>
    if mainInstallId = some marker.installId then
      if disk.staging.isSome then return .installStateConflict .nonceMatchesWithStagingPresent
      else
        change .clearMarker
        return .installed marker.installId marker.generationIndex
    else if disk.staging.isNone then
      if installedBy platform disk marker then
        change .clearMarker
        return .installed marker.installId marker.generationIndex
      else rejectInstall marker .stagingLost
    else
      match validateStagedMarkerTarget platform disk marker
          currentCreateAuthority with
      | .error fault => throw fault
      | .ok (some detail) => return .installStateConflict detail
      | .ok none =>
        swapStagingIntoReplica
        change (.writeMarker (marker.at .installed none))
        change .clearMarker
        return .installed marker.installId marker.generationIndex

def resolvePendingSnapshotInstall (currentCreateAuthority : Option CreateAuthority) :
    Install Content InstallResult := do
  let disk ← look
  match disk.marker with
  | none => return .noInstall
  | some marker =>
    match marker.state with
    | .staging =>
      if !stagingBelongsToMarker disk marker then
        return .installStateConflict .stagedCreateGenerationMismatch
      else
        change .removeStaging
        change .clearMarker
        return .noInstall
    | .staged => resolveStagedMarker platform marker currentCreateAuthority
    | .installed =>
      match readInstallIdFromDb disk.opened with
      | .error fault => throw fault
      | .ok mainInstallId =>
        if mainInstallId = some marker.installId ||
            installedBy platform disk marker then
          change .clearMarker
          return .installed marker.installId marker.generationIndex
        else return .installStateConflict .installedMarkerNonceMismatch
    | .rejected => return .rejected marker.rejectionReason

/-- The disk after the request was cut off somewhere, or not at all, and after
any number of restarts, each of which may be cut off too. -/
inductive After (options : Options) (start : Disk Content) :
    Disk Content → Prop
  | request {disk} (stopped : disk ∈
      (requestSnapshotInstall platform options).stops operate start) :
      After options start disk
  | restart {disk later} (currentCreateAuthority : Option CreateAuthority)
      (before : After options start disk)
      (stopped : later ∈ (resolvePendingSnapshotInstall platform
        currentCreateAuthority).stops operate disk) :
      After options start later

end

end LagrangeDb.Raft
