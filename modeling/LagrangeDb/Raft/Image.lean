import LagrangeDb.Raft.Install

namespace LagrangeDb.Raft

open Data

/-! What a valid checkpoint and an admitted receiver are, and what the staged
image holds once it is populated. -/

variable {Content : Type} {platform : Platform Content}

structure Sealed (platform : Platform Content)
    (generation : Option (Generation Content)) (descriptor : Descriptor)
    (payload : Database Content) : Prop where
  held : ∃ found, generation = some found ∧
    found.descriptor = some descriptor ∧ found.payload = some payload
  digest : platform.sha256Digest (.database payload) = descriptor.payloadDigest
  scrubbed : payload.scrubbed

variable {descriptor : Descriptor}

theorem validatePayload_ok
    (valid : validatePayloadAgainstDescriptor platform generation descriptor =
      .ok ()) : ∃ payload, generation.payload = some payload ∧
      platform.sha256Digest (.database payload) = descriptor.payloadDigest ∧ payload.scrubbed := by
  unfold validatePayloadAgainstDescriptor at valid
  split at valid
  · cases valid
  next payload isPayload =>
  split at valid
  · cases valid
  next sameDigest =>
  split at valid
  · cases valid
  split_ifs at valid with differ tables
  rw [Bool.not_eq_true, Bool.not_eq_false', validateRaftRsPayloadTables,
    Bool.and_eq_true, Bool.and_eq_true] at tables
  exact ⟨payload, isPayload, not_not.mp sameDigest, tables.1.2⟩

theorem readCheckpoint_ok {expected : Option ExpectedIdentity}
    (valid : readCheckpoint platform generation expected = .ok descriptor) :
    ∃ payload, Sealed platform generation descriptor payload := by
  unfold readCheckpoint at valid
  split at valid
  · cases valid
  next found =>
  split at valid
  · cases valid
  next described isDescribed =>
  split_ifs at valid
  obtain ⟨_, payloadValid, rest⟩ := Result.ok_of_bind valid
  obtain ⟨payload, isPayload, digest, scrubbed⟩ := validatePayload_ok payloadValid
  have same : described = descriptor := by
    split at rest
    · exact Except.ok.inj rest
    · obtain ⟨_, _, final⟩ := Result.ok_of_bind rest
      exact Except.ok.inj final
  subst same
  exact ⟨payload, ⟨found, rfl, isDescribed, isPayload⟩, digest, scrubbed⟩

def Disk.Idle (disk : Disk Content) : Prop :=
  disk.wal.isPending = false ∧ disk.journal.isPending = false

variable {disk : Disk Content}

theorem Disk.Idle.opened (idle : disk.Idle) : disk.opened = disk.replica := by
  obtain ⟨wal, journal⟩ := idle
  unfold Disk.opened
  cases disk.replica with
  | none => rfl
  | some file =>
    cases isJournal : disk.journal with
    | pending replayed => simp [isJournal, Sidecar.isPending] at journal
    | absent | empty =>
      cases isWal : disk.wal with
      | pending replayed => simp [isWal, Sidecar.isPending] at wal
      | absent | empty => rfl

/-- A receiver with a history is admitted when the snapshot covers everything it
has applied and committed. -/
structure Admitted (disk : Disk Content) (groupId : String) (snapshotIndex : Nat)
    (detail : ReceiverDetail) : Prop where
  idle : disk.Idle
  covered : ∃ db record hardState, disk.replica = some (.database db) ∧
    readDurableRecordIn db groupId = .ok record ∧
    record.hardState = some hardState ∧ detail.hardState = some hardState ∧
    hardState.commit ≤ snapshotIndex

theorem snapshotEstablishedReceiver_ok
    (admitted : snapshotEstablishedReceiver platform db request incarnation =
      .ok detail) : ∃ record hardState,
      readDurableRecordIn db request.identity.groupId = .ok record ∧
      record.hardState = some hardState ∧ detail.hardState = some hardState ∧
      hardState.commit ≤ request.snapshotAppliedIndex.getD 0 := by
  simp only [snapshotEstablishedReceiver] at admitted
  split at admitted
  · cases admitted
  split at admitted
  · next record _ isRecord =>
    split at admitted
    · next _ hardState _ isHardState =>
      split_ifs at admitted with beyond
      cases admitted
      simp only [Bool.or_eq_true, decide_eq_true_eq, not_or, not_lt] at beyond
      exact ⟨record, hardState, isRecord, isHardState, rfl, beyond.2⟩
    · cases admitted
  · cases admitted

theorem inspectSnapshotLifecycleFile_ok
    {wal journal : Sidecar Content} {readEstablished : Bool} {imported : Bool}
    (inspected : inspectSnapshotLifecycleFile platform file wal journal request
      imported readEstablished = .ok detail) : (wal.isPending = false ∧ journal.isPending = false) ∧
      (file = none ∧ imported = false ∨ ∃ db, file = some (.database db) ∧
        snapshotReceiverRow platform db request imported readEstablished = .ok detail) := by
  unfold inspectSnapshotLifecycleFile at inspected
  split at inspected
  · cases inspected
  next idle =>
  rw [Bool.or_eq_true, not_or, Bool.not_eq_true, Bool.not_eq_true] at idle
  refine ⟨idle, ?_⟩
  split at inspected
  · split_ifs at inspected with isImported
    exact .inl ⟨rfl, by simpa using isImported⟩
  · cases inspected
  next db => exact .inr ⟨db, rfl, inspected⟩

theorem snapshotReceiverRow_established
    (inspected : snapshotReceiverRow platform db request true true = .ok detail) :
    ∃ incarnation, snapshotEstablishedReceiver platform db request incarnation = .ok detail := by
  unfold snapshotReceiverRow at inspected
  rw [if_neg (by simp)] at inspected
  split at inspected
  · cases inspected
  · next row _ =>
    obtain ⟨_, _, established⟩ := Result.ok_of_bind inspected
    exact ⟨row.incarnation, established⟩
  · cases inspected

theorem inspectSnapshotReceiver_ok
    (inspected : inspectSnapshotReceiver platform disk descriptor
      replicaIdentity allowEstablishedReceiver false = .ok detail) :
    ∃ request : ReceiverRequest, request.identity.groupId = descriptor.raftRs.groupId ∧
      request.snapshotAppliedIndex = (if allowEstablishedReceiver then
        some descriptor.raftRs.appliedIndex else none) ∧
      inspectSnapshotLifecycleFile platform disk.replica disk.wal disk.journal
        request allowEstablishedReceiver allowEstablishedReceiver = .ok detail := by
  unfold inspectSnapshotReceiver at inspected
  dsimp only at inspected
  split at inspected
  · cases inspected
  next peer _ =>
  split at inspected
  · cases inspected
  obtain ⟨receiver, isReceiver, rest⟩ := Result.ok_of_bind inspected
  cases rest
  refine ⟨⟨⟨_, peer.peerId, replicaIdentity⟩, _⟩, rfl, rfl, ?_⟩
  cases allowEstablishedReceiver <;> exact isReceiver

theorem inspectSnapshotReceiver_admitted
    (inspected : inspectSnapshotReceiver platform disk descriptor
      replicaIdentity true false = .ok detail) :
    Admitted disk descriptor.raftRs.groupId descriptor.raftRs.appliedIndex detail := by
  obtain ⟨request, ofGroup, index, isFile⟩ := inspectSnapshotReceiver_ok inspected
  obtain ⟨idle, absent | ⟨db, isDb, isRow⟩⟩ := inspectSnapshotLifecycleFile_ok isFile
  · exact absurd absent.2 Bool.true_eq_false.mp
  obtain ⟨incarnation, established⟩ := snapshotReceiverRow_established isRow
  obtain ⟨record, hardState, isRecord, isHard, isDetail, commit⟩ :=
    snapshotEstablishedReceiver_ok established
  rw [ofGroup] at isRecord
  rw [index, if_pos rfl] at commit
  exact ⟨idle, db, record, hardState, isDb, isRecord, isHard, isDetail, commit⟩

theorem openTable_ok {Row : Type} {table : Option (List Row)} {rows : List Row}
    (opened : openTable table = .ok rows) : table = some rows := by
  unfold openTable at opened
  split at opened
  · cases opened
    rfl
  · cases opened

theorem hasFreshReceiverConsensusRows_of_record (recorded : hasDurableRecordIn db groupId) :
    hasFreshReceiverConsensusRows db := by
  unfold hasDurableRecordIn at recorded
  split at recorded
  · cases recorded
  next record isRecord =>
  obtain ⟨rows, isRows, same⟩ := Result.ok_of_bind isRecord
  cases same
  obtain ⟨hardState, isHardState, isRows⟩ := Result.ok_of_bind isRows
  obtain ⟨appliedState, isAppliedState, isRows⟩ := Result.ok_of_bind isRows
  obtain ⟨snapshot, _, isRows⟩ := Result.ok_of_bind isRows
  obtain ⟨log, isLog, isRows⟩ := Result.ok_of_bind isRows
  cases isRows
  unfold hasFreshReceiverConsensusRows
  rw [openTable_ok isHardState, openTable_ok isAppliedState, openTable_ok isLog]
  -- An empty table has no row of the group.
  cases hardState with
  | cons row rest => simp
  | nil =>
    cases appliedState with
    | cons row rest => simp
    | nil =>
      cases log with
      | cons row rest => simp
      | nil => simp [durableRecordOf, emptyConfState] at recorded

theorem inspectSnapshotReceiver_fresh_refused (holds : disk.opened = some (.database db))
    (recorded : hasDurableRecordIn db descriptor.raftRs.groupId) :
    inspectSnapshotReceiver platform disk descriptor replicaIdentity false false ≠ .ok detail := by
  intro inspected
  obtain ⟨request, _, _, isFile⟩ := inspectSnapshotReceiver_ok inspected
  obtain ⟨idle, isReplica⟩ := inspectSnapshotLifecycleFile_ok isFile
  rw [Disk.Idle.opened idle] at holds
  rw [holds] at isReplica
  obtain ⟨absent, _⟩ | ⟨found, same, isRow⟩ := isReplica
  · cases absent
  cases same
  rw [snapshotReceiverRow,
    if_pos (by simp [hasFreshReceiverConsensusRows_of_record recorded])] at isRow
  cases isRow

theorem openLifecycleRecord_frame (db : Database Content) (identity : Identity)
    (incarnation : String) : ∃ lifecycle, (openLifecycleRecord db identity incarnation).1 =
      { db with lifecycle } := by
  unfold openLifecycleRecord
  dsimp only
  split <;> split <;> exact ⟨_, rfl⟩

theorem recordOpeningHistory_frame {recorded : Database Content}
    (isRecorded : recordOpeningHistory db identity incarnation = .ok recorded) :
    ∃ lifecycle, recorded = { db with lifecycle } := by
  unfold recordOpeningHistory at isRecorded
  dsimp only at isRecorded
  split at isRecorded
  · cases isRecorded
    exact ⟨_, rfl⟩
  · cases isRecorded

theorem prepareReplicaLifecycleForSnapshot_frame
    (isPrepared : prepareReplicaLifecycleForSnapshot identity
      receiverIncarnation minted db = .ok prepared) :
    ∃ lifecycle, prepared = { db with lifecycle } := by
  have retained : ∃ lifecycle,
      openRetained db identity receiverIncarnation = { db with lifecycle } := by
    cases receiverIncarnation with
    | none => exact ⟨db.lifecycle, rfl⟩
    | some incarnation => exact openLifecycleRecord_frame db identity incarnation
  unfold prepareReplicaLifecycleForSnapshot at isPrepared
  obtain ⟨first, isFirst⟩ := retained
  obtain ⟨second, isSecond⟩ := openLifecycleRecord_frame
    { db with lifecycle := first } identity minted
  rw [isFirst] at isPrepared
  generalize openLifecycleRecord { db with lifecycle := first } identity minted =
    found at isPrepared isSecond
  obtain ⟨reached, opened⟩ := found
  cases isSecond
  obtain ⟨_, _, rest⟩ := Result.ok_of_bind isPrepared
  dsimp only at rest
  split at rest
  · cases rest
  · obtain ⟨third, isThird⟩ := recordOpeningHistory_frame rest
    exact ⟨third, isThird⟩

def stagedImage (platform : Platform Content) (options : Options)
    (descriptor : Descriptor) (receiver : Receiver) (marker : Marker)
    (payload : Database Content) : Except Fault (Database Content) := do
  let prepared ← prepareReplicaLifecycleForSnapshot
    ⟨descriptor.raftRs.groupId, receiver.peerId, receiver.replicaIdentity⟩
    receiver.detail.incarnation options.minted payload
  let written ← putStagedRecord platform descriptor receiver
    (createRecordTables prepared)
  writeStagedInstallBinding marker written

/-- The record of the image is the snapshot's: the hard state is resolved
against the receiver's, and the log is empty. -/
structure Imaged (descriptor : Descriptor) (receiver : Receiver)
    (payload image : Database Content) (record : Record) : Prop where
  content : image.content = payload.content
  reservations : image.reservations = payload.reservations
  recorded : readDurableRecordIn image descriptor.raftRs.groupId = .ok record
  hardState : receiver.followerCatchup = true → record.hardState = some
    (resolveCatchupHardState descriptor.raftRs receiver.detail.hardState)
  appliedIndex : record.appliedIndex = descriptor.raftRs.appliedIndex
  confState : record.confState = descriptor.raftRs.confState
  entries : record.entries = []

theorem readDurableRecordIn_of_tables {hardState : List (String × HardState)}
    {appliedState : List (String × AppliedState)} {snapshot : List (String × Snapshot)}
    (isHardState : db.hardState = some hardState)
    (isAppliedState : db.appliedState = some appliedState)
    (isSnapshot : db.snapshot = some snapshot) (isLog : db.log = some []) :
    readDurableRecordIn db groupId = .ok (durableRecordOf {
      hardState := hardState.lookup groupId
      appliedState := appliedState.lookup groupId
      snapshot := snapshot.lookup groupId
      entries := [] }) := by
  simp only [readDurableRecordIn, readDurableRowsIn, openTable, isHardState,
    isAppliedState, isSnapshot, isLog]
  rfl

theorem putStagedRecord_imaged (log : db.log = some []) (hardState : db.hardState = some [])
    (appliedState : db.appliedState = some []) (snapshot : db.snapshot = some [])
    (isWritten : putStagedRecord platform descriptor receiver db = .ok written) :
    ∃ record, Imaged descriptor receiver db written record := by
  simp only [putStagedRecord, putBootstrapAppliedState, putAppliedState,
    putHardState, putSnapshot, openTable, hardState, appliedState, snapshot,
    bind, Except.bind, pure, Except.pure] at isWritten
  split at isWritten
  · cases isWritten
  cases isWritten
  refine ⟨_, rfl, rfl, readDurableRecordIn_of_tables rfl rfl rfl log, ?_, ?_, ?_,
    rfl⟩
  · intro follower
    simp [durableRecordOf, follower]
  · simp [durableRecordOf]
  · simp [durableRecordOf]

theorem Imaged.bound (imaged : Imaged descriptor receiver payload written record)
    (isBound : writeStagedInstallBinding marker written = .ok image) :
    Imaged descriptor receiver payload image record := by
  unfold writeStagedInstallBinding at isBound
  dsimp only at isBound
  split at isBound
  · cases isBound
  cases isBound
  exact ⟨imaged.content, imaged.reservations, imaged.recorded,
    imaged.hardState, imaged.appliedIndex, imaged.confState, imaged.entries⟩

theorem stagedImage_imaged (scrubbed : payload.scrubbed)
    (isImage : stagedImage platform options descriptor receiver marker payload = .ok image) :
    ∃ record, Imaged descriptor receiver payload image record := by
  obtain ⟨prepared, isPrepared, rest⟩ := Result.ok_of_bind isImage
  obtain ⟨written, isWritten, isBound⟩ := Result.ok_of_bind rest
  obtain ⟨lifecycle, rfl⟩ := prepareReplicaLifecycleForSnapshot_frame isPrepared
  simp only [Database.scrubbed, Bool.and_eq_true, Option.isNone_iff_eq_none]
    at scrubbed
  obtain ⟨⟨⟨⟨⟨_, log⟩, hardState⟩, appliedState⟩, snapshot⟩, _⟩ := scrubbed
  rw [createRecordTables, if_neg (by simp [log, hardState, appliedState, snapshot])]
    at isWritten
  obtain ⟨record, imaged⟩ := putStagedRecord_imaged rfl rfl rfl rfl isWritten
  exact ⟨record, Imaged.bound ⟨imaged.content, imaged.reservations,
    imaged.recorded, imaged.hardState, imaged.appliedIndex, imaged.confState,
    imaged.entries⟩ isBound⟩

end LagrangeDb.Raft
