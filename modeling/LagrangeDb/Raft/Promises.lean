import LagrangeDb.Raft.Image

namespace LagrangeDb.Raft

open Data

/-! What a replica has promised survives an install, wherever it is cut off. -/

section

variable {Content α : Type} {platform : Platform Content}

/-- A restart may put the staged file in the replica's place. -/
def Disk.Armed (disk : Disk Content) : Prop :=
  ∃ marker, disk.marker = some marker ∧ marker.state = .staged ∧ disk.staging ≠ none

section

variable (start : Disk Content) (Image : Database Content → Prop)
variable (complete : Prop)

/-- How far an install has come.  It gets beyond the untouched database only
when the request, left alone, completes. -/
inductive Phase (disk : Disk Content) : Prop
  | untouched (same : disk.opened = start.opened) (calm : ¬disk.Armed)
  | armed {image : Database Content} (completes : complete)
      (isImage : Image image) (staged : disk.staging = some (.database image))
      (same : disk.opened = start.opened) (idle : disk.Idle)
  | installed {image : Database Content} (completes : complete)
      (isImage : Image image) (placed : disk.replica = some (.database image))
      (idle : disk.Idle) (swapped : disk.staging = none)

end

variable {start disk : Disk Content} {Image : Database Content → Prop}
variable {complete : Prop}

namespace Phase

theorem clearMarker (phase : Phase start Image complete disk) :
    Phase start Image complete { disk with marker := none } := by
  cases phase with
  | untouched same calm =>
    refine .untouched same ?_
    rintro ⟨marker, isMarker, _⟩
    cases isMarker
  | armed completes isImage staged same idle => exact .armed completes isImage staged same idle
  | installed completes isImage placed idle swapped =>
    exact .installed completes isImage placed idle swapped

theorem removeStaging (phase : Phase start Image complete disk) :
    Phase start Image complete { disk with staging := none } := by
  have calm : ¬({ disk with staging := none } : Disk Content).Armed := by
    rintro ⟨marker, _, _, present⟩
    exact present rfl
  cases phase with
  | untouched same _ => exact .untouched same calm
  | armed _ _ _ same _ => exact .untouched same calm
  | installed completes isImage placed idle swapped =>
    exact .installed completes isImage placed idle rfl

theorem writeMarker (phase : Phase start Image complete disk) (marker : Marker)
    (notStaged : marker.state ≠ .staged) :
    Phase start Image complete { disk with marker := some marker } := by
  cases phase with
  | untouched same calm =>
    refine .untouched same ?_
    rintro ⟨found, isMarker, staged, _⟩
    cases isMarker
    exact notStaged staged
  | armed completes isImage staged same idle => exact .armed completes isImage staged same idle
  | installed completes isImage placed idle swapped =>
    exact .installed completes isImage placed idle swapped

end Phase

section

variable {invariant : Disk Content → Prop}
variable {post : Disk Content → Except Fault α → Prop}

theorem throughout_look {rest : Disk Content → Install Content α} (holds : invariant disk)
    (later : Program.Throughout operate invariant post (rest disk) disk) :
    Program.Throughout operate invariant post (look >>= rest) disk :=
  ⟨holds, later⟩

theorem throughout_change {request : FileCall Content}
    {rest : Unit → Install Content α} (holds : invariant disk)
    (later : Program.Throughout operate invariant post (rest ()) (operate request disk).2) :
    Program.Throughout operate invariant post (change request >>= rest) disk :=
  ⟨holds, later⟩

end

def InstallResult.Idle : InstallResult → Prop
  | .installed _ _ => False
  | _ => True

section

variable {post : Disk Content → Except Fault InstallResult → Prop}

theorem rejectInstall_phase (phase : Phase start Image complete disk)
    (ends : ∀ final result, result.Idle → post final (.ok result))
    (marker : Marker) (reason : Rejection) :
    Program.Throughout operate (Phase start Image complete) post
      (rejectInstall marker reason) disk := by
  refine throughout_look phase ?_
  split
  · exact .pure phase (ends _ _ trivial)
  refine throughout_change phase ?_
  have marked := phase.writeMarker (marker.at .rejected (some reason)) (by simp [Marker.at])
  exact throughout_change marked (.pure marked.removeStaging (ends _ _ trivial))

end

variable {rest : Unit → Install Content α} {image : Database Content}

theorem swapStagingIntoReplica_phase (completes : complete)
    (isImage : Image image) (staged : disk.staging = some (.database image))
    (same : disk.opened = start.opened) (idle : disk.Idle)
    (later : Program.Throughout operate (Phase start Image complete) post (rest ()) { disk with
        replica := some (.database image), wal := .absent, staging := none }) :
    Program.Throughout operate (Phase start Image complete) post
      (swapStagingIntoReplica >>= rest) disk := by
  have swept : ({ disk with wal := .absent } : Disk Content).Idle := ⟨rfl, idle.2⟩
  refine ⟨.armed completes isImage staged same idle, .armed completes isImage staged ?_ swept, ?_⟩
  · rw [← same, idle.opened]
    exact swept.opened
  have renamed : (operate .rename { disk with wal := .absent }).2 = { disk with
      replica := some (.database image), wal := .absent, staging := none } := by
    simp [operate, staged]
  exact renamed ▸ later

variable {marker : Marker}

theorem resolveStagedMarker_phase (phase : Phase start Image complete disk)
    (isMarker : disk.marker = some marker) (isStaged : marker.state = .staged)
    (currentCreateAuthority : Option CreateAuthority) :
    Program.Throughout operate (Phase start Image complete) (fun _ _ => True)
      (resolveStagedMarker platform marker currentCreateAuthority) disk := by
  refine throughout_look phase ?_
  split
  · exact ⟨phase, trivial⟩
  split
  · split
    · exact .pure phase trivial
    · exact throughout_change phase (.pure phase.clearMarker trivial)
  split
  · split
    · exact throughout_change phase (.pure phase.clearMarker trivial)
    · exact rejectInstall_phase phase (fun _ _ _ => trivial) _ _
  next present =>
  split
  · exact ⟨phase, trivial⟩
  · exact .pure phase trivial
  -- Only an armed disk still has a staged file here.
  cases phase with
  | untouched same calm =>
    refine absurd ⟨marker, isMarker, isStaged, ?_⟩ calm
    simpa using present
  | armed completes isImage staged same idle =>
    refine swapStagingIntoReplica_phase completes isImage staged same idle ?_
    have placed : Phase start Image complete { disk with
        replica := some (.database _), wal := .absent, staging := none } :=
      .installed completes isImage rfl ⟨rfl, idle.2⟩ rfl
    have marked := placed.writeMarker (marker.at .installed none) (by simp [Marker.at])
    exact throughout_change placed (throughout_change marked (.pure marked.clearMarker trivial))
  | installed completes isImage placed idle swapped => simp [swapped] at present

theorem resolvePendingSnapshotInstall_phase (phase : Phase start Image complete disk)
    (currentCreateAuthority : Option CreateAuthority) :
    Program.Throughout operate (Phase start Image complete) (fun _ _ => True)
      (resolvePendingSnapshotInstall platform currentCreateAuthority) disk := by
  refine throughout_look phase ?_
  split
  · exact .pure phase trivial
  next marker isMarker =>
  split
  · split
    · exact .pure phase trivial
    · exact throughout_change phase (throughout_change phase.removeStaging
        (.pure phase.removeStaging.clearMarker trivial))
  next isStaged => exact resolveStagedMarker_phase phase isMarker isStaged _
  · split
    · exact ⟨phase, trivial⟩
    split
    · exact throughout_change phase (.pure phase.clearMarker trivial)
    · exact .pure phase trivial
  · exact .pure phase trivial

section

variable {invariant : Disk Content → Prop}
variable {post : Disk Content → Except Fault α → Prop}
  {transaction : Database Content → Except Fault (Database Content)} {db : Database Content}

theorem throughout_updateStaging (staged : disk.staging = some (.database db))
    (holds : invariant disk) (fails : ∀ fault, post disk (.error fault))
    (succeeds : ∀ written, transaction db = .ok written →
      Program.Throughout operate invariant post (rest ())
        { disk with staging := some (.database written) }) :
    Program.Throughout operate invariant post (updateStaging transaction >>= rest) disk := by
  rw [updateStaging, Program.bind_bind]
  refine throughout_look holds ?_
  simp only [staged]
  cases isWritten : transaction db with
  | error fault => exact ⟨holds, fails fault⟩
  | ok written => exact throughout_change holds (succeeds written isWritten)

theorem exec_look (rest : Disk Content → Install Content α) (disk : Disk Content) :
    (look >>= rest).exec operate disk = (rest disk).exec operate disk :=
  rfl

theorem exec_change (request : FileCall Content)
    (rest : Unit → Install Content α) (disk : Disk Content) :
    (change request >>= rest).exec operate disk = (rest ()).exec operate (operate request disk).2 :=
  rfl

theorem exec_updateStaging
    (staged : disk.staging = some (.database db)) (isWritten : transaction db = .ok written) :
    (updateStaging transaction >>= rest).exec operate disk =
      (rest ()).exec operate { disk with staging := some (.database written) } := by
  rw [updateStaging, Program.bind_bind, exec_look]
  simp only [staged, isWritten]
  rfl

end

section

variable {options : Options} {descriptor : Descriptor} {receiver : Receiver}
variable {marker : Marker} {payload : Database Content}

def Disk.stagingAs (start : Disk Content) (marker : Marker)
    (file : Option (File Content)) : Disk Content :=
  { start with marker := some marker, staging := file }

theorem Phase.staging (isStaging : marker.state = .staging) (file : Option (File Content)) :
    Phase start Image complete (start.stagingAs marker file) := by
  refine .untouched rfl ?_
  rintro ⟨found, isMarker, staged, _⟩
  cases isMarker
  rw [isStaging] at staged
  cases staged

variable {image : Database Content}

theorem stagedImage_of_steps
    (isPrepared : prepareReplicaLifecycleForSnapshot
      ⟨descriptor.raftRs.groupId, receiver.peerId, receiver.replicaIdentity⟩
      receiver.detail.incarnation options.minted payload = .ok prepared)
    (isWritten : putStagedRecord platform descriptor receiver
      (createRecordTables prepared) = .ok written)
    (isBound : writeStagedInstallBinding marker written = .ok image) :
    stagedImage platform options descriptor receiver marker payload = .ok image := by
  rw [stagedImage, isPrepared]
  change (putStagedRecord platform descriptor receiver (createRecordTables prepared) >>= _) = _
  rw [isWritten]
  exact isBound

theorem swapPreparedInstall_phase {post : Disk Content → Except Fault α → Prop}
    {rest : Bool → Install Content α} (isStaging : marker.state = .staging)
    (isFollower : marker.kind = .raftRsFollowerCatchup) (idle : start.Idle) (isImage : Image image)
    (completes : followerCatchupStagedInstallMatches platform
      (start.stagingAs marker (some (.database image))) marker → complete)
    (refused : Program.Throughout operate (Phase start Image complete) post
      (rest false) (start.stagingAs marker (some (.database image)))) (swapped : complete →
      Program.Throughout operate (Phase start Image complete) post (rest true) { start with
          replica := some (.database image), wal := .absent
          marker := some (marker.at .installed none), staging := none }) :
    Program.Throughout operate (Phase start Image complete) post
      (swapPreparedInstall platform marker none >>= rest)
      (start.stagingAs marker (some (.database image))) := by
  rw [swapPreparedInstall, Program.bind_bind]
  refine throughout_look (Phase.staging isStaging _) ?_
  simp only [isFollower, if_true]
  split
  · exact refused
  next valid =>
  rw [Bool.not_eq_true, Bool.not_eq_false'] at valid
  have done := completes valid
  have placed : Phase start Image complete ({ start with
      replica := some (.database image), wal := .absent
      marker := some (marker.at .staged none), staging := none } : Disk Content) :=
    .installed done isImage rfl ⟨rfl, idle.2⟩ rfl
  simp only [Program.bind_bind]
  refine throughout_change (Phase.staging isStaging _) ?_
  exact swapStagingIntoReplica_phase done isImage rfl rfl idle
    (throughout_change placed (swapped done))

/-- When the answer announces the install, the image is the replica's database. -/
def Announced (Image : Database Content → Prop) (final : Disk Content)
    (result : Except Fault InstallResult) : Prop :=
  ∀ installId generationIndex, result = .ok (.installed installId generationIndex) →
    ∃ image, Image image ∧ final.opened = some (.database image)

theorem Announced.of_idle {result : InstallResult} (quiet : result.Idle) :
    Announced Image final (.ok result) := by
  rintro installId generationIndex isInstalled
  cases isInstalled
  exact quiet.elim

theorem Announced.of_error (fault : Fault) : Announced Image final (.error fault) := by
  rintro installId generationIndex isInstalled
  cases isInstalled

theorem populateStagedInstallDb_phase {rest : Unit → Install Content InstallResult}
    (isStaging : marker.state = .staging)
    (later : ∀ image, stagedImage platform options descriptor receiver marker payload = .ok image →
      Program.Throughout operate (Phase start Image complete) (Announced Image)
        (rest ()) (start.stagingAs marker (some (.database image)))) :
    Program.Throughout operate (Phase start Image complete) (Announced Image)
      (populateStagedInstallDb platform options descriptor receiver marker >>= rest)
      (start.stagingAs marker (some (.database payload))) := by
  have staging (file : Option (File Content)) :
      Phase start Image complete (start.stagingAs marker file) :=
    Phase.staging isStaging file
  simp only [populateStagedInstallDb, Program.bind_bind]
  refine throughout_updateStaging rfl (staging _) .of_error ?_
  intro prepared isPrepared
  refine throughout_updateStaging rfl (staging _) .of_error ?_
  intro created isCreated
  cases isCreated
  refine throughout_updateStaging rfl (staging _) .of_error ?_
  intro written isWritten
  refine throughout_updateStaging rfl (staging _) .of_error ?_
  intro image isBound
  exact later image (stagedImage_of_steps isPrepared isWritten isBound)

theorem Sealed.copied
    (isSealed : Sealed platform (start.generations options.generationIndex) descriptor payload) :
    (operate (.finishCopy options.generationIndex) (start.stagingAs marker (some .torn))).2 =
        start.stagingAs marker (some (.database payload)) := by
  obtain ⟨found, isFound, _, isPayload⟩ := isSealed.held
  simp [operate, Disk.stagingAs, isFound, isPayload]

theorem installPrepared_phase (calm : ¬start.Armed) (isStaging : marker.state = .staging)
    (isFollower : marker.kind = .raftRsFollowerCatchup) (idle : start.Idle)
    (isSealed : Sealed platform (start.generations options.generationIndex) descriptor payload)
    (images : ∀ image, stagedImage platform options descriptor receiver
      marker payload = .ok image → Image image)
    (completes : ∀ image, stagedImage platform options descriptor receiver
      marker payload = .ok image → followerCatchupStagedInstallMatches platform
        (start.stagingAs marker (some (.database image))) marker → complete) :
    Program.Throughout operate (Phase start Image complete) (Announced Image)
      (installPrepared platform options descriptor receiver marker) start := by
  have staging (file : Option (File Content)) :
      Phase start Image complete (start.stagingAs marker file) :=
    Phase.staging isStaging file
  refine throughout_change (.untouched rfl calm) ?_
  refine throughout_change (staging _) ?_
  refine throughout_change (staging _) ?_
  refine throughout_change (staging _) ?_
  change Program.Throughout operate _ _ _ (operate (.finishCopy _)
    (start.stagingAs marker (some .torn))).2
  rw [isSealed.copied]
  refine throughout_look (staging _) ?_
  split
  · exact rejectInstall_phase (staging _) (fun _ _ quiet => .of_idle quiet) _ _
  refine populateStagedInstallDb_phase isStaging fun image isImage => ?_
  rw [commitPreparedInstall, if_neg (by simp [isFollower])]
  refine swapPreparedInstall_phase isStaging isFollower idle (images image isImage)
    (completes image isImage) ?_ ?_
  · exact rejectInstall_phase (staging _) (fun _ _ quiet => .of_idle quiet) _ _
  intro done
  have placed : Phase start Image complete ({ start with
      replica := some (.database image), wal := .absent
      marker := some (marker.at .installed none), staging := none } : Disk Content) :=
    .installed done (images image isImage) rfl ⟨rfl, idle.2⟩ rfl
  have cleared : ({ start with
      replica := some (.database image), wal := .absent
      marker := none, staging := none } : Disk Content).Idle :=
    ⟨rfl, idle.2⟩
  refine throughout_change placed (.pure placed.clearMarker ?_)
  intro _ _ _
  exact ⟨image, images image isImage, cleared.opened⟩

theorem installPrepared_exec (isFollower : marker.kind = .raftRsFollowerCatchup)
    (isSealed : Sealed platform (start.generations options.generationIndex) descriptor payload)
    (isImage : stagedImage platform options descriptor receiver marker payload =
      .ok image) (valid : followerCatchupStagedInstallMatches platform
      (start.stagingAs marker (some (.database image))) marker) :
    ((installPrepared platform options descriptor receiver marker).exec operate
      start).1 = .ok (.installed options.installId options.generationIndex) := by
  obtain ⟨prepared, isPrepared, rest⟩ := Result.ok_of_bind isImage
  obtain ⟨written, isWritten, isBound⟩ := Result.ok_of_bind rest
  rw [installPrepared, exec_change, exec_change, exec_change, exec_change]
  change (Program.exec operate _ (operate (.finishCopy _)
    (start.stagingAs marker (some .torn))).2).1 = _
  have sameDigest : fileDigest platform
      (start.stagingAs marker (some (.database payload))).staging =
        descriptor.payloadDigest := isSealed.digest
  rw [isSealed.copied, exec_look, if_neg (not_not.mpr sameDigest)]
  simp only [populateStagedInstallDb, Program.bind_bind]
  have isCreated : openStore prepared = .ok (createRecordTables prepared) := rfl
  rw [exec_updateStaging rfl isPrepared, exec_updateStaging rfl isCreated,
    exec_updateStaging rfl isWritten, exec_updateStaging rfl isBound,
    commitPreparedInstall, if_neg (by simp [isFollower]), swapPreparedInstall,
    Program.bind_bind, exec_look]
  simp only [isFollower, if_true]
  rw [if_neg (by rw [Bool.not_eq_true, Bool.not_eq_false']; exact valid)]
  rfl

end

/-- The term does not go back, a vote in a term that stays is kept, and what was
known to be committed stays so. -/
def KeepsHardState (before after : Record) : Prop :=
  ∀ held, before.hardState = some held →
    ∃ kept, after.hardState = some kept ∧ held.term ≤ kept.term ∧
      (kept.term = held.term → kept.vote = held.vote) ∧
      held.commit ≤ kept.commit

/-- The database is the checkpoint's payload with the record of its boundary. -/
structure InstalledImage (generation : Option (Generation Content))
    (descriptor : Descriptor) (image : Database Content) (record : Record) :
    Prop where
  payload : ∃ found payload, generation = some found ∧
    found.payload = some payload ∧ image.content = payload.content ∧
    image.reservations = payload.reservations
  recorded : readDurableRecordIn image descriptor.raftRs.groupId = .ok record
  appliedIndex : record.appliedIndex = descriptor.raftRs.appliedIndex
  confState : record.confState = descriptor.raftRs.confState

/-- The replica's database is the one from before the install, or the installed
image, which keeps every promise of the record from before: its hard state and
the entries above the snapshot. -/
def PromisesKept (start : Disk Content) (options : Options)
    (descriptor : Descriptor) (before : Record) (disk : Disk Content) : Prop :=
  disk.opened = start.opened ∨
    ∃ image after, disk.opened = some (.database image) ∧
      InstalledImage (start.generations options.generationIndex) descriptor image after ∧
      KeepsHardState before after ∧
      ∀ entry ∈ before.entries, descriptor.raftRs.appliedIndex < entry.index → entry ∈ after.entries

theorem resolveCatchupHardState_keeps (raftRs : RaftRsDescriptor)
    {held : HardState} (covered : held.commit ≤ raftRs.appliedIndex) :
    held.term ≤ (resolveCatchupHardState raftRs (some held)).term ∧
      ((resolveCatchupHardState raftRs (some held)).term = held.term →
        (resolveCatchupHardState raftRs (some held)).vote = held.vote) ∧
      held.commit ≤ (resolveCatchupHardState raftRs (some held)).commit := by
  simp only [resolveCatchupHardState, Option.map_some, Option.getD_some]
  by_cases newer : raftRs.appliedTerm < held.term
  · simp [newer, covered]
  rw [if_neg newer]
  refine ⟨Nat.le_of_not_lt newer, fun sameTerm => ?_, covered⟩
  exact if_pos sameTerm.symm

def FollowerImage (start : Disk Content) (options : Options)
    (descriptor : Descriptor) (before : Record) (image : Database Content) : Prop :=
  ∃ after, InstalledImage (start.generations options.generationIndex)
    descriptor image after ∧ KeepsHardState before after ∧ after.entries = []

section

variable {options : Options} {descriptor : Descriptor}
variable {old : Database Content} {before : Record}

theorem Imaged.followerImage {payload : Database Content}
    {record : Record} (imaged : Imaged descriptor receiver payload image record)
    (isFollower : receiver.followerCatchup = true)
    (isSealed : Sealed platform (start.generations options.generationIndex)
      descriptor payload) (admitted : Admitted start descriptor.raftRs.groupId
      descriptor.raftRs.appliedIndex receiver.detail) (opens : start.opened = some (.database old))
    (recorded : readDurableRecordIn old descriptor.raftRs.groupId = .ok before) :
    FollowerImage start options descriptor before image := by
  obtain ⟨found, isFound, _, isPayload⟩ := isSealed.held
  obtain ⟨db, held, hardState, isDb, isHeld, isHard, isDetail, commit⟩ := admitted.covered
  rw [admitted.idle.opened, isDb] at opens
  cases opens
  cases isHeld.symm.trans recorded
  refine ⟨record, ⟨⟨found, payload, isFound, isPayload, imaged.content,
    imaged.reservations⟩, imaged.recorded, imaged.appliedIndex,
    imaged.confState⟩, ?_, imaged.entries⟩
  intro promised isPromised
  cases isHard.symm.trans isPromised
  refine ⟨_, imaged.hardState isFollower, ?_⟩
  rw [isDetail]
  exact resolveCatchupHardState_keeps descriptor.raftRs commit

theorem prepareInstallAdmissionAndMarker_follower (opens : start.opened = some (.database old))
    (established : hasDurableRecordIn old descriptor.raftRs.groupId)
    (isPrepared : prepareInstallAdmissionAndMarker platform options descriptor
      followerCatchup start = .ok (marker, detail)) : followerCatchup = true ∧
      marker = buildFollowerCatchupMarker platform options descriptor start ∧
      inspectSnapshotReceiver platform start descriptor
        options.expectedReplicaIdentity true false = .ok detail := by
  unfold prepareInstallAdmissionAndMarker at isPrepared
  split at isPrepared
  · cases isPrepared
  split at isPrepared
  · cases isPrepared
  next found inspected =>
  cases followerCatchup with
  | false =>
    exact absurd inspected (inspectSnapshotReceiver_fresh_refused opens established)
  | true =>
    rw [if_pos rfl] at isPrepared
    cases isPrepared
    exact ⟨rfl, rfl, inspected⟩

def followerReceiver (options : Options) (descriptor : Descriptor)
    (detail : ReceiverDetail) : Receiver :=
  ⟨resolveInstallPeerId options descriptor, options.expectedReplicaIdentity, true, detail⟩

/-- The disk before lets the request through: the receiver is admitted, the image can be built
from the checkpoint's payload, and staged it still fits the replica. -/
def Ready (platform : Platform Content) (options : Options) (descriptor : Descriptor)
    (start : Disk Content) : Prop :=
  options.inMemory = false ∧ ∃ marker detail payload image,
    prepareInstallAdmissionAndMarker platform options descriptor
      (isFollowerCatchupInstall options descriptor start) start = .ok (marker, detail) ∧
    Sealed platform (start.generations options.generationIndex) descriptor payload ∧
    stagedImage platform options descriptor (followerReceiver options descriptor detail) marker
      payload = .ok image ∧
    followerCatchupStagedInstallMatches platform
      (start.stagingAs marker (some (.database image))) marker

section

variable (calm : ¬start.Armed)
  (valid : readCheckpoint platform (start.generations options.generationIndex)
    options.expectedIdentity = .ok descriptor)
  (opens : start.opened = some (.database old))
  (recorded : readDurableRecordIn old descriptor.raftRs.groupId = .ok before)
  (established : hasDurableRecordIn old descriptor.raftRs.groupId)

include calm valid opens recorded established

theorem requestSnapshotInstall_phase : Program.Throughout operate
      (Phase start (FollowerImage start options descriptor before)
        (Ready platform options descriptor start))
      (Announced (FollowerImage start options descriptor before))
      (requestSnapshotInstall platform options) start := by
  rw [requestSnapshotInstall]
  split
  · exact .pure (.untouched rfl calm) (.of_idle trivial)
  next onDisk =>
  refine throughout_look (.untouched rfl calm) ?_
  simp only [valid]
  cases isPrepared : prepareInstallAdmissionAndMarker platform options descriptor
      (isFollowerCatchupInstall options descriptor start) start with
  | error reason => exact .pure (.untouched rfl calm) (.of_idle trivial)
  | ok admission =>
    obtain ⟨marker, detail⟩ := admission
    obtain ⟨isFollower, isMarker, inspected⟩ :=
      prepareInstallAdmissionAndMarker_follower opens established isPrepared
    have admitted := inspectSnapshotReceiver_admitted inspected
    obtain ⟨payload, isSealed⟩ := readCheckpoint_ok valid
    have images (image : Database Content)
        (isImage : stagedImage platform options descriptor
          (followerReceiver options descriptor detail) marker payload = .ok image) :
        FollowerImage start options descriptor before image := by
      obtain ⟨record, imaged⟩ := stagedImage_imaged isSealed.scrubbed isImage
      exact imaged.followerImage rfl isSealed admitted opens recorded
    have ready (image : Database Content)
        (isImage : stagedImage platform options descriptor
          (followerReceiver options descriptor detail) marker payload = .ok image)
        (fits : followerCatchupStagedInstallMatches platform
          (start.stagingAs marker (some (.database image))) marker) :
        Ready platform options descriptor start :=
      ⟨by simpa using onDisk, marker, detail, payload, image, isPrepared, isSealed, isImage, fits⟩
    simp only [isFollower]
    subst isMarker
    exact installPrepared_phase calm rfl rfl admitted.idle isSealed images ready

omit calm recorded in
theorem requestSnapshotInstall_exec (ready : Ready platform options descriptor start) :
    ((requestSnapshotInstall platform options).exec operate start).1 =
      .ok (.installed options.installId options.generationIndex) := by
  obtain ⟨onDisk, marker, detail, payload, image, isPrepared, isSealed, isImage, fits⟩ := ready
  obtain ⟨isFollower, isMarker, -⟩ :=
    prepareInstallAdmissionAndMarker_follower opens established isPrepared
  rw [requestSnapshotInstall, if_neg (by simp [onDisk]), exec_look]
  simp only [valid, isPrepared]
  rw [isFollower]
  subst isMarker
  exact installPrepared_exec rfl isSealed isImage fits

theorem After.phase (reached : After platform options start disk) :
    Phase start (FollowerImage start options descriptor before)
      (Ready platform options descriptor start) disk := by
  induction reached with
  | request stopped =>
    exact (requestSnapshotInstall_phase calm valid opens recorded established).stops _ stopped
  | restart currentCreateAuthority _ stopped phase =>
    exact (resolvePendingSnapshotInstall_phase phase currentCreateAuthority).stops _ stopped

end

/-- An install keeps every promise, wherever it and the restarts after it are
cut off, exactly when the disk does not let it through or the old log ends at the snapshot:
entries above the snapshot are lost with the old file. -/
theorem install_keeps_promises_iff (platform : Platform Content)
    (options : Options) (start : Disk Content) (descriptor : Descriptor)
    (old : Database Content) (before : Record) (calm : ¬start.Armed)
    (valid : readCheckpoint platform (start.generations options.generationIndex)
      options.expectedIdentity = .ok descriptor) (opens : start.opened = some (.database old))
    (recorded : readDurableRecordIn old descriptor.raftRs.groupId = .ok before)
    (established : hasDurableRecordIn old descriptor.raftRs.groupId) :
    (∀ disk, After platform options start disk →
      PromisesKept start options descriptor before disk) ↔
    (Ready platform options descriptor start → ∀ entry ∈ before.entries,
        entry.index ≤ descriptor.raftRs.appliedIndex) := by
  constructor
  · intro kept ready entry member
    have completes := requestSnapshotInstall_exec valid opens established ready
    by_contra above
    rw [not_le] at above
    obtain ⟨image, ⟨after, isImage, _, noEntries⟩, isOpened⟩ :=
      (requestSnapshotInstall_phase calm valid opens recorded established).exec _ _ completes
    obtain same | ⟨image', after', isOpened', isImage', _, entries⟩ :=
      kept _ (.request (Program.exec_mem_stops operate _ _))
    · rw [isOpened, opens] at same
      cases same
      cases recorded.symm.trans isImage.recorded
      rw [noEntries] at member
      cases member
    · cases isOpened.symm.trans isOpened'
      cases isImage.recorded.symm.trans isImage'.recorded
      have lost := entries entry member above
      rw [noEntries] at lost
      cases lost
  · intro within disk reached
    cases reached.phase calm valid opens recorded established with
    | untouched same _ => exact .inl same
    | armed _ _ _ same _ => exact .inl same
    | installed completes isImage placed idle _ =>
      obtain ⟨after, isInstalled, keeps, _⟩ := isImage
      refine .inr ⟨_, after, idle.opened.trans placed, isInstalled, keeps, ?_⟩
      intro entry member above
      exact absurd (within completes entry member) (not_le.mpr above)

end

end

namespace Sample

def platform : Platform Nat where
  sha256Digest
    | .torn => "torn"
    | .database db => if db.content = 0 then "sha256:old" else "sha256:new"
  pendingPrepared _ := false
  bare _ := false
  canonicalBase64 _ := true
  decodesProposal _ := true
  deriveRaftRsPeerId name := if name = "leader" then 1 else 2
  decodeLearnerAdmission _ := none
  encodeSnapshotWitnessData _ := none

def confState : ConfState := ⟨[1, 2], [], [], [], false⟩

def reservations : List Reservation := [⟨"leader", 1, none⟩, ⟨"follower", 2, none⟩]

def entry (index : Nat) : Entry := ⟨index, 1, .normal, none⟩

def replica (entries : List Entry) : Database Nat where
  content := 0
  reservations := some reservations
  raftState := none
  lifecycle := some [⟨"p", 2, "follower", .active, none, some "first", some .established⟩]
  log := some (entries.map fun entry => ("p", entry))
  hardState := some [("p", ⟨2, 1, 1⟩)]
  appliedState := some [("p", ⟨1, confState, some 0, none, 0⟩)]
  snapshot := some []
  installBinding := none

def payload : Database Nat where
  content := 1
  reservations := some reservations
  raftState := none
  lifecycle := none
  log := none
  hardState := none
  appliedState := none
  snapshot := none
  installBinding := none

def descriptor : Descriptor where
  clusterId := "c"
  raftGroupId := "p"
  entity := ⟨.partition, "p"⟩
  membershipEpoch := 0
  lastIncludedIndex := 2
  lastIncludedTerm := 1
  maxCommittedHlc := "0"
  payloadDigest := "sha256:new"
  raftRs := ⟨"p", 2, 1, 0, confState, reservations⟩

def start (entries : List Entry) : Disk Nat where
  replica := some (.database (replica entries))
  wal := .absent
  journal := .absent
  marker := none
  staging := none
  generations index := if index = 2 then some ⟨some descriptor, some payload⟩ else none

def options : Options where
  inMemory := false
  generationIndex := 2
  expectedIdentity := none
  expectedReplicaIdentity := "follower"
  expectedPeerId := none
  createAdmission := none
  installId := "install"
  minted := "second"

def record (entries : List Entry) : Record where
  hardState := some ⟨2, 1, 1⟩
  appliedIndex := 1
  confState := confState
  bootstrapIndex := some 0
  admissionIndex := none
  membershipGenerationIndex := 0
  entries := entries
  snapshot := none

theorem calm (entries : List Entry) : ¬(start entries).Armed := by
  rintro ⟨marker, isMarker, _⟩
  cases isMarker

theorem valid (entries : List Entry) :
    readCheckpoint platform ((start entries).generations options.generationIndex)
      options.expectedIdentity = .ok descriptor := by
  rfl

theorem covered_log_keeps_promises : ¬(start [entry 1, entry 2]).Armed ∧
    ∀ disk, After platform options (start [entry 1, entry 2]) disk →
      PromisesKept (start [entry 1, entry 2]) options descriptor (record [entry 1, entry 2]) disk :=
  ⟨calm _, (install_keeps_promises_iff platform options (start [entry 1, entry 2])
    descriptor (replica [entry 1, entry 2]) (record [entry 1, entry 2])
    (calm _) (valid _) rfl rfl rfl).mpr fun _ => by decide⟩

/-- The third entry was acknowledged, so the leader may have committed it.  The
install replaces the file that held it. -/
theorem acknowledged_entry_lost : ¬∀ disk, After platform options
        (start [entry 1, entry 2, entry 3]) disk →
      PromisesKept (start [entry 1, entry 2, entry 3]) options descriptor
        (record [entry 1, entry 2, entry 3]) disk := by
  intro kept
  obtain same | ⟨image, after, isOpened, isImage, _, entries⟩ :=
    kept _ (.request (Program.exec_mem_stops operate _ _))
  · exact absurd same (by decide)
  cases isOpened
  cases isImage.recorded
  exact absurd (entries (entry 3) (by decide) (by decide)) (by decide)

end Sample

end LagrangeDb.Raft
