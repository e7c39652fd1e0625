import LagrangeDb.Transaction.TaskSafe

namespace LagrangeDb.Transaction

open Data LagrangeDb.Participant
open Data.Program (Safe)

/-! The building blocks of the operations.  Each lemma says what becomes of the
part of the memory the operation owns. -/

variable {setting : Setting} {α : Type}
  {post : Scene setting → Except Failure α → Prop} {scene : Scene setting}

theorem safe_updateTx {change : Tx → Tx} {rest : Unit → Prog α}
    (coreChange : Core → Core) (hchange : ∀ memory : Memory,
      Memory.core { memory with tx := change memory.tx } =
        coreChange memory.core)
    (hplaces : ∀ tx, (change tx).participants = tx.participants)
    (hcore : ∀ cluster, scene.cluster.Grows cluster →
      scene.core.Sound cluster → (coreChange scene.core).Sound cluster)
    (hnext : ∀ after, Reached scene after → after.core = coreChange scene.core →
      SafeBy .operation post (rest ()) after) :
    SafeBy .operation post (updateTx change >>= rest) scene := by
  have hcoreAfter : ∀ before : Scene setting, Later .operation scene before →
      Memory.core { before.memory with tx := change before.memory.tx } =
        coreChange scene.core := by
    intro before hlater
    exact (hchange before.memory).trans (congrArg coreChange (hlater.core rfl))
  have hkeeps : ∀ memory : Memory,
      memory.Keeps { memory with tx := change memory.tx } := by
    intro memory
    refine ⟨fun _ participant hlookup => ⟨participant, hlookup, rfl⟩, ?_⟩
    intro partitionId hmem
    simp only [Memory.core, hplaces]
    exact hmem
  change SafeBy .operation post
    (updateMemory (fun memory => { memory with tx := change memory.tx }) >>=
      fun _ => rest ()) scene
  refine safe_update ?_ ?_
  · intro before hlater
    refine ⟨⟨?_, hlater.sound.2.placed.withTx (hplaces _)⟩,
      hkeeps before.memory, fun hparty => by cases hparty⟩
    rw [hcoreAfter before hlater]
    refine hcore before.cluster hlater.grows.cluster ?_
    rw [← hlater.core rfl]
    exact hlater.sound.core
  · intro before hlater hsound
    exact hnext _ ⟨hlater.grows.trans ⟨.refl _, hkeeps before.memory⟩, hsound⟩
      (hcoreAfter before hlater)

namespace Core

def noted (core : Core) (status : Status) : Core :=
  if status = .committing ∨ core.status = .committing then
    { core with commitPointReached := true }
  else core

def withStatus (core : Core) (status : Status) : Core :=
  { core with status }

def reached (core : Core) : Bool :=
  core.commitPointReached || core.status = .committing || core.status = .committed

structure Frame (before after : Core) : Prop where
  participantSetState : after.participantSetState = before.participantSetState
  participantSetText : after.participantSetText = before.participantSetText
  keys : after.keys = before.keys
  decision : after.decision = before.decision
  recoveryDiscovered : after.recoveryDiscovered = before.recoveryDiscovered

theorem Frame.refl (core : Core) : core.Frame core := ⟨rfl, rfl, rfl, rfl, rfl⟩

theorem Frame.trans {first second third : Core} (h : first.Frame second)
    (hnext : second.Frame third) : first.Frame third :=
  ⟨hnext.participantSetState.trans h.participantSetState,
    hnext.participantSetText.trans h.participantSetText,
    hnext.keys.trans h.keys, hnext.decision.trans h.decision,
    hnext.recoveryDiscovered.trans h.recoveryDiscovered⟩

variable {before after : Core}

theorem Grounded.frame (h : before.Grounded) (hframe : before.Frame after) : after.Grounded := by
  refine ⟨hframe.participantSetState.trans h.frozen, ?_⟩
  intro partitionId hmem
  rw [hframe.participantSetText] at hmem
  rw [hframe.keys]
  exact h.covers partitionId hmem

theorem noted_frame (core : Core) (status : Status) : core.Frame (core.noted status) := by
  unfold noted
  split <;> exact ⟨rfl, rfl, rfl, rfl, rfl⟩

@[simp] theorem noted_status (core : Core) (status : Status) :
    (core.noted status).status = core.status := by
  unfold noted
  split <;> rfl

@[simp] theorem noted_ended (core : Core) (status : Status) :
    (core.noted status).ended = core.ended := by
  unfold noted
  split <;> rfl

theorem Sound.frame {cluster : Cluster setting} (h : before.Sound cluster)
    (hframe : before.Frame after)
    (hprepared : after.recoveryDiscovered = false → after.status = .prepared → after.Grounded)
    (hended : after.ended = some false → cluster.Decided .rollback) : after.Sound cluster where
  decided record hrecord := h.decided record (hframe.decision ▸ hrecord)
  admitted partitionId hmem := by
    rw [hframe.participantSetText] at hmem
    exact h.admitted partitionId hmem
  frozen hfrozen := by
    rw [hframe.participantSetState] at hfrozen
    rw [hframe.participantSetText]
    exact h.frozen hfrozen
  prepared := hprepared
  ended := hended

end Core

theorem noteCommitPoint_core (memory : Memory) (status : Status) : Memory.core { memory with
      tx := { noteCommitPoint memory.tx status with status } } =
      (memory.core.noted status).withStatus status := by
  unfold noteCommitPoint Core.noted
  split <;> (split <;> first | rfl | contradiction)

theorem persistTransactionRecord_safe (status : Status) : SafeBy .operation
      (fun final _ => final.core = scene.core)
      (persistTransactionRecord status) scene := by
  refine safe_mutate (fun _ _ => trivial) ?_
  intro now after answer hnow hwritten
  have hsame : after.core = scene.core := by rw [← hnow.core rfl, Scene.core, hwritten.memory]
  cases answer with
  | none => exact hsame
  | some changed => exact hsame

theorem setTransactionStatus_safe {status : Status}
    (hprepared : status = .prepared → scene.core.recoveryDiscovered = false →
      scene.core.Grounded) : SafeBy .operation (fun final result => final.core =
        match result with
        | .ok _ => (scene.core.noted status).withStatus status
        | .error _ => scene.core.noted status)
      (setTransactionStatus status) scene := by
  have hnoted := scene.core.noted_frame status
  have hframe : scene.core.Frame ((scene.core.noted status).withStatus status) :=
    ⟨hnoted.participantSetState, hnoted.participantSetText, hnoted.keys,
      hnoted.decision, hnoted.recoveryDiscovered⟩
  unfold setTransactionStatus
  refine safe_read fun before hlater => ?_
  have hread : before.core = scene.core := hlater.core rfl
  refine safe_updateTx (fun core => (core.noted status).withStatus status)
    (fun memory => noteCommitPoint_core memory status) ?_ ?_ ?_
  · intro tx
    unfold noteCommitPoint
    split <;> rfl
  · intro cluster hgrows hcore
    rw [hread] at hcore ⊢
    refine hcore.frame hframe ?_ ?_
    · intro hdiscovered hstatus
      rw [hframe.recoveryDiscovered] at hdiscovered
      exact (hprepared hstatus hdiscovered).frame hframe
    · intro hended
      exact hcore.ended ((scene.core.noted_ended status).symm.trans hended)
  intro set hset hcoreSet
  rw [hread] at hcoreSet
  refine safe_handle hset.sound (persistTransactionRecord_safe status) ?_ ?_
  · intro final value _ hfinal
    exact hfinal.trans hcoreSet
  intro failed failure hfailed hfinal
  have hcoreFailed := hfinal.trans hcoreSet
  have hrestored : (failed.core.withStatus scene.core.status) =
      scene.core.noted status := by
    rw [hcoreFailed, ← scene.core.noted_status status]
    rfl
  refine safe_updateTx (fun core => core.withStatus scene.core.status) ?_ (fun _ => rfl) ?_ ?_
  · intro memory
    rw [← hread]
    rfl
  · intro cluster hgrows hcore
    rw [hrestored]
    rw [hcoreFailed] at hcore
    have hbefore := hlater.sound.core
    rw [hread] at hbefore
    refine hcore.frame ⟨rfl, rfl, rfl, rfl, rfl⟩ ?_ hcore.ended
    intro hdiscovered hstatus
    rw [hnoted.recoveryDiscovered] at hdiscovered
    rw [Core.noted_status] at hstatus
    exact (hbefore.prepared hdiscovered hstatus).frame hnoted
  · intro after hafter hcoreAfter
    exact hcoreAfter.trans hrestored

variable {memory : Memory} {cluster : Cluster setting}

theorem Memory.Placed.mem_participants
    (h : memory.Placed cluster) (hmem : participant ∈ memory.participants) :
    participant.partitionId ∈ memory.core.keys ∧
      cluster.Backed participant.partitionId participant.preparedDigest := by
  obtain ⟨⟨partitionId, reference⟩, hentry, hlookup⟩ := List.mem_filterMap.mp hmem
  have hplace : memory.tx.participants.lookup partitionId = some reference :=
    AList.mem_lookup_iff.mpr hentry
  obtain ⟨found, hfound, hname⟩ := h.participants partitionId reference hplace
  rw [hfound] at hlookup
  cases hlookup
  refine ⟨?_, (h.records reference participant hfound).2⟩
  rw [hname]
  exact AList.lookup_isSome.mp (by rw [hplace]; rfl)

variable {partitionId : String}

theorem Memory.Placed.mem_participantKeysWhere
    (h : memory.Placed cluster) (hmem : partitionId ∈ participantKeysWhere memory selected) :
    partitionId ∈ memory.core.keys := by
  obtain ⟨participant, hparticipant, rfl⟩ := List.mem_map.mp (Text.mem_sort.mp hmem)
  exact (h.mem_participants (List.mem_of_mem_filter hparticipant)).1

theorem executeParticipantStage_safe {stage : Stage} {keys : List String}
    (hprepare : stage = .prepare → scene.core.participantSetState = .frozen ∧
      ∀ partitionId, partitionId ∈ keys → partitionId ∈ scene.core.keys) :
    SafeBy .operation (fun final _ => final.core = scene.core)
      (executeParticipantStage stage keys skipBudgetEnforcement) scene := by
  unfold executeParticipantStage
  refine safe_read fun before hlater => ?_
  refine safe_stage ?_ ?_
  · intro now hnow task hmem
    obtain ⟨partitionId, hkey, rfl⟩ := List.mem_map.mp hmem
    intro hstage
    obtain ⟨hfrozen, hkeys⟩ := hprepare hstage
    have hcore : now.core = scene.core := (hnow.core rfl).trans (hlater.core rfl)
    have hin : partitionId ∈ now.core.keys := by
      split at hkey
      · exact hnow.grows.memory.keys (AList.mem_keys.mp hkey)
      · rw [hcore]
        exact hkeys partitionId hkey
    refine ⟨(hnow.sound.core.frozen ?_).1, hnow.sound.2.placed.admitted hin⟩
    rw [hcore]
    exact hfrozen
  · intro after answer hafter
    have hsame : after.core = scene.core := (hafter.core rfl).trans (hlater.core rfl)
    cases answer with
    | ok failed => exact hsame
    | error failure => exact hsame

theorem runPrepareStage_safe
    (hfrozen : scene.core.participantSetState = .frozen) : SafeBy .operation
      (fun final _ => final.core = scene.core)
      (runPrepareStage skipBudgetEnforcement) scene := by
  unfold runPrepareStage
  refine safe_read fun before hlater => ?_
  have hsame : before.core = scene.core := hlater.core rfl
  dsimp only
  split
  · exact hsame
  refine Safe.mono ?_ (executeParticipantStage_safe ?_)
  · intro final _ hfinal
    exact hfinal.trans hsame
  intro _
  refine ⟨hsame ▸ hfrozen, ?_⟩
  intro partitionId hmem
  exact hlater.sound.2.placed.mem_participantKeysWhere hmem

namespace Core

def withDecision (core : Core) (record : DecisionRecord) : Core :=
  { core with decision := some record }

def flagged (core : Core) : Core :=
  { core with commitPointReached := true }

variable {cluster : Cluster setting} {core : Core}

theorem Sound.withDecision {record : DecisionRecord} (h : core.Sound cluster)
    (hdecided : cluster.Decided record.body.decision) :
    (core.withDecision record).Sound cluster where
  decided other hother := by
    cases hother
    exact hdecided
  admitted := h.admitted
  frozen := h.frozen
  prepared hdiscovered hstatus := by
    obtain ⟨hfrozen, hcovers⟩ := h.prepared hdiscovered hstatus
    exact ⟨hfrozen, hcovers⟩
  ended := h.ended

theorem Sound.flagged (h : core.Sound cluster) : core.flagged.Sound cluster := by
  refine h.frame ⟨rfl, rfl, rfl, rfl, rfl⟩ ?_ h.ended
  intro hdiscovered hstatus
  exact (h.prepared hdiscovered hstatus).frame ⟨rfl, rfl, rfl, rfl, rfl⟩

def Recorded (before after : Core) : Recording → Prop
  | .recorded => ∃ record, after = before.withDecision record
  | .inDoubt => after = before.flagged

end Core

variable {record : DecisionRecord} {row : TransactionRow}

theorem decisionRecordOfRow_some (h : decisionRecordOfRow setting row = (state, some record)) :
    ∃ stored, row.decision = some stored ∧ stored.decision = record.body.decision := by
  unfold decisionRecordOfRow at h
  split at h
  · cases h
  next stored hstored =>
  split at h
  on_goal 2 => cases h
  next found hcanonical =>
  cases h
  exact ⟨stored, hstored, ((canonicalDecisionRecord_some _ hcanonical).decision _ rfl).symm⟩

theorem readTransactionDecisionForRegistry_safe : SafeBy .operation
      (fun final result => final.core = scene.core ∧
        ∃ state record, result = .ok (state, record) ∧
          ∀ found, record = some found → final.cluster.Decided found.body.decision)
      (readTransactionDecisionForRegistry setting) scene := by
  unfold readTransactionDecisionForRegistry
  refine safe_readRow fun before answer hlater hanswer => ?_
  have hread : before.core = scene.core := hlater.core rfl
  cases answer with
  | none => exact ⟨hread, .unavailable, none, rfl, fun _ h => by cases h⟩
  | some row =>
    obtain rfl := hanswer row rfl
    have hrow : ∀ record state,
        decisionRecordOfRow setting before.cluster.store.row = (state, some record) →
        before.cluster.Decided record.body.decision := by
      intro record state hrecord
      exact decisionRecordOfRow_some hrecord
    refine safe_read fun now hnow => ?_
    have hsame : now.core = scene.core := (hnow.core rfl).trans hread
    dsimp only
    split
    next record hrecord =>
      split
      · refine ⟨hsame, .recorded, some record, rfl, ?_⟩
        intro found hfound
        cases hfound
        exact (hrow record _ hrecord).grows hnow.grows.cluster
      · exact ⟨hsame, .invalid, none, rfl, fun _ h => by cases h⟩
    · refine ⟨hsame, _, _, rfl, ?_⟩
      intro found hfound
      exact (hrow found _ (Prod.ext rfl hfound)).grows hnow.grows.cluster

theorem adoptRecordedTransactionDecision_safe (hsound : scene.Sound) : SafeBy .operation
      (fun final result => ∃ recording, result = .ok recording ∧
        scene.core.Recorded final.core recording)
      (adoptRecordedTransactionDecision setting) scene := by
  unfold adoptRecordedTransactionDecision
  refine safe_seq hsound readTransactionDecisionForRegistry_safe ?_ ?_
  · rintro read ⟨state, record⟩ hread ⟨hsame, _, found, hvalue, hdecided⟩
    cases hvalue
    cases record with
    | some record =>
      refine safe_updateTx (fun core => core.withDecision record)
        (fun _ => rfl) (fun _ => rfl) ?_ ?_
      · intro cluster hgrows hcore
        exact hcore.withDecision ((hdecided record rfl).grows hgrows)
      · intro after _ hafter
        exact ⟨.recorded, rfl, record, by rw [hafter, hsame]⟩
    | none =>
      refine safe_updateTx Core.flagged (fun _ => rfl) (fun _ => rfl)
        (fun _ _ hcore => hcore.flagged) ?_
      intro after _ hafter
      exact ⟨.inDoubt, rfl, by rw [hafter, hsame]; rfl⟩
  · rintro read failure hread ⟨_, _, _, hvalue, _⟩
    cases hvalue

theorem Memory.Placed.participant_of_key (h : memory.Placed cluster)
    (hmem : partitionId ∈ memory.core.keys) :
    ∃ participant, participant ∈ memory.participants ∧ participant.partitionId = partitionId := by
  obtain ⟨reference, hplace⟩ := Option.isSome_iff_exists.mp (AList.lookup_isSome.mpr hmem)
  obtain ⟨participant, hlookup, hname⟩ := h.participants partitionId reference hplace
  refine ⟨participant, ?_, hname⟩
  exact List.mem_filterMap.mpr ⟨⟨partitionId, reference⟩, AList.mem_lookup_iff.mp hplace, hlookup⟩

variable {decision : Decision}

theorem buildTransactionDecisionRecord_ok (hplaced : memory.Placed cluster)
    (hgrounded : decision = .commit → memory.core.Grounded)
    (h : buildTransactionDecisionRecord setting memory decision = .ok record) :
    record.body.decision = decision ∧ cluster.Supports memory.tx.participantSetText decision := by
  unfold buildTransactionDecisionRecord at h
  split at h
  on_goal 2 => cases h
  next found hbuilt =>
  cases h
  obtain ⟨hdecision, hdigests⟩ := buildDecisionRecord_some _ hbuilt
  refine ⟨hdecision, ?_⟩
  intro hcommit partitionId hmem
  obtain ⟨participant, hparticipant, rfl⟩ :=
    hplaced.participant_of_key ((hgrounded hcommit).covers partitionId hmem)
  refine (hplaced.mem_participants hparticipant).2 ?_
  have hentry := hdigests hcommit _ (mem_sortEntries.mpr
    (List.mem_map.mpr ⟨participant, hparticipant, rfl⟩))
  obtain ⟨digest, hdigest⟩ := Option.isSome_iff_exists.mp hentry
  rw [(Option.filter_eq_some_iff.mp hdigest).1]
  rfl

variable {text : List String}

theorem persistTransactionDecision_safe
    (hsupports : scene.cluster.Supports text record.body.decision) :
    SafeBy .operation (fun final result => final.core = scene.core ∧
        (result.isOk = true → final.cluster.Decided record.body.decision))
      (persistTransactionDecision text record) scene := by
  refine safe_mutate ?_ ?_
  · intro before hlater
    exact hsupports.grows hlater.grows.cluster
  intro before after answer hlater hwritten
  have hsame : after.core = scene.core := by rw [← hlater.core rfl, Scene.core, hwritten.memory]
  split
  · refine ⟨hsame, fun _ => ?_⟩
    exact ⟨_, (hwritten.changed rfl).decided, rfl⟩
  · exact ⟨hsame, fun hok => by cases hok⟩

theorem recordTransactionDecision_safe
    (hgrounded : decision = .commit → scene.core.Grounded) : SafeBy .operation (fun final result =>
        match result with
        | .ok recording => scene.core.Recorded final.core recording
        | .error _ => final.core = scene.core ∧ scene.core.decision = none)
      (recordTransactionDecision setting decision) scene := by
  have hadopt : ∀ now : Scene setting, now.Sound → now.core = scene.core →
      SafeBy .operation
        (fun final result =>
          match result with
          | .ok recording => scene.core.Recorded final.core recording
          | .error _ => final.core = scene.core ∧ scene.core.decision = none)
        (adoptRecordedTransactionDecision setting) now := by
    intro now hsound hsame
    refine Safe.mono ?_ (adoptRecordedTransactionDecision_safe hsound)
    rintro final result ⟨recording, rfl, hrecorded⟩
    exact hsame ▸ hrecorded
  unfold recordTransactionDecision
  refine safe_read fun before hlater => ?_
  have hread : before.core = scene.core := hlater.core rfl
  split
  next hsome =>
    obtain ⟨record, hrecord⟩ := Option.isSome_iff_exists.mp hsome
    refine ⟨record, ?_⟩
    rw [← hread]
    show before.core = { before.core with decision := some record }
    rw [← hrecord]
    rfl
  next hnone =>
  have hundecided : scene.core.decision = none := by
    rw [← hread]
    exact Option.not_isSome_iff_eq_none.mp hnone
  split
  · exact hadopt before hlater.sound hread
  refine safe_raise ?_ (fun _ _ => ⟨hread, hundecided⟩)
  intro record hbuilt
  have hground : decision = .commit → before.core.Grounded := by
    rw [hread]
    exact hgrounded
  obtain ⟨hdecision, hsupports⟩ := buildTransactionDecisionRecord_ok
    hlater.sound.2.placed hground hbuilt
  rw [← hdecision] at hsupports
  refine safe_attempt hlater.sound (persistTransactionDecision_safe hsupports) ?_
  rintro final result hfinal ⟨hsame, hdecided⟩
  cases result with
  | ok _ =>
    refine safe_updateTx (fun core => core.withDecision record) (fun _ => rfl) (fun _ => rfl) ?_ ?_
    · intro cluster hgrows hcore
      exact hcore.withDecision ((hdecided rfl).grows hgrows)
    · intro after _ hafter
      exact ⟨record, by rw [hafter, hsame, hread]⟩
  | error _ => exact hadopt final hfinal.sound (hsame.trans hread)

variable {state : ParticipantSetState}

theorem participantSetRow_iff (h : (row.participantSetText = text &&
      row.participantSetState = state && row.commitMode = commitMode &&
      row.frozenParticipantCount = count && !(state = .opened && row.decision.isSome)) = true) :
    row.participantSetText = text ∧ row.participantSetState = state := by
  simp only [Bool.and_eq_true, decide_eq_true_eq] at h
  exact ⟨h.1.1.1.1, h.1.1.1.2⟩

/-- A set that was written stands in the row, and a frozen one for good. -/
def Cluster.HoldsSet (cluster : Cluster setting) (text : List String)
    (state : ParticipantSetState) : Prop :=
  (∀ partitionId, partitionId ∈ text → cluster.Admitted partitionId) ∧
    (state = .frozen → cluster.Frozen ∧ cluster.store.row.participantSetText = text)

theorem Cluster.holdsSet_of_row (htext : cluster.store.row.participantSetText = text)
    (hstate : cluster.store.row.participantSetState = state) : cluster.HoldsSet text state := by
  subst htext hstate
  exact ⟨fun _ hmem => hmem, fun hfrozen => ⟨hfrozen, rfl⟩⟩

theorem Cluster.HoldsSet.grows {before after : Cluster setting}
    (h : before.HoldsSet text state) (hgrows : before.Grows after) : after.HoldsSet text state := by
  refine ⟨fun partitionId hmem => hgrows.admitted _ (h.1 partitionId hmem), ?_⟩
  intro hfrozen
  obtain ⟨hbefore, htext⟩ := h.2 hfrozen
  obtain ⟨hafter, hsame⟩ := hgrows.frozen hbefore
  exact ⟨hafter, hsame.trans htext⟩

theorem persistTransactionParticipantSet_safe (hsubset : previousText ⊆ text) : SafeBy .operation
      (fun final result => final.core = scene.core ∧
        (result.isOk = true → final.cluster.HoldsSet text state))
      (persistTransactionParticipantSet text previousText state commitMode count) scene := by
  unfold persistTransactionParticipantSet
  split
  · exact ⟨rfl, fun hok => by cases hok⟩
  refine safe_mutate (fun _ _ => hsubset) ?_
  intro before after answer hlater hwritten
  have hsame : after.core = scene.core := by rw [← hlater.core rfl, Scene.core, hwritten.memory]
  split
  next hchanged =>
    obtain ⟨htext, hstate⟩ := (hwritten.changed hchanged).admitted
    exact ⟨hsame, fun _ => Cluster.holdsSet_of_row htext hstate⟩
  refine safe_readRow fun now row hnow hrow => ?_
  have hcore : now.core = scene.core := (hnow.core rfl).trans hsame
  split
  · split <;> exact ⟨hcore, fun hok => by cases hok⟩
  next hfound =>
  refine ⟨hcore, fun _ => ?_⟩
  cases row with
  | none => simp at hfound
  | some row =>
    obtain rfl := hrow row rfl
    obtain ⟨htext, hstate⟩ :=
      participantSetRow_iff (by simpa only [Option.any_some,
        Bool.not_eq_true', Bool.not_eq_false] using hfound)
    exact Cluster.holdsSet_of_row htext hstate

namespace Core

def discovered (core : Core) : Core :=
  { core with recoveryDiscovered := true }

theorem Sound.discovered {core : Core} (h : core.Sound cluster) :
    core.discovered.Sound cluster where
  decided := h.decided
  admitted := h.admitted
  frozen := h.frozen
  prepared hdiscovered := by cases hdiscovered
  ended := h.ended

end Core

theorem persistAdmittedParticipantSet_safe
    (hsubset : scene.core.participantSetText ⊆ text) : SafeBy .operation (fun final result =>
        match result with
        | .ok _ => final.core = scene.core ∧
            final.cluster.HoldsSet text state
        | .error _ => final.core = scene.core.discovered)
      (persistAdmittedParticipantSet text state commitMode count) scene := by
  unfold persistAdmittedParticipantSet
  refine safe_read fun before hlater => ?_
  have hread : before.core = scene.core := hlater.core rfl
  have hprevious : before.memory.tx.participantSetText ⊆ text := by
    rw [← hread] at hsubset
    exact hsubset
  refine safe_handle hlater.sound (persistTransactionParticipantSet_safe hprevious) ?_ ?_
  · rintro final value _ ⟨hsame, hholds⟩
    exact ⟨hsame.trans hread, hholds rfl⟩
  rintro failed failure _ ⟨hsame, -⟩
  refine safe_updateTx Core.discovered (fun _ => rfl) (fun _ => rfl)
    (fun _ _ hcore => hcore.discovered) ?_
  intro after _ hafter
  show after.core = scene.core.discovered
  rw [hafter, hsame, hread]

namespace Core

def frozenSet (core : Core) : Core :=
  { core with participantSetState := .frozen }

theorem Sound.frozenSet {core : Core} (h : core.Sound cluster)
    (hholds : cluster.HoldsSet core.participantSetText .frozen) : core.frozenSet.Sound cluster where
  decided := h.decided
  admitted := h.admitted
  frozen _ := hholds.2 rfl
  prepared hdiscovered hstatus := ⟨rfl, (h.prepared hdiscovered hstatus).covers⟩
  ended := h.ended

end Core

theorem freezeParticipantSet_safe : SafeBy .operation (fun final result =>
        match result with
        | .ok _ => final.core = scene.core.frozenSet ∧ final.core.Grounded
        | .error _ => final.core = scene.core ∨
            final.core = scene.core.discovered)
      freezeParticipantSet scene := by
  unfold freezeParticipantSet
  refine safe_read fun before hlater => ?_
  have hread : before.core = scene.core := hlater.core rfl
  dsimp only
  split
  · exact .inl hread
  next pairs hpairs =>
  split
  · exact .inl hread
  next hexact =>
  obtain ⟨rfl, -⟩ := readParticipantSet_some hpairs
  have hcovers : ∀ partitionId, partitionId ∈ before.core.participantSetText →
      partitionId ∈ before.core.keys := by
    intro partitionId hmem
    simp only [Bool.or_eq_true, List.any_eq_true, not_or, not_exists, not_and] at hexact
    have hplace := hexact.2 partitionId hmem
    refine AList.lookup_isSome.mp (Option.isSome_iff_ne_none.mpr ?_)
    simpa using hplace
  split
  next hfrozen =>
    have hsame : scene.core.frozenSet = before.core := by
      rw [← hread]
      show { before.core with participantSetState := .frozen } = before.core
      rw [← hfrozen]
      rfl
    exact ⟨hsame.symm, hfrozen, hcovers⟩
  refine safe_seq hlater.sound (persistAdmittedParticipantSet_safe (List.Subset.refl _)) ?_ ?_
  · rintro held _ hheld ⟨hsame, hholds⟩
    rw [← Program.bind_pure (updateTx _)]
    refine safe_updateTx Core.frozenSet (fun _ => rfl) (fun _ => rfl) ?_ ?_
    · intro cluster hgrows hcore
      refine hcore.frozenSet ?_
      rw [hsame]
      exact hholds.grows hgrows
    · intro after _ hafter
      rw [hsame] at hafter
      refine ⟨by rw [hafter, hread], ?_⟩
      rw [hafter]
      exact ⟨rfl, hcovers⟩
  · rintro failed failure _ hfailed
    exact .inr (hfailed.trans (congrArg Core.discovered hread))

end LagrangeDb.Transaction
