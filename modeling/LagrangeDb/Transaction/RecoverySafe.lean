import LagrangeDb.Transaction.ProtocolSafe

namespace LagrangeDb.Transaction

open Data LagrangeDb.Participant
open Data.Program (Safe)

/-! Enlistment, the authoritative read and the operations keep the
discipline. -/

variable {setting : Setting} {scene : Scene setting} {cluster : Cluster setting}
  {keys : Set String} {core : Core}

theorem Core.Sound.moreKeys (h : core.Sound cluster)
    (hsubset : core.keys ⊆ keys) : Core.Sound { core with keys } cluster where
  decided := h.decided
  admitted := h.admitted
  frozen := h.frozen
  prepared hdiscovered hstatus := by
    obtain ⟨hfrozen, hcovers⟩ := h.prepared hdiscovered hstatus
    exact ⟨hfrozen, fun partitionId hmem => hsubset (hcovers partitionId hmem)⟩
  ended := h.ended

structure Memory.Installed (before after : Memory) (added : Set String)
    (cluster : Cluster setting) : Prop where
  placed : after.Placed cluster
  keeps : before.Keeps after
  core : after.core = { before.core with keys := before.core.keys ∪ added }

variable {memory : Memory}

theorem Memory.Installed.refl (h : memory.Placed cluster) : memory.Installed memory ∅ cluster :=
  ⟨h, .refl _, by rw [Set.union_empty]⟩

theorem Memory.Installed.step {before after : Memory}
    (participant : Participant) (hplaced : before.Placed cluster)
    (h : (before.install participant).Installed after added cluster) :
    before.Installed after ({participant.partitionId} ∪ added) cluster := by
  refine ⟨h.placed, (hplaced.install_keeps participant).trans h.keeps, ?_⟩
  rw [h.core, Memory.install_core]
  have : insert participant.partitionId before.core.keys ∪ added =
      before.core.keys ∪ ({participant.partitionId} ∪ added) := by
    ext partitionId
    simp only [Set.mem_union, Set.mem_insert_iff, Set.mem_singleton_iff]
    tauto
  exact congrArg (fun keys => { before.core with keys }) this

theorem Memory.Placed.installAll (participants : List Participant) (h : memory.Placed cluster)
    (hall : ∀ participant, participant ∈ participants → cluster.Admitted participant.partitionId ∧
        cluster.Backed participant.partitionId participant.preparedDigest) :
    memory.Installed (participants.foldl Memory.install memory)
      { partitionId | ∃ participant, participant ∈ participants ∧
        participant.partitionId = partitionId } cluster := by
  induction participants generalizing memory with
  | nil =>
    have hnone : { partitionId : String | ∃ participant,
        participant ∈ ([] : List Participant) ∧ participant.partitionId = partitionId } = ∅ := by
      ext partitionId
      simp
    rw [hnone]
    exact .refl h
  | cons participant rest ih =>
    obtain ⟨hadmitted, hbacked⟩ := hall participant List.mem_cons_self
    have hrest := ih (h.install hadmitted hbacked)
      (fun other hmem => hall other (List.mem_cons_of_mem _ hmem))
    have hadded : { partitionId | ∃ other,
        other ∈ participant :: rest ∧ other.partitionId = partitionId } =
        {participant.partitionId} ∪ { partitionId | ∃ other,
          other ∈ rest ∧ other.partitionId = partitionId } := by
      ext partitionId
      simp only [List.mem_cons, Set.mem_union, Set.mem_singleton_iff, Set.mem_ofPred_eq]
      constructor
      · rintro ⟨other, rfl | hmem, rfl⟩
        · exact .inl rfl
        · exact .inr ⟨other, hmem, rfl⟩
      · rintro (rfl | ⟨other, hmem, rfl⟩)
        · exact ⟨participant, .inl rfl, rfl⟩
        · exact ⟨other, .inr hmem, rfl⟩
    rw [hadded]
    exact .step participant h hrest

theorem mem_participantSetTextOf :
    partitionId ∈ participantSetTextOf partitionIds ↔ partitionId ∈ partitionIds := by
  rw [participantSetTextOf, Text.mem_sort, List.mem_dedup]

theorem Memory.Placed.retain (text : List String) (h : memory.Placed cluster)
    (hadmitted : ∀ partitionId, partitionId ∈ text →
      cluster.Admitted partitionId) : memory.Installed (memory.retain text)
      { partitionId | partitionId ∈ text } cluster := by
  induction text generalizing memory with
  | nil =>
    have hnone : { partitionId : String | partitionId ∈ ([] : List String) } =
        ∅ := by
      ext partitionId
      simp
    rw [hnone]
    exact .refl h
  | cons partitionId rest ih =>
    have hrest : ∀ other, other ∈ rest → cluster.Admitted other :=
      fun other hmem => hadmitted other (List.mem_cons_of_mem _ hmem)
    have hadded : { other | other ∈ partitionId :: rest } =
        {partitionId} ∪ { other | other ∈ rest } := by
      ext other
      simp only [List.mem_cons, Set.mem_union, Set.mem_singleton_iff, Set.mem_ofPred_eq]
    rw [hadded]
    simp only [Memory.retain, List.foldl_cons]
    split
    next hplace =>
      have hinstalled := ih h hrest
      have hmem : partitionId ∈ memory.core.keys := AList.lookup_isSome.mp hplace
      refine ⟨hinstalled.placed, hinstalled.keeps, ?_⟩
      refine hinstalled.core.trans ?_
      have hkeys : memory.core.keys ∪ { other | other ∈ rest } =
          memory.core.keys ∪ ({partitionId} ∪ { other | other ∈ rest }) := by
        ext other
        simp only [Set.mem_union, Set.mem_singleton_iff]
        constructor
        · tauto
        rintro (hkey | rfl | hrest)
        · exact .inl hkey
        · exact .inl hmem
        · exact .inr hrest
      exact congrArg (fun keys => { memory.core with keys }) hkeys
    · have hhead := hadmitted partitionId List.mem_cons_self
      have hbacked : cluster.Backed partitionId none := fun hsome => by cases hsome
      exact Memory.Installed.step { partitionId } h (ih (h.install hhead hbacked) hrest)

def Core.withText (core : Core) (text : List String) : Core :=
  { core with participantSetText := text }

theorem Core.Sound.withText (h : core.Sound cluster) (hopened : core.participantSetState = .opened)
    (hadmitted : ∀ partitionId, partitionId ∈ text → cluster.Admitted partitionId) :
    (core.withText text).Sound cluster where
  decided := h.decided
  admitted := hadmitted
  frozen hfrozen := by cases hopened.symm.trans hfrozen
  prepared hdiscovered hstatus := by
    cases hopened.symm.trans (h.prepared hdiscovered hstatus).frozen
  ended := h.ended

theorem retain_safe (hadmitted : ∀ partitionId, partitionId ∈ text →
      scene.cluster.Admitted partitionId) (hsubset : partitionIds ⊆ text) :
    SafeBy .operation (fun final result => result.isOk = true →
        ∀ partitionId, partitionId ∈ partitionIds → partitionId ∈ final.core.keys)
      (do let _ ← updateMemory fun memory => memory.retain text) scene := by
  have hinstalled : ∀ before : Scene setting, Later .operation scene before →
      before.memory.Installed (before.memory.retain text)
        { partitionId | partitionId ∈ text } before.cluster := by
    intro before hlater
    refine hlater.sound.2.placed.retain text ?_
    exact fun partitionId hmem => hlater.grows.cluster.admitted _ (hadmitted partitionId hmem)
  refine safe_update ?_ ?_
  · intro before hlater
    obtain ⟨hplaced, hkeeps, hcore⟩ := hinstalled before hlater
    refine ⟨⟨?_, hplaced⟩, hkeeps, fun hparty => by cases hparty⟩
    rw [hcore]
    exact hlater.sound.core.moreKeys Set.subset_union_left
  · intro before hlater _ _ partitionId hmem
    show partitionId ∈ (before.memory.retain text).core.keys
    rw [(hinstalled before hlater).core]
    exact .inr (hsubset hmem)

theorem retainParticipantSet_safe
    (hopened : scene.core.participantSetState = .opened) : SafeBy .operation
      (fun final result => result.isOk = true →
        ∀ partitionId, partitionId ∈ partitionIds → partitionId ∈ final.core.keys)
      (retainParticipantSet partitionIds) scene := by
  unfold retainParticipantSet
  refine safe_read fun before hlater => ?_
  have hread : before.core = scene.core := hlater.core rfl
  dsimp only
  split
  · exact fun hok => by cases hok
  next prior hprior =>
  obtain ⟨rfl, -⟩ := readParticipantSet_some hprior
  have hrequested : partitionIds ⊆ participantSetTextOf
      (before.memory.tx.participantSetText ++ partitionIds) :=
    fun _ h => mem_participantSetTextOf.mpr (List.mem_append_right _ h)
  have hsubset : before.core.participantSetText ⊆ participantSetTextOf
      (before.memory.tx.participantSetText ++ partitionIds) :=
    fun _ h => mem_participantSetTextOf.mpr (List.mem_append_left _ h)
  split
  · refine safe_seq hlater.sound (persistAdmittedParticipantSet_safe hsubset)
      ?_ (fun _ _ _ _ hok => by cases hok)
    rintro held _ hheld ⟨hsame, hholds, -⟩
    refine safe_updateTx (fun core => core.withText _) (fun _ => rfl) (fun _ => rfl) ?_ ?_
    · intro cluster hgrows hcore
      refine hcore.withText ?_
        (fun partitionId hpartition => hgrows.admitted _ (hholds partitionId hpartition))
      rw [hsame, hread]
      exact hopened
    · intro after hafter _
      refine retain_safe ?_ hrequested
      exact fun partitionId hpartition =>
        hafter.grows.cluster.admitted _ (hholds partitionId hpartition)
  next hsame =>
    refine retain_safe ?_ hrequested
    rw [not_not.mp hsame]
    exact hlater.sound.core.admitted

theorem enlistParticipantsOwned_safe : SafeBy .operation (fun _ _ => True)
      (enlistParticipantsOwned partitionIds) scene := by
  unfold enlistParticipantsOwned
  refine safe_read fun before hlater => ?_
  split
  · trivial
  split
  · trivial
  split
  · trivial
  next hopened =>
  refine safe_seq hlater.sound
    (retainParticipantSet_safe (not_not.mp hopened)) ?_ (fun _ _ _ _ => trivial)
  intro retained _ hretained hkeys
  refine safe_read fun found hfound => ?_
  refine safe_stage ?_ ?_
  · intro now hnow task hmem
    obtain ⟨partitionId, hpartition, rfl⟩ := List.mem_map.mp hmem
    have hrequested := (List.mem_filter.mp hpartition).1
    refine ⟨?_, ?_⟩
    · exact (hfound.grows.trans hnow.grows).memory.keys (hkeys rfl partitionId hrequested)
    intro reference hplace
    exact (hfound.sound.2.placed.participants partitionId reference
      hplace).keeps hnow.grows.memory
  · intro now answer _
    refine safe_raise ?_ (fun _ _ => trivial)
    intro _ _
    exact safe_read fun _ _ => trivial

structure Cluster.Saw (cluster : Cluster setting) (row : TransactionRow) :
    Prop where
  decided : ∀ stored, row.decision = some stored → cluster.Decided stored.decision
  admitted : ∀ partitionId, partitionId ∈ row.participantSetText → cluster.Admitted partitionId
  frozen : row.participantSetState = .frozen → cluster.Frozen ∧
    cluster.store.row.participantSetText = row.participantSetText

theorem Cluster.saw_row (cluster : Cluster setting) : cluster.Saw cluster.store.row :=
  ⟨fun stored hstored => ⟨stored, hstored, rfl⟩, fun _ hmem => hmem, fun hfrozen => ⟨hfrozen, rfl⟩⟩

variable {row : TransactionRow} {before after : Cluster setting}

theorem Cluster.Saw.grows (h : before.Saw row) (hgrows : before.Grows after) : after.Saw row where
  decided stored hstored := (h.decided stored hstored).grows hgrows
  admitted partitionId hmem := hgrows.admitted _ (h.admitted partitionId hmem)
  frozen hfrozen := by
    obtain ⟨hbefore, htext⟩ := h.frozen hfrozen
    obtain ⟨hafter, hsame⟩ := hgrows.frozen hbefore
    exact ⟨hafter, hsame.trans htext⟩

/-- What the authoritative rows prove to a coordinator with the given map. -/
structure Cluster.Authority (cluster : Cluster setting) (keys : Set String)
    (row : TransactionRow) (rows : ParticipantRecords) : Prop where
  saw : cluster.Saw row
  backed : ∀ partitionId record, rows.lookup partitionId = some record →
    cluster.Backed partitionId record.preparedDigest
  keys : ∀ partitionId, partitionId ∈ keys → partitionId ∈ row.participantSetText

variable {rows : ParticipantRecords}

theorem Cluster.Authority.grows (h : before.Authority keys row rows)
    (hgrows : before.Grows after) : after.Authority keys row rows where
  saw := h.saw.grows hgrows
  backed partitionId record hlookup := (h.backed partitionId record hlookup).grows hgrows
  keys := h.keys

theorem readTransactionRecoveryState_safe : SafeBy .operation
      (fun final result => final.core = scene.core ∧
        ∃ found, result = .ok found ∧
          ∀ row rows, found = some (row, rows) → final.cluster.Authority scene.core.keys row rows)
      readTransactionRecoveryState scene := by
  have hnothing : ∀ now : Scene setting, now.core = scene.core →
      now.core = scene.core ∧
        ∃ found, (Except.ok none : Except Failure
          (Option (TransactionRow × ParticipantRecords))) = .ok found ∧
          ∀ row rows, found = some (row, rows) → now.cluster.Authority scene.core.keys row rows :=
    fun now hsame => ⟨hsame, none, rfl, fun _ _ h => by cases h⟩
  unfold readTransactionRecoveryState
  refine safe_readRow fun before first hbefore hfirst => ?_
  have hbeforeCore : before.core = scene.core := hbefore.core rfl
  cases first with
  | none => exact hnothing before hbeforeCore
  | some first =>
  refine safe_readParticipants fun middle rows hmiddle hrows => ?_
  have hmiddleCore := (hmiddle.core rfl).trans hbeforeCore
  cases rows with
  | none => exact hnothing middle hmiddleCore
  | some rows =>
  obtain rfl := hrows rows rfl
  refine safe_readRow fun final row hfinal hrow => ?_
  have hfinalCore := (hfinal.core rfl).trans hmiddleCore
  cases row with
  | none => exact hnothing final hfinalCore
  | some row =>
  obtain rfl := hrow row rfl
  refine ⟨hfinalCore, _, rfl, ?_⟩
  intro row rows hfound
  split at hfound
  on_goal 2 => cases hfound
  cases hfound
  refine ⟨final.cluster.saw_row, ?_, ?_⟩
  · intro partitionId record hlookup
    exact (hmiddle.sound.1.participants partitionId record hlookup).2.grows
      hfinal.grows.cluster
  · intro partitionId hmem
    rw [← hfinalCore] at hmem
    exact hfinal.sound.2.placed.admitted hmem

theorem restoredParticipant_partitionId (rows : ParticipantRecords) (partitionId : String) :
    (restoredParticipant rows partitionId).partitionId = partitionId := by
  unfold restoredParticipant
  split
  · rfl
  split
  · rfl
  split <;> rfl

theorem restoredParticipant_backed
    (h : ∀ partitionId record, rows.lookup partitionId = some record →
      cluster.Backed partitionId record.preparedDigest) (partitionId : String) :
    cluster.Backed partitionId (restoredParticipant rows partitionId).preparedDigest := by
  unfold restoredParticipant
  split
  · exact fun hsome => by cases hsome
  next record hrecord =>
  split
  · exact fun hsome => by cases hsome
  next evidence hevidence =>
  split
  · refine fun _ => h partitionId record hrecord ?_
    unfold completePrepareEvidenceOf at hevidence
    split at hevidence
    next hdigest _ _ =>
      rw [hdigest]
      rfl
    · cases hevidence
  · exact fun hsome => by cases hsome

structure Candidate.Of (candidate : Candidate) (row : TransactionRow)
    (rows : ParticipantRecords) : Prop where
  authority : candidate.row = row
  participants : candidate.participants = row.participantSetText.map (restoredParticipant rows)
  decided : ∀ record, candidate.decision = some record →
    ∃ stored, row.decision = some stored ∧ stored.decision = record.body.decision

variable {candidate : Candidate}

theorem authorityCandidate_some
    (h : authorityCandidate setting tx row rows = some candidate) : candidate.Of row rows := by
  unfold authorityCandidate at h
  obtain ⟨pairs, hpairs, h⟩ := Option.bind_eq_some_iff.mp h
  obtain ⟨participants, hparticipants, h⟩ := Option.bind_eq_some_iff.mp h
  obtain ⟨rfl, -⟩ := readParticipantSet_some hpairs
  unfold restoredParticipants at hparticipants
  split at hparticipants
  on_goal 2 => cases hparticipants
  cases hparticipants
  rcases hread : decisionRecordOfRow setting row with ⟨state, decision⟩
  simp only [hread] at h
  split at h
  · cases h
  split at h
  · cases h
  split at h
  · cases h
  split at h
  on_goal 2 => cases h
  cases h
  refine ⟨rfl, rfl, ?_⟩
  rintro record rfl
  exact decisionRecordOfRow_some hread

theorem Memory.Sound.assign (h : memory.Sound cluster)
    (hauthority : cluster.Authority memory.core.keys row rows)
    (hcandidate : candidate.Of row rows) : (memory.assign candidate).Sound cluster ∧
      memory.Keeps (memory.assign candidate) := by
  obtain ⟨rfl, hparticipants, hdecided⟩ := hcandidate
  have hall : ∀ participant, participant ∈ candidate.participants →
      cluster.Admitted participant.partitionId ∧
        cluster.Backed participant.partitionId participant.preparedDigest := by
    intro participant hmem
    rw [hparticipants] at hmem
    obtain ⟨partitionId, hpartition, rfl⟩ := List.mem_map.mp hmem
    rw [restoredParticipant_partitionId]
    exact ⟨hauthority.saw.admitted partitionId hpartition,
      restoredParticipant_backed hauthority.backed partitionId⟩
  have hempty : Memory.Placed { memory with
      tx := { memory.tx with
        status := if candidate.row.participantSetState = .frozen then .preparing else .active
        participantSetState := candidate.row.participantSetState
        participantSetText := candidate.row.participantSetText
        commitMode := candidate.row.commitMode
        frozenParticipantCount := candidate.row.frozenParticipantCount
        participants := ∅
        decision := candidate.decision
        decisionReadState := some candidate.decisionReadState } } cluster :=
    ⟨h.placed.records, fun _ _ hlookup => by simp at hlookup,
      h.placed.fresh⟩
  obtain ⟨hplaced, hkeeps, hcore⟩ := hempty.installAll _ hall
  refine ⟨⟨?_, hplaced⟩, hkeeps.records, ?_⟩
  · unfold Memory.assign
    rw [hcore]
    refine ⟨?_, hauthority.saw.admitted, hauthority.saw.frozen, ?_, h.core.ended⟩
    · intro record hrecord
      obtain ⟨stored, hstored, hsame⟩ := hdecided record hrecord
      exact hsame ▸ hauthority.saw.decided stored hstored
    · intro _ hstatus
      simp only [Memory.core] at hstatus
      split at hstatus <;> cases hstatus
  · intro partitionId hmem
    unfold Memory.assign
    rw [hcore]
    refine .inr ⟨restoredParticipant rows partitionId, ?_,
      restoredParticipant_partitionId rows partitionId⟩
    rw [hparticipants]
    exact List.mem_map_of_mem (hauthority.keys partitionId hmem)

theorem refreshRecoveryAuthority_safe (hsound : scene.Sound) : SafeBy .operation (fun _ _ => True)
      (refreshRecoveryAuthority setting) scene := by
  unfold refreshRecoveryAuthority
  refine safe_seq hsound readTransactionRecoveryState_safe ?_ (fun _ _ _ _ => trivial)
  rintro read found hread ⟨hsame, _, hfound, hauthority⟩
  cases hfound
  split
  · exact safe_updateTx id (fun _ => rfl) (fun _ => rfl)
      (fun _ _ hcore => hcore) (fun _ _ _ => trivial)
  next row rows =>
  refine safe_update ?_ (fun _ _ _ => trivial)
  intro before hlater
  split
  · exact ⟨⟨hlater.sound.core, hlater.sound.2.placed.withTx rfl⟩,
      ⟨fun _ participant hlookup => ⟨participant, hlookup, rfl⟩, subset_rfl⟩,
      fun hparty => by cases hparty⟩
  next candidate hcandidate =>
  have hseen := (hauthority row rows rfl).grows hlater.grows.cluster
  rw [← hsame, ← hlater.core rfl] at hseen
  obtain ⟨hmemory, hkeeps⟩ := hlater.sound.2.assign hseen (authorityCandidate_some hcandidate)
  exact ⟨hmemory, hkeeps, fun hparty => by cases hparty⟩

theorem recoveryDecision_safe : SafeBy .operation (fun _ _ => True) recoveryDecision scene := by
  unfold recoveryDecision
  refine safe_read fun before hlater => ?_
  split
  · trivial
  refine safe_budgetExceeded fun now spent hnow => ?_
  split <;> trivial

theorem safe_discharge {value : Result}
    (hstatus : value.success = true → scene.core.status = status)
    (hterminal : status ≠ .prepared) : SafeBy .operation (fun _ _ => True) (do
        if value.success then updateTx fun tx => { tx with recoveryDiscovered := false }
        return value) scene := by
  split
  next hsuccess =>
    refine safe_updateTx
      (fun core => { core with recoveryDiscovered := false })
      (fun _ => rfl) (fun _ => rfl) ?_ (fun _ _ _ => trivial)
    intro cluster _ hcore
    refine ⟨hcore.decided, hcore.admitted, hcore.frozen, ?_, hcore.ended⟩
    intro _ hprepared
    exact absurd ((hstatus hsuccess).symm.trans hprepared) hterminal
  · trivial

theorem completeRecoveredDecision_safe :
    SafeBy .operation (fun _ _ => True) completeRecoveredDecision scene := by
  unfold completeRecoveredDecision
  refine safe_read fun before hlater => ?_
  split
  · trivial
  next decision hheld =>
  split
  · refine safe_seq hlater.sound (completeCommitDecision_safe hlater.sound) ?_
      (fun _ _ _ _ => trivial)
    rintro completed value _ ⟨hcompleted, -⟩
    exact safe_discharge (hcompleted.status value rfl) (by decide)
  next hrollback =>
  have hdecided : before.cluster.Decided .rollback := by
    cases decision with
    | commit => exact absurd rfl hrollback
    | rollback => exact hlater.sound.decided (heldDecision_some hheld)
  refine safe_seq hlater.sound (runRollbackStage_safe hlater.sound hdecided) ?_
    (fun _ _ _ _ => trivial)
  rintro completed value _ hcompleted
  exact safe_discharge (hcompleted.status value rfl) (by decide)

theorem safe_inDoubt : SafeBy .operation (fun _ _ => True) decisionInDoubt scene :=
  safe_read fun _ _ => trivial

theorem redriveAuthoritativeRecovery_safe (hsound : scene.Sound) :
    SafeBy .operation (fun _ _ => True) (redriveAuthoritativeRecovery setting) scene := by
  unfold redriveAuthoritativeRecovery
  refine safe_seq hsound (refreshRecoveryAuthority_safe hsound) ?_ (fun _ _ _ _ => trivial)
  intro refreshed current hrefreshed _
  split
  · exact safe_inDoubt
  refine safe_read fun before hlater => ?_
  split
  · exact completeRecoveredDecision_safe
  refine safe_seq hlater.sound recoveryDecision_safe ?_ (fun _ _ _ _ => trivial)
  intro chosen decision hchosen _
  split
  · exact safe_inDoubt
  next decision =>
  refine safe_attempt hchosen.sound freezeParticipantSet_safe ?_
  intro frozen result hfrozen hresult
  cases result with
  | error failure => exact safe_inDoubt
  | ok _ =>
    refine safe_seq hfrozen.sound
      (recordTransactionDecision_safe (fun _ => hresult.2)) ?_
      (fun _ _ _ _ => trivial)
    intro recorded recording _ _
    split
    · exact safe_inDoubt
    · exact completeRecoveredDecision_safe

theorem redriveRecoveredTransaction_safe : SafeBy .operation (fun _ _ => True)
      (redriveRecoveredTransaction setting) scene := by
  unfold redriveRecoveredTransaction
  refine safe_read fun before hlater => ?_
  dsimp only
  split
  · exact redriveAuthoritativeRecovery_safe hlater.sound
  next hdiscovered =>
  split
  · exact Safe.mono (fun _ _ _ => trivial) (completeCommitDecision_safe hlater.sound)
  next hheld =>
    refine Safe.mono (fun _ _ _ => trivial) (runRollbackStage_safe hlater.sound ?_)
    exact hlater.sound.decided (heldDecision_some hheld)
  split
  on_goal 2 => exact runRollbackProtocol_safe hlater.sound
  next hstatus =>
  refine safe_seq hlater.sound (runCommitProtocol_safe hlater.sound ?_) ?_ (fun _ _ _ _ => trivial)
  · intro _ hcommitting
    refine hlater.sound.core.prepared (Bool.eq_false_iff.mpr hdiscovered) ?_
    exact hstatus.resolve_right hcommitting
  · intro committed result _ _
    refine safe_read fun _ _ => ?_
    split <;> trivial

theorem rollbackOwned_safe : SafeBy .operation (fun _ _ => True) (rollbackOwned setting) scene := by
  unfold rollbackOwned
  refine safe_read fun before hlater => ?_
  split
  · trivial
  split
  · trivial
  exact safe_seq hlater.sound (runRollbackProtocol_safe hlater.sound)
    (fun _ _ _ _ => trivial) (fun _ _ _ _ => trivial)

theorem sweepTransaction_safe :
    SafeBy .operation (fun _ _ => True) (sweepTransaction setting) scene := by
  unfold sweepTransaction
  refine safe_read fun before hlater => ?_
  dsimp only
  split
  · trivial
  exact safe_seq hlater.sound redriveRecoveredTransaction_safe
    (fun _ _ _ _ => trivial) (fun _ _ _ _ => trivial)

def Outcome.denies : Outcome → Bool
  | .returned result => !result.success && result.commitPointReached = some false
  | .threw _ commitPointReached => commitPointReached = some false

def Outcome.isThrown : Outcome → Bool
  | .returned _ => false
  | .threw _ _ => true

/-- A COMMIT that says it did not commit leaves a decided rollback, or threw
before any decision was held. -/
def Scene.Tells (scene : Scene setting) (outcome : Outcome) : Prop :=
  outcome.denies = true → scene.cluster.Decided .rollback ∨
    (outcome.isThrown = true ∧ scene.core.decision = none)

theorem commitPointReached_core (memory : Memory) :
    commitPointReached memory.tx = memory.core.reached :=
  rfl

theorem Scene.Settled.rollback (h : scene.Settled) (hunreached : scene.core.reached = false) :
    scene.cluster.Decided .rollback :=
  h.resolve_left (by simp [hunreached])

theorem commitOwned_safe : SafeBy .operation (fun final result => final.Tells (outcomeOf result))
      (commitOwned setting) scene := by
  unfold commitOwned
  refine safe_read fun before hlater => ?_
  split
  · intro hdenies
    simp [outcomeOf, Outcome.denies, recoveryObligationAnswer,
      buildDecisionInDoubtResult] at hdenies
  split
  · intro hdenies
    refine .inl (hlater.sound.core.ended ?_)
    show before.memory.ended = some false
    simpa [outcomeOf, Outcome.denies] using hdenies
  refine safe_seq hlater.sound freezeParticipantSet_safe ?_ ?_
  on_goal 2 =>
    intro final failure _ _ hdenies
    simp [outcomeOf, Outcome.denies] at hdenies
  rintro frozen _ hfrozen ⟨-, hgrounded⟩
  refine safe_attempt hfrozen.sound (runCommitProtocol_safe hfrozen.sound (fun _ _ => hgrounded)) ?_
  intro final result hfinal hresult
  refine safe_read fun now hnow => ?_
  have hread : now.core = final.core := hnow.core rfl
  have hsettled : final.Settled → now.core.reached = false →
      now.cluster.Decided .rollback := by
    intro hsettled hunreached
    rw [hread] at hunreached
    exact (hsettled.rollback hunreached).grows hnow.grows.cluster
  cases result with
  | ok value =>
    intro hdenies
    refine .inl (hsettled (hresult.resolve_right (fun h => by cases h.1)) ?_)
    rw [← commitPointReached_core]
    simp only [outcomeOf, Outcome.denies, withCommitPoint] at hdenies
    split at hdenies <;> simp_all
  | error failure =>
    intro hdenies
    obtain hcase | ⟨-, hnone⟩ := hresult
    · refine .inl (hsettled hcase ?_)
      rw [← commitPointReached_core]
      simpa [outcomeOf, Outcome.denies] using hdenies
    · exact .inr ⟨rfl, by rw [hread]; exact hnone⟩

def Operation.Post (operation : Operation) (final : Scene setting)
    (result : Except Failure Outcome) : Prop :=
  operation = .commit → final.Tells (outcomeOf result)

theorem Operation.program_safe (operation : Operation) :
    SafeBy .operation operation.Post (operation.program setting) scene := by
  cases operation with
  | commit => exact Safe.mono (fun _ _ h _ => h) commitOwned_safe
  | enlist partitionIds => exact Safe.mono (fun _ _ _ h => by cases h) enlistParticipantsOwned_safe
  | rollback => exact Safe.mono (fun _ _ _ h => by cases h) rollbackOwned_safe
  | redrive => exact Safe.mono (fun _ _ _ h => by cases h) sweepTransaction_safe

end LagrangeDb.Transaction
