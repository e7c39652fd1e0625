import LagrangeDb.Transaction.OperationSafe

namespace LagrangeDb.Transaction

open Data LagrangeDb.Participant
open Data.Program (Safe)

/-! The decision protocol keeps the discipline. -/

variable {setting : Setting} {scene : Scene setting}

/-- What setting a status does, written or thrown. -/
structure Core.Moved (before after : Core) (status : Status) : Prop where
  frame : before.Frame after
  ended : after.ended = before.ended
  flag : status = .committing ∨ before.status = .committing → after.commitPointReached = true

theorem Core.noted_moved (core : Core) (status value : Status) :
    core.Moved ((core.noted status).withStatus value) status := by
  unfold Core.noted
  split
  · exact ⟨⟨rfl, rfl, rfl, rfl, rfl⟩, rfl, fun _ => rfl⟩
  next hunflagged => exact ⟨⟨rfl, rfl, rfl, rfl, rfl⟩, rfl, fun h => absurd h hunflagged⟩

variable {status : Status}

theorem setTransactionStatus_moved
    (hprepared : status = .prepared → scene.core.recoveryDiscovered = false →
      scene.core.Grounded) : SafeBy .operation
      (fun final result => scene.core.Moved final.core status ∧
        (result.isOk = true → final.core.status = status))
      (setTransactionStatus status) scene := by
  refine Safe.mono ?_ (setTransactionStatus_safe hprepared)
  intro final result hfinal
  have hmoved := scene.core.noted_moved status
  cases result with
  | ok value =>
    rw [hfinal]
    exact ⟨hmoved status, fun _ => rfl⟩
  | error failure =>
    rw [hfinal]
    exact ⟨hmoved (scene.core.noted status).status, fun hok => by cases hok⟩

variable {core : Core}

theorem Core.reached_of_status (h : core.status = .committing) : core.reached = true := by
  simp [Core.reached, h]

theorem Core.reached_of_flag (h : core.commitPointReached = true) : core.reached = true := by
  simp [Core.reached, h]

theorem ensureTransactionStatus_safe
    (hprepared : status = .prepared → scene.core.recoveryDiscovered = false →
      scene.core.Grounded) : SafeBy .operation (fun final result => scene.core.Frame final.core ∧
        (status = .committing → final.core.reached = true) ∧
        (result.isOk = true → final.core.status = status))
      (ensureTransactionStatus status) scene := by
  unfold ensureTransactionStatus
  refine safe_read fun before hlater => ?_
  have hread : before.core = scene.core := hlater.core rfl
  split
  · refine Safe.mono ?_ (setTransactionStatus_moved (hread ▸ hprepared))
    rintro final result ⟨hmoved, hstatus⟩
    refine ⟨hread ▸ hmoved.frame, ?_, hstatus⟩
    intro hcommitting
    exact Core.reached_of_flag (hmoved.flag (.inl hcommitting))
  next hsame =>
    have hstatus : before.core.status = status := not_not.mp hsame
    refine ⟨hread ▸ .refl _, ?_, fun _ => hstatus⟩
    intro hcommitting
    exact Core.reached_of_status (hstatus.trans hcommitting)

theorem ensurePrepareSent_safe : SafeBy .operation
      (fun final _ => scene.core.Frame final.core) ensurePrepareSent scene := by
  unfold ensurePrepareSent
  refine safe_read fun before hlater => ?_
  have hread : before.core = scene.core := hlater.core rfl
  dsimp only
  split
  · refine Safe.mono ?_ (setTransactionStatus_moved (fun h => by cases h))
    rintro final result ⟨hmoved, -⟩
    exact hread ▸ hmoved.frame
  · exact hread ▸ .refl _

theorem endTransaction_places (memory : Memory) : (endTransaction memory).tx = memory.tx ∧
      (endTransaction memory).records = memory.records ∧
      (endTransaction memory).nextRecord = memory.nextRecord := by
  unfold endTransaction
  split <;> exact ⟨rfl, rfl, rfl⟩

theorem endTransaction_core (memory : Memory) :
    (endTransaction memory).core = memory.core ∨ (endTransaction memory).core =
        { memory.core with ended := some memory.core.reached } := by
  unfold endTransaction
  split
  · exact .inr rfl
  · exact .inl rfl

variable {α : Type}

theorem safe_endTransaction
    (hended : scene.core.reached = true ∨ scene.cluster.Decided .rollback)
    (hnext : ∀ after memory, Reached scene after →
      scene.core.Frame after.core → after.core.status = scene.core.status →
      after.core.commitPointReached = scene.core.commitPointReached →
      SafeBy .operation post (rest memory) after) :
    SafeBy .operation post (updateMemory endTransaction >>= rest) scene := by
  have hcore : ∀ memory : Memory, memory.core = scene.core →
      scene.core.Frame (endTransaction memory).core ∧
      (endTransaction memory).core.status = scene.core.status ∧
      (endTransaction memory).core.commitPointReached =
        scene.core.commitPointReached := by
    intro memory hmemory
    obtain hsame | hsame := endTransaction_core memory <;>
      rw [hsame, ← hmemory] <;>
      exact ⟨⟨rfl, rfl, rfl, rfl, rfl⟩, rfl, rfl⟩
  have hkeeps : ∀ memory : Memory,
      memory.Keeps (endTransaction memory) := by
    intro memory
    obtain ⟨htx, hrecords, -⟩ := endTransaction_places memory
    refine ⟨?_, ?_⟩
    · intro reference participant hlookup
      exact ⟨participant, by rw [hrecords]; exact hlookup, rfl⟩
    intro partitionId hmem
    simp only [Memory.core, htx]
    exact hmem
  refine safe_update ?_ ?_
  · intro before hlater
    have hread : before.core = scene.core := hlater.core rfl
    refine ⟨⟨?_, ?_⟩, hkeeps before.memory, fun hparty => by cases hparty⟩
    · obtain hsame | hsame := endTransaction_core before.memory
      · rw [hsame]
        exact hlater.sound.core
      rw [hsame]
      refine hlater.sound.core.frame ⟨rfl, rfl, rfl, rfl, rfl⟩ ?_ ?_
      · intro hdiscovered hstatus
        exact (hlater.sound.core.prepared hdiscovered hstatus).frame ⟨rfl, rfl, rfl, rfl, rfl⟩
      intro hfalse
      obtain hreached | hdecided := hended
      · rw [← hread] at hreached
        cases hreached.symm.trans (Option.some.inj hfalse)
      · exact hdecided.grows hlater.grows.cluster
    · unfold endTransaction
      split
      · exact hlater.sound.2.placed.withTx rfl
      · exact hlater.sound.2.placed
  · intro before hlater hsound
    obtain ⟨hframe, hstatus, hflag⟩ := hcore before.memory (hlater.core rfl)
    exact hnext _ _ ⟨hlater.grows.trans ⟨.refl _, hkeeps before.memory⟩, hsound⟩
      hframe hstatus hflag

theorem Core.reached_congr {before after : Core} (hstatus : after.status = before.status)
    (hflag : after.commitPointReached = before.commitPointReached) :
    after.reached = before.reached := by
  simp only [Core.reached, hstatus, hflag]

theorem runCommitStage_safe : SafeBy .operation
      (fun final _ => final.core = scene.core) runCommitStage scene := by
  unfold runCommitStage
  refine safe_read fun before hlater => ?_
  have hread : before.core = scene.core := hlater.core rfl
  dsimp only
  split
  · exact hread
  refine Safe.mono ?_ (executeParticipantStage_safe (fun h => by cases h))
  intro final result hfinal
  exact hfinal.trans hread

structure Core.Completed (before after : Core) (result : Except Failure Result)
    (status : Status) : Prop where
  frame : before.Frame after
  status : ∀ value, result = .ok value → value.success = true → after.status = status

theorem endCommitted_safe (hsound : scene.Sound)
    (hcommitting : scene.core.status = .committing) : SafeBy .operation
      (fun final result => scene.core.Completed final.core result .committed ∧
        final.core.reached = true)
      endCommitted scene := by
  unfold endCommitted
  refine safe_seq hsound (setTransactionStatus_moved (fun h => by cases h)) ?_ ?_
  · rintro set _ hset ⟨hmoved, hstatus⟩
    have hreached := Core.reached_of_flag (hmoved.flag (.inr hcommitting))
    refine safe_endTransaction (.inl hreached) ?_
    intro after memory _ hframe hsame hflag
    refine ⟨⟨hmoved.frame.trans hframe, fun _ _ _ => ?_⟩, ?_⟩
    · exact hsame.trans (hstatus rfl)
    · exact (Core.reached_congr hsame hflag).trans hreached
  · rintro final failure _ ⟨hmoved, -⟩
    refine ⟨⟨hmoved.frame, fun value hvalue => by cases hvalue⟩, ?_⟩
    exact Core.reached_of_flag (hmoved.flag (.inr hcommitting))

theorem completeCommitDecision_safe (hsound : scene.Sound) : SafeBy .operation
      (fun final result => scene.core.Completed final.core result .committed ∧
        final.core.reached = true)
      completeCommitDecision scene := by
  unfold completeCommitDecision
  refine safe_seq hsound (ensureTransactionStatus_safe (fun h => by cases h))
    ?_ ?_
  on_goal 2 =>
    rintro final failure _ ⟨hframe, hreached, -⟩
    exact ⟨⟨hframe, fun value hvalue => by cases hvalue⟩, hreached rfl⟩
  rintro entered _ hentered ⟨hframe, -, hstatus⟩
  have hcommitting := hstatus rfl
  refine safe_seq hentered.sound runCommitStage_safe ?_ ?_
  on_goal 2 =>
    rintro final failure _ hfinal
    refine ⟨⟨hfinal ▸ hframe, fun value hvalue => by cases hvalue⟩, ?_⟩
    exact Core.reached_of_status (hfinal ▸ hcommitting)
  rintro staged failed hstaged hsame
  rw [← hsame] at hframe hcommitting
  split
  · refine Safe.mono ?_ (endCommitted_safe hstaged.sound hcommitting)
    rintro final result ⟨hcompleted, hreached⟩
    exact ⟨⟨hframe.trans hcompleted.frame, hcompleted.status⟩, hreached⟩
  refine safe_read fun final hfinal => ?_
  have hread : final.core = staged.core := hfinal.core rfl
  refine ⟨⟨hread ▸ hframe, ?_⟩, Core.reached_of_status (hread ▸ hcommitting)⟩
  intro value hvalue hsuccess
  cases hvalue
  cases hsuccess

theorem endRolledBack_safe {rollbackFailures : List FailedParticipant}
    (hsound : scene.Sound) (hdecided : scene.cluster.Decided .rollback) :
    SafeBy .operation (fun final result => scene.core.Frame final.core ∧
        (result.isOk = true → rollbackFailures.isEmpty = true → final.core.status = .rolledBack))
      (endRolledBack rollbackFailures) scene := by
  unfold endRolledBack
  split
  · refine safe_seq hsound (setTransactionStatus_moved (fun h => by cases h))
      ?_ ?_
    · rintro set _ hset ⟨hmoved, hstatus⟩
      refine safe_endTransaction (.inr (hdecided.grows hset.grows.cluster)) ?_
      intro after memory _ hframe hsame _
      exact ⟨hmoved.frame.trans hframe, fun _ _ => hsame.trans (hstatus rfl)⟩
    · rintro final failure _ ⟨hmoved, -⟩
      exact ⟨hmoved.frame, fun hok => by cases hok⟩
  next hfailures =>
    refine Safe.mono ?_ (setTransactionStatus_moved (fun h => by cases h))
    rintro final result ⟨hmoved, -⟩
    exact ⟨hmoved.frame, fun _ hempty => absurd hempty hfailures⟩

theorem runRollbackStage_safe (hsound : scene.Sound)
    (hdecided : scene.cluster.Decided .rollback) : SafeBy .operation
      (fun final result => scene.core.Completed final.core result .rolledBack)
      (runRollbackStage bound) scene := by
  unfold runRollbackStage
  refine safe_seq hsound (ensureTransactionStatus_safe (fun h => by cases h))
    ?_ ?_
  on_goal 2 =>
    rintro final failure _ ⟨hframe, -, -⟩
    exact ⟨hframe, fun value hvalue => by cases hvalue⟩
  rintro entered _ hentered ⟨hframe, -, -⟩
  refine safe_read fun before hlater => ?_
  have hread : before.core = entered.core := hlater.core rfl
  refine safe_seq hlater.sound (executeParticipantStage_safe (fun h => by cases h)) ?_ ?_
  on_goal 2 =>
    rintro final failure _ hfinal
    exact ⟨(hfinal.trans hread) ▸ hframe, fun value hvalue => by cases hvalue⟩
  rintro staged rollbackFailures hstaged hsame
  have hstagedFrame : scene.core.Frame staged.core := (hsame.trans hread) ▸ hframe
  have hgrows : scene.Grows staged := (hentered.grows.trans hlater.grows).trans hstaged.grows
  refine safe_seq hstaged.sound
    (endRolledBack_safe hstaged.sound (hdecided.grows hgrows.cluster)) ?_ ?_
  on_goal 2 =>
    rintro final failure _ ⟨hend, -⟩
    exact ⟨hstagedFrame.trans hend, fun value hvalue => by cases hvalue⟩
  rintro ended _ hended ⟨hend, hstatus⟩
  refine safe_read fun final hfinal => ?_
  have hfinalRead : final.core = ended.core := hfinal.core rfl
  refine ⟨hfinalRead ▸ hstagedFrame.trans hend, ?_⟩
  intro value hvalue hsuccess
  cases hvalue
  rw [hfinalRead]
  exact hstatus rfl hsuccess

theorem safe_budgetSpent (hsound : scene.Sound)
    (hnext : ∀ before spent, Later .operation scene before →
      SafeBy .operation post (rest spent) before) :
    SafeBy .operation post (budgetSpent recovering >>= rest) scene := by
  unfold budgetSpent
  split
  · exact hnext scene false (.refl hsound)
  · exact safe_budgetExceeded hnext

theorem timedOutPreparation_safe (hframe : core.Frame scene.core) : SafeBy .operation
      (fun final _ => core.Frame final.core) timedOutPreparation scene := by
  refine safe_read fun final hfinal => ?_
  show core.Frame final.core
  rw [hfinal.core rfl]
  exact hframe

theorem prepareForDecision_safe (hsound : scene.Sound)
    (hgrounded : scene.core.Grounded) : SafeBy .operation
      (fun final _ => scene.core.Frame final.core)
      (prepareForDecision recovering) scene := by
  unfold prepareForDecision
  refine safe_budgetSpent hsound fun before spent hlater => ?_
  have hread : before.core = scene.core := hlater.core rfl
  have hbefore : scene.core.Frame before.core := hread ▸ .refl _
  split
  · exact timedOutPreparation_safe hbefore
  refine safe_seq hlater.sound ensurePrepareSent_safe ?_ ?_
  on_goal 2 =>
    rintro final failure _ hframe
    exact hbefore.trans hframe
  rintro sent _ hsent hframe
  have hsentFrame := hbefore.trans hframe
  refine safe_seq hsent.sound (runPrepareStage_safe (hgrounded.frame hsentFrame).frozen) ?_ ?_
  on_goal 2 =>
    rintro final failure _ hsame
    exact hsame ▸ hsentFrame
  rintro staged failed hstaged hsame
  have hstagedFrame : scene.core.Frame staged.core := hsame ▸ hsentFrame
  split
  · exact hstagedFrame
  refine safe_budgetSpent hstaged.sound fun now spent hnow => ?_
  have hnowRead : now.core = staged.core := hnow.core rfl
  have hnowFrame : scene.core.Frame now.core := hnowRead ▸ hstagedFrame
  split
  · exact timedOutPreparation_safe hnowFrame
  refine safe_seq hnow.sound
    (ensureTransactionStatus_safe (fun _ _ => hgrounded.frame hnowFrame)) ?_ ?_
  · rintro final _ _ ⟨hfinal, -, -⟩
    exact hnowFrame.trans hfinal
  · rintro final failure _ ⟨hfinal, -, -⟩
    exact hnowFrame.trans hfinal

/-- The commit point is reached, or the rollback is decided. -/
def Scene.Settled (scene : Scene setting) : Prop :=
  scene.core.reached = true ∨ scene.cluster.Decided .rollback

def Core.Holds (core : Core) (decision : Decision) : Prop :=
  ∃ record, core.decision = some record ∧ record.body.decision = decision

variable {decision : Decision}

theorem heldDecision_some (h : heldDecision tx = some decision) :
    ∃ record, tx.decision = some record ∧ record.body.decision = decision := by
  obtain ⟨record, hrecord, hdecision⟩ := Option.map_eq_some_iff.mp h
  exact ⟨record, hrecord, hdecision⟩

theorem Scene.Sound.decided (hsound : scene.Sound)
    (h : scene.core.Holds decision) : scene.cluster.Decided decision := by
  obtain ⟨record, hrecord, rfl⟩ := h
  exact hsound.core.decided record hrecord

theorem driveTransactionDecision_safe (hsound : scene.Sound) (hholds : scene.core.Holds decision) :
    SafeBy .operation (fun final _ => final.Settled)
      (driveTransactionDecision decision preparation) scene := by
  unfold driveTransactionDecision
  split
  · refine Safe.mono ?_ (completeCommitDecision_safe hsound)
    rintro final result ⟨-, hreached⟩
    exact .inl hreached
  next hrollback =>
  have hdecided : scene.cluster.Decided .rollback := by
    cases decision with
    | commit => exact absurd rfl hrollback
    | rollback => exact hsound.decided hholds
  refine safe_seq hsound (runRollbackStage_safe hsound hdecided) ?_ ?_
  · rintro rolledBack _ hrolledBack _
    refine safe_read fun final hfinal => ?_
    exact .inr (hdecided.grows (hrolledBack.grows.trans hfinal.grows).cluster)
  · rintro final failure hfinal _
    exact .inr (hdecided.grows hfinal.grows.cluster)

/-- What the coordinator knows before it prepares: its memory as it was, or
with a decision another recorded, or that it cannot know. -/
theorem adoptWhereDecided_safe : SafeBy .operation
      (fun final result => ∃ goesOn, result = .ok goesOn ∧
        (goesOn = true →
          (final.core = scene.core ∧ (scene.core.decision = none →
            scene.core.status ≠ .committing)) ∨
          ∃ record, final.core = scene.core.withDecision record) ∧
        (goesOn = false → final.core = scene.core.flagged))
      (adoptWhereDecided setting) scene := by
  unfold adoptWhereDecided
  refine safe_read fun before hlater => ?_
  have hread : before.core = scene.core := hlater.core rfl
  split
  · refine safe_seq hlater.sound (adoptRecordedTransactionDecision_safe hlater.sound) ?_ ?_
    · rintro final recording _ ⟨_, hrecording, hrecorded⟩
      cases hrecording
      rw [hread] at hrecorded
      refine ⟨_, rfl, ?_, ?_⟩
      · intro hgoesOn
        obtain rfl := of_decide_eq_true hgoesOn
        exact .inr hrecorded
      intro hdoubt
      cases recording with
      | recorded => cases hdoubt
      | inDoubt => exact hrecorded
    · rintro final failure _ ⟨_, hrecording, _⟩
      cases hrecording
  next hundoubted =>
    refine ⟨true, rfl, fun _ => .inl ⟨hread, ?_⟩, fun h => by cases h⟩
    intro hnone hcommitting
    rw [← hread] at hnone hcommitting
    refine hundoubted ?_
    have hstatus : before.memory.tx.status = .committing := hcommitting
    have hdecision : before.memory.tx.decision = none := hnone
    simp [mayBeDecided, hstatus, hdecision]

theorem decisionInDoubt_safe (hflagged : scene.core.commitPointReached = true) :
    SafeBy .operation (fun final _ => final.Settled) decisionInDoubt scene := by
  refine safe_read fun final hfinal => ?_
  refine .inl (Core.reached_of_flag ?_)
  rw [hfinal.core rfl]
  exact hflagged

theorem runCommitProtocol_safe (hsound : scene.Sound) (hgrounded : scene.core.decision = none →
      scene.core.status ≠ .committing → scene.core.Grounded) : SafeBy .operation
      (fun final result => final.Settled ∨ (result.isOk = false ∧ final.core.decision = none))
      (runCommitProtocol setting recovering) scene := by
  unfold runCommitProtocol
  refine safe_seq hsound adoptWhereDecided_safe ?_ ?_
  on_goal 2 =>
    rintro final failure _ ⟨_, hresult, _⟩
    cases hresult
  rintro adopted goesOn hadopted ⟨_, hresult, hgoesOn, hdoubt⟩
  cases hresult
  split
  next hstops =>
    have hflagged := hdoubt (by simpa using hstops)
    refine Safe.mono (fun _ _ => .inl) (decisionInDoubt_safe ?_)
    rw [hflagged]
    rfl
  next hproceeds =>
  refine safe_read fun before hlater => ?_
  have hread : before.core = adopted.core := hlater.core rfl
  split
  next decision hheld =>
    refine Safe.mono (fun _ _ => .inl) (driveTransactionDecision_safe hlater.sound ?_)
    exact heldDecision_some hheld
  next hnone =>
  have hundecided : before.core.decision = none := by
    cases hcase : before.memory.tx.decision with
    | none => exact hcase
    | some record => exact (hnone record.body.decision (by simp [heldDecision, hcase])).elim
  have hground : before.core.Grounded := by
    rw [hread] at hundecided ⊢
    obtain ⟨hsame, hstatus⟩ | ⟨record, hsame⟩ := hgoesOn (by simpa using hproceeds)
    · rw [hsame] at hundecided ⊢
      exact hgrounded hundecided (hstatus hundecided)
    · rw [hsame] at hundecided
      cases hundecided
  refine safe_seq hlater.sound (prepareForDecision_safe hlater.sound hground) ?_ ?_
  on_goal 2 =>
    rintro final failure _ hframe
    exact .inr ⟨rfl, hframe.decision.trans hundecided⟩
  rintro prepared preparation hprepared hframe
  refine safe_seq hprepared.sound
    (recordTransactionDecision_safe (fun _ => hground.frame hframe)) ?_ ?_
  on_goal 2 =>
    rintro final failure _ ⟨hsame, hnone⟩
    exact .inr ⟨rfl, hsame ▸ hnone⟩
  rintro recorded recording hrecorded hrecording
  split
  next hdoubt =>
    cases recording with
    | recorded => exact absurd rfl hdoubt
    | inDoubt =>
      refine Safe.mono (fun _ _ => .inl) (decisionInDoubt_safe ?_)
      rw [hrecording]
      rfl
  refine safe_read fun held hheld => ?_
  split
  next decision hdecision =>
    refine Safe.mono (fun _ _ => .inl) (driveTransactionDecision_safe hheld.sound ?_)
    exact heldDecision_some hdecision
  next hnone => exact .inr ⟨rfl, Option.map_eq_none_iff.mp hnone⟩

theorem recordRollback_safe : SafeBy .operation (fun final result => result = .ok .recorded →
        ∃ decision, final.core.Holds decision)
      (recordRollback setting) scene := by
  unfold recordRollback
  refine safe_read fun before hlater => ?_
  split
  next hsome =>
    intro _
    obtain ⟨record, hrecord⟩ := Option.isSome_iff_exists.mp hsome
    exact ⟨_, record, hrecord, rfl⟩
  refine safe_seq hlater.sound freezeParticipantSet_safe ?_ ?_
  on_goal 2 =>
    rintro final failure _ _ hresult
    cases hresult
  rintro frozen _ hfrozen _
  refine Safe.mono ?_ (recordTransactionDecision_safe (fun h => by cases h))
  rintro final result hresult rfl
  obtain ⟨record, hsame⟩ := hresult
  exact ⟨_, record, by rw [hsame]; rfl, rfl⟩

theorem runRollbackProtocol_safe (hsound : scene.Sound) : SafeBy .operation (fun _ _ => True)
      (runRollbackProtocol setting) scene := by
  unfold runRollbackProtocol
  refine safe_seq hsound adoptWhereDecided_safe ?_ (fun _ _ _ _ => trivial)
  rintro adopted goesOn hadopted ⟨_, hresult, -, hdoubt⟩
  cases hresult
  split
  next hstops =>
    have hflagged := hdoubt (by simpa using hstops)
    refine Safe.mono (fun _ _ _ => trivial) (decisionInDoubt_safe ?_)
    rw [hflagged]
    rfl
  refine safe_seq hadopted.sound recordRollback_safe ?_ (fun _ _ _ _ => trivial)
  rintro recorded recording hrecorded hholds
  split
  · exact safe_read fun _ _ => trivial
  next hrecording =>
  refine safe_read fun before hlater => ?_
  split
  · refine safe_seq hlater.sound (completeCommitDecision_safe hlater.sound) ?_
      (fun _ _ _ _ => trivial)
    rintro completed _ _ _
    exact safe_read fun _ _ => trivial
  next hdecision =>
    refine Safe.mono (fun _ _ _ => trivial) (runRollbackStage_safe hlater.sound ?_)
    exact hlater.sound.decided (heldDecision_some hdecision)
  next hnone =>
    obtain rfl := not_not.mp hrecording
    obtain ⟨decision, record, hrecord, -⟩ := hholds rfl
    have hcore : before.core = recorded.core := hlater.core rfl
    rw [← hcore] at hrecord
    cases hrecord.symm.trans (Option.map_eq_none_iff.mp hnone)

end LagrangeDb.Transaction
