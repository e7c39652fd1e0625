import LagrangeDb.Transaction.Rules

namespace LagrangeDb.Transaction

open Data LagrangeDb.Participant
open Data.Program (Safe)

/-! Every task keeps the discipline. -/

variable {setting : Setting} {α : Type}
  {scene : Scene setting}

theorem safe_updateRecord (hupdate : ∀ participant,
      (update participant).partitionId = participant.partitionId)
    (hbacked : ∀ before : Scene setting, Later party scene before → ∀ participant,
        before.memory.records.lookup reference = some participant →
        before.cluster.Backed participant.partitionId (update participant).preparedDigest)
    (hnext : ∀ after, Later party scene after → SafeBy party post (rest ()) after) :
    SafeBy party post (updateRecord reference update >>= rest) scene := by
  have hkeep : ∀ before : Scene setting, Later party scene before →
      (before.memory.setRecord reference update).Sound before.cluster := by
    intro before hlater
    refine ⟨?_, hlater.sound.2.placed.setRecord hupdate (hbacked before hlater)⟩
    rw [Memory.setRecord_core]
    exact hlater.sound.2.core
  change SafeBy party post
    (updateMemory (fun memory => memory.setRecord reference update) >>= fun _ => rest ()) scene
  refine safe_update ?_ ?_
  · intro before hlater
    exact ⟨hkeep before hlater, before.memory.setRecord_keeps _ hupdate,
      fun _ => before.memory.setRecord_core _ _⟩
  intro before hlater hsound
  refine hnext _ (hlater.trans ⟨⟨.refl _, ?_⟩, fun _ => ?_, hsound⟩)
  · exact before.memory.setRecord_keeps _ hupdate
  · exact before.memory.setRecord_core _ _

theorem safe_updateProgress (hupdate : ∀ participant,
      (update participant).partitionId = participant.partitionId ∧
      (update participant).preparedDigest = participant.preparedDigest)
    (hnext : ∀ after, Later party scene after → SafeBy party post (rest ()) after) :
    SafeBy party post (updateRecord reference update >>= rest) scene := by
  refine safe_updateRecord (fun participant => (hupdate participant).1) ?_ hnext
  intro before hlater participant hlookup
  rw [(hupdate participant).2]
  exact (hlater.sound.2.placed.records reference participant hlookup).2

variable {β : Type}

theorem safe_raise {result : Except Failure β} {rest : β → Prog α}
    (hvalue : ∀ value, result = .ok value → SafeBy party post (rest value) scene)
    (herror : ∀ failure, result = .error failure → post scene (.error failure)) :
    SafeBy party post (raise result >>= rest) scene := by
  cases result with
  | ok value => exact hvalue value rfl
  | error failure => exact herror failure rfl

theorem safe_deliver {request : Request} {rest : ParticipantAnswer → Prog α}
    (hpermits : ∀ before : Scene setting, Later party scene before → before.cluster.Permits request)
    (hnext : ∀ (before : Scene setting) answer, Later party scene before →
      (∃ reply, reply ∈ before.cluster.replies ∧
        reply.answers request = true ∧ reply.answer = answer) →
      SafeBy party post (rest answer) before)
    (herror : ∀ before failure, Later party scene before → post before (.error failure)) :
    SafeBy party post (deliver request >>= rest) scene := by
  change SafeBy party post (perform (Call.send request) >>= fun _ =>
      receive request >>= fun answer => raise answer >>= rest) scene
  refine safe_send hpermits ?_
  intro sent hsent
  refine safe_receive ?_
  intro before answer hlater hreply
  refine safe_raise ?_ ?_
  · intro found hfound
    exact hnext before found (hsent.trans hlater) (hreply found hfound)
  · intro failure _
    exact herror before failure (hsent.trans hlater)

def TaskSafe (program : Prog α) (scene : Scene setting) : Prop :=
  SafeBy .task (fun _ _ => True) program scene

theorem TaskSafe.seq {program : Prog β} {rest : β → Prog α} (hsound : scene.Sound)
    (h : TaskSafe program scene)
    (hrest : ∀ final value, Reached scene final → TaskSafe (rest value) final) :
    TaskSafe (program >>= rest) scene :=
  safe_seq hsound h (fun final value hreached _ => hrest final value hreached)
    (fun _ _ _ _ => trivial)

theorem raise_safe (result : Except Failure α) (scene : Scene setting) :
    TaskSafe (raise result) scene := by
  cases result <;> trivial

theorem persistParticipant_safe (reference : Nat) (scene : Scene setting) :
    TaskSafe (persistParticipant reference) scene := by
  have hrest : ∀ found : Scene setting,
      TaskSafe (updateRecord reference fun participant =>
        if participant.status = .prepared then
          { participant with prepareEvidenceRetained := true }
        else participant) found := by
    intro found
    change TaskSafe (updateRecord _ _ >>= fun _ => pure ()) found
    refine safe_updateProgress ?_ fun _ _ => trivial
    intro participant
    split <;> exact ⟨rfl, rfl⟩
  unfold persistParticipant
  refine safe_read fun before hlater => ?_
  split
  · trivial
  next participant hlookup =>
  split
  · refine safe_mutate ?_ ?_
    · intro now hnow
      have hrecord := hlater.sound.2.placed.records reference participant hlookup
      exact ⟨hnow.grows.cluster.admitted _ hrecord.1, hrecord.2.grows hnow.grows.cluster⟩
    · intro now after answer hnow hwritten
      split
      · exact hrest after
      · trivial
  · exact hrest before

theorem preparedEvidenceOf_ok (h : preparedEvidenceOf answer = .ok evidence) :
    answer.success = true ∧ ∃ outcome, answer.outcome = some outcome ∧
      outcome.state = .row .prepared := by
  unfold preparedEvidenceOf at h
  split at h
  · cases h
  next outcome houtcome =>
  split at h
  · cases h
  split at h
  on_goal 2 => cases h
  next hanswer =>
  simp only [Bool.and_eq_true, decide_eq_true_eq] at hanswer
  exact ⟨hanswer.1.1.1, outcome, houtcome, hanswer.1.2⟩

variable {partitionId : String}

theorem participantDecisionBindingOf_ok
    (h : participantDecisionBindingOf setting tx partitionId = .ok binding) :
    ∃ record, tx.decision = some record ∧ record.body.decision = binding.decision := by
  unfold participantDecisionBindingOf at h
  split at h
  · cases h
  next recorded hrecorded =>
  split at h
  · cases h
  next record hcanonical =>
  split at h
  · cases h
  next participantId preparedDigest hfind =>
  cases h
  refine ⟨recorded, hrecorded, ?_⟩
  exact ((canonicalDecisionRecord_some _ hcanonical).decision _ rfl).symm

theorem held_of_evidence {identity : Identity} (hsound : scene.Sound)
    (hreply : ∃ reply, reply ∈ scene.cluster.replies ∧
      reply.answers { partitionId, identity, body := .prepare } = true ∧
      reply.answer = answer)
    (hevidence : preparedEvidenceOf answer = .ok evidence) :
    scene.cluster.Held partitionId := by
  obtain ⟨reply, hmem, hanswers, rfl⟩ := hreply
  obtain ⟨hsuccess, outcome, houtcome, hstate⟩ := preparedEvidenceOf_ok hevidence
  simp only [Reply.answers, Bool.and_eq_true, decide_eq_true_eq] at hanswers
  have hconfirms := hsound.1.replies reply hmem outcome hanswers.2 hsuccess houtcome hstate
  rw [hanswers.1] at hconfirms
  exact hconfirms

theorem prepare_safe (hready : scene.cluster.Frozen ∧ scene.cluster.Admitted partitionId)
    (hnames : scene.memory.Names reference partitionId) : TaskSafe (do
      let evidence ← prepareParticipant setting tx partitionId
      updateRecord reference (retainPrepareEvidence evidence)) scene := by
  unfold prepareParticipant
  rw [Program.bind_bind]
  refine safe_deliver ?_ ?_ (fun _ _ _ => trivial)
  · intro before hlater
    exact ⟨(hlater.grows.cluster.frozen hready.1).1, hlater.grows.cluster.admitted _ hready.2⟩
  intro before answer hlater hreply
  refine safe_raise ?_ (fun _ _ => trivial)
  intro evidence hevidence
  have hheld := held_of_evidence hlater.sound hreply hevidence
  refine safe_updateRecord (fun _ => rfl) ?_ (fun _ _ => trivial)
  intro now hnow participant hlookup _
  obtain ⟨found, hfound, hname⟩ := hnames.keeps (hlater.grows.trans hnow.grows).memory
  rw [hlookup] at hfound
  cases hfound
  rw [hname]
  exact hnow.grows.cluster.held _ hheld

theorem decide_safe {readAnswer : ParticipantAnswer → Except Failure β}
    (hdecided : scene.cluster.Decided binding.decision) : TaskSafe (do
      let answer ← deliver {
        partitionId
        identity := participantIdentityOf setting tx partitionId
        body := .decide binding }
      raise (readAnswer answer)) scene := by
  refine safe_deliver ?_ ?_ (fun _ _ _ => trivial)
  · intro before hlater
    exact hdecided.grows hlater.grows.cluster
  · intro before answer _ _
    exact raise_safe _ _

theorem decided_of_binding (hsound : scene.Sound)
    (h : participantDecisionBindingOf setting scene.memory.tx partitionId = .ok binding) :
    scene.cluster.Decided binding.decision := by
  obtain ⟨record, hrecord, hdecision⟩ := participantDecisionBindingOf_ok h
  have hdecided := hsound.2.core.decided record hrecord
  rw [hdecision] at hdecided
  exact hdecided

theorem stageOperation_safe (hready : scene.Ready (.stage stage partitionId budgetBound))
    (hnames : scene.memory.Names reference partitionId) :
    TaskSafe (stageOperation setting stage partitionId reference) scene := by
  unfold stageOperation
  refine safe_read fun before hlater => ?_
  cases stage with
  | prepare =>
    obtain ⟨hfrozen, hadmitted⟩ := hready.grows hlater.grows rfl
    exact prepare_safe ⟨hfrozen, hadmitted⟩ (hnames.keeps hlater.grows.memory)
  | commit =>
    refine safe_raise ?_ (fun _ _ => trivial)
    intro binding hbinding
    exact decide_safe (decided_of_binding hlater.sound hbinding)
  | rollback bound =>
    cases bound with
    | true =>
      refine safe_raise ?_ (fun _ _ => trivial)
      intro binding hbinding
      exact decide_safe (decided_of_binding hlater.sound hbinding)
    | false =>
      refine safe_deliver (fun _ _ => trivial) ?_ (fun _ _ _ => trivial)
      intro now answer _ _
      exact raise_safe _ _

theorem resolveParticipantCommitMiss_safe (stage : Stage)
    (partitionId : String) (failure : Failure) (scene : Scene setting) :
    TaskSafe (resolveParticipantCommitMiss setting stage partitionId failure) scene := by
  unfold resolveParticipantCommitMiss
  split
  · trivial
  refine safe_read fun before _ => ?_
  refine safe_deliver (fun _ _ => trivial) ?_ (fun _ _ _ => trivial)
  intro now answer _ _
  refine safe_raise (fun _ _ => trivial) (fun _ _ => trivial)

theorem assertStageBudgetNotExceeded_safe (budgetBound : Bool) (scene : Scene setting) :
    TaskSafe (assertStageBudgetNotExceeded budgetBound) scene := by
  unfold assertStageBudgetNotExceeded
  split
  · refine safe_budgetExceeded fun before answer _ => ?_
    split <;> trivial
  · trivial

theorem retry_safe {operation : Prog Unit}
    (hoperation : ∀ final, Reached scene final → TaskSafe operation final) :
    ∀ (remaining attempts : Nat) (now : Scene setting), Reached scene now →
      TaskSafe (executeParticipantOperationWithRetry setting stage partitionId
        budgetBound operation remaining attempts) now
  | 0, _, _, _ => trivial
  | remaining + 1, attempts, now, hnow => by
    unfold executeParticipantOperationWithRetry
    refine TaskSafe.seq hnow.sound (assertStageBudgetNotExceeded_safe budgetBound now) ?_
    intro asserted _ hasserted
    refine safe_attempt hasserted.sound (hoperation asserted (hnow.trans hasserted)) ?_
    intro tried result htried _
    have hreached := (hnow.trans hasserted).trans htried
    cases result with
    | ok value => trivial
    | error failure =>
      refine TaskSafe.seq htried.sound
        (resolveParticipantCommitMiss_safe stage partitionId failure tried)
        ?_
      intro resolved resolution hresolved
      split
      · trivial
      split
      · trivial
      refine TaskSafe.seq hresolved.sound
        (assertStageBudgetNotExceeded_safe budgetBound resolved) ?_
      intro final _ hfinal
      exact retry_safe hoperation remaining (attempts + 1) final
        ((hreached.trans hresolved).trans hfinal)

theorem Participant.settled_same (participant : Participant) (stage : Stage)
    (outcome : Except Failure Unit) :
    (participant.settled stage outcome).partitionId = participant.partitionId ∧
      (participant.settled stage outcome).preparedDigest = participant.preparedDigest := by
  cases outcome <;> exact ⟨rfl, rfl⟩

theorem runStageTask_safe (hready : scene.Ready (.stage stage partitionId budgetBound)) :
    TaskSafe (runStageTask setting stage partitionId budgetBound) scene := by
  unfold runStageTask
  refine safe_read fun found hfound => ?_
  split
  · trivial
  next reference hplace =>
  have hnames : found.memory.Names reference partitionId :=
    hfound.sound.2.placed.participants partitionId reference hplace
  -- The attempt itself, from any later state.
  have hrun : ∀ {rest : _ → Prog (List FailedParticipant)} (bound : Nat) (now : Scene setting),
      (∀ outcome (final : Scene setting), TaskSafe (rest outcome) final) →
      Reached found now →
      TaskSafe (do
        let outcome ← attempt
          (executeParticipantOperationWithRetry setting stage partitionId
            budgetBound (stageOperation setting stage partitionId reference)
            bound 0)
        updateRecord reference fun participant => participant.settled stage outcome
        persistParticipant reference
        rest outcome) now := by
    intro rest bound now hrest hnow
    refine safe_attempt hnow.sound (retry_safe ?_ bound 0 now hnow) ?_
    · intro final hfinal
      exact stageOperation_safe (hready.grows (hfound.grows.trans hfinal.grows))
        (hnames.keeps hfinal.grows.memory)
    intro tried outcome _ _
    refine safe_updateProgress (fun participant => participant.settled_same stage outcome) ?_
    intro settled hsettled
    refine TaskSafe.seq hsettled.sound (persistParticipant_safe reference settled) ?_
    intro final _ _
    exact hrest outcome final
  refine safe_updateProgress (fun _ => ⟨rfl, rfl⟩) ?_
  intro started hstarted
  refine TaskSafe.seq hstarted.sound (persistParticipant_safe reference started) ?_
  intro persisted _ hpersisted
  have hreached := hstarted.reached.trans hpersisted
  split
  · refine safe_attempts fun now bound hnow => ?_
    refine hrun bound now (fun outcome _ => ?_) (hreached.trans hnow.reached)
    cases outcome <;> trivial
  · refine hrun _ persisted (fun outcome _ => ?_) hreached
    cases outcome <;> trivial

theorem upsertedParticipant_backed {reference : Option Nat}
    (hsound : scene.Sound) (hnames : ∀ found, reference = some found →
      scene.memory.Names found partitionId) : scene.cluster.Backed partitionId
      (upsertedParticipant scene.memory partitionId reference).preparedDigest := by
  intro hsome
  simp only [upsertedParticipant, Participant.over] at hsome
  obtain ⟨digest, hdigest⟩ := Option.isSome_iff_exists.mp hsome
  obtain hgiven | ⟨-, hexisting⟩ := Option.or_eq_some_iff.mp hdigest
  · cases reference with
    | none => cases hgiven
    | some found =>
      obtain ⟨participant, hlookup, rfl⟩ := hnames found rfl
      simp only [Option.bind_some, hlookup, Option.getD_some] at hgiven
      refine (hsound.2.placed.records found participant hlookup).2 ?_
      rw [hgiven]
      rfl
  · cases hplace : scene.memory.tx.participants.lookup partitionId with
    | none => simp [Memory.participantAt, hplace] at hexisting
    | some found =>
      obtain ⟨participant, hlookup, hname⟩ := hsound.2.placed.participants partitionId found hplace
      simp only [Memory.participantAt, hplace, Option.bind_eq_bind,
        Option.bind_some, hlookup, Option.getD_some] at hexisting
      rw [← hname]
      refine (hsound.2.placed.records found participant hlookup).2 ?_
      rw [hexisting]
      rfl

theorem upsertParticipant_safe {reference : Option Nat}
    (hready : scene.Ready (.begin partitionId reference)) :
    TaskSafe (upsertParticipant partitionId reference) scene := by
  have hkey : ∀ before : Scene setting, scene.Grows before →
      partitionId ∈ before.memory.core.keys :=
    fun before hgrows => hgrows.memory.keys hready.1
  have hinstalled : ∀ before : Scene setting, scene.Grows before →
      (before.memory.install (upsertedParticipant before.memory partitionId
        reference)).core = before.memory.core := by
    intro before hgrows
    rw [Memory.install_core]
    have : insert partitionId before.memory.core.keys =
        before.memory.core.keys :=
      Set.insert_eq_of_mem (hkey before hgrows)
    exact congrArg (fun keys => { before.memory.core with keys }) this
  unfold upsertParticipant
  refine safe_update ?_ ?_
  · intro before hlater
    refine ⟨⟨?_, hlater.sound.2.placed.install ?_ ?_⟩,
      hlater.sound.2.placed.install_keeps _, fun _ => hinstalled before hlater.grows⟩
    · rw [hinstalled before hlater.grows]
      exact hlater.sound.2.core
    · exact hlater.sound.2.placed.admitted (hkey before hlater.grows)
    · exact upsertedParticipant_backed hlater.sound (hready.grows hlater.grows).2
  · intro before hlater hsound
    refine safe_handle hsound (persistParticipant_safe before.memory.nextRecord _)
      (fun _ _ _ _ => trivial) ?_
    intro failed failure hfailed _
    -- The place the record took is given back to the one found there.
    obtain ⟨old, hold⟩ := Option.isSome_iff_exists.mp
      (AList.lookup_isSome.mpr (hkey before hlater.grows))
    have hinstall : before.Grows { before with
        memory := before.memory.install
          (upsertedParticipant before.memory partitionId reference) } :=
      ⟨.refl _, hlater.sound.2.placed.install_keeps _⟩
    have hgrows : before.Grows failed := hinstall.trans hfailed.grows
    rw [hold]
    refine safe_update ?_ (fun _ _ _ => trivial)
    intro now hnow
    have hnames : now.memory.Names old partitionId :=
      (hlater.sound.2.placed.participants partitionId old hold).keeps
        (hgrows.trans hnow.grows).memory
    have hmem : partitionId ∈ now.memory.core.keys :=
      hkey now (hlater.grows.trans (hgrows.trans hnow.grows))
    have hcore := Memory.bind_core old hmem
    refine ⟨⟨?_, hnow.sound.2.placed.bind hnames⟩, ⟨?_, ?_⟩, fun _ => hcore⟩
    · rw [hcore]
      exact hnow.sound.2.core
    · exact fun _ participant hlookup => ⟨participant, hlookup, rfl⟩
    · rw [hcore]

theorem runTask_safe {task : Task} (hready : scene.Ready task) :
    TaskSafe (runTask setting task) scene := by
  cases task with
  | stage stage partitionId budgetBound => exact runStageTask_safe hready
  | begin partitionId reference =>
    refine safe_begin fun before answer hlater => ?_
    refine safe_raise ?_ (fun _ _ => trivial)
    intro _ _
    refine TaskSafe.seq hlater.sound (upsertParticipant_safe (hready.grows hlater.grows)) ?_
    intro final _ _
    trivial

end LagrangeDb.Transaction
