import LagrangeDb.Transaction.RecoverySafe

namespace LagrangeDb.Transaction

open Data LagrangeDb.Participant
open Data.Program (Safe)

/-! Every state of every run is in order, and the participants of the
transaction agree in it. -/

variable {setting : Setting}

theorem rely_trans (h : (discipline setting party).rely first second)
    (hnext : (discipline setting party).rely second third) :
    (discipline setting party).rely first third :=
  ⟨h.1.trans hnext.1, fun hparty => (hnext.2 hparty).trans (h.2 hparty)⟩

theorem rely_refl (party : Party) (scene : Scene setting) :
    (discipline setting party).rely scene scene :=
  ⟨.refl scene, fun _ => rfl⟩

variable {before after : Scene setting} {α : Type}

theorem TaskSafe.later (h : TaskSafe program before)
    (hgrows : before.Grows after) : TaskSafe program after :=
  Program.Safe.later rely_trans (fun _ _ => trivial) ⟨hgrows, fun hparty => by cases hparty⟩ h

theorem Operation.Post.later {operation : Operation}
    (hrely : (discipline setting .operation).rely before after)
    (h : operation.Post before result) : operation.Post after result := by
  intro hcommit hdenies
  obtain hdecided | ⟨hthrown, hnone⟩ := h hcommit hdenies
  · exact .inl (hdecided.grows hrely.1.cluster)
  refine .inr ⟨hthrown, ?_⟩
  rw [Scene.core, hrely.2 rfl]
  exact hnone

variable {response : Response}

theorem Call.performs_of_run {request : Call} {answer : request.Answer}
    (h : request.run before response = some (answer, after)) :
    Performs request before answer after := by
  cases request with
  | stage tasks => cases response <;> cases h
  | _ => exact ⟨response, h⟩

theorem advance_safe {post : Scene setting → Except Failure α → Prop}
    {program next : Prog α} (hsound : before.Sound) (h : SafeBy party post program before)
    (hadvance : advance before response program = some (after, next)) :
    after.Sound ∧ (discipline setting party).guarantee before after ∧
      SafeBy party post next after := by
  cases program with
  | done result => cases hadvance
  | call request rest =>
    obtain ⟨⟨answer, scene⟩, hrun, hnext⟩ := Option.bind_eq_some_iff.mp hadvance
    cases hnext
    exact (h before (rely_refl party before) hsound).2 answer after (Call.performs_of_run hrun)

structure Coordinator.Sound (coordinator : Coordinator)
    (cluster : Cluster setting) : Prop where
  memory : coordinator.memory.Sound cluster
  operation : ∀ operation program, coordinator.operation = some (operation, program) →
    SafeBy .operation operation.Post program { cluster, memory := coordinator.memory }
  stage : ∀ tasks, coordinator.stage = some tasks →
    ∀ task, task ∈ tasks → TaskSafe task ({ cluster, memory := coordinator.memory } : Scene setting)
  background : ∀ task, task ∈ coordinator.background →
    TaskSafe task ({ cluster, memory := coordinator.memory } : Scene setting)

variable {cluster : Cluster setting} {coordinator : Coordinator}

theorem Coordinator.Sound.acted {after : Scene setting}
    (h : coordinator.Sound cluster) (hafter : after.Sound)
    (hgrows : Scene.Grows { cluster, memory := coordinator.memory } after)
    (hcore : after.core = coordinator.memory.core) :
    Coordinator.Sound { coordinator with memory := after.memory }
      after.cluster where
  memory := hafter.2
  operation operation program hoperation :=
    (h.operation operation program hoperation).later rely_trans
      (fun hstep hpost => hpost.later hstep) ⟨hgrows, fun _ => hcore⟩
  stage tasks htasks task hmem := (h.stage tasks htasks task hmem).later hgrows
  background task hmem := (h.background task hmem).later hgrows

theorem Coordinator.Sound.grows {before after : Cluster setting} (h : coordinator.Sound before)
    (hsound : after.Sound) (hgrows : before.Grows after) : coordinator.Sound after :=
  @Coordinator.Sound.acted setting before coordinator
    { cluster := after, memory := coordinator.memory } h
    ⟨hsound, h.memory.grows hgrows⟩ ⟨hgrows, .refl _⟩ rfl

/-- What a move of a coordinator keeps, and what it may tell a client. -/
structure Moved (cluster next : Cluster setting) (coordinator : Coordinator)
    (moved : Coordinator) (answers : List (Operation × Outcome)) : Prop where
  sound : next.Sound
  grows : cluster.Grows next
  kept : moved.Sound next
  tells : ∀ outcome, (.commit, outcome) ∈ answers →
    Scene.Tells { cluster, memory := coordinator.memory } outcome

section Moves

variable {next : Except Failure (List FailedParticipant) → Prog Outcome}

section

variable (hcluster : cluster.Sound)

include hcluster

theorem Moved.quiet {moved : Coordinator} (h : moved.Sound cluster) :
    Moved cluster cluster coordinator moved [] :=
  ⟨hcluster, .refl _, h, fun _ hmem => by cases hmem⟩

section

variable (h : coordinator.Sound cluster)

include h

theorem Moved.operation {operation : Operation} {program next : Prog Outcome}
    {after : Scene setting} (hoperation : coordinator.operation = some (operation, program))
    (hadvance : advance { cluster, memory := coordinator.memory } response
      program = some (after, next)) :
    Moved cluster after.cluster coordinator
      { coordinator with
        memory := after.memory, operation := some (operation, next) } [] := by
  obtain ⟨hafter, ⟨hgrows, -⟩, hnext⟩ := advance_safe
    ⟨hcluster, h.memory⟩ (h.operation operation program hoperation) hadvance
  refine ⟨hafter.1, hgrows.cluster, ⟨hafter.2, ?_, ?_, ?_⟩, fun _ hmem => by cases hmem⟩
  · intro other program hother
    cases hother
    exact hnext
  · intro tasks htasks task hmem
    exact (h.stage tasks htasks task hmem).later hgrows
  · intro task hmem
    exact (h.background task hmem).later hgrows

theorem advanceAt_safe {tasks next : List TaskProgram} {after : Scene setting}
    (htasks : ∀ task, task ∈ tasks → TaskSafe task
      ({ cluster, memory := coordinator.memory } : Scene setting))
    (hadvance : advanceAt { cluster, memory := coordinator.memory } tasks index
      response = some (after, next)) :
    after.cluster.Sound ∧ cluster.Grows after.cluster ∧
      Coordinator.Sound { coordinator with memory := after.memory }
        after.cluster ∧
      ∀ task, task ∈ next → TaskSafe task after := by
  obtain ⟨task, htask, hadvance⟩ := Option.bind_eq_some_iff.mp hadvance
  obtain ⟨⟨scene, result⟩, hstep, hnext⟩ := Option.bind_eq_some_iff.mp hadvance
  cases hnext
  obtain ⟨hafter, ⟨hgrows, hcore⟩, hresult⟩ := advance_safe
    ⟨hcluster, h.memory⟩ (htasks task (List.mem_of_getElem? htask)) hstep
  refine ⟨hafter.1, hgrows.cluster, h.acted hafter hgrows (hcore rfl), ?_⟩
  intro other hother
  obtain hmem | rfl := List.mem_or_eq_of_mem_set hother
  · exact (htasks other hmem).later hgrows
  · exact hresult

theorem Moved.task {tasks next : List TaskProgram} {after : Scene setting}
    (hstage : coordinator.stage = some tasks)
    (hadvance : advanceAt { cluster, memory := coordinator.memory } tasks index
      response = some (after, next)) :
    Moved cluster after.cluster coordinator
      { coordinator with memory := after.memory, stage := some next } [] := by
  obtain ⟨hafter, hgrows, hkept, hnext⟩ := advanceAt_safe hcluster h (h.stage tasks hstage) hadvance
  refine ⟨hafter, hgrows, ⟨hkept.memory, hkept.operation, ?_,
    hkept.background⟩, fun _ hmem => by cases hmem⟩
  intro found hfound
  cases hfound
  exact hnext

theorem Moved.background {next : List TaskProgram} {after : Scene setting}
    (hadvance : advanceAt { cluster, memory := coordinator.memory }
      coordinator.background index response = some (after, next)) :
    Moved cluster after.cluster coordinator
      { coordinator with memory := after.memory, background := next } [] := by
  obtain ⟨hafter, hgrows, hkept, hnext⟩ := advanceAt_safe hcluster h h.background hadvance
  exact ⟨hafter, hgrows, ⟨hkept.memory, hkept.operation, hkept.stage, hnext⟩,
    fun _ hmem => by cases hmem⟩

theorem Moved.openStage {operation : Operation} {tasks : List Task}
    (hoperation : coordinator.operation = some (operation, .call (.stage tasks) next)) :
    Moved cluster cluster coordinator
      { coordinator with stage := some (tasks.map (runTask setting)) } [] := by
  refine .quiet hcluster ⟨h.memory, h.operation, ?_, h.background⟩
  intro found hfound task hmem
  cases hfound
  obtain ⟨source, hsource, rfl⟩ := List.mem_map.mp hmem
  have hready := (h.operation operation _ hoperation _
    (rely_refl .operation _) ⟨hcluster, h.memory⟩).1.2 source hsource
  exact runTask_safe hready

end

end

theorem Coordinator.Sound.join {tasks : List TaskProgram}
    (h : coordinator.Sound cluster) (hstage : coordinator.stage = some tasks)
    (hjoin : coordinator.join tasks awaited = some (result, joined)) :
    joined.Sound cluster ∧ joined.memory = coordinator.memory ∧
      joined.operation = coordinator.operation := by
  cases awaited with
  | all =>
    obtain ⟨failed, -, hjoined⟩ := Option.bind_eq_some_iff.mp hjoin
    cases hjoined
    exact ⟨⟨h.memory, h.operation, nofun, h.background⟩, rfl, rfl⟩
  | thrown index =>
    simp only [Coordinator.join] at hjoin
    split at hjoin
    on_goal 2 => cases hjoin
    cases hjoin
    refine ⟨⟨h.memory, h.operation, nofun, ?_⟩, rfl, rfl⟩
    intro task hmem
    obtain hmem | hmem := List.mem_append.mp hmem
    · exact h.stage tasks hstage task hmem
    · exact h.background task hmem

theorem Moved.join {operation : Operation} {tasks : List TaskProgram} (hcluster : cluster.Sound)
    (h : coordinator.Sound cluster)
    (hoperation : coordinator.operation = some (operation, .call (.stage stageTasks) next))
    (hstage : coordinator.stage = some tasks)
    (hjoin : coordinator.join tasks awaited = some (result, joined)) :
    Moved cluster cluster coordinator
      { joined with operation := some (operation, next result) } [] := by
  obtain ⟨hjoined, hmemory, -⟩ := h.join hstage hjoin
  refine .quiet hcluster ⟨hjoined.memory, ?_, hjoined.stage, hjoined.background⟩
  intro other program hother
  cases hother
  obtain ⟨-, -, hnext⟩ := (h.operation operation _ hoperation _
    (rely_refl .operation _) ⟨hcluster, h.memory⟩).2 result _ rfl
  rw [hmemory]
  exact hnext

end Moves

theorem Coordinator.move_moved {cluster next : Cluster setting} {coordinator moved : Coordinator}
    {move : Move} {answers : List (Operation × Outcome)} (hcluster : cluster.Sound)
    (h : coordinator.Sound cluster)
    (hmove : coordinator.move cluster move = some (next, moved, answers)) :
    Moved cluster next coordinator moved answers := by
  cases move with
  | start operation =>
    simp only [Coordinator.move] at hmove
    split at hmove
    · cases hmove
    cases hmove
    refine .quiet hcluster ⟨h.memory, ?_, h.stage, h.background⟩
    intro other program hother
    cases hother
    exact Operation.program_safe operation
  | call response =>
    simp only [Coordinator.move] at hmove
    split at hmove
    · cases hmove
    next operation program hoperation =>
    obtain ⟨⟨scene, result⟩, hstep, hnext⟩ := Option.bind_eq_some_iff.mp hmove
    cases hnext
    exact .operation hcluster h hoperation hstep
  | openStage =>
    simp only [Coordinator.move] at hmove
    split at hmove
    on_goal 2 => cases hmove
    next operation tasks rest hoperation hstage =>
    cases hmove
    exact .openStage hcluster h hoperation
  | task index response =>
    simp only [Coordinator.move] at hmove
    split at hmove
    · cases hmove
    next tasks hstage =>
    obtain ⟨⟨scene, result⟩, hstep, hnext⟩ := Option.bind_eq_some_iff.mp hmove
    cases hnext
    exact .task hcluster h hstage hstep
  | join awaited =>
    simp only [Coordinator.move] at hmove
    split at hmove
    on_goal 2 => cases hmove
    next operation stageTasks rest tasks hoperation hstage =>
    obtain ⟨⟨result, joined⟩, hjoin, hnext⟩ := Option.bind_eq_some_iff.mp hmove
    cases hnext
    exact .join hcluster h hoperation hstage hjoin
  | background index response =>
    obtain ⟨⟨scene, result⟩, hstep, hnext⟩ := Option.bind_eq_some_iff.mp hmove
    cases hnext
    exact .background hcluster h hstep
  | finish =>
    simp only [Coordinator.move] at hmove
    split at hmove
    on_goal 2 => cases hmove
    next operation result hoperation =>
    cases hmove
    refine ⟨hcluster, .refl _, ⟨h.memory, nofun, h.stage, h.background⟩, ?_⟩
    intro outcome hmem
    cases List.mem_singleton.mp hmem
    exact h.operation .commit _ hoperation rfl

structure World.Sound (world : World setting) : Prop where
  cluster : world.cluster.Sound
  coordinators : ∀ index coordinator, world.coordinators.lookup index = some coordinator →
    coordinator.Sound world.cluster

variable {world : World setting}

theorem World.Sound.withCluster (h : world.Sound) (hsound : cluster.Sound)
    (hgrows : world.cluster.Grows cluster) : World.Sound { world with cluster } :=
  ⟨hsound, fun index coordinator hlookup =>
    (h.coordinators index coordinator hlookup).grows hsound hgrows⟩

theorem World.Sound.withCoordinator (h : world.Sound) (index : Nat)
    (hcoordinator : coordinator.Sound world.cluster) : World.Sound { world with
      coordinators := world.coordinators.insert index coordinator } := by
  refine ⟨h.cluster, ?_⟩
  intro other found hlookup
  simp only [Data.Keyed.lookup_insert] at hlookup
  split at hlookup
  · cases hlookup
    exact hcoordinator
  · exact h.coordinators other found hlookup

theorem recoveredMemory_sound (h : cluster.Sound) :
    (recoveredMemory cluster.store).Sound cluster := by
  unfold recoveredMemory
  have hempty : Memory.Placed
      { tx := {
          status := cluster.store.row.status
          participantSetState := cluster.store.row.participantSetState
          participantSetText := cluster.store.row.participantSetText
          commitMode := cluster.store.row.commitMode
          frozenParticipantCount := cluster.store.row.frozenParticipantCount
          participants := ∅
          decision := none
          decisionReadState := none
          commitPointReached := false
          recoveryDiscovered := true }
        records := ∅
        nextRecord := 0
        active := false
        ended := none } cluster := by
    constructor <;> simp
  have hall : ∀ participant, participant ∈
      cluster.store.participants.entries.map (fun entry => recoveredParticipant entry.1 entry.2) →
      cluster.Admitted participant.partitionId ∧
        cluster.Backed participant.partitionId participant.preparedDigest := by
    intro participant hmem
    obtain ⟨⟨partitionId, record⟩, hentry, rfl⟩ := List.mem_map.mp hmem
    obtain ⟨hadmitted, hbacked⟩ := h.participants partitionId record
      (AList.mem_lookup_iff.mpr hentry)
    refine ⟨hadmitted, fun hsome => hbacked ?_⟩
    obtain ⟨digest, hdigest⟩ := Option.isSome_iff_exists.mp hsome
    rw [(Option.filter_eq_some_iff.mp hdigest).1]
    rfl
  obtain ⟨hplaced, -, hcore⟩ := hempty.installAll _ hall
  refine ⟨?_, hplaced⟩
  rw [hcore]
  exact ⟨nofun, fun _ hmem => hmem, fun hfrozen => ⟨hfrozen, rfl⟩, nofun, nofun⟩

theorem Coordinator.Sound.idle {memory : Memory} (h : memory.Sound cluster) :
    (Coordinator.idle memory).Sound cluster :=
  ⟨h, nofun, nofun, nofun⟩

theorem World.Sound.begun (tables : String → setting.platform.Table) :
    (World.begun tables).Sound := by
  have hmemory : begunMemory.Sound (World.begun tables).cluster := by
    refine ⟨⟨nofun, nofun, nofun, nofun, nofun⟩, ?_⟩
    constructor <;> simp [begunMemory]
  refine ⟨?_, ?_⟩
  · constructor
    case named => exact fun _ => rfl
    case reserved => exact fun partitionId => .fresh partitionId (tables partitionId)
    all_goals
      simp [World.begun, begunStore, Cluster.participantRow, Cluster.partitions, PartitionState.fresh]
  · intro index coordinator hlookup
    have hmem := AList.mem_lookup_iff.mp hlookup
    simp only [World.begun, AList.singleton, List.mem_singleton] at hmem
    cases hmem
    exact .idle hmemory

theorem World.Sound.step (hdet : setting.platform.Deterministic)
    {world next : World setting} (h : world.Sound)
    (hstep : world.step choice = some next) : next.Sound ∧ world.cluster.Grows next.cluster := by
  cases choice with
  | move index move =>
    simp only [World.step] at hstep
    split at hstep
    · cases hstep
    next coordinator hlookup =>
    obtain ⟨⟨cluster, moved, answers⟩, hmove, hnext⟩ := Option.bind_eq_some_iff.mp hstep
    cases hnext
    have hmoved := Coordinator.move_moved h.cluster (h.coordinators index coordinator hlookup) hmove
    have hworld := h.withCluster hmoved.sound hmoved.grows
    obtain ⟨hcluster, hcoordinators⟩ := hworld.withCoordinator index hmoved.kept
    exact ⟨⟨hcluster, hcoordinators⟩, hmoved.grows⟩
  | crash index =>
    cases hstep
    refine ⟨⟨h.cluster, ?_⟩, .refl _⟩
    intro other coordinator hlookup
    by_cases hsame : other = index
    · subst hsame
      rw [AList.lookup_erase] at hlookup
      cases hlookup
    · rw [AList.lookup_erase_ne hsame] at hlookup
      exact h.coordinators other coordinator hlookup
  | recover index =>
    simp only [World.step] at hstep
    split at hstep
    · cases hstep
    cases hstep
    refine ⟨h.withCoordinator index (.idle ?_), .refl _⟩
    exact recoveredMemory_sound h.cluster
  | apply partitionId replica host entry =>
    obtain ⟨cluster, happly, hnext⟩ := Option.bind_eq_some_iff.mp hstep
    cases hnext
    obtain ⟨hsound, hgrows⟩ := h.cluster.applyEntry hdet happly
    exact ⟨h.withCluster hsound hgrows, hgrows⟩
  | answer partitionId operation =>
    obtain ⟨cluster, hanswer, hnext⟩ := Option.bind_eq_some_iff.mp hstep
    cases hnext
    obtain ⟨hsound, hgrows⟩ := h.cluster.answerFromRow hanswer
    exact ⟨h.withCluster hsound hgrows, hgrows⟩
  | arrive index =>
    obtain ⟨mutation, hpending, hnext⟩ := Option.bind_eq_some_iff.mp hstep
    cases hnext
    have hadmissible := h.cluster.pending mutation (List.mem_of_getElem? hpending)
    have heffect := mutation.apply_effect world.cluster.store
    have hgrows := Cluster.grows_of_effect hadmissible heffect
    exact ⟨h.withCluster (h.cluster.effect hadmissible heffect) hgrows, hgrows⟩

theorem World.Sound.run (hdet : setting.platform.Deterministic) (choices : List (Choice setting))
    {world final : World setting} (h : world.Sound)
    (hrun : world.run choices = some final) :
    final.Sound ∧ world.cluster.Grows final.cluster := by
  induction choices generalizing world with
  | nil =>
    cases hrun
    exact ⟨h, .refl _⟩
  | cons choice rest ih =>
    obtain ⟨next, hstep, hrest⟩ := Option.bind_eq_some_iff.mp hrun
    obtain ⟨hnext, hgrows⟩ := h.step hdet hstep
    obtain ⟨hfinal, hlast⟩ := ih hnext hrest
    exact ⟨hfinal, hgrows.trans hlast⟩

/-! Only the application of an entry changes a partition. -/

theorem Call.run_replicas {scene next : Scene setting} {request : Call}
    {answer : request.Answer} (hrun : request.run scene response = some (answer, next)) :
    next.cluster.replicas = scene.cluster.replicas := by
  unfold Call.run at hrun
  repeat' split at hrun
  all_goals
    cases hrun
    try rfl

theorem advance_replicas {α : Type} {scene next : Scene setting} {program moved : Prog α}
    (hadvance : advance scene response program = some (next, moved)) :
    next.cluster.replicas = scene.cluster.replicas := by
  cases program with
  | done => cases hadvance
  | call request following =>
    obtain ⟨⟨answer, ran⟩, hrun, hnext⟩ := Option.bind_eq_some_iff.mp hadvance
    cases hnext
    exact Call.run_replicas hrun

theorem advanceAt_replicas {scene next : Scene setting} {tasks moved : List TaskProgram}
    (hadvance : advanceAt scene tasks index response = some (next, moved)) :
    next.cluster.replicas = scene.cluster.replicas := by
  obtain ⟨task, -, hadvance⟩ := Option.bind_eq_some_iff.mp hadvance
  obtain ⟨⟨ran, following⟩, hrun, hnext⟩ := Option.bind_eq_some_iff.mp hadvance
  cases hnext
  exact advance_replicas hrun

theorem Coordinator.move_replicas {cluster next : Cluster setting}
    {coordinator moved : Coordinator} {move : Move} {answers : List (Operation × Outcome)}
    (hmove : coordinator.move cluster move = some (next, moved, answers)) :
    next.replicas = cluster.replicas := by
  cases move with
  | background index response =>
    obtain ⟨⟨scene, tasks⟩, hadvance, hnext⟩ := Option.bind_eq_some_iff.mp hmove
    cases hnext
    exact advanceAt_replicas hadvance
  | call response =>
    simp only [Coordinator.move] at hmove
    split at hmove
    · cases hmove
    obtain ⟨⟨scene, program⟩, hadvance, hnext⟩ := Option.bind_eq_some_iff.mp hmove
    cases hnext
    exact advance_replicas hadvance
  | task index response =>
    simp only [Coordinator.move] at hmove
    split at hmove
    · cases hmove
    obtain ⟨⟨scene, tasks⟩, hadvance, hnext⟩ := Option.bind_eq_some_iff.mp hmove
    cases hnext
    exact advanceAt_replicas hadvance
  | join awaited =>
    simp only [Coordinator.move] at hmove
    split at hmove
    on_goal 2 => cases hmove
    obtain ⟨joined, -, hnext⟩ := Option.bind_eq_some_iff.mp hmove
    cases hnext
    rfl
  | _ =>
    simp only [Coordinator.move] at hmove
    split at hmove <;> cases hmove
    rfl

theorem Cluster.CommitsUnrefused.of_replicas {before after : Cluster setting}
    (h : before.CommitsUnrefused) (hreplicas : after.replicas = before.replicas) :
    after.CommitsUnrefused := by
  intro partitionId
  rw [Cluster.partitions, hreplicas]
  exact h partitionId

theorem World.commitsUnrefused_step (hdet : setting.platform.Deterministic)
    {world next : World setting} (hsound : world.Sound) (h : world.cluster.CommitsUnrefused)
    (hcaptures : world.captures choice = true) (hstep : world.step choice = some next) :
    next.cluster.CommitsUnrefused := by
  cases choice with
  | apply partitionId replica host entry =>
    obtain ⟨cluster, happly, hnext⟩ := Option.bind_eq_some_iff.mp hstep
    cases hnext
    exact h.applyEntry hdet hsound.cluster hcaptures happly
  | move index move =>
    simp only [World.step] at hstep
    split at hstep
    · cases hstep
    obtain ⟨⟨cluster, moved, answers⟩, hmove, hnext⟩ := Option.bind_eq_some_iff.mp hstep
    cases hnext
    exact h.of_replicas (Coordinator.move_replicas hmove)
  | crash index =>
    cases hstep
    exact h
  | recover index =>
    simp only [World.step] at hstep
    split at hstep <;> cases hstep
    exact h
  | answer partitionId operation =>
    obtain ⟨cluster, hanswer, hnext⟩ := Option.bind_eq_some_iff.mp hstep
    cases hnext
    unfold Cluster.answerFromRow at hanswer
    split at hanswer <;> cases hanswer
    exact h
  | arrive index =>
    obtain ⟨mutation, -, hnext⟩ := Option.bind_eq_some_iff.mp hstep
    cases hnext
    exact h

theorem World.commitsUnrefused_run (hdet : setting.platform.Deterministic)
    (choices : List (Choice setting)) {world final : World setting} (hsound : world.Sound)
    (h : world.cluster.CommitsUnrefused) (hcaptured : world.Captured choices)
    (hrun : world.run choices = some final) : final.cluster.CommitsUnrefused := by
  induction choices generalizing world with
  | nil =>
    cases hrun
    exact h
  | cons choice rest ih =>
    obtain ⟨next, hstep, hrest⟩ := Option.bind_eq_some_iff.mp hrun
    exact ih (hsound.step hdet hstep).1
      (World.commitsUnrefused_step hdet hsound h hcaptured.1 hstep)
      (hcaptured.2 next hstep) hrest

namespace Cluster

def HoldsRow (cluster : Cluster setting) (row : ParticipantRow) : Prop :=
  ∃ partitionId key, key.transactionId = setting.transactionId ∧
    (cluster.partitions partitionId).rows.lookup key = some row

theorem Sound.participantRow (h : cluster.Sound) (hrow : cluster.HoldsRow row) :
    ∃ partitionId, cluster.participantRow partitionId = some row := by
  obtain ⟨partitionId, ⟨transactionId, participantId⟩, hof, hlookup⟩ := hrow
  have hname := (h.reserved partitionId).named _ row hlookup
  rw [h.named partitionId] at hname
  refine ⟨partitionId, ?_⟩
  simp only at hof hname
  subst hof hname
  exact hlookup

theorem Sound.committed_decided (h : cluster.Sound)
    (hrow : cluster.HoldsRow row) (hcommitted : row.state = .committed) :
    cluster.Decided .commit := by
  obtain ⟨partitionId, hlookup⟩ := h.participantRow hrow
  have haccounts := h.rows partitionId row hlookup
  simpa only [Accounts, hcommitted] using haccounts

/-- A decided COMMIT leaves no room for another outcome: its set is frozen and
each of its participants had prepared. -/
theorem Sound.decided_commit (h : cluster.Sound)
    (hdecided : cluster.Decided .commit) (hrow : cluster.HoldsRow row) :
    row.state ≠ .rolledBack ∧ row.refusesPrepare = false := by
  obtain ⟨partitionId, hlookup⟩ := h.participantRow hrow
  have haccounts := h.rows partitionId row hlookup
  constructor
  · intro hstate
    simp only [Accounts, hstate] at haccounts
    cases hdecided.unique haccounts
  rw [Bool.eq_false_iff]
  intro hrefuses
  simp only [ParticipantRow.refusesPrepare, Bool.and_eq_true, decide_eq_true_eq,
    Option.isNone_iff_eq_none] at hrefuses
  simp only [Accounts, hrefuses.1] at haccounts
  obtain ⟨stored, hstored, hcommit⟩ := hdecided
  obtain ⟨held, hheld, hunrefused⟩ :=
    (h.decided stored hstored).2 hcommit partitionId (haccounts hrefuses.2).2
  rw [hlookup] at hheld
  cases hheld
  simp [ParticipantRow.refusesPrepare, hrefuses] at hunrefused

/-- Where no COMMIT was refused, a refused row was refused at its PREPARE. -/
theorem CommitsUnrefused.refusesPrepare (h : cluster.CommitsUnrefused)
    (hrow : cluster.HoldsRow row) (hrefused : row.state = .refused) : row.refusesPrepare = true := by
  obtain ⟨partitionId, key, -, hlookup⟩ := hrow
  simp [ParticipantRow.refusesPrepare, hrefused,
    (h partitionId).undecided key row hlookup hrefused]

end Cluster

theorem World.commitsUnrefused (hdet : setting.platform.Deterministic)
    {tables : String → setting.platform.Table} {choices : List (Choice setting)}
    {world : World setting} (hcaptured : (World.begun tables).Captured choices)
    (hrun : (World.begun tables).run choices = some world) : world.cluster.CommitsUnrefused :=
  World.commitsUnrefused_run hdet choices (.begun tables)
    (fun partitionId => .fresh partitionId (tables partitionId)) hcaptured hrun

/-- Where no table owes events no COMMIT meets a capture. -/
theorem World.captured_of_unowed (world : World setting) (choices : List (Choice setting))
    (hunowed : ∀ tableName, setting.cdc.isTableCdcObligationRecorded tableName = false) :
    world.Captured choices := by
  refine allowed_of_forall fun choice _ world => ?_
  cases choice with
  | apply partitionId replica host entry => exact Cdc.captures_of_unowed (hunowed _) entry
  | _ => rfl

/-- Wherever the coordinators, their crashes and recoveries, the messages and
the partitions' logs lead: a committed participant row has a stored COMMIT and
no other row rolled back, and none refused as long as no capture made a COMMIT fail. -/
theorem World.agreement (hdet : setting.platform.Deterministic)
    (tables : String → setting.platform.Table)
    (choices : List (Choice setting)) (world : World setting)
    (hrun : (World.begun tables).run choices = some world)
    (row : ParticipantRow) (hrow : world.cluster.HoldsRow row)
    (hcommitted : row.state = .committed) :
    (∃ stored, world.cluster.store.row.decision = some stored ∧ stored.decision = .commit) ∧
    ∀ other, world.cluster.HoldsRow other → other.state ≠ .rolledBack ∧
      ((World.begun tables).Captured choices → other.state ≠ .refused) := by
  obtain ⟨hsound, -⟩ := World.Sound.run hdet choices (.begun tables) hrun
  have hdecided := hsound.cluster.committed_decided hrow hcommitted
  refine ⟨hdecided, fun other hother => ?_⟩
  obtain ⟨hstate, hunrefused⟩ := hsound.cluster.decided_commit hdecided hother
  refine ⟨hstate, fun hcaptured hrefused => ?_⟩
  have hrefuses := (World.commitsUnrefused hdet hcaptured hrun).refusesPrepare hother hrefused
  rw [hunrefused] at hrefuses
  cases hrefuses

/-- What is stored stands. Whenever it arrives, a PREPARE finds its participant in a frozen set, and
a decision is the one stored. A stored decision is final, and so is the set it was made for; with
COMMIT stored every participant of the set has prepared, and committed if anything but for a capture
that failed. -/
theorem World.decision_stands (hdet : setting.platform.Deterministic)
    {tables : String → setting.platform.Table} {choices later : List (Choice setting)}
    {world final : World setting} (hrun : (World.begun tables).run choices = some world)
    (hlater : world.run later = some final) :
    (∀ request ∈ world.cluster.requests, final.cluster.Permits request) ∧
    ∀ stored, world.cluster.store.row.decision = some stored →
      final.cluster.store.row.decision = some stored ∧
      final.cluster.store.row.participantSetText = world.cluster.store.row.participantSetText ∧
      (stored.decision = .commit → ∀ partitionId ∈ world.cluster.store.row.participantSetText,
        ∃ row, final.cluster.participantRow partitionId = some row ∧ row.state ≠ .rolledBack ∧
          row.refusesPrepare = false ∧
          ((World.begun tables).Captured choices → world.Captured later →
            row.state = .prepared ∨ row.state = .committed)) := by
  obtain ⟨hsound, -⟩ := World.Sound.run hdet choices (.begun tables) hrun
  obtain ⟨hfinal, hgrows⟩ := hsound.run hdet later hlater
  refine ⟨fun request hmem => (hsound.cluster.requests request hmem).grows hgrows, ?_⟩
  intro stored hstored
  obtain ⟨hfrozen, hsupports⟩ := hsound.cluster.decided stored hstored
  refine ⟨hgrows.decision stored hstored, (hgrows.frozen hfrozen).2, ?_⟩
  intro hcommit partitionId hmem
  obtain ⟨row, hrow, hunrefused⟩ := hgrows.held partitionId (hsupports hcommit partitionId hmem)
  have hholds : final.cluster.HoldsRow row := ⟨partitionId, _, rfl, hrow⟩
  obtain ⟨hopen, -⟩ := hfinal.cluster.decided_commit
    ⟨stored, hgrows.decision stored hstored, hcommit⟩ hholds
  refine ⟨row, hrow, hopen, hunrefused, fun hcaptured hlaterCaptured => ?_⟩
  have hclean := World.commitsUnrefused_run hdet later hsound
    (World.commitsUnrefused hdet hcaptured hrun) hlaterCaptured hlater
  cases hstate : row.state with
  | prepared => exact .inl rfl
  | committed => exact .inr rfl
  | rolledBack => exact absurd hstate hopen
  | refused =>
    have hrefuses := hclean.refusesPrepare hholds hstate
    rw [hunrefused] at hrefuses
    cases hrefuses

namespace Sample

open LagrangeDb.Participant.Sample (sqlLog sqlLog_deterministic operations)

/-- Every table owes events; there is no table OR to read a row from. -/
def platform : Cdc.CdcPlatform where
  toPlatform := sqlLog
  isTableCdcObligationRecorded := fun _ => true
  fetchRow := fun _ _ tableName _ =>
    if tableName = "OR" then
      .error {
        code := some "SQLITE_ERROR"
        name := "SqliteError"
        message := "near \"OR\": syntax error" }
    else .ok none
  paramValue
    | .text value => .primitive (.string value)
    | _ => .primitive .null
  digestFields := fun _ => "fields"
  digestScope := fun _ _ => "scope"
  digestEventKey := fun _ => "key"

def single : Setting :=
  { cdc := platform
    tableNameOf := fun _ => "nodes"
    transactionId := "t"
    sessionId := "s"
    transactionEpoch := 1
    participantRetryMaxRetries := 0 }

def begun : World single := World.begun fun _ => ([] : List String)

def calls (coordinator : Nat) (responses : List Response) : List (Choice single) :=
  responses.map fun response => .move coordinator (.call response)

def task (coordinator index : Nat) (responses : List Response) : List (Choice single) :=
  responses.map fun response => .move coordinator (.task index response)

def tasks (coordinator : Nat) (responses : List Response) : List (Choice single) :=
  task coordinator 0 responses

def enlisting : List (Choice single) :=
  .move 0 (.start (.enlist ["p"])) :: calls 0 [.go, .go, .go, .write true true, .go, .go, .go] ++
    .move 0 .openStage ::
    tasks 0 [.go, .go, .go, .write true true, .go] ++
    .move 0 (.join .all) :: calls 0 [.go] ++ [.move 0 .finish]

def identityOf (partitionId : String) : Identity :=
  { sessionId := some "s", transactionId := "t", participantId := "t:" ++ partitionId
    commitMode := "TWO_PHASE_COMMIT", transactionEpoch := 1 }

def replica : Cdc.Replica where
  replicaId := "r"
  tableId := "nodes"
  rangeStart := none
  rangeEnd := none
  isLeader := true
  isShutdown := false
  cdcSubscribers := 0
  cdcSourceScopeEvidence := none

def entry (partitionId : String) (index : Nat) (command : Command) : Choice single :=
  .apply partitionId replica () {
    command := .partition command { timestamp := none, proposedBy := none }
      { data := none, whereClause := none, tableName := none, splitMirrorOrigin := none }
    position := { index, term := 1 } }

def originOf (partitionId : String) : Choice single :=
  entry partitionId 1 (.generationOrigin {
    entryId := partitionId ++ ":generation-origin", partitionId })

def prepareOf (partitionId spelling : String) (operations : List Participant.Operation) :
    Choice single :=
  entry partitionId 2 (.prepare {
    entryId := "t:" ++ partitionId ++ ":prepare"
    identity := identityOf partitionId
    operationsText := { spelling, operations := some operations }
    validationText := validationTextOf sqlLog.sha256Hex 0 partitionId 1
    preparedDigest := "prepared " ++ spelling })

def commitOf (partitionId spelling : String) (participants : List (String × Option String)) :
    Choice single :=
  entry partitionId 3 (.decision {
    entryId := "t:" ++ partitionId ++ ":decision:decision"
    identity := identityOf partitionId
    decision := .commit
    preparedDigest := some ("prepared " ++ spelling)
    decisionText := .rendered { transactionId := "t", decision := .commit, participants }
    decisionDigest := "decision" })

def origin : Choice single := originOf "p"

def prepare : Choice single := prepareOf "p" "ops" operations

def commit : Choice single := commitOf "p" "ops" [("t:p", some "prepared ops")]

/-- The COMMIT up to its end: the write of PREPARED is applied, and its answer
is lost. -/
def failing : List (Choice single) :=
  .move 0 (.start .commit) ::
    calls 0 [.go, .go, .go, .write true true, .go, .go, .go, .flag false, .go,
      .go, .go, .write true true, .go, .go] ++
    .move 0 .openStage ::
    tasks 0 [.go, .go, .go, .go, .count 1, .flag false, .go, .go] ++
    prepare :: tasks 0 [.reply 0, .go, .go, .go, .write true true, .go] ++
    .move 0 (.join .all) ::
    calls 0 [.flag false, .go, .go, .go, .write true false, .go, .go]

def recovering : List (Choice single) :=
  .crash 0 :: .recover 1 :: .move 1 (.start .redrive) ::
    calls 1 [.go, .go, .read true, .read true, .read true, .go, .go, .go, .go,
      .go, .write true true, .go, .go, .go, .go, .go, .write true true, .go,
      .go] ++
    .move 1 .openStage :: tasks 1 [.go, .go, .go, .go, .go, .go] ++
    commit :: tasks 1 [.reply 0, .go, .go, .write true true, .go] ++
    .move 1 (.join .all) ::
    calls 1 [.go, .go, .write true true, .go, .go] ++ [.move 1 .finish]

def run : List (Choice single) := enlisting ++ origin :: failing ++ .move 0 .finish :: recovering

def bothTasks (responses : List Response) : List (Choice single) :=
  task 0 0 responses ++ task 0 1 responses

/-- The event of this statement is read from the table OR. -/
def ignoring : List Participant.Operation :=
  [{ entryId := none, sql := "UPDATE OR IGNORE nodes SET status = ? WHERE node_id = ?"
     params := [.text "ready", .text "n1"] }]

def bothPrepared : List (String × Option String) :=
  [("t:p", some "prepared ops"), ("t:q", some "prepared ignoring")]

/-- Two participants prepare, the COMMIT is stored, and each applies it. -/
def divided : List (Choice single) :=
  .move 0 (.start (.enlist ["p", "q"])) ::
    calls 0 [.go, .go, .go, .write true true, .go, .go, .go] ++
    .move 0 .openStage :: bothTasks [.go, .go, .go, .write true true, .go] ++
    .move 0 (.join .all) :: calls 0 [.go] ++ .move 0 .finish ::
    originOf "p" :: originOf "q" :: .move 0 (.start .commit) ::
    calls 0 [.go, .go, .go, .write true true, .go, .go, .go, .flag false, .go,
      .go, .go, .write true true, .go, .go] ++
    .move 0 .openStage :: bothTasks [.go, .go, .go, .go, .count 1, .flag false, .go, .go] ++
    prepare :: task 0 0 [.reply 0, .go, .go, .go, .write true true, .go] ++
    prepareOf "q" "ignoring" ignoring ::
    task 0 1 [.reply 0, .go, .go, .go, .write true true, .go] ++
    .move 0 (.join .all) ::
    calls 0 [.flag false, .go, .go, .go, .write true true, .go, .write true true, .go, .go, .go,
      .go, .go, .write true true, .go, .go] ++
    .move 0 .openStage :: bothTasks [.go, .go, .go, .go, .go, .go] ++
    [commitOf "p" "ops" bothPrepared, commitOf "q" "ignoring" bothPrepared]

theorem run_captured : begun.Captured run := by
  decide +kernel

end Sample

theorem World.agreement_of_recovered_commit : ∃ world, Sample.begun.run Sample.run = some world ∧
    (world.cluster.participantRow "p").map ParticipantRow.state = some .committed ∧
    (∃ stored, world.cluster.store.row.decision = some stored ∧ stored.decision = .commit) ∧
    ∀ other, world.cluster.HoldsRow other → other.state ≠ .rolledBack ∧ other.state ≠ .refused := by
  have hstate : (Sample.begun.run Sample.run).bind (fun world =>
      (world.cluster.participantRow "p").map ParticipantRow.state) =
      some .committed := by
    decide +kernel
  obtain ⟨world, hrun, hstate⟩ := Option.bind_eq_some_iff.mp hstate
  obtain ⟨row, hlookup, hcommitted⟩ := Option.map_eq_some_iff.mp hstate
  obtain ⟨hstored, hothers⟩ := World.agreement Sample.sqlLog_deterministic _ Sample.run
    world hrun row ⟨"p", _, rfl, hlookup⟩ hcommitted
  refine ⟨world, hrun, hstate, hstored, fun other hother => ?_⟩
  exact (hothers other hother).imp_right fun hunrefused => hunrefused Sample.run_captured

/-- Both participants prepared and COMMIT is stored. The event of q's statement cannot be read, so
q refuses what p commits. -/
theorem World.commit_divided_by_capture : ∃ world row other,
    Sample.begun.run Sample.divided = some world ∧
    world.cluster.HoldsRow row ∧ row.state = .committed ∧
    world.cluster.HoldsRow other ∧ other.state = .refused := by
  have hstates : (Sample.begun.run Sample.divided).map (fun world =>
      ["p", "q"].map fun partitionId =>
        (world.cluster.participantRow partitionId).map ParticipantRow.state) =
      some [some .committed, some .refused] := by
    decide +kernel
  obtain ⟨world, hrun, hstates⟩ := Option.map_eq_some_iff.mp hstates
  obtain ⟨hcommitted, hstates⟩ := List.cons.inj hstates
  obtain ⟨hrefused, -⟩ := List.cons.inj hstates
  obtain ⟨row, hrow, hcommitted⟩ := Option.map_eq_some_iff.mp hcommitted
  obtain ⟨other, hother, hrefused⟩ := Option.map_eq_some_iff.mp hrefused
  exact ⟨world, row, other, hrun, ⟨"p", _, rfl, hrow⟩, hcommitted, ⟨"q", _, rfl, hother⟩, hrefused⟩

theorem World.decision_stands_recovered : ∃ world, Sample.begun.run Sample.run = some world ∧
    (∀ request ∈ world.cluster.requests, world.cluster.Permits request) ∧
    ∀ partitionId ∈ world.cluster.store.row.participantSetText,
      ∃ row, world.cluster.participantRow partitionId = some row ∧
        (row.state = .prepared ∨ row.state = .committed) := by
  have hdecision : (Sample.begun.run Sample.run).bind (fun world =>
      world.cluster.store.row.decision.map StoredDecision.decision) = some .commit := by
    decide +kernel
  obtain ⟨world, hrun, hdecision⟩ := Option.bind_eq_some_iff.mp hdecision
  obtain ⟨stored, hstored, hcommit⟩ := Option.map_eq_some_iff.mp hdecision
  obtain ⟨hrequests, hstands⟩ := World.decision_stands Sample.sqlLog_deterministic hrun
    (rfl : world.run [] = _)
  refine ⟨world, hrun, hrequests, fun partitionId hmem => ?_⟩
  obtain ⟨row, hrow, -, -, hstate⟩ := (hstands stored hstored).2.2 hcommit partitionId hmem
  exact ⟨row, hrow, hstate Sample.run_captured trivial⟩

end LagrangeDb.Transaction
