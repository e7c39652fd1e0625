import LagrangeDb.Transaction.Recovery

namespace LagrangeDb.Transaction

open Data LagrangeDb.Participant

/-! Runs. A choice picks who moves next and what the environment answers. -/

variable {setting : Setting}

/-- What one coordinator sees: the shared cluster and its own memory. -/
structure Scene (setting : Setting) where
  cluster : Cluster setting
  memory : Memory

inductive Response where
  | go
  | write (applied acknowledged : Bool)
  | read (available : Bool)
  | reply (index : Nat)
  | fail (failure : Failure)
  | flag (value : Bool)
  | count (value : Nat)
deriving DecidableEq

def Reply.answers (reply : Reply) (request : Request) : Bool :=
  reply.partitionId = request.partitionId && reply.operation = request.body.operation

/-- One call.  A write stays on its way after it was applied: it may be
applied again. -/
def Call.run (scene : Scene setting) :
    (request : Call) → Response → Option (request.Answer × Scene setting)
  | .update change, .go => some (scene.memory, { scene with memory := change scene.memory })
  | .mutate mutation, .write applied acknowledged =>
    let (store, changed) := if applied then mutation.apply scene.cluster.store
      else (scene.cluster.store, false)
    some (if applied && acknowledged then some changed else none,
      { scene with
        cluster.store := store
        cluster.pending := mutation :: scene.cluster.pending })
  | .readRow, .read available =>
    some (if available then some scene.cluster.store.row else none, scene)
  | .readParticipants, .read available =>
    some (if available then some scene.cluster.store.participants else none,
      scene)
  | .begin _, .go => some (.ok (), scene)
  | .begin _, .fail failure => some (.error failure, scene)
  | .send request, .go =>
    some ((), { scene with
      cluster.requests := request :: scene.cluster.requests })
  | .receive request, .reply index =>
    match scene.cluster.replies[index]? with
    | none => none
    | some reply =>
      if reply.answers request then some (.ok reply.answer, scene)
      else none
  | .receive _, .fail failure => some (.error failure, scene)
  | .budgetExceeded, .flag value => some (value, scene)
  | .attempts, .count value => some (value, scene)
  | _, _ => none

def advance {α : Type} (scene : Scene setting) (response : Response) :
    Prog α → Option (Scene setting × Prog α)
  | .done _ => none
  | .call request next => do
    let (answer, scene) ← request.run scene response
    return (scene, next answer)

abbrev TaskProgram := Prog (List FailedParticipant)

structure Coordinator where
  memory : Memory
  operation : Option (Operation × Prog Outcome)
  stage : Option (List TaskProgram)
  background : List TaskProgram

def Coordinator.idle (memory : Memory) : Coordinator :=
  { memory, operation := none, stage := none, background := [] }

structure World (setting : Setting) where
  cluster : Cluster setting
  coordinators : AList fun _ : Nat => Coordinator
  answers : List (Operation × Outcome)

def stageResults : List TaskProgram → Option (List FailedParticipant)
  | [] => some []
  | .done (.ok failed) :: rest => do return failed ++ (← stageResults rest)
  | _ :: _ => none

/-- What ends the wait for a stage: all its tasks, or one that threw. -/
inductive Awaited where
  | all
  | thrown (index : Nat)
deriving DecidableEq

def Coordinator.join (coordinator : Coordinator) (tasks : List TaskProgram) :
    Awaited → Option (Except Failure (List FailedParticipant) × Coordinator)
  | .all => do
    return (.ok (← stageResults tasks), { coordinator with stage := none })
  | .thrown index =>
    match tasks[index]? with
    | some (.done (.error failure)) =>
      some (.error failure,
        { coordinator with
          stage := none
          background := tasks ++ coordinator.background })
    | _ => none

inductive Move where
  | start (operation : Operation)
  | call (response : Response)
  | openStage
  | task (index : Nat) (response : Response)
  | join (awaited : Awaited)
  | background (index : Nat) (response : Response)
  | finish
deriving DecidableEq

def advanceAt (scene : Scene setting) (tasks : List TaskProgram) (index : Nat)
    (response : Response) : Option (Scene setting × List TaskProgram) := do
  let (scene, task) ← advance scene response (← tasks[index]?)
  return (scene, tasks.set index task)

def Coordinator.move (cluster : Cluster setting) (coordinator : Coordinator) :
    Move → Option (Cluster setting × Coordinator × List (Operation × Outcome))
  | .start operation =>
    match coordinator.operation with
    | some _ => none
    | none =>
      some (cluster,
        { coordinator with
          operation := some (operation, operation.program setting) }, [])
  | .call response =>
    match coordinator.operation with
    | none => none
    | some (operation, program) => do
      let (scene, program) ← advance
        { cluster, memory := coordinator.memory } response program
      return (scene.cluster,
        { coordinator with
          memory := scene.memory
          operation := some (operation, program) }, [])
  | .openStage =>
    match coordinator.operation, coordinator.stage with
    | some (_, .call (.stage tasks) _), none =>
      some (cluster,
        { coordinator with stage := some (tasks.map (runTask setting)) },
        [])
    | _, _ => none
  | .task index response =>
    match coordinator.stage with
    | none => none
    | some tasks => do
      let (scene, tasks) ← advanceAt
        { cluster, memory := coordinator.memory } tasks index response
      return (scene.cluster,
        { coordinator with
          memory := scene.memory, stage := some tasks }, [])
  | .join awaited =>
    match coordinator.operation, coordinator.stage with
    | some (operation, .call (.stage _) next), some tasks => do
      let (result, coordinator) ← coordinator.join tasks awaited
      return (cluster,
        { coordinator with operation := some (operation, next result) }, [])
    | _, _ => none
  | .background index response => do
    let (scene, tasks) ← advanceAt { cluster, memory := coordinator.memory }
      coordinator.background index response
    return (scene.cluster,
      { coordinator with
        memory := scene.memory, background := tasks }, [])
  | .finish =>
    match coordinator.operation with
    | some (operation, .done result) =>
      some (cluster, { coordinator with operation := none },
        [(operation, outcomeOf result)])
    | _ => none

/-- A coordinator that found the transaction in the durable rows.  Its fields
are a progress hint until the authoritative read. -/
def recoveredParticipant (partitionId : String) (row : ParticipantRecord) : Participant :=
  { partitionId
    status := row.status
    preparedDigest := row.preparedDigest.filter isNonEmptyString
    prepareIndex := row.prepareIndex
    prepareTerm := row.prepareTerm
    prepareEvidenceRetained := row.preparedDigest.any isNonEmptyString }

def recoveredMemory (store : Store) : Memory :=
  (store.participants.entries.map fun entry =>
    recoveredParticipant entry.1 entry.2).foldl Memory.install
    { tx := {
        status := store.row.status
        participantSetState := store.row.participantSetState
        participantSetText := store.row.participantSetText
        commitMode := store.row.commitMode
        frozenParticipantCount := store.row.frozenParticipantCount
        participants := ∅
        decision := none
        decisionReadState := none
        commitPointReached := false
        recoveryDiscovered := true }
      records := ∅
      nextRecord := 0
      active := false
      ended := none }

inductive Choice (setting : Setting) where
  | move (coordinator : Nat) (move : Move)
  | crash (coordinator : Nat)
  | recover (coordinator : Nat)
  | apply (partitionId : String) (replica : Cdc.Replica) (host : setting.platform.Host)
      (entry : Cdc.LogEntry)
  | answer (partitionId : String) (operation : ParticipantOperation)
  | arrive (index : Nat)

def World.step (world : World setting) : Choice setting → Option (World setting)
  | .move index move =>
    match world.coordinators.lookup index with
    | none => none
    | some coordinator => do
      let (cluster, coordinator, answers) ←
        coordinator.move world.cluster move
      return {
        cluster
        coordinators := world.coordinators.insert index coordinator
        answers := world.answers ++ answers }
  | .crash index => some { world with coordinators := world.coordinators.erase index }
  | .recover index =>
    match world.coordinators.lookup index with
    | some _ => none
    | none =>
      some { world with
        coordinators := world.coordinators.insert index
          (.idle (recoveredMemory world.cluster.store)) }
  | .apply partitionId replica host entry => do
    return { world with
      cluster := ← world.cluster.applyEntry partitionId replica host entry }
  | .answer partitionId operation => do
    return { world with
      cluster := ← world.cluster.answerFromRow partitionId operation }
  | .arrive index => do
    let mutation ← world.cluster.pending[index]?
    return { world with
      cluster.store := (mutation.apply world.cluster.store).1 }

def begunStore : Store :=
  { row := {
      status := .active
      participantSetState := .opened
      participantSetText := []
      commitMode := .notSelected
      frozenParticipantCount := 0
      decision := none }
    participants := ∅ }

def begunMemory : Memory :=
  { tx := {
      status := .active
      participantSetState := .opened
      participantSetText := []
      commitMode := .notSelected
      frozenParticipantCount := 0
      participants := ∅
      decision := none
      decisionReadState := none
      commitPointReached := false
      recoveryDiscovered := false }
    records := ∅
    nextRecord := 0
    active := true
    ended := none }

def World.begun (tables : String → setting.platform.Table) : World setting :=
  { cluster := {
      store := begunStore
      replicas := fun partitionId =>
        { partition := .fresh partitionId (tables partitionId)
          tableName := setting.tableNameOf partitionId
          ledger := .empty }
      requests := []
      replies := []
      pending := [] }
    coordinators := AList.singleton 0 (.idle begunMemory)
    answers := [] }

/-- An entry that is applied does not meet a capture that refuses its COMMIT. -/
def World.captures (world : World setting) : Choice setting → Bool
  | .apply partitionId replica host entry =>
    Cdc.captures replica (world.cluster.replicas partitionId) host entry
  | _ => true

def World.run (world : World setting) : List (Choice setting) → Option (World setting)
  | [] => some world
  | choice :: rest => do (← world.step choice).run rest

def World.Captured (world : World setting) (choices : List (Choice setting)) : Prop :=
  Allowed World.step (fun world choice => world.captures choice = true) world choices

instance (world : World setting) (choices : List (Choice setting)) :
    Decidable (world.Captured choices) :=
  inferInstanceAs (Decidable (Allowed _ _ world choices))

end LagrangeDb.Transaction
