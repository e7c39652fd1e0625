import LagrangeDb.Partition.MirrorOrder

namespace LagrangeDb.Partition.Replay

open Data Mirror

/-! A source that restarts resumes its mirror from a persisted cursor: the
statements above the replay watermark are read again from the log. -/

inductive OperationType where
  | write
  | insert
  | update
  | delete
  | upsert
  | query
  | migrationAlterTable
  | participantDecision
  /-- The commands that do not change the table. -/
  | other
deriving DecidableEq

def mirrorableLogOperationTypes : OperationType → Bool
  | .migrationAlterTable | .participantDecision | .other => false
  | _ => true

structure Command where
  type : OperationType
  entryId : String
  splitMirrorOrigin : Option Origin
deriving DecidableEq

structure LogEntry where
  index : Nat
  command : Command
deriving DecidableEq

def LogEntry.delta (entry : LogEntry) : Write := ⟨entry.index, entry.command.splitMirrorOrigin⟩

inductive Outcome where
  | applied
  | statementFailed
deriving DecidableEq

structure Recorded where
  entryKey : String
  outcome : Outcome
  logIndex : Nat
deriving DecidableEq

/-- What the replicas of the source keep: the applied entries of the log that
were not compacted, and the outcome of each entry key. -/
structure Source where
  log : List LogEntry
  (appliedIndex compactedIndex : Nat)
  outcomes : List Recorded
deriving DecidableEq

def committedStatementEntryKey (command : Command) : Option String :=
  if command.entryId.isEmpty then none else some ("entry:" ++ command.entryId)

namespace Source

def readCommittedStatementOutcome (source : Source) (entryKey : String) : Option Recorded :=
  source.outcomes.find? fun recorded => recorded.entryKey = entryKey

def isAppliedStatementAtLogIndex (source : Source) (command : Command) (logIndex : Nat) : Bool :=
  match (committedStatementEntryKey command).bind
      source.readCommittedStatementOutcome with
  | none => false
  | some recorded => recorded.outcome = .applied && recorded.logIndex = logIndex

def isDelta (source : Source) (entry : LogEntry) : Bool :=
  mirrorableLogOperationTypes entry.command.type &&
    source.isAppliedStatementAtLogIndex entry.command entry.index

/-- A watermark of zero stands for a cursor without one. -/
def loadDurableDeltasBehindWatermark (source : Source) (watermarkIndex : Nat) : List Write :=
  if watermarkIndex < 1 then []
  else
    ((source.log.filter fun entry => watermarkIndex < entry.index).filter
      source.isDelta).map LogEntry.delta

/-- What an application did to the table: nothing, a statement that mirrors carry,
one that was executed before, or a change that no mirror carries. -/
inductive Settled where
  | nothing
  | statement (entry : Write)
  | replayed (entry : Write)
  | unmirrored (entry : Write)
deriving DecidableEq

def Settled.ofStatement (mirrorable : Bool) (entry : Write) : Settled :=
  if mirrorable then .statement entry else .unmirrored entry

/-- The next entry of the log is applied. A statement whose entry key has an
outcome is not executed again. A participant's COMMIT runs its operations under
keys of their own. -/
def apply (source : Source) (command : Command) (outcome : Outcome) : Source × Settled :=
  let index := source.appliedIndex + 1
  let entry : Write := ⟨index, command.splitMirrorOrigin⟩
  let mirrorable := mirrorableLogOperationTypes command.type
  let appended := { source with
    log := source.log ++ [⟨index, command⟩]
    appliedIndex := index }
  if command.type = .other then (appended, .nothing)
  else if command.type = .participantDecision then
    (appended, if outcome = .applied then .unmirrored entry else .nothing)
  else
    match committedStatementEntryKey command with
    | none => (appended, .nothing)
    | some entryKey =>
      match source.readCommittedStatementOutcome entryKey with
      | some recorded =>
        (appended, if mirrorable && recorded.outcome = .applied then
          .replayed ⟨recorded.logIndex, command.splitMirrorOrigin⟩ else .nothing)
      | none =>
        ({ appended with
            outcomes := source.outcomes ++ [⟨entryKey, outcome, index⟩] },
          if outcome = .applied then .ofStatement mirrorable entry else .nothing)

def compact (source : Source) (index : Nat) : Source :=
  { source with
    log := source.log.filter fun entry => index < entry.index
    compactedIndex := max source.compactedIndex index }

end Source

/-- A mirrored write keeps the entry id of the source, so the target answers a
second delivery from its outcome row. Entry ids are named by the log index of the
source. -/
structure Target where
  snapshotBarrierIndex : Nat
  (copied copiedUnmirrored executed : List Write)
  outcomes : List Nat
deriving DecidableEq

def Target.execute (target : Target) (entry : Write) : Target :=
  if entry.logIndex ∈ target.outcomes then target
  else
    { target with
      executed := target.executed ++ [entry]
      outcomes := target.outcomes ++ [entry.logIndex] }

structure Worker where
  mirror : Mirror.State
  startedFrom : Nat
deriving DecidableEq

def Worker.observe (worker : Worker) (entry : Write) : Worker :=
  { worker with mirror := { worker.mirror with
    applied := worker.mirror.applied ++ [entry] } }

structure State where
  source : Source
  (statements unmirrored : List Write)
  /-- Those whose handlers did not run yet, while there is no worker. -/
  waiting : List Write
  worker : Option Worker
  flying : List Write
  target : Target
  cursor : Option (Phase × Nat)
deriving DecidableEq

def start : State where
  source := ⟨[], 0, 0, []⟩
  statements := []
  unmirrored := []
  waiting := []
  worker := none
  flying := []
  target := ⟨0, [], [], [], []⟩
  cursor := none

inductive Event where
  /-- An entry is applied, proposed by this replica or by another. -/
  | apply (command : Command) (outcome : Outcome) (proposed : Bool)
  | advance
  | compact (index : Nat)
  /-- A worker is authorized and opens its snapshot. The handlers of the early
  writes run between the two. -/
  | begin (early : List Write)
  | backfilled
  | cutover
  | mirror (event : Mirror.Event)
  | checkpoint (phase : Phase) (watermark : Nat)
  | stop (crashed : Bool)
  | land (entry : Write)
  | resume
deriving DecidableEq

namespace State

def expect (state : State) (entry : Write) (proposed : Bool) : State :=
  if proposed then
    match state.worker with
    | none => { state with waiting := state.waiting ++ [entry] }
    | some worker =>
      let mirror := { worker.mirror with
        arriving := worker.mirror.arriving ++ [entry] }
      { state with worker := some { worker with mirror } }
  else state

def settle (state : State) (proposed : Bool) : Source.Settled → State
  | .nothing => state
  | .unmirrored entry => { state with unmirrored := state.unmirrored ++ [entry] }
  | .replayed entry => state.expect entry proposed
  | .statement entry =>
    expect { state with
      statements := state.statements ++ [entry]
      worker := state.worker.map fun worker => worker.observe entry }
      entry proposed

end State

def queueEarly (kind : Kind) (handle : Handle) (early : List Write) : Handle :=
  early.foldl (fun handle entry =>
    if skips kind entry then handle
    else (enqueueDeltaBounded handle entry).getD handle) handle

def begin (kind : Kind) (state : State) (early : List Write) : State :=
  let barrier := state.source.appliedIndex
  let handle := queueEarly kind ⟨.backfilling, [], .idle, barrier⟩ early
  { state with
    waiting := []
    worker := some ⟨⟨handle, [], state.waiting.diff early, [], []⟩, barrier⟩
    target := { state.target with
      snapshotBarrierIndex := barrier
      copied := state.statements
      copiedUnmirrored := state.unmirrored
      executed := [] } }

/-- Nothing is flushed before the snapshot is copied. -/
def mirrorStep (kind : Kind) (state : State) (worker : Worker) (event : Mirror.Event) : Option State :=
  if event = .flush ∧ worker.mirror.handle.phase = .backfilling then none
  else
    (Mirror.step kind worker.mirror event).map fun mirror =>
      let executed := mirror.executed.drop worker.mirror.executed.length
      { state with
        worker := some { worker with mirror }
        target := executed.foldl Target.execute state.target }

def enter (state : State) (worker : Worker) (phase : Phase) : State :=
  let mirror := { worker.mirror with handle := { worker.mirror.handle with phase } }
  { state with worker := some { worker with mirror } }

def Worker.flying (worker : Worker) : List Write :=
  worker.mirror.handle.flushPromise.entries ++ worker.mirror.direct

def stop (state : State) (crashed : Bool) : State :=
  let unhandled := match state.worker with
    | none => state.waiting
    | some worker => worker.mirror.arriving
  { state with
    waiting := if crashed then [] else unhandled
    worker := none
    flying := state.flying ++ state.worker.elim [] Worker.flying }

def resume (state : State) (phase : Phase) (watermark : Nat) : State :=
  let deltas := state.source.loadDurableDeltasBehindWatermark watermark
  let above := state.statements.filter fun entry => watermark < entry.logIndex
  { state with
    waiting := []
    worker := some ⟨⟨⟨phase, deltas, .idle, watermark⟩, above, state.waiting, [], []⟩, watermark⟩ }

def step (kind : Kind) (state : State) : Event → Option State
  | .apply command outcome proposed =>
    let (source, settled) := state.source.apply command outcome
    some (State.settle { state with source } proposed settled)
  | .advance =>
    some { state with source := { state.source with
      appliedIndex := state.source.appliedIndex + 1 } }
  | .compact index =>
    if index ≤ state.source.appliedIndex then
      some { state with source := state.source.compact index }
    else none
  | .begin early =>
    if state.worker = none ∧ state.cursor = none ∧
        early.all (· ∈ state.waiting) then
      some (begin kind state early)
    else none
  | .backfilled =>
    match state.worker with
    | some worker =>
      if worker.mirror.handle.phase = .backfilling then some (enter state worker .catchup)
      else none
    | none => none
  | .cutover =>
    match state.worker with
    | some worker =>
      if worker.mirror.handle.phase = .catchup then some (enter state worker .cutoverActive)
      else none
    | none => none
  | .mirror (.commit _) | .mirror (.enter _) => none
  | .mirror event =>
    match state.worker with
    | some worker => mirrorStep kind state worker event
    | none =>
      match event with
      | .arrive entry | .unhandled entry =>
        if entry ∈ state.waiting then some { state with waiting := state.waiting.erase entry }
        else none
      | _ => none
  | .checkpoint phase watermark =>
    match state.worker with
    | some worker =>
      if (phase = .catchup ∨ phase = .cutoverActive) ∧
          worker.mirror.handle.phase ≠ .backfilling ∧
          worker.startedFrom ≤ watermark ∧
          watermark ≤ worker.mirror.handle.replayWatermarkIndex then
        some { state with cursor := some (phase, watermark) }
      else none
    | none => none
  | .stop crashed => some (stop state crashed)
  | .land entry =>
    if entry ∈ state.flying then
      some { state with
        flying := state.flying.erase entry
        target := state.target.execute entry }
    else none
  | .resume =>
    match state.worker, state.cursor with
    | none, some (phase, watermark) =>
      if 1 ≤ watermark then some (resume state phase watermark) else none
    | _, _ => none

/-- The worker is to deliver the write, or its handler has not run. -/
def Worker.awaits (worker : Worker) (entry : Write) : Prop :=
  entry ∈ worker.mirror.handle.held ∨ entry ∈ worker.mirror.direct ∨ entry ∈ worker.mirror.arriving

/-- Every change of the source's table. -/
def State.changes (state : State) : List Write := state.statements ++ state.unmirrored

def Target.snapshot (target : Target) : List Write := target.copied ++ target.copiedUnmirrored

/-- The changes up to the persisted watermark are on the target, a worker has
those above the one it started from, and the target executes none out of order,
none twice, none that the snapshot has and none that it was sent itself. -/
structure Resumes (kind : Kind) (state : State) : Prop where
  below : ∀ phase watermark, state.cursor = some (phase, watermark) →
    ∀ entry ∈ state.changes, skips kind entry = false → entry.logIndex ≤ watermark →
      entry ∈ state.target.snapshot ∨ entry ∈ state.target.executed
  above : ∀ worker, state.worker = some worker →
    ∀ entry ∈ state.changes, skips kind entry = false → worker.startedFrom < entry.logIndex →
      entry ∈ state.target.executed ∨ worker.awaits entry
  ordered : state.target.executed.Pairwise fun first second => first.logIndex < second.logIndex
  once : ∀ entry ∈ state.target.executed,
    entry ∉ state.target.snapshot ∧ entry.splitMirrorOrigin ≠ some .target

/-- Once a mirror has its snapshot no change is applied that it does not carry. While
a worker runs, the entries applied are its replica's own and none is a retry, and its handlers run as the mirror needs it. It starts with no handler
outstanding; one that opens a snapshot, with no delivery of an earlier one under
way; one that resumes, with the log above its watermark complete and free of
writes that came through a mirror. -/
def orderly (kind : Kind) (state : State) : Event → Prop
  | .apply command outcome proposed =>
      ((∃ entry, (state.source.apply command outcome).2 = .unmirrored entry) →
        state.worker = none ∧ state.cursor = none) ∧
      (state.worker ≠ none → proposed = true ∧ (committedStatementEntryKey command).bind
        state.source.readCommittedStatementOutcome = none)
  | .begin early => early = [] ∧ state.waiting = [] ∧ state.flying = []
  | .mirror event => ∀ worker, state.worker = some worker →
      Mirror.orderly kind worker.mirror event
  | .resume => state.waiting = [] ∧ ∀ phase watermark,
      state.cursor = some (phase, watermark) → state.source.compactedIndex ≤ watermark ∧
        ∀ entry ∈ state.statements, watermark < entry.logIndex → skips kind entry = false
  | _ => True

instance decidableUnmirrored (settled : Source.Settled) :
    Decidable (∃ entry, settled = .unmirrored entry) :=
  match settled with
  | .unmirrored entry => isTrue ⟨entry, rfl⟩
  | .nothing | .statement _ | .replayed _ => isFalse (fun ⟨_, other⟩ => nomatch other)

instance decidableOrderly (kind : Kind) (state : State) :
    (event : Event) → Decidable (orderly kind state event)
  | .apply _ _ _ => inferInstanceAs (Decidable ((_ → _ ∧ _) ∧ (_ → _ ∧ _)))
  | .begin _ => inferInstanceAs (Decidable (_ ∧ _ ∧ _))
  | .mirror event => inferInstanceAs (Decidable (∀ worker,
      state.worker = some worker → Mirror.orderly kind worker.mirror event))
  | .resume => decidable_of_iff (state.waiting = [] ∧ ∀ cursor,
      state.cursor = some cursor → state.source.compactedIndex ≤ cursor.2 ∧
        ∀ entry ∈ state.statements, cursor.2 < entry.logIndex → skips kind entry = false)
      (and_congr_right fun _ => Prod.forall)
  | .advance | .compact _ | .backfilled | .cutover | .checkpoint _ _ | .stop _
  | .land _ => isTrue trivial

end LagrangeDb.Partition.Replay
