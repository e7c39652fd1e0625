import Mathlib.Data.Nat.Basic
import LagrangeDb.Data.Line
import LagrangeDb.Data.Run

namespace LagrangeDb.Partition.Mirror

open Data

/-! Writes of a source partition that is being split or merged are replayed on the target. -/

inductive Kind where
  | split
  | merge
deriving DecidableEq

inductive Phase where
  | backfilling
  | catchup
  | cutoverActive
  | failed
deriving DecidableEq

inductive Origin where
  | snapshot
  | source
  | target
deriving DecidableEq

/-- A committed write, as far as mirroring looks at it. -/
structure Write where
  logIndex : Nat
  splitMirrorOrigin : Option Origin
deriving DecidableEq

/-- The promise of a flush: none, one whose drain waits for the delivery of an
entry it took from the queue, or one that is over and not cleared yet. -/
inductive Flush where
  | idle
  | delivering (entry : Write)
  | settled
deriving DecidableEq

structure Handle where
  phase : Phase
  pendingEntries : List Write
  flushPromise : Flush
  replayWatermarkIndex : Nat
deriving DecidableEq

def mirrorDeltaQueueCapacity : Nat := 10000

/-- None where the queue is at capacity. -/
def enqueueDeltaBounded (handle : Handle) (entry : Write) : Option Handle :=
  if mirrorDeltaQueueCapacity ≤ handle.pendingEntries.length then none
  else some { handle with pendingEntries := handle.pendingEntries ++ [entry] }

/-- During the cutover a split queues without a bound. -/
def enqueueCutoverDelta (kind : Kind) (handle : Handle) (entry : Write) : Option Handle :=
  match kind with
  | .split => some { handle with pendingEntries := handle.pendingEntries ++ [entry] }
  | .merge => enqueueDeltaBounded handle entry

def drainReplicationQueue (handle : Handle) : Handle :=
  match handle.pendingEntries with
  | [] => { handle with flushPromise := .settled }
  | entry :: rest =>
    { handle with pendingEntries := rest, flushPromise := .delivering entry }

def flushReplicationQueue (handle : Handle) : Handle :=
  match handle.flushPromise with
  | .idle => drainReplicationQueue handle
  | _ => handle

inductive AfterWrite where
  | handled (handle : Handle)
  | replaying
  | thrown

def AfterWrite.ofQueue : Option Handle → AfterWrite
  | some handle => .handled handle
  | none => .thrown

def mirrorCutoverActiveWrite (kind : Kind) (handle : Handle) (entry : Write) : AfterWrite :=
  if !handle.pendingEntries.isEmpty || handle.flushPromise ≠ .idle then
    .ofQueue ((enqueueCutoverDelta kind handle entry).map flushReplicationQueue)
  else .replaying

/-- Writes that came through a mirror themselves are not mirrored. -/
def skips : Kind → Write → Bool
  | .split, entry => entry.splitMirrorOrigin = some .target
  | .merge, entry => entry.splitMirrorOrigin.isSome

def handleReplicationAfterWrite (kind : Kind) (handle : Handle) (entry : Write) : AfterWrite :=
  if skips kind entry then .handled handle
  else
    match handle.phase, kind with
    | .backfilling, _ | .catchup, _ | .failed, .merge => .ofQueue (enqueueDeltaBounded handle entry)
    | .cutoverActive, _ => mirrorCutoverActiveWrite kind handle entry
    | .failed, .split => .handled handle

structure State where
  handle : Handle
  /-- The writes the source applied since the snapshot. -/
  (applied arriving direct executed : List Write)
deriving DecidableEq

/-- A delivery that fails may have been executed. The handler of a write never
runs where its proposer stopped waiting for the commit, or where the write is the
COMMIT of a participant. -/
inductive Event where
  | commit (entry : Write)
  | arrive (entry : Write)
  | unhandled (entry : Write)
  | enter (phase : Phase)
  | flush
  | delivered
  | deliveryFailed (executed : Bool)
  | settle
  | replayed (entry : Write)
  | replayFailed (entry : Write) (executed : Bool)
deriving DecidableEq

def executedIf (executed : Bool) (entry : Write) : List Write := if executed then [entry] else []

/-- A handler that throws is logged, and its write is answered as committed. -/
def step (kind : Kind) (state : State) : Event → Option State
  | .commit entry =>
    if state.applied.all fun old => old.logIndex < entry.logIndex then
      some { state with
        applied := state.applied ++ [entry]
        arriving := state.arriving ++ [entry] }
    else none
  | .arrive entry =>
    if entry ∈ state.arriving then
      let state := { state with arriving := state.arriving.erase entry }
      match handleReplicationAfterWrite kind state.handle entry with
      | .handled handle => some { state with handle }
      | .replaying => some { state with direct := state.direct ++ [entry] }
      | .thrown => some state
    else none
  | .unhandled entry =>
    if entry ∈ state.arriving then some { state with arriving := state.arriving.erase entry }
    else none
  | .enter phase => some { state with handle := { state.handle with phase } }
  | .flush => some { state with handle := flushReplicationQueue state.handle }
  | .delivered =>
    match state.handle.flushPromise with
    | .delivering entry =>
      let watermark := max state.handle.replayWatermarkIndex entry.logIndex
      some { state with
        handle := drainReplicationQueue { state.handle with replayWatermarkIndex := watermark }
        executed := state.executed ++ [entry] }
    | _ => none
  | .deliveryFailed executed =>
    match state.handle.flushPromise with
    | .delivering entry =>
      some { state with
        handle := { state.handle with
          pendingEntries := entry :: state.handle.pendingEntries
          flushPromise := .settled }
        executed := state.executed ++ executedIf executed entry }
    | _ => none
  | .settle =>
    match state.handle.flushPromise with
    | .settled => some { state with handle := { state.handle with flushPromise := .idle } }
    | _ => none
  | .replayed entry =>
    if entry ∈ state.direct then
      some { state with
        direct := state.direct.erase entry
        executed := state.executed ++ [entry] }
    else none
  | .replayFailed entry executed =>
    if entry ∈ state.direct then
      let handle := (enqueueCutoverDelta kind state.handle entry).map
        flushReplicationQueue
      some { state with
        handle := handle.getD state.handle
        direct := state.direct.erase entry
        executed := state.executed ++ executedIf executed entry }
    else none

def start : State where
  handle := ⟨.backfilling, [], .idle, 0⟩
  applied := []
  arriving := []
  direct := []
  executed := []

/-- Every write that is to be mirrored was executed on the target, or its handler
is still to run, or it is queued or being delivered; and the target executed the
writes in the order of the log. -/
structure Mirrors (kind : Kind) (state : State) : Prop where
  kept : ∀ entry ∈ state.applied, skips kind entry = false →
    entry ∈ state.executed ∨ entry ∈ state.arriving ∨ entry ∈ state.handle.pendingEntries ∨
      state.handle.flushPromise = .delivering entry ∨ entry ∈ state.direct
  ordered : state.executed.Pairwise fun first second => first.logIndex ≤ second.logIndex

def room (kind : Kind) (handle : Handle) : Prop :=
  kind = .split ∧ handle.phase = .cutoverActive ∨
    handle.pendingEntries.length < mirrorDeltaQueueCapacity

/-- Every write that is to be mirrored has its handler run, in the order of the log,
none while a write is replayed past the queue, and the queue has room. A split does
not fail. -/
def orderly (kind : Kind) (state : State) : Event → Prop
  | .arrive entry =>
    state.arriving.head? = some entry ∧ state.direct = [] ∧ room kind state.handle
  | .unhandled entry => skips kind entry = true
  | .enter phase => phase = .failed → kind = .merge
  | _ => True

instance decidableRoom (kind : Kind) (handle : Handle) : Decidable (room kind handle) :=
  inferInstanceAs (Decidable (_ ∧ _ ∨ _))

instance decidableOrderly (kind : Kind) (state : State) :
    (event : Event) → Decidable (orderly kind state event)
  | .arrive _ => inferInstanceAs (Decidable (_ ∧ _ ∧ room kind state.handle))
  | .unhandled _ => inferInstanceAs (Decidable (_ = _))
  | .enter _ => inferInstanceAs (Decidable (_ → _))
  | .commit _ | .flush | .delivered | .deliveryFailed _ | .settle | .replayed _
  | .replayFailed _ _ => isTrue trivial

end LagrangeDb.Partition.Mirror
