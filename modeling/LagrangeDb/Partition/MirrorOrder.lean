import LagrangeDb.Partition.Mirror

namespace LagrangeDb.Partition.Mirror

open Data

/-! Mirroring is a line of writes as long as handlers run in order and one at a
time. -/

def Flush.entries : Flush → List Write
  | delivering entry => [entry]
  | _ => []

def Handle.held (handle : Handle) : List Write :=
  handle.flushPromise.entries ++ handle.pendingEntries

def State.line (state : State) : Line Write where
  offered := state.applied
  executed := state.executed
  backlog := state.handle.held ++ state.direct ++ state.arriving

/-- At most one write is replayed past the queue, and nothing is held then. -/
def Alone (state : State) : Prop :=
  state.direct = [] ∨ (∃ entry, state.direct = [entry]) ∧ state.handle.held = []

def Live (kind : Kind) (state : State) : Prop := state.handle.phase = .failed → kind = .merge

variable {handle handle' : Handle} {entry : Write}

structure Holds (handle : Handle) (entries : List Write) (handle' : Handle) :
    Prop where
  held : handle'.held = handle.held ++ entries
  phase : handle'.phase = handle.phase
  watermark : handle'.replayWatermarkIndex = handle.replayWatermarkIndex

theorem enqueueDeltaBounded_holds (queued : enqueueDeltaBounded handle entry = some handle') :
    Holds handle [entry] handle' := by
  obtain ⟨-, queued⟩ := Option.ite_none_left_eq_some.mp queued
  obtain rfl := Option.some.inj queued
  exact ⟨(List.append_assoc ..).symm, rfl, rfl⟩

theorem enqueueDeltaBounded_room (entry : Write)
    (room : handle.pendingEntries.length < mirrorDeltaQueueCapacity) :
    ∃ handle', enqueueDeltaBounded handle entry = some handle' :=
  ⟨_, if_neg (Nat.not_le.mpr room)⟩

variable {kind : Kind}

theorem enqueueCutoverDelta_holds (queued : enqueueCutoverDelta kind handle entry = some handle') :
    Holds handle [entry] handle' := by
  cases kind with
  | split =>
    obtain rfl := Option.some.inj queued
    exact ⟨(List.append_assoc ..).symm, rfl, rfl⟩
  | merge => exact enqueueDeltaBounded_holds queued

theorem enqueueCutoverDelta_room (entry : Write) (free : room kind handle) :
    ∃ handle', enqueueCutoverDelta kind handle entry = some handle' := by
  cases kind with
  | split => exact ⟨_, rfl⟩
  | merge =>
    rcases free with ⟨split, _⟩ | free
    · cases split
    · exact enqueueDeltaBounded_room entry free

theorem held_drainReplicationQueue (handle : Handle) :
    (drainReplicationQueue handle).held = handle.pendingEntries := by
  unfold drainReplicationQueue
  split
  next empty => simp [Handle.held, Flush.entries, empty]
  next entries => simp [Handle.held, Flush.entries, entries]

theorem phase_drainReplicationQueue (handle : Handle) :
    (drainReplicationQueue handle).phase = handle.phase := by
  unfold drainReplicationQueue
  split <;> rfl

theorem watermark_drainReplicationQueue (handle : Handle) :
    (drainReplicationQueue handle).replayWatermarkIndex = handle.replayWatermarkIndex := by
  unfold drainReplicationQueue
  split <;> rfl

theorem flushReplicationQueue_holds (handle : Handle) :
    Holds handle [] (flushReplicationQueue handle) := by
  unfold flushReplicationQueue
  split
  next idle =>
    refine ⟨?_, phase_drainReplicationQueue _, watermark_drainReplicationQueue _⟩
    rw [held_drainReplicationQueue, Handle.held, idle, List.append_nil]
    rfl
  · exact ⟨(List.append_nil _).symm, rfl, rfl⟩

theorem Holds.flush (holds : Holds handle entries handle') :
    Holds handle entries (flushReplicationQueue handle') := by
  have flushed := flushReplicationQueue_holds handle'
  refine ⟨?_, flushed.phase.trans holds.phase, flushed.watermark.trans holds.watermark⟩
  rw [flushed.held, holds.held, List.append_nil]

/-- A handler that finds room skips its write, holds it behind all others, or
replays it when nothing is held. -/
inductive Handling (kind : Kind) (handle : Handle) (entry : Write) :
    AfterWrite → Prop where
  | skipped : skips kind entry = true →
      Handling kind handle entry (.handled handle)
  | queued (handle' : Handle) : skips kind entry = false →
      Holds handle [entry] handle' →
      Handling kind handle entry (.handled handle')
  | replaying : skips kind entry = false → handle.held = [] →
      Handling kind handle entry .replaying

theorem handling_bounded (mirrored : skips kind entry = false)
    (free : handle.pendingEntries.length < mirrorDeltaQueueCapacity) :
    Handling kind handle entry (.ofQueue (enqueueDeltaBounded handle entry)) := by
  obtain ⟨handle', queued⟩ := enqueueDeltaBounded_room entry free
  rw [queued]
  exact .queued handle' mirrored (enqueueDeltaBounded_holds queued)

theorem mirrorCutoverActiveWrite_handling (mirrored : skips kind entry = false)
    (free : room kind handle) :
    Handling kind handle entry (mirrorCutoverActiveWrite kind handle entry) := by
  unfold mirrorCutoverActiveWrite
  split
  · obtain ⟨handle', queued⟩ := enqueueCutoverDelta_room entry free
    rw [queued]
    exact .queued _ mirrored (enqueueCutoverDelta_holds queued).flush
  next quiet =>
  rw [Bool.or_eq_true, not_or, Bool.not_eq_true', Bool.not_eq_false,
    List.isEmpty_iff, decide_eq_true_eq, not_not] at quiet
  refine .replaying mirrored ?_
  rw [Handle.held, quiet.1, quiet.2]
  rfl

theorem handleReplicationAfterWrite_handling (entry : Write)
    (free : room kind handle) (live : handle.phase = .failed → kind = .merge) :
    Handling kind handle entry (handleReplicationAfterWrite kind handle entry) := by
  unfold handleReplicationAfterWrite
  split
  next skipped => exact .skipped skipped
  next mirrored =>
  rw [Bool.not_eq_true] at mirrored
  have bounded : handle.phase ≠ .cutoverActive →
      handle.pendingEntries.length < mirrorDeltaQueueCapacity := by
    intro phase
    exact free.resolve_left fun cutover => phase cutover.2
  cases phase : handle.phase with
  | backfilling => exact handling_bounded mirrored (bounded (by simp [phase]))
  | catchup => exact handling_bounded mirrored (bounded (by simp [phase]))
  | cutoverActive => exact mirrorCutoverActiveWrite_handling mirrored free
  | failed =>
    obtain rfl := live phase
    exact handling_bounded mirrored (bounded (by simp [phase]))

def State.sending (state : State) : List Write := state.handle.held ++ state.direct

/-- A step executes nothing, or the first write of the line. -/
inductive Turn (state next : State) : Prop where
  | quiet : next.executed = state.executed →
      next.handle.replayWatermarkIndex = state.handle.replayWatermarkIndex →
      Turn state next
  | execute (entry : Write) (rest : List Write) :
      state.line.backlog = entry :: rest → entry ∈ state.sending →
      next.executed = state.executed ++ [entry] →
      next.handle.replayWatermarkIndex = state.handle.replayWatermarkIndex ∨
        next.handle.replayWatermarkIndex = max state.handle.replayWatermarkIndex entry.logIndex →
      Turn state next

structure Advances (kind : Kind) (state next : State) : Prop where
  alone : Alone next
  live : Live kind next
  move : Line.Move Write.logIndex (fun entry => skips kind entry = true) state.line next.line
  turn : Turn state next
  ready : ∀ entry ∈ next.sending, entry ∈ state.sending ∨ skips kind entry = false

variable {state next : State}

theorem Advances.quiet (alone : Alone next) (live : Live kind next) (same : next.line = state.line)
    (watermark : next.handle.replayWatermarkIndex = state.handle.replayWatermarkIndex)
    (ready : ∀ entry ∈ next.sending, entry ∈ state.sending ∨ skips kind entry = false) :
    Advances kind state next :=
  ⟨alone, live, same ▸ .stay _, .quiet (congrArg Line.executed same) watermark, ready⟩

theorem arrive_advances (live : Live kind state) (allowed : orderly kind state (.arrive entry))
    (stepped : step kind state (.arrive entry) = some next) : Advances kind state next := by
  obtain ⟨first, nothingDirect, free⟩ := allowed
  obtain ⟨rest, arriving⟩ := List.head?_eq_some_iff.mp first
  have before : state.line =
      ⟨state.applied, state.executed, state.handle.held ++ entry :: rest⟩ := by
    simp [State.line, nothingDirect, arriving]
  simp only [step, arriving, List.mem_cons_self, if_true, List.erase_cons_head]
    at stepped
  have handling := handleReplicationAfterWrite_handling entry free live
  generalize handleReplicationAfterWrite kind state.handle entry = outcome
    at handling stepped
  cases handling with
  | skipped skipped =>
    obtain rfl := Option.some.inj stepped
    refine ⟨.inl nothingDirect, live, ?_, .quiet rfl rfl, fun _ => .inl⟩
    rw [before]
    have after : State.line { state with arriving := rest } =
        ⟨state.applied, state.executed, state.handle.held ++ rest⟩ := by
      simp [State.line, nothingDirect]
    rw [after]
    exact .exempted _ _ _ _ _ skipped
  | queued handle' mirrored holds =>
    obtain rfl := Option.some.inj stepped
    refine .quiet (.inl nothingDirect) ?_ ?_ holds.watermark ?_
    · exact fun failed => live (holds.phase ▸ failed)
    · rw [before]
      simp [State.line, nothingDirect, holds.held]
    · simp only [State.sending, holds.held, List.mem_append, List.mem_singleton]
      grind
  | replaying mirrored empty =>
    obtain rfl := Option.some.inj stepped
    refine .quiet (.inr ⟨⟨entry, ?_⟩, empty⟩) live ?_ rfl ?_
    · simp [nothingDirect]
    · rw [before]
      simp [State.line, nothingDirect, empty]
    · simp only [State.sending, List.mem_append, List.mem_singleton]
      grind

theorem line_delivering (alone : Alone state)
    (delivering : state.handle.flushPromise = .delivering entry) :
    state.direct = [] ∧ state.handle.held = entry :: state.handle.pendingEntries ∧
      state.line = ⟨state.applied, state.executed,
        entry :: (state.handle.pendingEntries ++ state.arriving)⟩ := by
  have held : state.handle.held = entry :: state.handle.pendingEntries := by
    rw [Handle.held, delivering]
    rfl
  have nothingDirect : state.direct = [] := by
    rcases alone with nothing | ⟨_, empty⟩
    · exact nothing
    · rw [held] at empty
      cases empty
  refine ⟨nothingDirect, held, ?_⟩
  simp [State.line, held, nothingDirect]

theorem line_direct (alone : Alone state) (member : entry ∈ state.direct) :
    state.direct = [entry] ∧ state.handle.held = [] ∧
      state.line = ⟨state.applied, state.executed, entry :: state.arriving⟩ := by
  rcases alone with nothing | ⟨⟨other, single⟩, empty⟩
  · rw [nothing] at member
    cases member
  rw [single] at member
  obtain rfl := List.mem_singleton.mp member
  exact ⟨single, empty, by simp [State.line, single, empty]⟩

theorem delivered_advances (alone : Alone state) (live : Live kind state)
    (stepped : step kind state .delivered = some next) : Advances kind state next := by
  simp only [step] at stepped
  split at stepped
  next entry delivering =>
    obtain ⟨nothingDirect, held, before⟩ := line_delivering alone delivering
    obtain rfl := Option.some.inj stepped
    refine ⟨.inl nothingDirect, ?_, ?_, ?_, fun other member => .inl ?_⟩
    · rw [Live, phase_drainReplicationQueue]
      exact live
    · rw [before, State.line, held_drainReplicationQueue, nothingDirect, List.append_nil]
      exact .finish ..
    · refine .execute entry _ (congrArg Line.backlog before) ?_ rfl (.inr ?_)
      · simp [State.sending, held]
      · exact watermark_drainReplicationQueue _
    · rw [State.sending, held_drainReplicationQueue] at member
      rw [State.sending, held]
      exact List.mem_cons_of_mem _ member
  · cases stepped

/-- A write that was sent and failed is first in the line again. -/
theorem Advances.failed (executed : Bool)
    (alone : Alone next) (live : Live kind next)
    (before : state.line = ⟨state.applied, state.executed, entry :: rest⟩)
    (sent : entry ∈ state.sending) (after : next.line = ⟨state.applied,
      state.executed ++ executedIf executed entry, entry :: rest⟩)
    (watermark : next.handle.replayWatermarkIndex = state.handle.replayWatermarkIndex)
    (ready : ∀ other ∈ next.sending, other ∈ state.sending) : Advances kind state next := by
  have result : next.executed = state.executed ++ executedIf executed entry :=
    congrArg Line.executed after
  cases executed with
  | false =>
    rw [executedIf, if_neg Bool.false_ne_true, List.append_nil] at after
    exact .quiet alone live (after.trans before.symm) watermark
      fun other member => .inl (ready other member)
  | true =>
    refine ⟨alone, live, ?_, ?_, fun other member => .inl (ready other member)⟩
    · rw [before, after]
      exact .attempt ..
    · exact .execute entry rest (congrArg Line.backlog before) sent result (.inl watermark)

variable {executed : Bool}

theorem deliveryFailed_advances (alone : Alone state) (live : Live kind state)
    (stepped : step kind state (.deliveryFailed executed) = some next) :
    Advances kind state next := by
  simp only [step] at stepped
  split at stepped
  next entry delivering =>
    obtain ⟨nothingDirect, held, before⟩ := line_delivering alone delivering
    obtain rfl := Option.some.inj stepped
    refine .failed executed (.inl nothingDirect) live before ?_ ?_ rfl ?_
    · simp [State.sending, held]
    · rw [State.line, nothingDirect, List.append_nil]
      rfl
    · intro other member
      rwa [State.sending, held]
  · cases stepped

theorem replayed_advances (alone : Alone state) (live : Live kind state)
    (stepped : step kind state (.replayed entry) = some next) : Advances kind state next := by
  obtain ⟨member, stepped⟩ := Option.ite_none_right_eq_some.mp stepped
  obtain ⟨single, empty, before⟩ := line_direct alone member
  obtain rfl := Option.some.inj stepped
  have nothing : state.direct.erase entry = [] := by simp [single]
  refine ⟨.inl nothing, live, ?_, ?_, ?_⟩
  · rw [before, State.line, empty, nothing]
    exact .finish ..
  · exact .execute entry _ (congrArg Line.backlog before)
      (List.mem_append_right _ member) rfl (.inl rfl)
  · simp [State.sending, empty, nothing]

theorem replayFailed_advances (alone : Alone state) (live : Live kind state)
    (stepped : step kind state (.replayFailed entry executed) = some next) :
    Advances kind state next := by
  obtain ⟨member, stepped⟩ := Option.ite_none_right_eq_some.mp stepped
  obtain ⟨single, empty, before⟩ := line_direct alone member
  obtain rfl := Option.some.inj stepped
  have nothing : state.direct.erase entry = [] := by simp [single]
  have free : room kind state.handle := by
    right
    rw [(List.append_eq_nil_iff.mp empty).2]
    exact Nat.zero_lt_succ _
  obtain ⟨handle, queued⟩ := enqueueCutoverDelta_room entry free
  have holds := (enqueueCutoverDelta_holds queued).flush
  have held := holds.held
  rw [empty, List.nil_append] at held
  simp only [queued, Option.map_some, Option.getD_some]
  refine .failed executed (.inl nothing) ?_ before
    (List.mem_append_right _ member) ?_ holds.watermark ?_
  · rw [Live, holds.phase]
    exact live
  · rw [State.line, held, nothing]
    rfl
  · simpa [State.sending, held, nothing] using .inr member

variable {event : Event}

theorem step_advances (alone : Alone state) (live : Live kind state)
    (allowed : orderly kind state event) (stepped : step kind state event = some next) :
    Advances kind state next := by
  cases event with
  | commit entry =>
    obtain ⟨newer, rfl⟩ := guarded_eq_some.mp stepped
    refine ⟨alone, live, ?_, .quiet rfl rfl, fun _ => .inl⟩
    have after : State.line { state with
        applied := state.applied ++ [entry]
        arriving := state.arriving ++ [entry] } =
        ⟨state.line.offered ++ [entry], state.line.executed, state.line.backlog ++ [entry]⟩ := by
      simp [State.line]
    rw [after]
    refine .offer state.line entry fun old member => ?_
    exact of_decide_eq_true (List.all_eq_true.mp newer old member)
  | arrive entry => exact arrive_advances live allowed stepped
  | unhandled entry =>
    obtain ⟨member, rfl⟩ := guarded_eq_some.mp stepped
    obtain ⟨before, rest, -, split, erased⟩ := List.exists_erase_eq member
    refine ⟨alone, live, ?_, .quiet rfl rfl, fun _ => .inl⟩
    have line : state.line = ⟨state.applied, state.executed,
        (state.handle.held ++ state.direct ++ before) ++ entry :: rest⟩ := by
      simp [State.line, split]
    rw [line, State.line, erased, ← List.append_assoc]
    exact .exempted _ _ _ _ _ allowed
  | enter phase =>
    obtain rfl := Option.some.inj stepped
    exact .quiet alone allowed rfl rfl fun _ => .inl
  | flush =>
    obtain rfl := Option.some.inj stepped
    have flushed := flushReplicationQueue_holds state.handle
    have held := flushed.held.trans (List.append_nil _)
    refine .quiet ?_ ?_ ?_ flushed.watermark ?_
    · rw [Alone, held]
      exact alone
    · rw [Live, flushed.phase]
      exact live
    · rw [State.line, held]
      rfl
    · rw [State.sending, held]
      exact fun _ => .inl
  | delivered => exact delivered_advances alone live stepped
  | deliveryFailed executed => exact deliveryFailed_advances alone live stepped
  | settle =>
    simp only [step] at stepped
    split at stepped
    next settled =>
      obtain rfl := Option.some.inj stepped
      have held : Handle.held { state.handle with flushPromise := .idle } =
          state.handle.held := by
        rw [Handle.held, Handle.held, settled]
        rfl
      refine .quiet ?_ live ?_ rfl ?_
      · rw [Alone, held]
        exact alone
      · rw [State.line, held]
        rfl
      · rw [State.sending, held]
        exact fun _ => .inl
    · cases stepped
  | replayed entry => exact replayed_advances alone live stepped
  | replayFailed entry executed => exact replayFailed_advances alone live stepped

theorem applied_step (other : ∀ entry, event ≠ .commit entry)
    (stepped : step kind state event = some next) : next.applied = state.applied := by
  cases event with
  | commit entry => exact absurd rfl (other entry)
  | arrive entry =>
    obtain ⟨-, stepped⟩ := Option.ite_none_right_eq_some.mp stepped
    cases handled : handleReplicationAfterWrite kind state.handle entry <;>
      · simp only [handled, Option.some.injEq] at stepped
        obtain rfl := stepped
        rfl
  | unhandled entry =>
    obtain ⟨-, rfl⟩ := guarded_eq_some.mp stepped
    rfl
  | enter phase | flush =>
    obtain rfl := Option.some.inj stepped
    rfl
  | delivered | deliveryFailed executed | settle =>
    simp only [step] at stepped
    split at stepped
    · obtain rfl := Option.some.inj stepped
      rfl
    · cases stepped
  | replayed entry | replayFailed entry executed =>
    obtain ⟨-, rfl⟩ := guarded_eq_some.mp stepped
    rfl

structure InLine (kind : Kind) (state : State) : Prop where
  alone : Alone state
  live : Live kind state
  sound : Line.Sound Write.logIndex (fun entry => skips kind entry = true)
    state.line

theorem inLine_start (kind : Kind) : InLine kind start where
  alone := .inl rfl
  live := nofun
  sound := Line.sound_nil

theorem InLine.mirrors (inLine : InLine kind state) : Mirrors kind state where
  kept entry member mirrored := by
    have waits := inLine.sound.kept entry member (by simp [mirrored])
    rcases waits with executed | waits
    · exact .inl executed
    simp only [State.line, Handle.held, List.mem_append] at waits
    rcases waits with ((flying | pending) | direct) | arriving
    · cases flush : state.handle.flushPromise with
      | delivering other =>
        rw [flush] at flying
        obtain rfl := List.mem_singleton.mp flying
        exact .inr (.inr (.inr (.inl rfl)))
      | idle => simp [flush, Flush.entries] at flying
      | settled => simp [flush, Flush.entries] at flying
    · exact .inr (.inr (.inl pending))
    · exact .inr (.inr (.inr (.inr direct)))
    · exact .inr (.inl arriving)
  ordered := inLine.sound.ordered

def write (index : Nat) : Write := ⟨index, none⟩

def inTurn : List Event :=
  [.enter .cutoverActive, .commit (write 1), .arrive (write 1),
    .replayFailed (write 1) true, .commit (write 2), .arrive (write 2),
    .delivered, .delivered, .settle]

def inTurnFinal : State where
  handle := ⟨.cutoverActive, [], .idle, 2⟩
  applied := [write 1, write 2]
  arriving := []
  direct := []
  executed := [write 1, write 1, write 2]

def overlapping : List Event :=
  [.enter .cutoverActive, .commit (write 1), .commit (write 2),
    .arrive (write 1), .arrive (write 2), .replayed (write 2),
    .replayed (write 1)]

theorem overlapping_overtaken (kind : Kind) :
    ∃ final, overlapping.foldlM (step kind) start = some final ∧
      final.executed = [write 2, write 1] := by
  cases kind with
  | split => exact ⟨_, rfl, rfl⟩
  | merge => exact ⟨_, rfl, rfl⟩

def fill (count : Nat) : List Event :=
  (List.range count).flatMap fun index => [.commit (write index), .arrive (write index)]

def filled (count : Nat) : State where
  handle := ⟨.backfilling, (List.range count).map write, .idle, 0⟩
  applied := (List.range count).map write
  arriving := []
  direct := []
  executed := []

def filledNext (count : Nat) : State :=
  { filled count with
    applied := (List.range (count + 1)).map write
    arriving := [write count] }

theorem mem_filledNext_applied (count : Nat) : write count ∈ (filledNext count).applied :=
  List.mem_map_of_mem (List.mem_range.mpr (Nat.lt_succ_self _))

theorem filled_commit (kind : Kind) (count : Nat) :
    step kind (filled count) (.commit (write count)) = some (filledNext count) := by
  have newer : ((List.range count).map write).all
      (fun old => old.logIndex < (write count).logIndex) = true := by
    rw [List.all_map, List.all_eq_true]
    intro index member
    exact decide_eq_true (List.mem_range.mp member)
  simp only [step, filled, newer, if_true, filledNext, List.range_succ,
    List.map_append, List.map_cons, List.map_nil, List.nil_append]

variable {count : Nat}

theorem filled_arrive (free : count < mirrorDeltaQueueCapacity) :
    step kind (filledNext count) (.arrive (write count)) = some (filled (count + 1)) := by
  have mirrored : skips kind (write count) = false := by cases kind <;> rfl
  have queued : handleReplicationAfterWrite kind (filled count).handle
      (write count) = .handled (filled (count + 1)).handle := by
    simp [handleReplicationAfterWrite, mirrored, filled, enqueueDeltaBounded,
      Nat.not_le.mpr free, AfterWrite.ofQueue, List.range_succ]
  simp only [step, filledNext, List.mem_singleton, if_true, List.erase_cons_head, queued]
  rfl

theorem filled_run (free : count ≤ mirrorDeltaQueueCapacity) :
    (fill count).foldlM (step kind) start = some (filled count) := by
  induction count with
  | zero => rfl
  | succ count induction =>
    have events : fill (count + 1) =
        fill count ++ [.commit (write count), .arrive (write count)] := by
      simp [fill, List.range_succ]
    rw [events, List.foldlM_append, induction (Nat.le_of_succ_le free)]
    simp only [Option.bind_eq_bind, Option.bind_some, List.foldlM_cons,
      filled_commit, filled_arrive free]
    rfl

theorem filled_drops (kind : Kind) : step kind (filledNext mirrorDeltaQueueCapacity)
        (.arrive (write mirrorDeltaQueueCapacity)) =
      some { filledNext mirrorDeltaQueueCapacity with arriving := [] } := by
  have mirrored : skips kind (write mirrorDeltaQueueCapacity) = false := by cases kind <;> rfl
  have thrown : handleReplicationAfterWrite kind (filled mirrorDeltaQueueCapacity).handle
      (write mirrorDeltaQueueCapacity) = .thrown := by
    simp [handleReplicationAfterWrite, mirrored, filled, enqueueDeltaBounded, AfterWrite.ofQueue]
  simp only [step, filledNext, List.mem_singleton, if_true, List.erase_cons_head, thrown]

/-- Some run executes two writes in the other order, and some run loses one. -/
def OvertakesAndLoses (kind : Kind) : Prop :=
  (∃ (events : List Event) (final : State), events.foldlM (step kind) start = some final ∧
    ¬final.executed.Pairwise fun first second => first.logIndex ≤ second.logIndex) ∧
  ∃ (events : List Event) (final : State) (entry : Write),
    events.foldlM (step kind) start = some final ∧
    entry ∈ final.applied ∧ skips kind entry = false ∧
    entry ∉ final.executed ∧ entry ∉ final.arriving ∧
    entry ∉ final.handle.pendingEntries ∧
    final.handle.flushPromise = .idle ∧ entry ∉ final.direct

theorem overtakesAndLoses (kind : Kind) : OvertakesAndLoses kind := by
  constructor
  · obtain ⟨final, ran, executed⟩ := overlapping_overtaken kind
    refine ⟨overlapping, final, ran, ?_⟩
    rw [executed]
    decide
  refine ⟨fill mirrorDeltaQueueCapacity ++
      [.commit (write mirrorDeltaQueueCapacity), .arrive (write mirrorDeltaQueueCapacity)],
    { filledNext mirrorDeltaQueueCapacity with arriving := [] },
    write mirrorDeltaQueueCapacity, ?_, ?_, ?_, ?_, ?_, ?_, rfl, ?_⟩
  · rw [List.foldlM_append, filled_run (Nat.le_refl _)]
    simp only [Option.bind_eq_bind, Option.bind_some, List.foldlM_cons, filled_commit, filled_drops]
    rfl
  · dsimp only
    exact mem_filledNext_applied _
  · cases kind <;> rfl
  · simp [filledNext, filled]
  · simp
  · simp [filledNext, filled, write]
  · simp [filledNext, filled]

end LagrangeDb.Partition.Mirror
