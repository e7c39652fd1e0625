import Mathlib.Data.List.Nodup
import LagrangeDb.Partition.Replay

namespace LagrangeDb.Partition

open Data

namespace Replay

open Mirror

def Source.Settled.statements : Source.Settled → List Write
  | .statement entry => [entry]
  | _ => []

structure Source.Sound (source : Source) (statements : List Write) : Prop where
  ordered : statements.Pairwise fun first second => first.logIndex < second.logIndex
  applied : ∀ entry ∈ statements, 0 < entry.logIndex ∧ entry.logIndex ≤ source.appliedIndex
  deltas : (source.log.filter source.isDelta).map LogEntry.delta =
    statements.filter fun entry => source.compactedIndex < entry.logIndex
  logged : ∀ entry ∈ source.log, entry.index ≤ source.appliedIndex
  recorded : ∀ recorded ∈ source.outcomes, recorded.logIndex ≤ source.appliedIndex
  compacted : source.compactedIndex ≤ source.appliedIndex

namespace Source

theorem deltas_above (source : Source) (bound : Nat) :
    ((source.log.filter fun entry => bound < entry.index).filter
      source.isDelta).map LogEntry.delta =
    ((source.log.filter source.isDelta).map LogEntry.delta).filter
      fun entry => bound < entry.logIndex := by
  rw [List.filter_map, List.filter_filter, List.filter_filter]
  congr 1
  exact List.filter_congr fun entry _ => Bool.and_comm _ _

variable {source : Source}

theorem Sound.load (sound : source.Sound statements) {watermark : Nat} (positive : 1 ≤ watermark)
    (retained : source.compactedIndex ≤ watermark) :
    source.loadDurableDeltasBehindWatermark watermark =
      statements.filter fun entry => watermark < entry.logIndex := by
  rw [loadDurableDeltasBehindWatermark, if_neg (by omega), deltas_above,
    sound.deltas, List.filter_filter]
  refine List.filter_congr fun entry _ => ?_
  rw [Bool.eq_iff_iff]
  simp only [Bool.and_eq_true, decide_eq_true_eq, and_iff_left_iff_imp]
  omega

theorem isDelta_eq_false {entry : LogEntry}
    (unrecorded : ∀ key, committedStatementEntryKey entry.command = some key →
      ∀ recorded, source.readCommittedStatementOutcome key = some recorded →
        recorded.logIndex ≠ entry.index) : source.isDelta entry = false := by
  rw [isDelta, Bool.and_eq_false_iff, isAppliedStatementAtLogIndex]
  right
  split
  · rfl
  next recorded found =>
  obtain ⟨key, keyed, found⟩ := Option.bind_eq_some_iff.mp found
  simp [unrecorded key keyed recorded found]

variable {key : String}

theorem read_mem {recorded : Recorded}
    (found : source.readCommittedStatementOutcome key = some recorded) :
    recorded ∈ source.outcomes :=
  List.mem_of_find?_eq_some found

variable {command : Command}

theorem Sound.advance (sound : source.Sound statements) :
    Sound { source with appliedIndex := source.appliedIndex + 1 } statements where
  ordered := sound.ordered
  applied entry member := by
    have bounds := sound.applied entry member
    exact ⟨bounds.1, bounds.2.trans (Nat.le_succ _)⟩
  deltas := sound.deltas
  logged entry member := (sound.logged entry member).trans (Nat.le_succ _)
  recorded row member := (sound.recorded row member).trans (Nat.le_succ _)
  compacted := sound.compacted.trans (Nat.le_succ _)

theorem Sound.append (sound : source.Sound statements)
    (unchanged : source.isDelta ⟨source.appliedIndex + 1, command⟩ = false) : Sound { source with
      log := source.log ++ [⟨source.appliedIndex + 1, command⟩]
      appliedIndex := source.appliedIndex + 1 } statements := by
  have advanced := sound.advance
  refine ⟨advanced.ordered, advanced.applied, ?_, ?_, advanced.recorded, advanced.compacted⟩
  · refine Eq.trans ?_ sound.deltas
    change ((source.log ++ _).filter source.isDelta).map _ = _
    rw [List.filter_append, List.filter_cons_of_neg (by simp [unchanged]),
      List.filter_nil, List.append_nil]
  · intro entry member
    rcases List.mem_append.mp member with old | new
    · exact advanced.logged entry old
    · rw [List.mem_singleton.mp new]

def record (source : Source) (command : Command) (key : String) (outcome : Outcome) : Source where
  log := source.log ++ [⟨source.appliedIndex + 1, command⟩]
  appliedIndex := source.appliedIndex + 1
  compactedIndex := source.compactedIndex
  outcomes := source.outcomes ++ [⟨key, outcome, source.appliedIndex + 1⟩]

theorem isDelta_record (sound : source.Sound statements) (member : entry ∈ source.log) :
    (source.record command key outcome).isDelta entry = source.isDelta entry := by
  have earlier := sound.logged entry member
  rw [isDelta, isDelta, isAppliedStatementAtLogIndex, isAppliedStatementAtLogIndex]
  cases keyed : committedStatementEntryKey entry.command with
  | none => rfl
  | some other =>
    simp only [Option.bind_some, readCommittedStatementOutcome, record, List.find?_append]
    cases source.outcomes.find? _ with
    | some recorded => rfl
    | none =>
      have later : source.appliedIndex + 1 ≠ entry.index := by omega
      by_cases same : key = other
      · simp [same, later]
      · simp [same]

theorem Sound.record (sound : source.Sound statements) (outcome : Outcome)
    (keyed : committedStatementEntryKey command = some key)
    (unrecorded : source.readCommittedStatementOutcome key = none) :
    (source.record command key outcome).Sound (statements ++
      if mirrorableLogOperationTypes command.type = true ∧ outcome = .applied then
        [⟨source.appliedIndex + 1, command.splitMirrorOrigin⟩] else []) := by
  have advanced := sound.advance
  refine ⟨?_, ?_, ?_, ?_, ?_, advanced.compacted⟩
  · split
    · rw [List.pairwise_append]
      refine ⟨sound.ordered, List.pairwise_singleton _ _, ?_⟩
      intro entry member new isNew
      rw [List.mem_singleton.mp isNew]
      exact Nat.lt_succ_of_le (sound.applied entry member).2
    · rw [List.append_nil]
      exact sound.ordered
  · intro entry member
    rcases List.mem_append.mp member with old | new
    · exact advanced.applied entry old
    split at new
    · rw [List.mem_singleton.mp new]
      exact ⟨Nat.succ_pos _, le_refl _⟩
    · cases new
  · have found : (source.record command key outcome).readCommittedStatementOutcome
        key = some ⟨key, outcome, source.appliedIndex + 1⟩ := by
      rw [readCommittedStatementOutcome] at unrecorded ⊢
      rw [Source.record, List.find?_append, unrecorded]
      simp
    have latest : (source.record command key outcome).isDelta
        ⟨source.appliedIndex + 1, command⟩ =
          decide (mirrorableLogOperationTypes command.type = true ∧ outcome = .applied) := by
      simp [isDelta, isAppliedStatementAtLogIndex, keyed, found]
    have above : source.compactedIndex < source.appliedIndex + 1 :=
      Nat.lt_succ_of_le sound.compacted
    change ((source.log ++ _).filter _).map _ = List.filter _ _
    rw [List.filter_append, List.filter_congr fun _ => isDelta_record sound,
      List.map_append, sound.deltas, List.filter_append]
    congr 1
    rw [List.filter_singleton, latest]
    split
    next success =>
      rw [decide_eq_true success]
      simp [LogEntry.delta, Source.record, above]
    next failure =>
      rw [decide_eq_false failure]
      rfl
  · intro entry member
    rcases List.mem_append.mp member with old | new
    · exact advanced.logged entry old
    · rw [List.mem_singleton.mp new]
      rfl
  · intro row member
    rcases List.mem_append.mp member with old | new
    · exact advanced.recorded row old
    · rw [List.mem_singleton.mp new]
      rfl

theorem isDelta_unmirrorable {entry : LogEntry}
    (unmirrorable : mirrorableLogOperationTypes entry.command.type = false) :
    source.isDelta entry = false := by
  rw [isDelta, unmirrorable, Bool.false_and]

theorem Sound.apply {source source' : Source} (sound : source.Sound statements)
    (applied : source.apply command outcome = (source', settled)) :
    source'.Sound (statements ++ settled.statements) ∧
      source'.appliedIndex = source.appliedIndex + 1 ∧
      ∀ entry, settled = .statement entry ∨ settled = .unmirrored entry →
        entry.logIndex = source.appliedIndex + 1 := by
  unfold Source.apply at applied
  simp only at applied
  split at applied
  next other =>
    obtain ⟨rfl, rfl⟩ := Prod.mk.inj applied
    have unchanged : source.isDelta ⟨source.appliedIndex + 1, command⟩ = false :=
      isDelta_unmirrorable (by simp [mirrorableLogOperationTypes, other])
    exact ⟨by simpa [Settled.statements] using sound.append unchanged, rfl, by simp⟩
  split at applied
  next decision =>
    obtain ⟨rfl, rfl⟩ := Prod.mk.inj applied
    have unchanged : source.isDelta ⟨source.appliedIndex + 1, command⟩ = false :=
      isDelta_unmirrorable (by simp [mirrorableLogOperationTypes, decision])
    refine ⟨?_, rfl, ?_⟩
    · split <;> simpa [Settled.statements] using sound.append unchanged
    · intro entry
      split
      · rintro (same | same)
        · cases same
        · obtain rfl := Settled.unmirrored.inj same
          rfl
      · simp
  split at applied
  next unkeyed =>
    have unchanged : source.isDelta ⟨source.appliedIndex + 1, command⟩ = false :=
      isDelta_eq_false fun key keyed => nomatch unkeyed.symm.trans keyed
    obtain ⟨rfl, rfl⟩ := Prod.mk.inj applied
    exact ⟨by simpa [Settled.statements] using sound.append unchanged, rfl, by simp⟩
  next key keyed =>
  split at applied
  next recorded found =>
    have earlier := sound.recorded recorded (read_mem found)
    have unchanged : source.isDelta ⟨source.appliedIndex + 1, command⟩ = false := by
      refine isDelta_eq_false fun other otherKeyed row otherFound => ?_
      obtain rfl := Option.some.inj (keyed.symm.trans otherKeyed)
      obtain rfl := Option.some.inj (found.symm.trans otherFound)
      simp only
      omega
    obtain ⟨rfl, rfl⟩ := Prod.mk.inj applied
    refine ⟨?_, rfl, ?_⟩
    · split <;> simpa [Settled.statements] using sound.append unchanged
    · intro entry
      split <;> simp
  next unrecorded =>
    obtain ⟨rfl, rfl⟩ := Prod.mk.inj applied
    have stored := sound.record outcome keyed unrecorded
    cases outcome with
    | statementFailed => exact ⟨by simpa [Settled.statements, Source.record] using stored, rfl, by simp⟩
    | applied =>
      unfold Settled.ofStatement
      cases mirrorable : mirrorableLogOperationTypes command.type <;>
        refine ⟨by simpa [mirrorable, Settled.statements, Source.record] using stored, rfl, ?_⟩ <;>
        · intro entry same
          simp only [if_true, Bool.false_eq_true, if_false, Settled.statement.injEq,
            Settled.unmirrored.injEq, reduceCtorEq, or_false, false_or] at same
          obtain rfl := same
          rfl

theorem Sound.compact (sound : source.Sound statements) (bounded : index ≤ source.appliedIndex) :
    (source.compact index).Sound statements where
  ordered := sound.ordered
  applied := sound.applied
  deltas := by
    refine (deltas_above source index).trans ?_
    rw [sound.deltas, List.filter_filter]
    refine List.filter_congr fun entry _ => ?_
    rw [Bool.eq_iff_iff]
    simp only [Bool.and_eq_true, decide_eq_true_eq]
    exact and_comm.trans Nat.max_lt.symm
  logged entry member := sound.logged entry (List.mem_of_mem_filter member)
  recorded := sound.recorded
  compacted := max_le sound.compacted bounded

end Source

def State.due (kind : Kind) (state : State) : List Write :=
  state.statements.filter fun entry =>
    !skips kind entry && decide (state.target.snapshotBarrierIndex < entry.logIndex)

variable {entry : Write} {kind : Kind} {state : State}

theorem mem_due : entry ∈ state.due kind ↔ entry ∈ state.statements ∧ skips kind entry = false ∧
      state.target.snapshotBarrierIndex < entry.logIndex := by
  simp [State.due]

def State.Next (kind : Kind) (state : State) (entry : Write) : Prop :=
  entry ∈ state.target.executed ∨ state.target.executed ++ [entry] <+: state.due kind

structure State.Passed (kind : Kind) (state : State) (index : Nat) : Prop where
  copied : state.target.snapshotBarrierIndex ≤ index
  applied : index ≤ state.source.appliedIndex
  executed : ∀ entry ∈ state.due kind, entry.logIndex ≤ index → entry ∈ state.target.executed

structure Copies (kind : Kind) (state : State) : Prop where
  source : state.source.Sound state.statements
  barrier : state.target.snapshotBarrierIndex ≤ state.source.appliedIndex
  copied : ∀ entry, entry ∈ state.target.copied ↔ entry ∈ state.statements ∧
    entry.logIndex ≤ state.target.snapshotBarrierIndex
  reached : state.target.executed <+: state.due kind
  recorded : ∀ entry ∈ state.due kind,
    entry.logIndex ∈ state.target.outcomes ↔ entry ∈ state.target.executed
  bounded : ∀ index ∈ state.target.outcomes, index ≤ state.source.appliedIndex

/-- What a step leaves true of the two, unless it opens a snapshot. -/
structure Extends (kind : Kind) (state next : State) : Prop where
  applied : state.source.appliedIndex ≤ next.source.appliedIndex
  barrier : next.target.snapshotBarrierIndex = state.target.snapshotBarrierIndex
  fresh : ∀ entry ∈ next.due kind, entry ∈ state.due kind ∨
    state.source.appliedIndex < entry.logIndex
  executed : ∀ entry ∈ state.target.executed, entry ∈ next.target.executed
  next : ∀ entry, state.Next kind entry → next.Next kind entry

section

variable {kind : Kind} {state next : State}

theorem Extends.of_eq (applied : state.source.appliedIndex ≤ next.source.appliedIndex)
    (statements : next.statements = state.statements)
    (target : next.target = state.target) : Extends kind state next where
  applied := applied
  barrier := by rw [target]
  fresh entry member := by
    rw [State.due, statements, target] at member
    exact .inl member
  executed entry member := by rwa [target]
  next entry due := by
    rw [State.Next, State.due, statements, target]
    exact due

theorem State.Passed.extend (passed : state.Passed kind index)
    (extends' : Extends kind state next) : next.Passed kind index where
  copied := extends'.barrier ▸ passed.copied
  applied := passed.applied.trans extends'.applied
  executed entry member below := by
    rcases extends'.fresh entry member with old | new
    · exact extends'.executed entry (passed.executed entry old below)
    · exact absurd (below.trans passed.applied) (Nat.not_le.mpr new)

theorem Copies.due_ordered (copies : Copies kind state) :
    (state.due kind).Pairwise fun first second => first.logIndex < second.logIndex :=
  copies.source.ordered.sublist List.filter_sublist

theorem Copies.named (copies : Copies kind state) (member : entry ∈ state.due kind)
    (otherMember : other ∈ state.due kind) (equal : entry.logIndex = other.logIndex) : entry = other := by
  have distinct : ((state.due kind).map Write.logIndex).Nodup :=
    (List.pairwise_map.mpr copies.due_ordered).imp Nat.ne_of_lt
  exact List.inj_on_of_nodup_map distinct member otherMember equal

theorem Copies.of_eq (copies : Copies kind state) (source : next.source = state.source)
    (statements : next.statements = state.statements)
    (target : next.target = state.target) : Copies kind next := by
  obtain ⟨log, barrier, copied, reached, recorded, bounded⟩ := copies
  rw [← source, ← statements] at log
  rw [← source, ← target] at barrier bounded
  rw [← statements, ← target] at copied
  have same : next.due kind = state.due kind := by rw [State.due, State.due, statements, target]
  rw [← same, ← target] at reached recorded
  exact ⟨log, barrier, copied, reached, recorded, bounded⟩

theorem execute_of_mem {target : Target} (known : entry.logIndex ∈ target.outcomes) :
    target.execute entry = target :=
  if_pos known

theorem execute_of_not_mem {target : Target} (unknown : entry.logIndex ∉ target.outcomes) :
    target.execute entry = { target with
      executed := target.executed ++ [entry]
      outcomes := target.outcomes ++ [entry.logIndex] } :=
  if_neg unknown

theorem State.Next.mem_due (copies : Copies kind state)
    (due : state.Next kind entry) : entry ∈ state.due kind := by
  rcases due with executed | first
  · exact copies.reached.subset executed
  · exact first.subset (List.mem_append_right _ (List.mem_singleton.mpr rfl))

theorem State.Next.cases (copies : Copies kind state) (due : state.Next kind entry) :
    entry ∈ state.target.executed ∧ entry.logIndex ∈ state.target.outcomes ∨
      state.target.executed ++ [entry] <+: state.due kind ∧
        entry.logIndex ∉ state.target.outcomes := by
  have known := copies.recorded entry (due.mem_due copies)
  by_cases executed : entry ∈ state.target.executed
  · exact .inl ⟨executed, known.mpr executed⟩
  · exact .inr ⟨due.resolve_left executed, fun settled => executed (known.mp settled)⟩

theorem next_unique (first : state.target.executed ++ [entry] <+: state.due kind)
    (second : state.target.executed ++ [other] <+: state.due kind) : entry = other := by
  have same := (List.prefix_of_prefix_length_le first second (by simp)).eq_of_length
    (by simp)
  simpa using same

section Execution

variable {entry : Write} (copies : Copies kind state)
  (due : state.Next kind entry) (source : next.source = state.source)
  (statements : next.statements = state.statements)
  (target : next.target = state.target.execute entry)

include copies due source statements target

theorem Copies.execute : Copies kind next := by
  rcases due.cases copies with ⟨-, known⟩ | ⟨first, unknown⟩
  · exact copies.of_eq source statements (target.trans (execute_of_mem known))
  rw [execute_of_not_mem unknown] at target
  have same : next.due kind = state.due kind := by rw [State.due, State.due, statements, target]
  have isDue := due.mem_due copies
  refine ⟨?_, ?_, ?_, ?_, ?_, ?_⟩
  · rw [source, statements]
    exact copies.source
  · rw [source, target]
    exact copies.barrier
  · rw [statements, target]
    exact copies.copied
  · rw [same, target]
    exact first
  · intro other member
    rw [same] at member
    rw [target]
    simp only [List.mem_append, List.mem_singleton]
    rw [copies.recorded other member]
    refine or_congr_right ⟨fun equal => ?_, fun equal => equal ▸ rfl⟩
    exact copies.named member isDue equal
  · intro index member
    rw [target] at member
    rw [source]
    rcases List.mem_append.mp member with old | new
    · exact copies.bounded index old
    · rw [List.mem_singleton.mp new]
      exact (copies.source.applied entry (mem_due.mp isDue).1).2

theorem Extends.execute : Extends kind state next ∧ entry ∈ next.target.executed := by
  have same : next.due kind = state.due kind := by
    rw [State.due, State.due, statements, target, Target.execute]
    split <;> rfl
  rcases due.cases copies with ⟨done, known⟩ | ⟨first, unknown⟩
  · rw [execute_of_mem known] at target
    exact ⟨.of_eq (by rw [source]) statements target, by rwa [target]⟩
  rw [execute_of_not_mem unknown] at target
  refine ⟨⟨by rw [source], by rw [target], ?_, ?_, ?_⟩, ?_⟩
  · intro other member
    rw [same] at member
    exact .inl member
  · intro other member
    rw [target]
    exact List.mem_append_left _ member
  · intro other otherDue
    refine .inl ?_
    rw [target]
    rcases otherDue with done | second
    · exact List.mem_append_left _ done
    · rw [next_unique second first]
      exact List.mem_append_right _ (List.mem_singleton.mpr rfl)
  · rw [target]
    exact List.mem_append_right _ (List.mem_singleton.mpr rfl)

end Execution

section Growth

variable {fresh : List Write} (copies : Copies kind state)
  (log : next.source.Sound (state.statements ++ fresh))
  (applied : state.source.appliedIndex ≤ next.source.appliedIndex)
  (new : ∀ entry ∈ fresh, state.source.appliedIndex < entry.logIndex)
  (statements : next.statements = state.statements ++ fresh)
  (target : next.target = state.target)

include statements target

theorem due_grow : next.due kind = state.due kind ++ fresh.filter fun entry =>
    !skips kind entry && decide (state.target.snapshotBarrierIndex < entry.logIndex) := by
  rw [State.due, State.due, statements, target, List.filter_append]

include copies log applied new

theorem Copies.grow : Copies kind next := by
  have grown : next.due kind = _ := due_grow statements target
  refine ⟨?_, ?_, ?_, ?_, ?_, ?_⟩
  · rw [statements]
    exact log
  · rw [target]
    exact copies.barrier.trans applied
  · intro entry
    rw [target, statements, copies.copied, List.mem_append]
    refine ⟨fun old => ⟨.inl old.1, old.2⟩, fun either => ⟨?_, either.2⟩⟩
    refine either.1.resolve_right fun isNew => ?_
    exact absurd ((new entry isNew).trans_le (either.2.trans copies.barrier)) (Nat.lt_irrefl _)
  · rw [grown, target]
    exact copies.reached.trans (List.prefix_append _ _)
  · intro entry member
    rw [grown] at member
    rw [target]
    rcases List.mem_append.mp member with old | isNew
    · exact copies.recorded entry old
    have later := new entry (List.mem_of_mem_filter isNew)
    refine iff_of_false (fun settled => ?_) fun executed => ?_
    · exact absurd (copies.bounded _ settled) (Nat.not_le.mpr later)
    · have old := (mem_due.mp (copies.reached.subset executed)).1
      exact absurd (copies.source.applied entry old).2 (Nat.not_le.mpr later)
  · rw [target]
    exact fun index member => (copies.bounded index member).trans applied

omit copies log

theorem Extends.grow : Extends kind state next := by
  have grown : next.due kind = _ := due_grow statements target
  refine ⟨applied, by rw [target], ?_, ?_, ?_⟩
  · intro entry member
    rw [grown] at member
    rcases List.mem_append.mp member with old | isNew
    · exact .inl old
    · exact .inr (new entry (List.mem_of_mem_filter isNew))
  · intro entry member
    rwa [target]
  intro entry due
  rw [State.Next, grown, target]
  exact due.imp_right fun first => first.trans (List.prefix_append _ _)

end Growth

structure Worker.Sound (kind : Kind) (state : State) (worker : Worker) : Prop where
  inLine : InLine kind worker.mirror
  applied : worker.mirror.applied =
    state.statements.filter fun entry => worker.startedFrom < entry.logIndex
  ready : ∀ entry ∈ worker.mirror.sending, skips kind entry = false
  executed : ∀ entry ∈ worker.mirror.executed, entry ∈ state.target.executed
  started : state.Passed kind worker.startedFrom
  watermark : state.Passed kind worker.mirror.handle.replayWatermarkIndex

structure Sound (kind : Kind) (state : State) : Prop where
  copies : Copies kind state
  flying : ∀ entry ∈ state.flying, state.Next kind entry
  cursor : ∀ phase watermark, state.cursor = some (phase, watermark) →
    phase ≠ .failed ∧ state.Passed kind watermark
  worker : ∀ worker, state.worker = some worker → worker.Sound kind state

variable {worker : Worker}

theorem Worker.Sound.extend (sound : worker.Sound kind state) (extends' : Extends kind state next)
    (statements : next.statements = state.statements) : worker.Sound kind next where
  inLine := sound.inLine
  applied := by rw [statements]; exact sound.applied
  ready := sound.ready
  executed entry member := extends'.executed entry (sound.executed entry member)
  started := sound.started.extend extends'
  watermark := sound.watermark.extend extends'

theorem Worker.Sound.next_head (sound : worker.Sound kind state)
    (copies : Copies kind state) (first : worker.mirror.line.backlog = entry :: rest)
    (ready : skips kind entry = false) : state.Next kind entry := by
  have line := sound.inLine.sound
  have offered : ∀ other, other ∈ worker.mirror.applied ↔
      other ∈ state.statements ∧ worker.startedFrom < other.logIndex := by
    intro other
    rw [sound.applied, List.mem_filter, decide_eq_true_eq]
  have isDue : entry ∈ state.due kind := by
    have known := (offered entry).mp
      (line.known entry (List.mem_append_right _ (first ▸ List.mem_cons_self)))
    exact mem_due.mpr ⟨known.1, ready, sound.started.copied.trans_lt known.2⟩
  obtain ⟨left, split⟩ := copies.reached
  have parts := split ▸ copies.due_ordered
  rw [List.pairwise_append] at parts
  rw [← split] at isDue
  rcases List.mem_append.mp isDue with done | waits
  · exact .inl done
  cases left with
  | nil => cases waits
  | cons head tail =>
    rcases List.mem_cons.mp waits with same | later
    · exact .inr ⟨tail, by rw [same, ← split, List.append_assoc]; rfl⟩
    -- What is due before it was not executed, so it waits in the line too.
    have headDue : head ∈ state.due kind := split ▸ List.mem_append_right _ List.mem_cons_self
    have pending : head ∉ state.target.executed := fun done =>
      Nat.lt_irrefl _ (parts.2.2 head done head List.mem_cons_self)
    have known := mem_due.mp headDue
    have above : worker.startedFrom < head.logIndex := by
      by_contra below
      exact pending (sound.started.executed head headDue (Nat.not_lt.mp below))
    have earlier : head.logIndex < entry.logIndex := List.rel_of_pairwise_cons parts.2.1 later
    rcases line.kept head ((offered head).mpr ⟨known.1, above⟩)
        (by simp [known.2.1]) with done | queued
    · exact absurd (sound.executed head done) pending
    rw [first] at queued
    have order := line.waiting
    rw [first] at order
    rcases List.mem_cons.mp queued with same | behind
    · rw [same] at earlier
      exact absurd earlier (Nat.lt_irrefl _)
    · have := List.rel_of_pairwise_cons order behind
      omega

theorem State.Passed.executed_entry (copies : Copies kind state)
    (executed : entry ∈ state.target.executed) : state.Passed kind entry.logIndex where
  copied := (mem_due.mp (copies.reached.subset executed)).2.2.le
  applied := (copies.source.applied entry (mem_due.mp (copies.reached.subset executed)).1).2
  executed other member below := by
    obtain ⟨left, split⟩ := copies.reached
    have parts := split ▸ copies.due_ordered
    rw [List.pairwise_append] at parts
    rw [← split] at member
    rcases List.mem_append.mp member with done | waits
    · exact done
    · exact absurd (parts.2.2 entry executed other waits) (Nat.not_lt.mpr below)

theorem mirrorStep_sound (sound : Sound kind state) (running : state.worker = some worker)
    (allowed : Mirror.orderly kind worker.mirror event) (other : ∀ entry, event ≠ .commit entry)
    (stepped : mirrorStep kind state worker event = some next) : Sound kind next := by
  obtain ⟨-, stepped⟩ := Option.ite_none_left_eq_some.mp stepped
  obtain ⟨mirror, moved, rfl⟩ := Option.map_eq_some_iff.mp stepped
  have old := sound.worker worker running
  have advances := step_advances old.inLine.alone old.inLine.live allowed moved
  have inLine : InLine kind mirror :=
    ⟨advances.alone, advances.live, advances.move.sound old.inLine.sound⟩
  have ready : ∀ entry ∈ mirror.sending, skips kind entry = false := by
    intro entry member
    exact (advances.ready entry member).elim (old.ready entry) id
  have applied := (applied_step other moved).trans old.applied
  -- All the rest follows from how far the target came.
  suffices reached : ∀ target, (mirror.executed.drop
      worker.mirror.executed.length).foldl Target.execute state.target = target →
      Copies kind { state with target } ∧
      Extends kind state { state with target } ∧
      (∀ entry ∈ mirror.executed, entry ∈ target.executed) ∧
      State.Passed kind { state with target }
        mirror.handle.replayWatermarkIndex by
    obtain ⟨copies, extends', executed, watermark⟩ := reached _ rfl
    refine ⟨copies.of_eq rfl rfl rfl, ?_, ?_, ?_⟩
    · exact fun entry member => extends'.next entry (sound.flying entry member)
    · intro phase index persisted
      obtain ⟨active, passed⟩ := sound.cursor phase index persisted
      have passed := passed.extend extends'
      exact ⟨active, passed.copied, passed.applied, passed.executed⟩
    · rintro _ ⟨⟩
      have started := old.started.extend extends'
      exact ⟨inLine, applied, ready, executed, ⟨started.copied, started.applied, started.executed⟩,
        ⟨watermark.copied, watermark.applied, watermark.executed⟩⟩
  intro target equation
  cases advances.turn with
  | quiet same watermark =>
    rw [same, List.drop_length, List.foldl_nil] at equation
    subst equation
    rw [same, watermark]
    exact ⟨sound.copies, .of_eq le_rfl rfl rfl, old.executed, old.watermark⟩
  | execute entry rest first held same watermark =>
    rw [same, List.drop_left, List.foldl_cons, List.foldl_nil] at equation
    subst equation
    have due := old.next_head sound.copies first (old.ready entry held)
    have copies : Copies kind { state with target := state.target.execute entry } :=
      sound.copies.execute due rfl rfl rfl
    have extended : Extends kind state
          { state with target := state.target.execute entry } ∧
        entry ∈ (state.target.execute entry).executed :=
      Extends.execute sound.copies due rfl rfl rfl
    refine ⟨copies, extended.1, ?_, ?_⟩
    · intro done member
      rw [same] at member
      rcases List.mem_append.mp member with before | latest
      · exact extended.1.executed done (old.executed done before)
      · rw [List.mem_singleton.mp latest]
        exact extended.2
    have kept := old.watermark.extend extended.1
    rcases watermark with stays | moves
    · rw [stays]
      exact kept
    rw [moves]
    rcases Nat.le_total worker.mirror.handle.replayWatermarkIndex entry.logIndex with below | above
    · rw [Nat.max_eq_right below]
      exact State.Passed.executed_entry copies extended.2
    · rw [Nat.max_eq_left above]
      exact kept

theorem expect_frame (state : State) (entry : Write) (proposed : Bool) :
    (state.expect entry proposed).source = state.source ∧
    (state.expect entry proposed).statements = state.statements ∧
    (state.expect entry proposed).target = state.target ∧
    (state.expect entry proposed).flying = state.flying ∧
    (state.expect entry proposed).cursor = state.cursor := by
  unfold State.expect
  split
  · split <;> exact ⟨rfl, rfl, rfl, rfl, rfl⟩
  · exact ⟨rfl, rfl, rfl, rfl, rfl⟩

theorem expect_unmirrored (state : State) (entry : Write) (proposed : Bool) :
    (state.expect entry proposed).unmirrored = state.unmirrored := by
  unfold State.expect
  split
  · split <;> rfl
  · rfl

theorem settle_frame (state : State) (proposed : Bool) (settled : Source.Settled) :
    (state.settle proposed settled).source = state.source ∧
    (state.settle proposed settled).statements = state.statements ++ settled.statements ∧
    (state.settle proposed settled).target = state.target ∧
    (state.settle proposed settled).flying = state.flying ∧
    (state.settle proposed settled).cursor = state.cursor := by
  cases settled with
  | nothing | unmirrored entry => exact ⟨rfl, (List.append_nil _).symm, rfl, rfl, rfl⟩
  | replayed entry =>
    have frame := expect_frame state entry proposed
    exact ⟨frame.1, frame.2.1.trans (List.append_nil _).symm, frame.2.2⟩
  | statement entry => exact expect_frame _ entry proposed

theorem settle_no_worker (idle : state.worker = none) :
    (state.settle proposed settled).worker = none := by
  cases settled <;> cases proposed <;> simp [State.settle, State.expect, idle]

theorem apply_not_replayed {source source' : Source}
    (applied : source.apply command outcome = (source', settled))
    (unrecorded : (committedStatementEntryKey command).bind
      source.readCommittedStatementOutcome = none) (entry : Write) : settled ≠ .replayed entry := by
  rintro rfl
  unfold Source.apply at applied
  simp only at applied
  split at applied
  · cases (Prod.mk.inj applied).2
  split at applied
  · have equal := (Prod.mk.inj applied).2
    split at equal <;> cases equal
  split at applied
  · cases (Prod.mk.inj applied).2
  next key keyed =>
    rw [keyed, Option.bind_some] at unrecorded
    rw [unrecorded] at applied
    have equal := (Prod.mk.inj applied).2
    unfold Source.Settled.ofStatement at equal
    split at equal
    · split at equal <;> cases equal
    · cases equal

theorem Worker.Sound.observe (sound : worker.Sound kind state)
    (copies : Copies kind state) (extends' : Extends kind state next)
    (statements : next.statements = state.statements ++ [entry])
    (new : state.source.appliedIndex < entry.logIndex) :
    Worker.Sound kind next { worker with mirror := { worker.mirror with
      applied := worker.mirror.applied ++ [entry]
      arriving := worker.mirror.arriving ++ [entry] } } where
  inLine := by
    refine ⟨sound.inLine.alone, sound.inLine.live, ?_⟩
    have newer : ∀ old ∈ worker.mirror.line.offered,
        old.logIndex < entry.logIndex := by
      intro old member
      have known : old ∈ worker.mirror.applied := member
      rw [sound.applied] at known
      exact (copies.source.applied old (List.mem_of_mem_filter known)).2.trans_lt new
    simpa [Mirror.State.line] using (Line.Move.offer _ entry newer).sound sound.inLine.sound
  applied := by
    have above : worker.startedFrom < entry.logIndex := sound.started.applied.trans_lt new
    rw [statements, List.filter_append, sound.applied]
    simp [above]
  ready := sound.ready
  executed done member := extends'.executed done (sound.executed done member)
  started := sound.started.extend extends'
  watermark := sound.watermark.extend extends'

theorem apply_sound (sound : Sound kind state)
    (allowed : orderly kind state (.apply command outcome proposed))
    (stepped : step kind state (.apply command outcome proposed) = some next) :
    Sound kind next := by
  cases applied : state.source.apply command outcome with
  | mk source settled =>
    simp only [step, applied, Option.some.injEq] at stepped
    obtain ⟨log, index, numbered⟩ := sound.copies.source.apply applied
    obtain ⟨sameSource, statements, target, flying, cursor⟩ :=
      settle_frame { state with source } proposed settled
    rw [stepped] at sameSource statements target flying cursor
    have grown : state.source.appliedIndex ≤ next.source.appliedIndex := by
      rw [sameSource]
      exact (Nat.le_succ _).trans index.ge
    have new : ∀ entry ∈ settled.statements,
        state.source.appliedIndex < entry.logIndex := by
      intro entry member
      cases settled with
      | nothing => cases member
      | replayed other | unmirrored other => cases member
      | statement other =>
        rw [List.mem_singleton.mp member, numbered other (.inl rfl)]
        exact Nat.lt_succ_self _
    have log : next.source.Sound (state.statements ++ settled.statements) := sameSource ▸ log
    have extends' : Extends kind state next := .grow grown new statements target
    refine ⟨sound.copies.grow log grown new statements target, ?_, ?_, ?_⟩
    · rw [flying]
      exact fun entry member => extends'.next entry (sound.flying entry member)
    · rw [cursor]
      exact fun phase watermark persisted =>
        (sound.cursor phase watermark persisted).imp_right (·.extend extends')
    intro worker running
    cases idle : state.worker with
    | none =>
      have gone : next.worker = none := by
        rw [← stepped]
        exact settle_no_worker idle
      rw [gone] at running
      cases running
    | some old =>
      obtain ⟨rfl, unrecorded⟩ := allowed.2 (by simp [idle])
      have oldSound := sound.worker old idle
      cases settled with
      | nothing =>
        have same : next.worker = some old := by
          rw [← stepped]
          exact idle
        obtain rfl := Option.some.inj (same.symm.trans running)
        refine oldSound.extend extends' ?_
        rw [statements]
        exact List.append_nil _
      | replayed entry => exact absurd rfl (apply_not_replayed applied unrecorded entry)
      | unmirrored entry =>
        have free := (allowed.1 ⟨entry, congrArg Prod.snd applied⟩).1
        cases idle.symm.trans free
      | statement entry =>
        simp only [State.settle, State.expect, idle, Option.map_some, if_true] at stepped
        rw [← stepped] at running
        obtain rfl := Option.some.inj running
        exact oldSound.observe sound.copies extends' statements
          (new entry (List.mem_singleton.mpr rfl))

theorem begin_sound (sound : Sound kind state) (cursor : state.cursor = none)
    (unhandled : state.waiting = []) (landed : state.flying = []) :
    Sound kind (begin kind state []) := by
  have empty : ∀ entry ∈ state.statements,
      ¬state.source.appliedIndex < entry.logIndex := fun entry member =>
    Nat.not_lt.mpr (sound.copies.source.applied entry member).2
  have due : (begin kind state []).due kind = [] := by
    refine List.filter_eq_nil_iff.mpr fun entry member => ?_
    rw [Bool.and_eq_true]
    exact fun isDue => empty entry member (of_decide_eq_true isDue.2)
  have passed : (begin kind state []).Passed kind state.source.appliedIndex :=
    ⟨le_rfl, le_rfl, by rw [due]; nofun⟩
  refine ⟨⟨sound.copies.source, le_rfl, ?_, List.nil_prefix, ?_, sound.copies.bounded⟩, ?_, ?_, ?_⟩
  · intro entry
    exact ⟨fun member => ⟨member, (sound.copies.source.applied entry member).2⟩,
      fun member => member.1⟩
  · rw [due]
    nofun
  · change ∀ entry ∈ state.flying, _
    rw [landed]
    nofun
  · intro phase watermark persisted
    cases cursor.symm.trans persisted
  rintro _ ⟨⟩
  refine ⟨⟨.inl rfl, nofun, ?_⟩, ?_, nofun, nofun, passed, passed⟩
  · rw [unhandled]
    exact Line.sound_nil
  refine (List.filter_eq_nil_iff.mpr fun entry member => ?_).symm
  rw [decide_eq_true_eq]
  exact empty entry member

theorem resume_sound {watermark : Nat} (sound : Sound kind state)
    (persisted : state.cursor = some (phase, watermark)) (unhandled : state.waiting = [])
    (positive : 1 ≤ watermark) (retained : state.source.compactedIndex ≤ watermark)
    (plain : ∀ entry ∈ state.statements, watermark < entry.logIndex → skips kind entry = false) :
    Sound kind (resume state phase watermark) := by
  have extends' : Extends kind state (resume state phase watermark) := .of_eq le_rfl rfl rfl
  obtain ⟨active, passed⟩ := sound.cursor phase watermark persisted
  refine ⟨sound.copies.of_eq rfl rfl rfl, sound.flying, ?_, ?_⟩
  · exact fun phase watermark persisted =>
      (sound.cursor phase watermark persisted).imp_right (·.extend extends')
  rintro _ ⟨⟩
  have loaded := sound.copies.source.load positive retained
  refine ⟨⟨.inl rfl, fun failed => absurd failed active, ?_⟩, rfl, ?_, nofun,
    passed.extend extends', passed.extend extends'⟩
  · have line : Line.Sound Write.logIndex (fun entry => skips kind entry = true)
        ⟨state.statements.filter fun entry => watermark < entry.logIndex, [],
          state.statements.filter fun entry => watermark < entry.logIndex⟩ :=
      ⟨fun _ => id, fun _ member _ => .inr member, .nil,
        sound.copies.source.ordered.sublist List.filter_sublist, nofun⟩
    simpa [Mirror.State.line, Handle.held, Flush.entries, loaded, unhandled] using line
  · intro entry member
    simp only [Mirror.State.sending, Handle.held, Flush.entries, loaded,
      List.nil_append, List.append_nil, List.mem_filter, decide_eq_true_eq] at member
    exact plain entry member.1 member.2

theorem Worker.Sound.flying (sound : worker.Sound kind state) (copies : Copies kind state) :
    ∀ entry ∈ worker.flying, state.Next kind entry := by
  intro entry member
  have alone := sound.inLine.alone
  rcases List.mem_append.mp member with delivering | direct
  · cases flush : worker.mirror.handle.flushPromise with
    | delivering other =>
      rw [flush] at delivering
      obtain rfl := List.mem_singleton.mp delivering
      obtain ⟨-, held, line⟩ := line_delivering alone flush
      refine sound.next_head copies (congrArg Line.backlog line) ?_
      exact sound.ready entry (by simp [Mirror.State.sending, held])
    | idle => simp [flush, Flush.entries] at delivering
    | settled => simp [flush, Flush.entries] at delivering
  · refine sound.next_head copies (congrArg Line.backlog (line_direct alone direct).2.2) ?_
    exact sound.ready entry (List.mem_append_right _ direct)

theorem stop_sound (crashed : Bool) (sound : Sound kind state) :
    Sound kind (stop state crashed) := by
  have extends' : Extends kind state (stop state crashed) := .of_eq le_rfl rfl rfl
  refine ⟨sound.copies.of_eq rfl rfl rfl, ?_, ?_, nofun⟩
  · intro entry member
    rcases List.mem_append.mp member with old | abandoned
    · exact extends'.next entry (sound.flying entry old)
    cases running : state.worker with
    | none => simp [running] at abandoned
    | some worker =>
      rw [running] at abandoned
      exact extends'.next entry ((sound.worker worker running).flying sound.copies entry abandoned)
  · exact fun phase watermark persisted =>
      (sound.cursor phase watermark persisted).imp_right (·.extend extends')

theorem enter_sound (sound : Sound kind state)
    (running : state.worker = some worker) (active : phase ≠ .failed) :
    Sound kind (enter state worker phase) := by
  have extends' : Extends kind state (enter state worker phase) := .of_eq le_rfl rfl rfl
  have old := sound.worker worker running
  refine ⟨sound.copies.of_eq rfl rfl rfl, sound.flying, ?_, ?_⟩
  · exact fun phase watermark persisted =>
      (sound.cursor phase watermark persisted).imp_right (·.extend extends')
  rintro _ ⟨⟩
  exact ⟨⟨old.inLine.alone, fun failed => absurd failed active, old.inLine.sound⟩,
    old.applied, old.ready, old.executed, old.started.extend extends',
    old.watermark.extend extends'⟩

theorem Sound.extend (sound : Sound kind state) (copies : Copies kind next)
    (extends' : Extends kind state next) (statements : next.statements = state.statements)
    (flying : ∀ entry ∈ next.flying, entry ∈ state.flying)
    (cursor : next.cursor = state.cursor) (worker : next.worker = state.worker) :
    Sound kind next where
  copies := copies
  flying entry member := extends'.next entry (sound.flying entry (flying entry member))
  cursor phase watermark persisted :=
    (sound.cursor phase watermark (cursor ▸ persisted)).imp_right (·.extend extends')
  worker running equal := (sound.worker running (worker ▸ equal)).extend extends' statements

theorem mirror_sound (sound : Sound kind state) (allowed : orderly kind state (.mirror event))
    (stepped : step kind state (.mirror event) = some next) : Sound kind next := by
  cases running : state.worker with
  | some worker =>
    have moved : mirrorStep kind state worker event = some next ∧
        ∀ entry, event ≠ .commit entry := by
      cases event <;> simp_all [step]
    exact mirrorStep_sound sound running (allowed worker running) moved.2 moved.1
  | none =>
    have handled : ∃ entry, { state with
        waiting := state.waiting.erase entry } = next := by
      cases event with
      | arrive entry | unhandled entry =>
        simp only [step, running] at stepped
        obtain ⟨-, stepped⟩ := Option.ite_none_right_eq_some.mp stepped
        exact ⟨entry, by rw [← Option.some.inj stepped, running]⟩
      | _ => simp [step, running] at stepped
    obtain ⟨entry, rfl⟩ := handled
    exact sound.extend (sound.copies.of_eq rfl rfl rfl) (.of_eq le_rfl rfl rfl) rfl
      (fun _ => id) rfl rfl

theorem step_sound {event : Event} (sound : Sound kind state) (allowed : orderly kind state event)
    (stepped : step kind state event = some next) : Sound kind next := by
  cases event with
  | apply command outcome proposed => exact apply_sound sound allowed stepped
  | advance =>
    obtain rfl := Option.some.inj stepped
    have log := sound.copies.source.advance
    rw [← List.append_nil state.statements] at log
    refine sound.extend (sound.copies.grow log (Nat.le_succ _) nofun
      (List.append_nil _).symm rfl) ?_ rfl (fun _ => id) rfl rfl
    exact .of_eq (Nat.le_succ _) rfl rfl
  | compact index =>
    obtain ⟨bounded, rfl⟩ := guarded_eq_some.mp stepped
    have log := sound.copies.source.compact bounded
    rw [← List.append_nil state.statements] at log
    exact sound.extend (sound.copies.grow log le_rfl nofun
      (List.append_nil _).symm rfl) (.of_eq le_rfl rfl rfl) rfl (fun _ => id) rfl rfl
  | begin early =>
    obtain ⟨⟨-, cursor, -⟩, rfl⟩ := guarded_eq_some.mp stepped
    obtain ⟨rfl, unhandled, landed⟩ := allowed
    exact begin_sound sound cursor unhandled landed
  | backfilled =>
    simp only [step] at stepped
    split at stepped
    next worker running =>
      obtain ⟨-, rfl⟩ := guarded_eq_some.mp stepped
      exact enter_sound sound running nofun
    · cases stepped
  | cutover =>
    simp only [step] at stepped
    split at stepped
    next worker running =>
      obtain ⟨-, rfl⟩ := guarded_eq_some.mp stepped
      exact enter_sound sound running nofun
    · cases stepped
  | mirror event => exact mirror_sound sound allowed stepped
  | checkpoint phase watermark =>
    simp only [step] at stepped
    split at stepped
    next worker running =>
      obtain ⟨⟨resumable, -, above, below⟩, rfl⟩ := guarded_eq_some.mp stepped
      have old := sound.worker worker running
      refine ⟨sound.copies.of_eq rfl rfl rfl, sound.flying, ?_, ?_⟩
      · rintro _ _ ⟨⟩
        refine ⟨by rcases resumable with rfl | rfl <;> nofun, ?_⟩
        exact ⟨old.started.copied.trans above, below.trans old.watermark.applied,
          fun entry member early => old.watermark.executed entry member (early.trans below)⟩
      · exact fun worker running =>
          (sound.worker worker running).extend (.of_eq le_rfl rfl rfl) rfl
    · cases stepped
  | stop crashed =>
    obtain rfl := Option.some.inj stepped
    exact stop_sound crashed sound
  | land entry =>
    obtain ⟨member, rfl⟩ := guarded_eq_some.mp stepped
    have due := sound.flying entry member
    refine sound.extend (sound.copies.execute due rfl rfl rfl) ?_ rfl
      (fun _ => List.mem_of_mem_erase) rfl rfl
    have extended : Extends kind state { state with
          flying := state.flying.erase entry
          target := state.target.execute entry } ∧ _ :=
      Extends.execute sound.copies due rfl rfl rfl
    exact extended.1
  | resume =>
    simp only [step] at stepped
    split at stepped
    next phase watermark _ persisted =>
      obtain ⟨positive, rfl⟩ := guarded_eq_some.mp stepped
      obtain ⟨unhandled, log⟩ := allowed
      obtain ⟨retained, plain⟩ := log phase watermark persisted
      exact resume_sound sound persisted unhandled positive retained plain
    · cases stepped

end

/-- The changes no mirror carries are in the snapshot of one that has its snapshot. -/
structure Whole (state : State) : Prop where
  applied : ∀ entry ∈ state.unmirrored, entry.logIndex ≤ state.source.appliedIndex
  copied : ∀ entry ∈ state.target.copiedUnmirrored,
    entry.logIndex ≤ state.target.snapshotBarrierIndex
  engaged : state.worker ≠ none ∨ state.cursor ≠ none →
    ∀ entry ∈ state.unmirrored, entry ∈ state.target.copiedUnmirrored

theorem execute_snapshot (target : Target) (entries : List Write) :
    (entries.foldl Target.execute target).snapshotBarrierIndex = target.snapshotBarrierIndex ∧
    (entries.foldl Target.execute target).copiedUnmirrored = target.copiedUnmirrored := by
  induction entries generalizing target with
  | nil => exact ⟨rfl, rfl⟩
  | cons entry rest induction =>
    have one : (target.execute entry).snapshotBarrierIndex = target.snapshotBarrierIndex ∧
        (target.execute entry).copiedUnmirrored = target.copiedUnmirrored := by
      unfold Target.execute
      split <;> exact ⟨rfl, rfl⟩
    exact ⟨(induction _).1.trans one.1, (induction _).2.trans one.2⟩

section

variable {kind : Kind} {state next : State}

theorem Whole.frame (whole : Whole state) (unmirrored : next.unmirrored = state.unmirrored)
    (applied : state.source.appliedIndex ≤ next.source.appliedIndex)
    (barrier : next.target.snapshotBarrierIndex = state.target.snapshotBarrierIndex)
    (copied : next.target.copiedUnmirrored = state.target.copiedUnmirrored)
    (engaged : next.worker ≠ none ∨ next.cursor ≠ none →
      state.worker ≠ none ∨ state.cursor ≠ none) : Whole next where
  applied entry member := (whole.applied entry (unmirrored ▸ member)).trans applied
  copied entry member := barrier ▸ whole.copied entry (copied ▸ member)
  engaged running entry member := by
    rw [copied]
    exact whole.engaged (engaged running) entry (unmirrored ▸ member)

theorem apply_whole (sound : Sound kind state) (whole : Whole state)
    (allowed : orderly kind state (.apply command outcome proposed))
    (stepped : step kind state (.apply command outcome proposed) = some next) : Whole next := by
  cases applied : state.source.apply command outcome with
  | mk source settled =>
    simp only [step, applied, Option.some.injEq] at stepped
    obtain ⟨-, index, numbered⟩ := sound.copies.source.apply applied
    obtain ⟨sameSource, -, target, -, cursor⟩ :=
      settle_frame { state with source } proposed settled
    have idle (free : state.worker = none) : next.worker = none := by
      rw [← stepped]
      exact settle_no_worker free
    rw [stepped] at sameSource target cursor
    have grown : state.source.appliedIndex ≤ next.source.appliedIndex := by
      rw [sameSource]
      exact (Nat.le_succ _).trans index.ge
    have engaged : next.worker ≠ none ∨ next.cursor ≠ none →
        state.worker ≠ none ∨ state.cursor ≠ none :=
      Or.imp (mt idle) (by rw [cursor]; exact id)
    have framed (kept : next.unmirrored = state.unmirrored) : Whole next :=
      whole.frame kept grown (by rw [target]) (by rw [target]) engaged
    cases settled with
    | nothing => exact framed (by rw [← stepped]; rfl)
    | statement entry | replayed entry => exact framed (stepped ▸ expect_unmirrored _ entry proposed)
    | unmirrored entry =>
      have free := allowed.1 ⟨entry, congrArg Prod.snd applied⟩
      have kept : next.unmirrored = state.unmirrored ++ [entry] := by
        rw [← stepped]
        rfl
      refine ⟨?_, by rw [target]; exact whole.copied, fun running => ?_⟩
      · intro other member
        rw [kept] at member
        rcases List.mem_append.mp member with old | new
        · exact (whole.applied other old).trans grown
        · rw [List.mem_singleton.mp new, numbered entry (.inr rfl), sameSource]
          exact index.ge
      · rcases engaged running with worker | cursor
        · exact absurd free.1 worker
        · exact absurd free.2 cursor

theorem mirror_whole (whole : Whole state)
    (stepped : step kind state (.mirror event) = some next) : Whole next := by
  cases running : state.worker with
  | some worker =>
    have moved : mirrorStep kind state worker event = some next := by
      cases event <;> simp_all [step]
    unfold mirrorStep at moved
    obtain ⟨-, moved⟩ := Option.ite_none_left_eq_some.mp moved
    obtain ⟨mirror, -, rfl⟩ := Option.map_eq_some_iff.mp moved
    obtain ⟨barrier, copied⟩ := execute_snapshot state.target
      (mirror.executed.drop worker.mirror.executed.length)
    exact whole.frame rfl le_rfl barrier copied fun _ => .inl (by simp [running])
  | none =>
    cases event with
    | arrive entry | unhandled entry =>
      simp only [step, running] at stepped
      obtain ⟨-, rfl⟩ := guarded_eq_some.mp stepped
      exact whole.frame rfl le_rfl rfl rfl fun engaged => by simpa [running] using engaged
    | _ => simp [step, running] at stepped

theorem step_whole {event : Event} (sound : Sound kind state) (whole : Whole state)
    (allowed : orderly kind state event) (stepped : step kind state event = some next) :
    Whole next := by
  cases event with
  | apply command outcome proposed => exact apply_whole sound whole allowed stepped
  | advance =>
    obtain rfl := Option.some.inj stepped
    exact whole.frame rfl (Nat.le_succ _) rfl rfl id
  | compact index =>
    obtain ⟨-, rfl⟩ := guarded_eq_some.mp stepped
    exact whole.frame rfl le_rfl rfl rfl id
  | begin early =>
    obtain ⟨-, rfl⟩ := guarded_eq_some.mp stepped
    exact ⟨whole.applied, whole.applied, fun _ _ => id⟩
  | backfilled | cutover | checkpoint phase watermark =>
    simp only [step] at stepped
    split at stepped
    next worker running =>
      obtain ⟨-, rfl⟩ := guarded_eq_some.mp stepped
      exact whole.frame rfl le_rfl rfl rfl fun _ => .inl (by simp [running])
    · cases stepped
  | mirror event => exact mirror_whole whole stepped
  | stop crashed =>
    obtain rfl := Option.some.inj stepped
    refine whole.frame rfl le_rfl rfl rfl ?_
    rintro (running | persisted)
    · exact absurd rfl running
    · exact .inr persisted
  | land entry =>
    obtain ⟨-, rfl⟩ := guarded_eq_some.mp stepped
    obtain ⟨barrier, copied⟩ := execute_snapshot state.target [entry]
    exact whole.frame rfl le_rfl barrier copied id
  | resume =>
    simp only [step] at stepped
    split at stepped
    next phase watermark _ persisted =>
      obtain ⟨-, rfl⟩ := guarded_eq_some.mp stepped
      exact whole.frame rfl le_rfl rfl rfl fun _ => .inr (by simp [persisted])
    · cases stepped

end

theorem sound_start (kind : Kind) : Sound kind start where
  copies :=
    { source := ⟨.nil, nofun, rfl, nofun, nofun, le_rfl⟩
      barrier := le_rfl
      copied := fun _ => ⟨nofun, fun member => nomatch member.1⟩
      reached := List.nil_prefix
      recorded := nofun
      bounded := nofun }
  flying := nofun
  cursor := nofun
  worker := nofun

theorem skips_target (mirrored : skips kind entry = false) :
    entry.splitMirrorOrigin ≠ some .target := by
  intro origin
  cases kind <;> simp [skips, origin] at mirrored

theorem Sound.resumes (sound : Sound kind state) (whole : Whole state) :
    Resumes kind state where
  below phase watermark persisted entry member mirrored early := by
    obtain ⟨-, passed⟩ := sound.cursor phase watermark persisted
    rcases List.mem_append.mp member with member | unmirrored
    · by_cases copied : entry.logIndex ≤ state.target.snapshotBarrierIndex
      · exact .inl (List.mem_append_left _ ((sound.copies.copied entry).mpr ⟨member, copied⟩))
      · have isDue := mem_due.mpr ⟨member, mirrored, Nat.not_le.mp copied⟩
        exact .inr (passed.executed entry isDue early)
    · exact .inl (List.mem_append_right _
        (whole.engaged (.inr (by simp [persisted])) entry unmirrored))
  above worker running entry member mirrored later := by
    have old := sound.worker worker running
    have member : entry ∈ state.statements := by
      refine (List.mem_append.mp member).resolve_right fun unmirrored => ?_
      have copied := whole.engaged (.inl (by simp [running])) entry unmirrored
      exact absurd ((whole.copied entry copied).trans old.started.copied) (Nat.not_le.mpr later)
    have known : entry ∈ worker.mirror.applied := by
      rw [old.applied]
      exact List.mem_filter.mpr ⟨member, decide_eq_true later⟩
    rcases old.inLine.sound.kept entry known (by simp [mirrored]) with done | waits
    · exact .inl (old.executed entry done)
    right
    simp only [Mirror.State.line, List.mem_append] at waits
    rcases waits with (held | direct) | arriving
    · exact .inl held
    · exact .inr (.inl direct)
    · exact .inr (.inr arriving)
  ordered := sound.copies.due_ordered.sublist sound.copies.reached.sublist
  once entry executed := by
    have known := mem_due.mp (sound.copies.reached.subset executed)
    refine ⟨fun snapshot => ?_, skips_target known.2.1⟩
    have early : entry.logIndex ≤ state.target.snapshotBarrierIndex :=
      (List.mem_append.mp snapshot).elim (fun copied => ((sound.copies.copied entry).mp copied).2)
        (whole.copied entry)
    exact absurd early (Nat.not_le.mpr known.2.2)

structure Exact (kind : Kind) (state : State) : Prop where
  sound : Sound kind state
  whole : Whole state

theorem run_exact {kind : Kind} {events : List Event} {final : State}
    (allowed : Allowed (step kind) (orderly kind) start events)
    (ran : events.foldlM (step kind) start = some final) : Exact kind final := by
  refine run_invariant (fun exact' allows stepped => ?_) ⟨sound_start kind, ?_⟩ allowed ran
  · exact ⟨step_sound exact'.sound allows stepped,
      step_whole exact'.sound exact'.whole allows stepped⟩
  · exact ⟨nofun, nofun, fun _ => nofun⟩

/-- A run resumes exactly where the target is, as long as mirrors carry all that is
applied after their snapshot, the entries applied beside a worker are its own, its handlers run in the order of the log and find room, none is
outstanding when it starts, and it finds above its watermark the whole log and no
write that came through a mirror. -/
theorem resumes_of_orderly {kind : Kind} {events : List Event} {final : State}
    (allowed : Allowed (step kind) (orderly kind) start events)
    (ran : events.foldlM (step kind) start = some final) : Resumes kind final :=
  (run_exact allowed ran).sound.resumes (run_exact allowed ran).whole

/-- What the target is to execute: the changes its snapshot does not have. -/
def State.missing (kind : Kind) (state : State) : List Write :=
  state.changes.filter fun entry =>
    !skips kind entry && decide (state.target.snapshotBarrierIndex < entry.logIndex)

theorem Whole.missing (whole : Whole state) (running : state.worker ≠ none) :
    state.missing kind = state.due kind := by
  have nothing : state.unmirrored.filter (fun entry => !skips kind entry &&
      decide (state.target.snapshotBarrierIndex < entry.logIndex)) = [] := by
    refine List.filter_eq_nil_iff.mpr fun entry member => ?_
    have early := whole.copied entry (whole.engaged (.inl running) entry member)
    simp [Nat.not_lt.mpr early]
  rw [State.missing, State.changes, List.filter_append, nothing, List.append_nil, State.due]

/-- Where nothing awaits delivery the target has executed what the snapshot does not have, all of
it once and in the order of the log. -/
theorem drained_exact {kind : Kind} {events : List Event} {final : State}
    (allowed : Allowed (step kind) (orderly kind) start events)
    (ran : events.foldlM (step kind) start = some final) (running : final.worker = some worker)
    (drained : ∀ entry, ¬worker.awaits entry) : final.target.executed = final.missing kind := by
  obtain ⟨sound, whole⟩ := run_exact allowed ran
  rw [whole.missing (by simp [running])]
  have done : ∀ entry ∈ final.due kind, entry ∈ final.target.executed := by
    intro entry member
    obtain ⟨known, mirrored, -⟩ := mem_due.mp member
    by_cases later : worker.startedFrom < entry.logIndex
    · exact ((sound.resumes whole).above worker running entry (List.mem_append_left _ known)
        mirrored later).resolve_right (drained entry)
    · exact (sound.worker worker running).started.executed entry member (Nat.not_lt.mp later)
  obtain ⟨left, split⟩ := sound.copies.reached
  cases left with
  | nil => rw [← split, List.append_nil]
  | cons head tail =>
    have executed := done head (split ▸ List.mem_append_right _ List.mem_cons_self)
    have ordered := List.pairwise_append.mp (split ▸ sound.copies.due_ordered)
    exact absurd (ordered.2.2 head executed head List.mem_cons_self) (Nat.lt_irrefl _)

namespace Sample

def write (entryId : String) (origin : Option Origin) : Event :=
  .apply ⟨.query, entryId, origin⟩ .applied true

def cutover : List Event :=
  [write "a" none, .mirror (.arrive ⟨1, none⟩), .begin [], .backfilled,
    write "b" none, .mirror (.arrive ⟨2, none⟩), .mirror .flush,
    .mirror .delivered, .mirror .settle, .checkpoint .cutoverActive 2, .cutover]

/-- The source restarts after a write that was not acknowledged to it. -/
def restarted : List Event :=
  cutover ++ [write "c" none, .mirror (.arrive ⟨3, none⟩), .stop true,
    .land ⟨3, none⟩, .resume, .mirror .flush, .mirror .delivered, .mirror .settle,
    write "d" none, .mirror (.arrive ⟨4, none⟩), .mirror (.replayed ⟨4, none⟩)]

/-- A client's write is sent to the target and to the source, and the source
restarts. -/
def echoed : List Event :=
  cutover ++ [write "c" (some .target), .mirror (.arrive ⟨3, some .target⟩),
    .stop true, .resume, .mirror .flush, .mirror .delivered]

/-- Another replica takes over, and applies an entry of the old leader after it
read the log. -/
def handedOver : List Event :=
  cutover ++ [.stop true, .resume, .apply ⟨.query, "c", none⟩ .applied false]

/-- A participant transaction commits on the source. -/
def decided : List Event := cutover ++ [.apply ⟨.participantDecision, "t", none⟩ .applied true]

/-- What is left of a run that lost its third change. -/
def lost (state : State) : List Write × List Write × Option (Nat × List Write) :=
  (state.changes, state.target.executed, state.worker.map fun worker => (worker.startedFrom,
    worker.mirror.handle.held ++ worker.mirror.direct ++ worker.mirror.arriving))

end Sample

theorem restarted_resumes : ∃ final, Sample.restarted.foldlM (step .split) start = some final ∧
      Resumes .split final ∧ final.target.executed = [⟨2, none⟩, ⟨3, none⟩, ⟨4, none⟩] := by
  have ran : (Sample.restarted.foldlM (step .split) start).isSome := by decide +kernel
  obtain ⟨final, ran⟩ := Option.isSome_iff_exists.mp ran
  have executed : (Sample.restarted.foldlM (step .split) start).map
      (fun final => final.target.executed) = some [⟨2, none⟩, ⟨3, none⟩, ⟨4, none⟩] := by
    decide +kernel
  rw [ran] at executed
  exact ⟨final, ran, resumes_of_orderly (by decide +kernel) ran,
    Option.some.inj executed⟩

theorem restarted_drained : ∃ final, Sample.restarted.foldlM (step .split) start = some final ∧
    final.target.executed = final.missing .split := by
  refine ⟨_, rfl, drained_exact ?_ (rfl : Sample.restarted.foldlM _ _ = _) rfl ?_⟩
  · decide +kernel
  · rintro entry (held | held | held) <;> exact List.not_mem_nil held

theorem not_resumes_lost (reached : Sample.lost state =
      ([⟨1, none⟩, ⟨2, none⟩, ⟨3, none⟩], [⟨2, none⟩], some (started, [])))
    (early : started < 3) : ⟨3, none⟩ ∈ state.changes ∧ ¬Resumes kind state := by
  obtain ⟨changes, executed, worker⟩ := by
    simpa only [Sample.lost, Prod.mk.injEq] using reached
  refine ⟨by simp [changes], fun resumes => ?_⟩
  obtain ⟨worker, running, held⟩ := Option.map_eq_some_iff.mp worker
  obtain ⟨same, empty⟩ := Prod.mk.inj held
  rcases resumes.above worker running ⟨3, none⟩ (by simp [changes]) (by cases kind <;> rfl)
      (same ▸ early) with done | waits
  · simp [executed] at done
  · simp only [List.append_eq_nil_iff] at empty
    simp [Worker.awaits, empty] at waits

/-- A write the target executed itself is executed there once more; and a statement
that another replica proposed never reaches the target, nor does the COMMIT of a
participant. -/
theorem executed_again_and_lost : (∃ final, Sample.echoed.foldlM (step .split) start = some final ∧
      ⟨3, some .target⟩ ∈ final.target.executed ∧ ¬Resumes .split final) ∧
    (∃ final, Sample.handedOver.foldlM (step .split) start = some final ∧
      ⟨3, none⟩ ∈ final.changes ∧ ¬Resumes .split final) ∧
    ∃ final, Sample.decided.foldlM (step .split) start = some final ∧
      ⟨3, none⟩ ∈ final.changes ∧ ¬Resumes .split final := by
  have echoed : (Sample.echoed.foldlM (step .split) start).map
      (fun final => decide (⟨3, some .target⟩ ∈ final.target.executed)) = some true := by
    decide +kernel
  have handedOver : (Sample.handedOver.foldlM (step .split) start).map Sample.lost =
      some ([⟨1, none⟩, ⟨2, none⟩, ⟨3, none⟩], [⟨2, none⟩], some (2, [])) := by
    decide +kernel
  have decided : (Sample.decided.foldlM (step .split) start).map Sample.lost =
      some ([⟨1, none⟩, ⟨2, none⟩, ⟨3, none⟩], [⟨2, none⟩], some (1, [])) := by
    decide +kernel
  obtain ⟨first, ranFirst, executed⟩ := Option.map_eq_some_iff.mp echoed
  obtain ⟨second, ranSecond, reachedSecond⟩ := Option.map_eq_some_iff.mp handedOver
  obtain ⟨third, ranThird, reachedThird⟩ := Option.map_eq_some_iff.mp decided
  have executed := of_decide_eq_true executed
  refine ⟨⟨first, ranFirst, executed, fun resumes => (resumes.once _ executed).2 rfl⟩,
    ⟨second, ranSecond, not_resumes_lost reachedSecond (by decide)⟩,
    ⟨third, ranThird, not_resumes_lost reachedThird (by decide)⟩⟩

end Replay

end LagrangeDb.Partition
