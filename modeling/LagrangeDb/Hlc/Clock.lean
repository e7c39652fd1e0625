import Mathlib.Data.Prod.Lex
import LagrangeDb.Data.Run
import LagrangeDb.Js.Rounding

namespace LagrangeDb.Hlc

open Data
open Js (Number)

structure Timestamp where
  (physical logical : Number)
  nodeId : String
deriving DecidableEq

/-- Node ids break ties, in the order of the locale. -/
def Timestamp.compare (localeCompare : String → String → Int) (this other : Timestamp) : Number :=
  if !this.physical.equals other.physical then this.physical.subtract other.physical
  else if !this.logical.equals other.logical then this.logical.subtract other.logical
  else .finite (localeCompare this.nodeId other.nodeId)

def Timestamp.isAfter (localeCompare : String → String → Int) (this other : Timestamp) : Bool :=
  Number.less (.finite 0) (this.compare localeCompare other)

structure Clock where
  nodeId : String
  (maxDrift maxLogicalCounter physical logical : Number)
deriving DecidableEq

namespace Clock

def create (nodeId : String) (maxDrift maxLogicalCounter physicalNow : Number) : Clock :=
  ⟨nodeId, maxDrift, maxLogicalCounter, physicalNow, .finite 0⟩

def current (clock : Clock) : Timestamp := ⟨clock.physical, clock.logical, clock.nodeId⟩

/-- A logical counter that overflows moves the physical time. -/
def carry (clock : Clock) : Clock :=
  if clock.maxLogicalCounter.less clock.logical then
    { clock with physical := clock.physical.increment, logical := .finite 0 }
  else clock

def now (clock : Clock) (physicalNow : Number) : Clock :=
  if clock.physical.less physicalNow then
    { clock with physical := physicalNow, logical := .finite 0 }
  else carry { clock with logical := clock.logical.increment }

def update (clock : Clock) (physicalNow : Number) (remote : Timestamp) : Clock :=
  let newPhysical := (clock.physical.maximum remote.physical).maximum physicalNow
  carry <|
    if newPhysical.equals clock.physical && newPhysical.equals remote.physical then
      { clock with logical := (clock.logical.maximum remote.logical).increment }
    else if newPhysical.equals clock.physical then
      { clock with logical := clock.logical.increment }
    else if newPhysical.equals remote.physical then
      { clock with physical := newPhysical, logical := remote.logical.increment }
    else { clock with physical := newPhysical, logical := .finite 0 }

def driftExceeded (clock : Clock) (physicalNow : Number) (remote : Timestamp) : Bool :=
  clock.maxDrift.less (remote.physical.subtract physicalNow)

end Clock

/-- A timestamp that was returned, with the remote one it was asked for with. -/
structure Returned where
  remote : Option Timestamp
  timestamp : Timestamp
deriving DecidableEq

structure State where
  clock : Clock
  returned : List Returned
deriving DecidableEq

/-- The callback for drift warnings may throw; the clock is as before then. -/
inductive Event where
  | now (physicalNow : Number)
  | update (physicalNow : Number) (remote : Timestamp) (warningThrows : Bool)
deriving DecidableEq

def State.answer (state : State) (remote : Option Timestamp) (clock : Clock) : State :=
  ⟨clock, state.returned ++ [⟨remote, clock.current⟩]⟩

def step (state : State) : Event → Option State
  | .now physicalNow => some (state.answer none (state.clock.now physicalNow))
  | .update physicalNow remote warningThrows =>
    if state.clock.driftExceeded physicalNow remote && warningThrows then some state
    else some (state.answer (some remote) (state.clock.update physicalNow remote))

/-- Timestamps increase, those returned for a remote one lie beyond it, and the
logical counter is bounded. -/
structure Monotone (localeCompare : String → String → Int) (state : State) : Prop where
  increasing : state.returned.Pairwise fun earlier later =>
    later.timestamp.isAfter localeCompare earlier.timestamp
  beyond : ∀ entry ∈ state.returned, ∀ remote, entry.remote = some remote →
    entry.timestamp.isAfter localeCompare remote
  bounded : ∀ entry ∈ state.returned,
    entry.timestamp.logical.lessOrEqual state.clock.maxLogicalCounter

def Timestamp.isSafe (timestamp : Timestamp) : Bool :=
  timestamp.physical.isSafeInteger && timestamp.logical.isSafeInteger

/-- The readings and the remote timestamps are safe integers, and so is the
physical time of the clock before it is read. -/
def safe (state : State) : Event → Prop
  | .now physicalNow => state.clock.physical.isSafeInteger ∧ physicalNow.isSafeInteger
  | .update physicalNow remote _ =>
    state.clock.physical.isSafeInteger ∧ physicalNow.isSafeInteger ∧ remote.isSafe

instance decidableSafe (state : State) : (event : Event) → Decidable (safe state event)
  | .now _ => inferInstanceAs (Decidable (_ ∧ _))
  | .update _ _ _ => inferInstanceAs (Decidable (_ ∧ _ ∧ _))

theorem isSafeInteger_iff {number : Number} : number.isSafeInteger = true ↔
    ∃ value : Int, number = .finite value ∧ value.natAbs < 2 ^ 53 := by
  constructor
  · intro isSafe
    cases number with
    | nan | infinite => cases isSafe
    | finite value =>
      rw [Number.isSafeInteger, Bool.and_eq_true, decide_eq_true_eq, decide_eq_true_eq] at isSafe
      exact ⟨value.num, by rw [Rat.coe_int_num_of_den_eq_one isSafe.1], by omega⟩
  · rintro ⟨value, rfl, bound⟩
    rw [Number.isSafeInteger, Bool.and_eq_true, decide_eq_true_eq, decide_eq_true_eq,
      Rat.num_intCast, Rat.den_intCast]
    exact ⟨rfl, by omega⟩

theorem increment_intCast {value : Int} (bound : value.natAbs < 2 ^ 53) :
    Number.increment (.finite value) = .finite (value + 1 : Int) := by
  rw [Number.increment, Number.add, ← Number.round_intCast (by omega)]
  push_cast
  rfl

theorem less_intCast (left right : Int) :
    Number.less (.finite left) (.finite right) = decide (left < right) := by
  simp [Number.less]

theorem equals_intCast (left right : Int) :
    Number.equals (.finite left) (.finite right) = decide (left = right) := by
  simp [Number.equals]

theorem maximum_intCast (left right : Int) :
    Number.maximum (.finite left) (.finite right) = .finite (max left right : Int) := by
  rw [Number.maximum, less_intCast] <;> grind

theorem subtract_pos {left right : Int} (order : right < left) :
    Number.less (.finite 0) (Number.subtract (.finite left) (.finite right)) = true := by
  have difference : Number.subtract (.finite left) (.finite right) =
      Number.round ((left - right : Int) : ℚ) := by
    rw [Number.subtract, Number.negate, Number.add, ← sub_eq_add_neg]
    push_cast
    rfl
  have positive : 1 ≤ Number.rounded ((left - right : Int) : ℚ) := by
    have mono := Number.rounded_mono
      (show ((1 : Int) : ℚ) ≤ (left - right : Int) by exact_mod_cast (by omega))
    rwa [Number.rounded_intCast (by decide), Int.cast_one] at mono
  rw [difference, Number.round_eq]
  split
  · simp only [Number.less, Bool.not_eq_true', decide_eq_false_iff_not]
    linarith
  · simp only [Number.less, decide_eq_true_eq]
    linarith

structure Timestamp.At (timestamp : Timestamp) (physical logical : Int) : Prop where
  physical : timestamp.physical = .finite physical
  logical : timestamp.logical = .finite logical

theorem Timestamp.At.isAfter (localeCompare : String → String → Int)
    {this other : Timestamp} {physical logical otherPhysical otherLogical : Int}
    (at' : this.At physical logical) (otherAt : other.At otherPhysical otherLogical)
    (order : toLex (otherPhysical, otherLogical) < toLex (physical, logical)) :
    this.isAfter localeCompare other = true := by
  rw [Timestamp.isAfter, Timestamp.compare, at'.physical, otherAt.physical,
    at'.logical, otherAt.logical, equals_intCast, equals_intCast]
  rcases Prod.Lex.toLex_lt_toLex.mp order with below | ⟨same, below⟩
  · have different : physical ≠ otherPhysical := ne_of_gt below
    simp only [different, decide_false, Bool.not_false, if_true]
    exact subtract_pos below
  have same : physical = otherPhysical := same.symm
  have different : logical ≠ otherLogical := ne_of_gt below
  simp only [same, different, decide_true, decide_false, Bool.not_true,
    Bool.not_false, Bool.false_eq_true, if_false, if_true]
  exact subtract_pos below

/-- A clock of integers whose counter has room to be incremented. -/
structure Clock.At (clock : Clock) (limit : Nat) (time count : Int) : Prop where
  physical : clock.physical = .finite time
  logical : clock.logical = .finite count
  counter : clock.maxLogicalCounter = .finite (limit : Int)
  low : -(2 ^ 53) < count

namespace Clock

variable {clock : Clock} {counter : Nat} {physical logical : Int}

theorem At.carry (at' : clock.At counter physical logical) (bound : physical.natAbs < 2 ^ 53) :
    ∃ physical' logical', clock.carry.At counter physical' logical' ∧
      toLex (physical, logical) ≤ toLex (physical', logical') ∧ logical' ≤ counter := by
  unfold Clock.carry
  rw [at'.counter, at'.logical, less_intCast]
  split
  · refine ⟨physical + 1, 0, ⟨?_, ?_, rfl, by decide⟩, ?_, by omega⟩
    · rw [at'.physical]
      exact increment_intCast bound
    · exact congrArg Number.finite Int.cast_zero.symm
    · exact Prod.Lex.toLex_le_toLex.mpr (.inl (Int.lt_succ physical))
  next fits =>
    rw [decide_eq_true_eq, not_lt] at fits
    exact ⟨physical, logical, at', le_rfl, fits⟩

theorem At.advance {moved : Clock} (at' : moved.At counter time count)
    (bound : time.natAbs < 2 ^ 53) (order : toLex (physical, logical) < toLex (time, count)) :
    ∃ physical' logical', moved.carry.At counter physical' logical' ∧
      toLex (physical, logical) < toLex (physical', logical') ∧ logical' ≤ counter := by
  obtain ⟨physical', logical', carried, later, bounded⟩ := at'.carry bound
  exact ⟨physical', logical', carried, order.trans_le later, bounded⟩

theorem At.now (at' : clock.At counter physical logical) (bound : physical.natAbs < 2 ^ 53)
    (room : logical ≤ counter) (counterBound : counter < 2 ^ 53) (reading : Int) :
    ∃ physical' logical', (clock.now (.finite reading)).At counter physical' logical' ∧
      toLex (physical, logical) < toLex (physical', logical') ∧ logical' ≤ counter := by
  have low := at'.low
  unfold Clock.now
  rw [at'.physical, less_intCast]
  split
  next later =>
    refine ⟨reading, 0, ⟨rfl, ?_, at'.counter, by decide⟩, ?_, by omega⟩
    · exact congrArg Number.finite Int.cast_zero.symm
    · exact Prod.Lex.toLex_lt_toLex.mpr (.inl (of_decide_eq_true later))
  have moved : Clock.At { clock with logical := clock.logical.increment } counter
      physical (logical + 1) := by
    refine ⟨at'.physical, ?_, at'.counter, by omega⟩
    simp only [at'.logical]
    exact increment_intCast (by omega)
  rw [← at'.physical]
  exact moved.advance bound (Prod.Lex.toLex_lt_toLex.mpr (.inr ⟨rfl, Int.lt_succ logical⟩))

theorem At.update (at' : clock.At counter physical logical) (bound : physical.natAbs < 2 ^ 53)
    (room : logical ≤ counter) (counterBound : counter < 2 ^ 53) {reading : Int}
    (readingBound : reading.natAbs < 2 ^ 53) {remote : Timestamp} (remoteAt : remote.At time count)
    (timeBound : time.natAbs < 2 ^ 53) (countBound : count.natAbs < 2 ^ 53) : ∃ physical' logical',
      (clock.update (.finite reading) remote).At counter physical' logical' ∧
      toLex (physical, logical) < toLex (physical', logical') ∧
      toLex (time, count) < toLex (physical', logical') ∧ logical' ≤ counter := by
  have low := at'.low
  -- Both ends are passed already before a carry.
  suffices moves : ∀ moved : Clock, ∀ physical' logical',
      moved.At counter physical' logical' → physical'.natAbs < 2 ^ 53 →
      toLex (physical, logical) < toLex (physical', logical') →
      toLex (time, count) < toLex (physical', logical') →
      ∃ physical' logical', moved.carry.At counter physical' logical' ∧
        toLex (physical, logical) < toLex (physical', logical') ∧
        toLex (time, count) < toLex (physical', logical') ∧ logical' ≤ counter by
    unfold Clock.update
    simp only [at'.physical, remoteAt.physical, at'.logical, remoteAt.logical,
      maximum_intCast, equals_intCast]
    split
    next both =>
      simp only [Bool.and_eq_true, decide_eq_true_eq] at both
      refine moves _ physical (max logical count + 1)
        ⟨rfl, increment_intCast (by omega), at'.counter, by omega⟩ bound ?_ ?_
      · exact Prod.Lex.toLex_lt_toLex.mpr (.inr ⟨rfl, by omega⟩)
      · exact Prod.Lex.toLex_lt_toLex.mpr (.inr ⟨by omega, by omega⟩)
    next notBoth =>
    simp only [Bool.and_eq_true, decide_eq_true_eq, not_and] at notBoth
    split
    next ours =>
      rw [decide_eq_true_eq] at ours
      have ahead := notBoth ours
      refine moves _ physical (logical + 1)
        ⟨rfl, increment_intCast (by omega), at'.counter, by omega⟩ bound ?_ ?_
      · exact Prod.Lex.toLex_lt_toLex.mpr (.inr ⟨rfl, by omega⟩)
      · exact Prod.Lex.toLex_lt_toLex.mpr (.inl (by omega))
    next notOurs =>
      rw [decide_eq_true_eq] at notOurs
      split
      next theirs =>
        rw [decide_eq_true_eq] at theirs
        refine moves _ time (count + 1)
          ⟨by simp only [theirs], increment_intCast (by omega), at'.counter,
            by omega⟩ timeBound ?_ ?_
        · exact Prod.Lex.toLex_lt_toLex.mpr (.inl (by omega))
        · exact Prod.Lex.toLex_lt_toLex.mpr (.inr ⟨rfl, by omega⟩)
      next notTheirs =>
        rw [decide_eq_true_eq] at notTheirs
        refine moves _ reading 0
          ⟨congrArg (fun value : Int => Number.finite value) (by omega), congrArg Number.finite Int.cast_zero.symm,
            at'.counter, by decide⟩ readingBound ?_ ?_
        · exact Prod.Lex.toLex_lt_toLex.mpr (.inl (by omega))
        · exact Prod.Lex.toLex_lt_toLex.mpr (.inl (by omega))
  intro moved physical' logical' movedAt movedBound ours theirs
  obtain ⟨last, lastCount, carried, later, bounded⟩ := movedAt.carry movedBound
  exact ⟨last, lastCount, carried, ours.trans_le later, theirs.trans_le later, bounded⟩

end Clock

structure Ahead (counter : Nat) (state : State) : Prop where
  clock : ∃ physical logical, state.clock.At counter physical logical ∧ logical ≤ counter ∧
    ∀ entry ∈ state.returned, ∃ time count, entry.timestamp.At time count ∧
      toLex (time, count) ≤ toLex (physical, logical)

section

variable {counter : Nat}

theorem answer_ahead {clock : Clock} {remote : Option Timestamp} {physical logical time count : Int}
    (monotone : Monotone localeCompare state) (old : state.clock.At counter time count)
    (before : ∀ entry ∈ state.returned, ∃ earlier early,
      entry.timestamp.At earlier early ∧ toLex (earlier, early) ≤ toLex (time, count))
    (new : clock.At counter physical logical)
    (later : toLex (time, count) < toLex (physical, logical)) (bounded : logical ≤ counter)
    (beyond : ∀ timestamp, remote = some timestamp →
      clock.current.isAfter localeCompare timestamp) : Ahead counter (state.answer remote clock) ∧
      Monotone localeCompare (state.answer remote clock) := by
  have current : clock.current.At physical logical := ⟨new.physical, new.logical⟩
  refine ⟨⟨physical, logical, new, bounded, ?_⟩, ?_, ?_, ?_⟩
  · intro entry member
    rcases List.mem_append.mp member with earlier | latest
    · obtain ⟨time, count, at', order⟩ := before entry earlier
      exact ⟨time, count, at', order.trans later.le⟩
    · rw [List.mem_singleton.mp latest]
      exact ⟨physical, logical, current, le_rfl⟩
  · refine List.pairwise_append.mpr ⟨monotone.increasing, List.pairwise_singleton _ _, ?_⟩
    intro entry member last isLast
    obtain ⟨time, count, at', order⟩ := before entry member
    rw [List.mem_singleton.mp isLast]
    exact current.isAfter localeCompare at' (order.trans_lt later)
  · intro entry member timestamp remoteIs
    rcases List.mem_append.mp member with earlier | latest
    · exact monotone.beyond entry earlier timestamp remoteIs
    · rw [List.mem_singleton.mp latest] at remoteIs ⊢
      exact beyond timestamp remoteIs
  intro entry member
  have limit : (state.answer remote clock).clock.maxLogicalCounter =
      state.clock.maxLogicalCounter := new.counter.trans old.counter.symm
  rcases List.mem_append.mp member with earlier | latest
  · rw [limit]
    exact monotone.bounded entry earlier
  rw [List.mem_singleton.mp latest, limit, old.counter]
  change Number.lessOrEqual clock.logical _ = true
  rw [new.logical, Number.lessOrEqual, less_intCast, equals_intCast]
  simp only [Bool.or_eq_true, decide_eq_true_eq]
  omega

theorem step_ahead (counterBound : counter < 2 ^ 53)
    (ahead : Ahead counter state ∧ Monotone localeCompare state)
    (allowed : safe state event) (stepped : step state event = some next) :
    Ahead counter next ∧ Monotone localeCompare next := by
  obtain ⟨⟨time, count, old, room, before⟩, monotone⟩ := ahead
  cases event with
  | now physicalNow =>
    obtain ⟨clockSafe, readingSafe⟩ := allowed
    obtain ⟨value, equal, bound⟩ := isSafeInteger_iff.mp clockSafe
    obtain ⟨reading, rfl, -⟩ := isSafeInteger_iff.mp readingSafe
    obtain rfl : time = value := by simpa using old.physical.symm.trans equal
    obtain ⟨physical, logical, new, later, bounded⟩ := old.now bound room counterBound reading
    obtain rfl := Option.some.inj stepped
    exact answer_ahead monotone old before new later bounded nofun
  | update physicalNow remote warningThrows =>
    obtain ⟨clockSafe, readingSafe, remoteSafe⟩ := allowed
    obtain ⟨value, equal, bound⟩ := isSafeInteger_iff.mp clockSafe
    obtain ⟨reading, rfl, readingBound⟩ := isSafeInteger_iff.mp readingSafe
    obtain rfl : time = value := by simpa using old.physical.symm.trans equal
    rw [Timestamp.isSafe, Bool.and_eq_true, isSafeInteger_iff, isSafeInteger_iff]
      at remoteSafe
    obtain ⟨⟨remoteTime, timeEqual, timeBound⟩, remoteCount, countEqual, countBound⟩ := remoteSafe
    have remoteAt : remote.At remoteTime remoteCount := ⟨timeEqual, countEqual⟩
    simp only [step] at stepped
    split at stepped
    · obtain rfl := Option.some.inj stepped
      exact ⟨⟨time, count, old, room, before⟩, monotone⟩
    obtain rfl := Option.some.inj stepped
    obtain ⟨physical, logical, new, later, beyond, bounded⟩ :=
      old.update bound room counterBound readingBound remoteAt timeBound countBound
    refine answer_ahead monotone old before new later bounded ?_
    rintro _ ⟨⟩
    exact Timestamp.At.isAfter localeCompare ⟨new.physical, new.logical⟩ remoteAt
      beyond

end

def start (nodeId : String) (maxDrift : Number) (counter : Nat) (physicalNow : Number) : State :=
  ⟨.create nodeId maxDrift (.finite (counter : Int)) physicalNow, []⟩

/-- As long as readings and remote timestamps are safe integers, and the clock was
not moved past them, its timestamps increase. -/
theorem timestamps_monotone (localeCompare : String → String → Int) {nodeId : String}
    {maxDrift physicalNow : Number} {counter : Nat} {events : List Event} {final : State}
    (counterBound : counter < 2 ^ 53) (readingSafe : physicalNow.isSafeInteger)
    (allowed : Allowed step safe (start nodeId maxDrift counter physicalNow) events)
    (ran : events.foldlM step (start nodeId maxDrift counter physicalNow) = some final) :
    Monotone localeCompare final := by
  obtain ⟨reading, rfl, -⟩ := isSafeInteger_iff.mp readingSafe
  have begun : Ahead counter (start nodeId maxDrift counter (.finite reading)) ∧
      Monotone localeCompare (start nodeId maxDrift counter (.finite reading)) := by
    refine ⟨⟨reading, 0, ⟨rfl, ?_, rfl, by decide⟩, by omega, nofun⟩, .nil, nofun, nofun⟩
    exact congrArg Number.finite Int.cast_zero.symm
  exact (run_invariant (step_ahead counterBound) begun allowed ran).2

namespace Sample

def clock : State := start "n1" (.finite 500) 65535 (.finite 1000)

def events : List Event :=
  [.now (.finite 1000), .now (.finite 900), .update (.finite 1000)
    ⟨.finite 1200, .finite 65535, "n2"⟩ false, .now (.finite 1201)]

def remote : Timestamp := ⟨.finite (2 ^ 53), .finite 65535, "n2"⟩

end Sample

theorem events_monotone : ∃ final, Sample.events.foldlM step Sample.clock = some final ∧
    Monotone (fun _ _ => 0) final := by
  have ran : (Sample.events.foldlM step Sample.clock).isSome := by decide +kernel
  obtain ⟨final, ran⟩ := Option.isSome_iff_exists.mp ran
  exact ⟨final, ran, timestamps_monotone _ (by decide) (by decide) (by decide +kernel) ran⟩

/-- The clock is moved to the remote time, but not past it. -/
theorem update_not_beyond :
    ∃ final, step Sample.clock (.update (.finite 1000) Sample.remote false) =
        some final ∧ final.clock.current = ⟨.finite (2 ^ 53), .finite 0, "n1"⟩ ∧
      ¬Monotone (fun _ _ => 0) final := by
  have moved : Sample.clock.clock.update (.finite 1000) Sample.remote =
      ⟨"n1", .finite 500, .finite 65535, .finite (2 ^ 53), .finite 0⟩ := by
    decide +kernel
  refine ⟨Sample.clock.answer (some Sample.remote)
    (Sample.clock.clock.update (.finite 1000) Sample.remote), ?_, ?_, fun monotone => ?_⟩
  · simp only [step, Bool.and_false, Bool.false_eq_true, if_false]
  · simp only [State.answer, moved]
    rfl
  have beyond := monotone.beyond _ (List.mem_append_right _ (List.mem_singleton.mpr rfl)) _ rfl
  simp only [moved] at beyond
  revert beyond
  decide +kernel

end LagrangeDb.Hlc
