import LagrangeDb.Data.Run
import LagrangeDb.Participant.History
import LagrangeDb.Write.Tidy
import LagrangeDb.Write.Truth

namespace LagrangeDb.Write

open Data Participant

/-! Where writes of one entry come one after the other, an answer that the write
was not proposed is true. -/

section

variable {platform : Platform}

def alive (system : System platform) (replica : Nat) (entryId : String) : List Copy :=
  (system.underway ++ (system.log.drop (system.replicas replica).applied).filterMap
    Entry.copy).filter fun copy => copy.command.entryId = entryId

structure Idle (system : System platform) (replica : Nat) (entryId : String) :
    Prop where
  desks : ∀ other, (system.replicas other).desks entryId = {}
  copies : alive system replica entryId = []

/-- A write that is neither joined nor answered from its record comes after every
earlier attempt. -/
def orderly (system : System platform) : Event platform → Prop
  | .request replica command _ =>
    ((system.replicas replica).desks command.entryId).attempt = none →
    recordOf (system.replicas replica).partition command.entryId = none →
    Idle system replica command.entryId
  | _ => True

def Copy.isOf (entryId : String) (copy : Copy) : Bool := copy.command.entryId = entryId

def pending (log : List Entry) (applied : Nat) (entryId : String) : Nat :=
  ((log.drop applied).filterMap Entry.copy).countP (Copy.isOf entryId)

theorem alive_length (system : System platform) (replica : Nat)
    (entryId : String) : (alive system replica entryId).length =
      system.underway.countP (Copy.isOf entryId) +
        pending system.log (system.replicas replica).applied entryId := by
  rw [alive, ← List.countP_eq_length_filter, List.countP_append]
  rfl

def TidyAt (underway : List Copy) (log : List Entry)
    (replica : Replica platform) (entryId : String) : Prop :=
  (replica.desks entryId).Tidy
    (underway.countP (Copy.isOf entryId) + pending log replica.applied entryId)
    (recordOf replica.partition entryId).isSome

variable {α : Type}

theorem countP_filter_le (p q : α → Bool) (items : List α) :
    (items.filter q).countP p ≤ items.countP p :=
  List.filter_sublist.countP_le

theorem countP_filter_lt {p q : α → Bool} {items : List α} {item : α}
    (member : item ∈ items) (counted : p item = true) (dropped : q item = false) :
    (items.filter q).countP p < items.countP p := by
  rw [List.countP_eq_countP_filter_add items p q]
  have found : 0 < (items.filter fun item => !q item).countP p :=
    List.countP_pos_iff.mpr ⟨item, List.mem_filter.mpr ⟨member, by simp [dropped]⟩, counted⟩
  omega

def Known (system : System platform) (entryId : String) (number : Nat) : Prop :=
  number < system.handed ∧
    ∀ copy ∈ system.underway, copy.number = number → copy.command.entryId = entryId

structure Numbered (system : System platform) : Prop where
  below : ∀ copy ∈ system.underway, copy.number < system.handed
  desks : ∀ replica entryId,
    ((system.replicas replica).desks entryId).Labelled entryId (Known system entryId)
  copies : ∀ entry ∈ system.log, entry.sqlCommand = entry.copy.map Copy.command

/-- The replica that holds the write of an entry, if any does. -/
structure Calm (system : System platform) (entryId : String) (owner : Nat) :
    Prop where
  others : ∀ other, other ≠ owner → (system.replicas other).desks entryId = {}
  tidy : ((system.replicas owner).desks entryId).Tidy (alive system owner entryId).length
    (recordOf (system.replicas owner).partition entryId).isSome

/-- No copy handed over before the answer takes effect any more. -/
structure Closed (start : PartitionState platform) (system : System platform)
    (given : Answered) : Prop where
  handed : given.handed ≤ system.handed
  underway : ∀ copy ∈ system.underway, copy.command.entryId = given.entryId →
    given.handed ≤ copy.number
  logged : ∃ index state, Reaches start system.log index state ∧
    recordOf state given.entryId = none ∧
    ∀ (position : Nat) (entry : Entry) (copy : Copy),
      system.log[position]? = some entry → entry.copy = some copy →
      copy.command.entryId = given.entryId → copy.number < given.handed →
      position < index

structure Orderly (start : PartitionState platform) (system : System platform) :
    Prop where
  numbered : Numbered system
  writes : ∀ entryId, ∃ owner, Calm system entryId owner
  answers : ∀ given ∈ system.answers, given.answer.isUnproposed = true → Closed start system given

variable {system next : System platform} {start : PartitionState platform}
  {replica : Nat} {entryId : String}

theorem Closed.of_idle {applications : Nat} (sound : Sound start system)
    (dead : alive system replica entryId = [])
    (fresh : recordOf (system.replicas replica).partition entryId = none) : Closed start system
      { replica, entryId, answer, handed := system.handed, applications } := by
  rw [alive, List.filter_eq_nil_iff] at dead
  refine ⟨le_rfl, fun copy member isOf => ?_, (system.replicas replica).applied,
    _, sound.reaches replica, fresh, fun position entry copy isEntry isCopy isOf _ => ?_⟩
  · exact absurd (decide_eq_true isOf) (dead copy (List.mem_append_left _ member))
  by_contra notBefore
  refine absurd (decide_eq_true isOf) (dead copy (List.mem_append_right _ ?_))
  refine List.mem_filterMap.mpr ⟨entry, ?_, isCopy⟩
  refine List.mem_of_getElem? (?_ : _[position - (system.replicas replica).applied]? = some entry)
  rw [List.getElem?_drop, Nat.add_sub_cancel' (not_lt.mp notBefore), isEntry]

variable {given : Answered}

theorem Closed.step (closed : Closed start system given)
    (handed : system.handed ≤ next.handed) (underway : ∀ copy ∈ next.underway,
      copy ∈ system.underway ∨ copy.number = system.handed)
    (log : next.log = system.log ∨ ∃ entry, next.log = system.log ++ [entry] ∧
      ∀ copy, entry.copy = some copy → copy ∈ system.underway) : Closed start next given := by
  refine ⟨closed.handed.trans handed, fun copy member isOf => ?_, ?_⟩
  · rcases underway copy member with old | new
    · exact closed.underway copy old isOf
    · rw [new]
      exact closed.handed
  obtain ⟨index, state, reaches, fresh, before⟩ := closed.logged
  rcases log with same | ⟨entry, isLog, isUnderway⟩
  · rw [same]
    exact ⟨index, state, reaches, fresh, before⟩
  rw [isLog]
  refine ⟨index, state, reaches.append _, fresh, ?_⟩
  intro position found copy isFound isCopy isOf earlier
  rcases Nat.lt_or_ge position system.log.length with lt | ge
  · rw [List.getElem?_append_left lt] at isFound
    exact before position found copy isFound isCopy isOf earlier
  rw [List.getElem?_append_right ge, List.getElem?_singleton] at isFound
  split at isFound
  · cases isFound
    have := closed.underway copy (isUnderway copy isCopy) isOf
    omega
  · cases isFound

section Change

variable {change : Replica platform → Replica platform}

structure ChangesAt (replica : Nat) (change : Replica platform → Replica platform)
    (system next : System platform) : Prop where
  log : next.log = system.log
  answers : next.answers = system.answers
  replicas : ∀ other, next.replicas other =
    if other = replica then change (system.replicas replica)
    else system.replicas other

theorem changesAt_atReplica {underway : List Copy} {handed : Nat} : ChangesAt replica change system
      { system.atReplica replica change with underway, handed, applications } :=
  ⟨rfl, rfl, fun _ => Function.update_apply ..⟩

theorem changesAt_self : ChangesAt replica change system (system.atReplica replica change) :=
  changesAt_atReplica

variable (changes : ChangesAt replica change system next)

include changes

theorem Calm.changesAt (calm : Calm system entryId owner)
    (empty : owner ≠ replica → (system.replicas replica).desks entryId = {} →
      (change (system.replicas replica)).desks entryId = {})
    (fewer : owner ≠ replica → next.underway.countP (Copy.isOf entryId) ≤
      system.underway.countP (Copy.isOf entryId)) (tidy : owner = replica →
      TidyAt system.underway system.log (system.replicas replica) entryId →
      TidyAt next.underway system.log (change (system.replicas replica)) entryId) :
    Calm next entryId owner := by
  have isTidy := calm.tidy
  rw [alive_length] at isTidy
  constructor
  · intro other different
    have vacant := calm.others other different
    rw [changes.replicas]
    split
    next same =>
      subst same
      exact empty different.symm vacant
    · exact vacant
  · rw [alive_length, changes.log, changes.replicas]
    split
    next same =>
      subst same
      exact tidy rfl isTidy
    next other => exact isTidy.fewer (Nat.add_le_add_right (fewer other) _)

theorem Orderly.changesAt (ordered : Orderly start system) (more : system.handed ≤ next.handed)
    (below : ∀ copy ∈ next.underway, copy.number < next.handed) (copies : ∀ copy ∈ next.underway,
      copy ∈ system.underway ∨ copy.number = system.handed) (labelled : ∀ entryId,
      ((system.replicas replica).desks entryId).Labelled entryId (Known next entryId) →
      ((change (system.replicas replica)).desks entryId).Labelled entryId (Known next entryId))
    (calm : ∀ entryId owner, Calm system entryId owner →
      ∃ owner, Calm next entryId owner) : Orderly start next := by
  have known : ∀ {entryId number}, Known system entryId number →
      Known next entryId number := by
    intro entryId number known
    refine ⟨known.1.trans_le more, fun copy member isNumber => ?_⟩
    rcases copies copy member with old | new
    · exact known.2 copy old isNumber
    · have := known.1
      omega
  refine ⟨⟨below, fun other entryId => ?_, ?_⟩, fun entryId => ?_,
    fun given member unproposed => ?_⟩
  · have isLabelled := (ordered.numbered.desks other entryId).mono fun _ => known
    rw [changes.replicas]
    split
    next same =>
      subst same
      exact labelled entryId isLabelled
    · exact isLabelled
  · rw [changes.log]
    exact ordered.numbered.copies
  · obtain ⟨owner, isCalm⟩ := ordered.writes entryId
    exact calm entryId owner isCalm
  · rw [changes.answers] at member
    exact (ordered.answers given member unproposed).step more copies (.inl changes.log)

theorem Orderly.deskwise (ordered : Orderly start system)
    (underway : next.underway = system.underway) (handed : next.handed = system.handed)
    (empty : ∀ entryId, (system.replicas replica).desks entryId = {} →
      (change (system.replicas replica)).desks entryId = {}) (labelled : ∀ entryId {known},
      ((system.replicas replica).desks entryId).Labelled entryId known →
      ((change (system.replicas replica)).desks entryId).Labelled entryId known) (tidy : ∀ entryId,
      TidyAt system.underway system.log (system.replicas replica) entryId →
      TidyAt system.underway system.log (change (system.replicas replica))
        entryId) : Orderly start next := by
  refine ordered.changesAt changes handed.ge ?_ ?_ (fun entryId => labelled entryId)
    fun entryId owner calm => ⟨owner, calm.changesAt changes
      (fun _ => empty entryId) (fun _ => by rw [underway]) fun _ => ?_⟩
  · rw [underway, handed]
    exact ordered.numbered.below
  · rw [underway]
    exact fun _ => .inl
  · rw [underway]
    exact tidy entryId

end Change

variable {change : Desk → Desk}

theorem desk_atDesk (replica : Replica platform) (entryId entryId' : String) :
    (replica.atDesk entryId change).desks entryId' =
      if entryId' = entryId then change (replica.desks entryId) else replica.desks entryId' :=
  Function.update_apply ..

theorem Orderly.atDesk (ordered : Orderly start system) (replica : Nat)
    (entryId : String) (empty : change {} = {})
    (labelled : ∀ {desk known}, Desk.Labelled desk entryId known →
      (change desk).Labelled entryId known)
    (tidy : ∀ {desk copies settled}, Desk.Tidy desk copies settled →
      (change desk).Tidy copies settled) :
    Orderly start (system.atReplica replica (.atDesk entryId change)) := by
  refine ordered.deskwise changesAt_atReplica rfl rfl ?_ ?_ ?_
  · intro entryId' vacant
    rw [desk_atDesk]
    split
    next same => rw [← same, vacant, empty]
    · exact vacant
  · intro entryId' known isLabelled
    rw [desk_atDesk]
    split
    next same =>
      subst same
      exact labelled isLabelled
    · exact isLabelled
  · intro entryId' isTidy
    rw [TidyAt, desk_atDesk]
    split
    next same =>
      subst same
      exact tidy isTidy
    · exact isTidy

theorem Orderly.desks (ordered : Orderly start system) (replica : Nat) (empty : change {} = {})
    (labelled : ∀ {desk entryId known}, Desk.Labelled desk entryId known →
      (change desk).Labelled entryId known)
    (tidy : ∀ {desk copies settled}, Desk.Tidy desk copies settled →
      (change desk).Tidy copies settled) : Orderly start (system.atReplica replica fun replica =>
      { replica with desks := fun entryId => change (replica.desks entryId) }) := by
  refine ordered.deskwise changesAt_self rfl rfl ?_ ?_ ?_
  · intro entryId vacant
    exact (congrArg change vacant).trans empty
  · exact fun _ _ isLabelled => labelled isLabelled
  · exact fun _ isTidy => tidy isTidy

theorem Orderly.give (ordered : Orderly start system)
    (closed : answer.isUnproposed = true → ∀ applications, Closed start system
      { replica, entryId, answer, handed := system.handed, applications }) :
    Orderly start (system.give replica entryId answer) := by
  refine ⟨⟨ordered.numbered.below, ordered.numbered.desks,
    ordered.numbered.copies⟩, fun entryId => ?_, fun given member unproposed => ?_⟩
  · obtain ⟨owner, calm⟩ := ordered.writes entryId
    exact ⟨owner, calm.others, calm.tidy⟩
  have stays : ∀ {given}, Closed start system given →
      Closed start (system.give replica entryId answer) given := fun closed =>
    closed.step le_rfl (fun _ => .inl) (.inl rfl)
  rcases List.mem_append.mp member with member | member
  · exact stays (ordered.answers given member unproposed)
  · obtain rfl := List.mem_singleton.mp member
    exact stays (closed unproposed _)

variable {command : SqlCommand} {admission : Admission}

theorem answerAtOnce_fresh {replica : Replica platform}
    (atOnce : answerAtOnce replica command admission = some answer)
    (unproposed : answer.isUnproposed = true) :
    recordOf replica.partition command.entryId = none := by
  unfold answerAtOnce at atOnce
  split at atOnce
  · cases atOnce
    cases unproposed
  next fresh => exact fresh

theorem answerAtOnce_none {replica : Replica platform}
    (atOnce : answerAtOnce replica command admission = none) :
    recordOf replica.partition command.entryId = none := by
  unfold answerAtOnce at atOnce
  split at atOnce
  · cases atOnce
  next fresh => exact fresh

theorem start_tidy (replica : Replica platform) (command : SqlCommand)
    (idle : replica.desks command.entryId = {}) :
    ((replica.start command).desks command.entryId).Tidy 0 false := by
  have isDesk : (replica.start command).desks command.entryId = {
      attempt := some {
        serial := replica.serial
        command
        parked := replica.partition.isPartitionReserved
        handingOff := !replica.partition.isPartitionReserved }
      handoffs := if replica.partition.isPartitionReserved then []
        else [{
          serial := replica.serial
          command
          own := true
          awaited := none }] } := by
    simp [Replica.start, Replica.atDesk, idle]
  rw [isDesk]
  refine ⟨?_, fun _ _ _ => rfl, ?_, fun isSettled => by cases isSettled⟩
  · cases replica.partition.isPartitionReserved <;> exact le_of_eq rfl
  intro attempt is
  cases is
  exact fun _ => by simp

theorem Orderly.started (ordered : Orderly start system)
    (idle : Idle system replica command.entryId)
    (fresh : recordOf (system.replicas replica).partition command.entryId = none) :
    Orderly start (system.atReplica replica (.start command)) := by
  have elsewhere : ∀ entryId, entryId ≠ command.entryId →
      ((system.replicas replica).start command).desks entryId =
        (system.replicas replica).desks entryId := fun entryId different =>
    Function.update_of_ne different ..
  refine ordered.changesAt changesAt_atReplica le_rfl ordered.numbered.below (fun _ => .inl) ?_ ?_
  · intro entryId isLabelled
    by_cases same : entryId = command.entryId
    · subst same
      refine ⟨fun attempt is => ?_, fun handoff member => ?_⟩
      · simp only [Replica.start, Replica.atDesk, Function.update_self] at is
        cases is
        rfl
      simp only [Replica.start, Replica.atDesk, Function.update_self,
        idle.desks replica, List.nil_append] at member
      split at member
      · cases member
      · obtain rfl := List.mem_singleton.mp member
        exact ⟨rfl, fun _ awaited => by cases awaited⟩
    · rw [elsewhere entryId same]
      exact isLabelled
  · intro entryId owner calm
    by_cases same : entryId = command.entryId
    · subst same
      have isCalm : Calm system command.entryId replica := by
        refine ⟨fun other _ => idle.desks other, ?_⟩
        rw [idle.desks, idle.copies, fresh]
        exact .empty (Nat.zero_le _) fun _ => rfl
      have dead := alive_length system replica command.entryId
      rw [idle.copies] at dead
      refine ⟨replica, isCalm.changesAt changesAt_atReplica (absurd rfl ·)
        (absurd rfl ·) fun _ _ => ?_⟩
      change Desk.Tidy _ (system.underway.countP _ + pending system.log
        (system.replicas replica).applied _) (recordOf (system.replicas replica).partition _).isSome
      rw [← dead, fresh]
      exact start_tidy _ command (idle.desks replica)
    · refine ⟨owner, calm.changesAt changesAt_atReplica (fun _ vacant => ?_)
        (fun _ => le_rfl) fun _ isTidy => ?_⟩
      · rw [elsewhere entryId same, vacant]
      · rw [TidyAt, elsewhere entryId same]
        exact isTidy

theorem Orderly.request (sound : Sound start system) (ordered : Orderly start system)
    (allowed : orderly system (.request replica command admission)) :
    Orderly start (system.request replica command admission) := by
  unfold System.request
  dsimp only
  split
  · exact ordered
  next refused =>
  have vacant : ((system.replicas replica).desks command.entryId).attempt =
      none := by
    simp only [Bool.or_eq_true, not_or, Option.not_isSome_iff_eq_none] at refused
    exact refused.1
  split
  next answer atOnce =>
    refine ordered.give fun unproposed _ => ?_
    have fresh := answerAtOnce_fresh atOnce unproposed
    exact .of_idle sound (allowed vacant fresh).copies fresh
  next atOnce =>
    have fresh := answerAtOnce_none atOnce
    exact ordered.started (allowed vacant fresh) fresh

theorem Orderly.finish (sound : Sound start system) (ordered : Orderly start system)
    (finished : system.finish replica entryId = some next) : Orderly start next := by
  unfold System.finish at finished
  obtain ⟨attempt, isAttempt, finished⟩ := Option.bind_eq_some_iff.mp finished
  obtain ⟨answer, answered, finished⟩ := Option.bind_eq_some_iff.mp finished
  cases finished
  have cleared : Orderly start (system.atReplica replica
      (.atDesk entryId fun desk => { desk with attempt := none })) :=
    ordered.atDesk replica entryId rfl
      (fun labelled => ⟨fun _ is => (by cases is), labelled.handoffs⟩)
      Desk.Tidy.finish
  refine cleared.give fun unproposed applications => ?_
  obtain ⟨owner, calm⟩ := ordered.writes entryId
  obtain rfl : replica = owner := by
    by_contra different
    rw [calm.others replica different] at isAttempt
    cases isAttempt
  have isUnproposed := Attempt.unproposed_of_answered answered unproposed
  have dead := List.length_eq_zero_iff.mp (calm.tidy.unproposed attempt isAttempt isUnproposed)
  have fresh : recordOf (system.replicas replica).partition entryId = none := by
    by_contra settled
    have isSome := Option.isSome_iff_ne_none.mpr settled
    exact ((calm.tidy.ended isSome).2.2 attempt isAttempt).2 isUnproposed
  exact (Closed.of_idle sound dead fresh).step le_rfl (fun _ => .inl) (.inl rfl)

theorem Orderly.handoff (ordered : Orderly start system) {underway : List Copy}
    {handed : Nat} (held : (system.replicas replica).desks entryId ≠ {})
    (more : system.handed ≤ handed) (below : ∀ copy ∈ underway, copy.number < handed)
    (copies : ∀ copy ∈ underway, copy ∈ system.underway ∨
      copy.number = system.handed ∧ copy.command.entryId = entryId)
    (labelled : ∀ {known : Nat → Prop}, (∀ number, number < handed →
        (∀ copy ∈ underway, copy.number = number → copy.command.entryId = entryId) → known number) →
      ((system.replicas replica).desks entryId).Labelled entryId known →
      (change ((system.replicas replica).desks entryId)).Labelled entryId known)
    (elsewhere : ∀ other, other ≠ entryId → underway.countP (Copy.isOf other) ≤
        system.underway.countP (Copy.isOf other))
    (tidy : ∀ {logged settled}, ((system.replicas replica).desks entryId).Tidy
        (system.underway.countP (Copy.isOf entryId) + logged) settled →
      (change ((system.replicas replica).desks entryId)).Tidy
        (underway.countP (Copy.isOf entryId) + logged) settled) :
    Orderly start { system.atReplica replica (.atDesk entryId change) with
      underway, handed } := by
  refine ordered.changesAt changesAt_atReplica more below
    (fun copy member => (copies copy member).imp id And.left) ?_ ?_
  · intro entryId' isLabelled
    rw [desk_atDesk]
    split
    next same =>
      subst same
      exact labelled (fun number lt isOf => ⟨lt, isOf⟩) isLabelled
    · exact isLabelled
  · intro entryId' owner calm
    refine ⟨owner, calm.changesAt changesAt_atReplica ?_ ?_ ?_⟩
    · intro _ vacant
      rw [desk_atDesk]
      split
      next same =>
        subst same
        exact absurd vacant held
      · exact vacant
    · intro different
      by_cases same : entryId' = entryId
      · subst same
        exact absurd (calm.others replica different.symm) held
      · exact elsewhere entryId' same
    intro _ isTidy
    rw [TidyAt, desk_atDesk]
    split
    next same =>
      subst same
      exact tidy isTidy
    next different => exact isTidy.fewer (Nat.add_le_add_right (elsewhere entryId' different) _)

variable {desk : Desk} {position : Nat}

theorem held_of_handoff {handoff : Handoff}
    (found : desk.handoffs[position]? = some handoff) : desk ≠ {} := by
  rintro rfl
  cases found

section

variable (ordered : Orderly start system)

include ordered

theorem Orderly.propose (proposed : system.propose replica entryId position = some next) :
    Orderly start next := by
  unfold System.propose at proposed
  obtain ⟨handoff, found, proposed⟩ := Option.bind_eq_some_iff.mp proposed
  have command := ((ordered.numbered.desks replica entryId).handoffs handoff
    (List.mem_of_getElem? found)).1
  split at proposed
  · cases proposed
  next notAwaited =>
  have ready : handoff.awaited = none := by simpa using notAwaited
  split at proposed
  next pending =>
    cases proposed
    refine ordered.handoff (held_of_handoff found) (Nat.le_succ _) ?_ ?_ ?_ ?_ ?_
    · intro copy member
      rcases List.mem_append.mp member with member | member
      · exact Nat.lt_succ_of_lt (ordered.numbered.below copy member)
      · obtain rfl := List.mem_singleton.mp member
        exact Nat.lt_succ_self _
    · intro copy member
      rcases List.mem_append.mp member with member | member
      · exact .inl member
      · obtain rfl := List.mem_singleton.mp member
        exact .inr ⟨rfl, command⟩
    · intro known isKnown labelled
      refine (labelled.markProposal _).setHandoff position command ?_
      intro number awaited
      cases awaited
      refine isKnown _ (Nat.lt_succ_self _) fun copy member isNumber => ?_
      rcases List.mem_append.mp member with member | member
      · have := ordered.numbered.below copy member
        omega
      · obtain rfl := List.mem_singleton.mp member
        exact command
    · intro other different
      rw [List.countP_append, List.countP_singleton]
      simp [Copy.isOf, command, Ne.symm different]
    intro logged settled tidy
    have counted : (system.underway ++ [({
        number := system.handed
        replica
        command := handoff.command } : Copy)]).countP (Copy.isOf entryId) + logged =
          system.underway.countP (Copy.isOf entryId) + logged + 1 := by
      rw [List.countP_append, List.countP_singleton]
      simp only [Copy.isOf, command, decide_true, if_true]
      omega
    rw [counted]
    exact tidy.propose found ready pending
  · cases proposed
    refine ordered.handoff (held_of_handoff found) le_rfl
      ordered.numbered.below (fun _ => .inl) ?_ (fun _ _ => le_rfl) ?_
    · intro known _ labelled
      exact (labelled.ofHandoff handoff (by intro _; rfl)).endHandoff _ _
    intro logged settled tidy
    have unmade : Desk.Tidy (((system.replicas replica).desks
        entryId).ofHandoff handoff fun attempt =>
          { attempt with proposal := .notMade }) _ settled :=
      tidy.ofHandoff handoff (by intro _; rfl) (by intro _; rfl)
        (by intro _ is; cases is)
    exact unmade.endHandoff found

theorem Orderly.portAnswers {result : PortResult}
    (answered : system.portAnswers replica entryId position result = some next) :
    Orderly start next := by
  unfold System.portAnswers at answered
  obtain ⟨handoff, found, answered⟩ := Option.bind_eq_some_iff.mp answered
  obtain ⟨number, awaited, answered⟩ := Option.bind_eq_some_iff.mp answered
  dsimp only at answered
  split at answered
  next nothing =>
    split at answered
    next isUnderway =>
      cases answered
      obtain ⟨lost, isLost, isNumber⟩ := List.any_eq_true.mp isUnderway
      have isNumber : lost.number = number := by simpa using isNumber
      have isOf : ∀ copy ∈ system.underway, copy.number = number →
          copy.command.entryId = entryId :=
        (((ordered.numbered.desks replica entryId).handoffs handoff
          (List.mem_of_getElem? found)).2 number awaited).2
      refine ordered.handoff (held_of_handoff found) le_rfl ?_ ?_ ?_ ?_ ?_
      · exact fun copy member => ordered.numbered.below copy (List.mem_of_mem_filter member)
      · exact fun copy member => .inl (List.mem_of_mem_filter member)
      · exact fun _ labelled => labelled.portAnswers found result
      · exact fun _ _ => countP_filter_le _ _ _
      intro logged settled tidy
      have fewer : (system.underway.filter fun copy =>
          copy.number ≠ number).countP (Copy.isOf entryId) <
            system.underway.countP (Copy.isOf entryId) :=
        countP_filter_lt isLost
          (by simpa [Copy.isOf] using isOf lost isLost isNumber)
          (by simpa using isNumber)
      have single := tidy.single
      have one : system.underway.countP (Copy.isOf entryId) + logged = 1 := by omega
      have none : (system.underway.filter fun copy =>
          copy.number ≠ number).countP (Copy.isOf entryId) + logged = 0 := by
        omega
      rw [one] at tidy
      rw [none]
      exact tidy.portAnswers_nothing found nothing
    · cases answered
  next entered =>
    cases answered
    refine ordered.handoff (held_of_handoff found) le_rfl
      ordered.numbered.below (fun _ => .inl) ?_ (fun _ _ => le_rfl) ?_
    · exact fun _ labelled => labelled.portAnswers found result
    · exact fun tidy => tidy.portAnswers_entered found (by simpa using entered)

theorem Orderly.consensus (underway : List Copy) (later : List Entry)
    (copies : ∀ copy ∈ underway, copy ∈ system.underway)
    (log : later = [] ∨ ∃ entry, later = [entry] ∧
      (∀ copy, entry.copy = some copy → copy ∈ system.underway) ∧
      entry.sqlCommand = entry.copy.map Copy.command)
    (counted : ∀ entryId, underway.countP (Copy.isOf entryId) +
        (later.filterMap Entry.copy).countP (Copy.isOf entryId) ≤
      system.underway.countP (Copy.isOf entryId)) :
    Orderly start { system with underway, log := system.log ++ later } := by
  refine ⟨⟨fun copy member => ordered.numbered.below copy (copies copy member),
      fun other entryId => ?_, fun entry member => ?_⟩,
    fun entryId => ?_, fun given member unproposed =>
      (ordered.answers given member unproposed).step le_rfl
        (fun copy member => .inl (copies copy member)) ?_⟩
  · exact (ordered.numbered.desks other entryId).mono fun _ known =>
      ⟨known.1, fun copy member => known.2 copy (copies copy member)⟩
  · rcases List.mem_append.mp member with member | member
    · exact ordered.numbered.copies entry member
    rcases log with rfl | ⟨_, rfl, _, isSql⟩
    · cases member
    · obtain rfl := List.mem_singleton.mp member
      exact isSql
  · obtain ⟨owner, calm⟩ := ordered.writes entryId
    refine ⟨owner, calm.others, calm.tidy.fewer ?_⟩
    simp only [alive_length, pending, List.drop_append, List.filterMap_append, List.countP_append]
    have dropped : ((later.drop ((system.replicas owner).applied -
        system.log.length)).filterMap Entry.copy).countP (Copy.isOf entryId) ≤
          (later.filterMap Entry.copy).countP (Copy.isOf entryId) :=
      ((List.drop_sublist _ _).filterMap _).countP_le
    have := counted entryId
    omega
  · rcases log with rfl | ⟨entry, rfl, isUnderway, _⟩
    · exact .inl (List.append_nil _)
    · exact .inr ⟨entry, rfl, isUnderway⟩

variable {copy : Copy} {term : Nat}

theorem Orderly.commit {crowded : Bool} (committed : system.commit copy term crowded = some next) :
    Orderly start next := by
  obtain ⟨member, isNext⟩ := Option.ite_none_right_eq_some.mp committed
  cases isNext
  refine ordered.consensus _ [_] (fun _ => List.mem_of_mem_filter)
    (.inr ⟨_, rfl, fun _ is => ?_, rfl⟩) fun entryId => ?_
  · cases is
    exact member
  simp only [List.filterMap_cons, List.filterMap_nil, List.countP_singleton]
  split
  next isOf => exact countP_filter_lt member isOf (by simp)
  · exact countP_filter_le _ _ _

theorem Orderly.commitCommand {command : Command}
    (committed : system.commitCommand command term = some next) : Orderly start next := by
  have logged : ∀ entry : Entry, entry.copy = none → entry.sqlCommand = none →
      Orderly start { system with log := system.log ++ [entry] } := by
    intro entry noCopy noSql
    refine ordered.consensus _ [entry] (fun _ => id)
      (.inr ⟨entry, rfl, fun _ is => ?_, ?_⟩) fun entryId => ?_
    · rw [noCopy] at is
      cases is
    · rw [noCopy, noSql]
      rfl
    · simp [noCopy]
  cases command with
  | sql => cases committed
  | _ =>
    cases committed
    exact logged _ rfl rfl

theorem Orderly.discard (copy : Copy) : Orderly start { system with
      underway := system.underway.filter (· ≠ copy) } := by
  have lost := ordered.consensus (system.underway.filter (· ≠ copy)) []
    (fun _ => List.mem_of_mem_filter) (.inl rfl)
    (fun _ => countP_filter_le _ _ _)
  rwa [List.append_nil] at lost

end

variable {logged : Logged platform} {state : PartitionState platform} {host : platform.Host}
  {entry : Entry}

theorem applyLogged_elsewhere (ok : applyLogged host state entry = .ok logged)
    (other : ∀ command, entry.sqlCommand = some command → command.entryId ≠ entryId) :
    recordOf logged.state entryId = recordOf state entryId := by
  cases isSql : entry.sqlCommand with
  | none => exact (applyLogged_other isSql ok).1 entryId
  | some command =>
    have different := (other command isSql).symm
    cases applyLogged_statement isSql ok with
    | failed => exact AList.lookup_insert_ne fun same => different (entryKey_injective same)
    | applied _ _ _ _ _ outcomes =>
      rw [recordOf, outcomes]
      exact AList.lookup_insert_ne fun same => different (entryKey_injective same)
    | _ => rfl

theorem atDesk_empty (answer : LoggedAnswer) : answer.atDesk {} = {} := by
  unfold LoggedAnswer.atDesk
  split <;> rfl

theorem atDesk_labelled (answer : LoggedAnswer) {known : Nat → Prop}
    (labelled : desk.Labelled entryId known) : (answer.atDesk desk).Labelled entryId known := by
  unfold LoggedAnswer.atDesk
  split
  · exact labelled.resolve _
  · exact labelled.resolve _
  · exact labelled.resolve _
  · exact labelled.reparkReservedWrite
  · exact labelled.resolve _
  · exact labelled

theorem StatementLogged.tidy (isLogged : StatementLogged state command logged)
    (tidy : desk.Tidy 1 (recordOf state command.entryId).isSome) :
    (logged.answer.atDesk desk).Tidy 0 (recordOf logged.state command.entryId).isSome := by
  cases isLogged with
  | recordedOnly => exact tidy.fewer (Nat.zero_le _)
  | settled => exact tidy.resolve _ _
  | reserved => exact tidy.reparkReservedWrite
  | capacity => exact tidy.resolve _ _
  | failed => exact tidy.resolve _ _
  | applied => exact tidy.resolve _ _

theorem afterCommit_desk (replica : Replica platform) (entry : Entry)
    (logged : Logged platform) (entryId : String) :
    (∃ command, entry.sqlCommand = some command ∧ command.entryId = entryId ∧
      (replica.afterCommit entry logged).desks entryId =
        logged.answer.atDesk (replica.desks entryId)) ∨
    (∀ command, entry.sqlCommand = some command → command.entryId ≠ entryId) ∧
      ((replica.afterCommit entry logged).desks entryId = replica.desks entryId ∨
        (replica.afterCommit entry logged).desks entryId =
          (replica.desks entryId).readmitReservedWrites) := by
  unfold Replica.afterCommit
  dsimp only
  cases isSql : entry.sqlCommand with
  | some command =>
    by_cases same : command.entryId = entryId
    · left
      subst same
      exact ⟨command, rfl, rfl, by simp [Replica.atDesk]⟩
    right
    refine ⟨fun other is => ?_, .inl ?_⟩
    · cases is
      exact same
    · simp [Replica.atDesk, Ne.symm same]
  | none =>
    right
    refine ⟨fun _ is => (by cases is), ?_⟩
    dsimp only
    split
    · exact .inr rfl
    · exact .inl rfl

theorem Orderly.applied (ordered : Orderly start system) (replica : Nat) (host : platform.Host)
    (isEntry : system.log[(system.replicas replica).applied]? = some entry)
    (ok : applyLogged host (system.replicas replica).partition entry = .ok logged)
    (applications : List Application) :
    Orderly start { system.atReplica replica (.afterCommit entry logged) with
      applications } := by
  have isCopy := ordered.numbered.copies entry (List.mem_of_getElem? isEntry)
  refine ordered.deskwise changesAt_atReplica rfl rfl ?_ ?_ ?_
  · intro entryId vacant
    rcases afterCommit_desk (system.replicas replica) entry logged entryId with
      ⟨_, _, _, isDesk⟩ | ⟨_, isDesk | isDesk⟩
    · rw [isDesk, vacant, atDesk_empty]
    · rw [isDesk, vacant]
    · rw [isDesk, vacant]
      rfl
  · intro entryId known labelled
    rcases afterCommit_desk (system.replicas replica) entry logged entryId with
      ⟨_, _, _, isDesk⟩ | ⟨_, isDesk | isDesk⟩
    · rw [isDesk]
      exact atDesk_labelled _ labelled
    · rw [isDesk]
      exact labelled
    · rw [isDesk]
      exact labelled.readmitReservedWrites
  · intro entryId tidy
    obtain ⟨lt, isHead⟩ := List.getElem?_eq_some_iff.mp isEntry
    rw [TidyAt, pending, List.drop_eq_getElem_cons lt, isHead] at tidy
    rw [TidyAt, afterCommit_applied, afterCommit_partition]
    rcases afterCommit_desk (system.replicas replica) entry logged entryId with
      ⟨command, isSql, isOf, isDesk⟩ | ⟨other, isDesk⟩
    · subst isOf
      rw [isSql] at isCopy
      obtain ⟨copy, hasCopy, rfl⟩ := Option.map_eq_some_iff.mp isCopy.symm
      rw [List.filterMap_cons_some hasCopy, List.countP_cons,
        if_pos (by simp [Copy.isOf]), ← pending] at tidy
      have single := tidy.single
      have one : system.underway.countP (Copy.isOf copy.command.entryId) +
          (pending system.log ((system.replicas replica).applied + 1)
            copy.command.entryId + 1) = 1 := by
        omega
      have none : system.underway.countP (Copy.isOf copy.command.entryId) +
          pending system.log ((system.replicas replica).applied + 1) copy.command.entryId = 0 := by
        omega
      rw [one] at tidy
      rw [none, isDesk]
      exact (applyLogged_statement isSql ok).tidy tidy
    · have passed : ((entry :: system.log.drop
          ((system.replicas replica).applied + 1)).filterMap Entry.copy).countP
            (Copy.isOf entryId) =
          pending system.log ((system.replicas replica).applied + 1) entryId := by
        cases hasCopy : entry.copy with
        | none => rw [List.filterMap_cons_none hasCopy, pending]
        | some copy =>
          rw [hasCopy] at isCopy
          rw [List.filterMap_cons_some hasCopy, List.countP_cons, if_neg]
          · rfl
          · simpa [Copy.isOf] using other copy.command isCopy
      rw [passed] at tidy
      rw [applyLogged_elsewhere ok other]
      rcases isDesk with isDesk | isDesk
      · rw [isDesk]
        exact tidy
      · rw [isDesk]
        exact tidy.readmitReservedWrites

theorem Orderly.apply (ordered : Orderly start system)
    (applied : system.apply replica host = some next) : Orderly start next := by
  unfold System.apply at applied
  obtain ⟨entry, isEntry, applied⟩ := Option.bind_eq_some_iff.mp applied
  split at applied
  · cases applied
    cases isSql : entry.sqlCommand with
    | some command =>
      have isChange : (Replica.afterRollback entry :
          Replica platform → Replica platform) =
            .atDesk command.entryId (.reject .application) := by
        funext replica
        simp [Replica.afterRollback, isSql]
      rw [isChange]
      exact ordered.atDesk replica command.entryId rfl
        (fun labelled => labelled.reject _)
        (fun tidy => tidy.reject fun _ _ => Rejection.noConfusion)
    | none =>
      have isChange : (Replica.afterRollback entry :
          Replica platform → Replica platform) = fun replica =>
            { replica with desks := fun entryId => id (replica.desks entryId) } := by
        funext replica
        simp [Replica.afterRollback, isSql]
      rw [isChange]
      exact ordered.desks replica rfl id id
  next logged ok =>
    cases applied
    exact ordered.applied replica host isEntry ok _

theorem Orderly.fresh (partitionId : String) (table : platform.Table) :
    Orderly (.fresh partitionId table) (System.fresh partitionId table) where
  numbered := ⟨fun _ member => (by cases member), fun _ _ => .empty,
    fun _ member => (by cases member)⟩
  writes _ := ⟨0, fun _ _ => rfl, .empty (Nat.zero_le _) fun _ => rfl⟩
  answers _ member := by cases member

theorem Orderly.step (sound : Sound start system) (ordered : Orderly start system) (allowed : orderly system event)
    (stepped : system.step event = some next) : Orderly start next := by
  cases event with
  | request replica command admission =>
    cases stepped
    exact ordered.request sound allowed
  | propose replica entryId handoff => exact ordered.propose stepped
  | portAnswers replica entryId handoff result => exact ordered.portAnswers stepped
  | commit copy term crowded => exact ordered.commit stepped
  | commitCommand command term => exact ordered.commitCommand stepped
  | discard copy =>
    cases stepped
    exact ordered.discard copy
  | apply replica host => exact ordered.apply stepped
  | deadline replica entryId =>
    cases stepped
    exact ordered.atDesk replica entryId rfl
      (fun labelled => labelled.releaseEntry _) (fun tidy => tidy.releaseEntry _)
  | release replica cause =>
    cases stepped
    exact ordered.desks replica rfl (fun labelled => labelled.releaseEntry cause)
      (fun tidy => tidy.releaseEntry cause)
  | finish replica entryId => exact ordered.finish sound stepped
  | restart replica =>
    cases stepped
    refine ordered.desks replica rfl (fun _ => .empty) fun tidy => ?_
    have single := tidy.single
    exact .empty (by omega) fun isSettled => (tidy.ended isSettled).1

/-- A statement takes effect at one place of the log, and there once on each
replica. -/
def AtMostOnce (system : System platform) : Prop :=
  ∀ (entryId : String) (first second : Nat) (one other : Application),
    system.applications[first]? = some one →
    system.applications[second]? = some other →
    one.effect = true → other.effect = true →
    one.entry.isOf entryId → other.entry.isOf entryId →
    one.index = other.index ∧ (one.replica = other.replica → first = second)

def SuccessTrue (system : System platform) : Prop :=
  ∀ given ∈ system.answers, given.answer = .settled .applied →
    TookEffect system given.replica given.entryId

def FailureTrue (system : System platform) : Prop :=
  ∀ given ∈ system.answers, given.answer = .settled .statementFailed →
    ∀ application ∈ system.applications, application.entry.isOf given.entryId →
      application.effect = false

/-- No copy that the replica handed over before it answered that the write was
not proposed is applied with effect after the answer. -/
def UnproposedTrue (system : System platform) : Prop :=
  ∀ given ∈ system.answers, given.answer.isUnproposed = true →
    ∀ (position : Nat) (application : Application) (copy : Copy), given.applications ≤ position →
      system.applications[position]? = some application →
      application.entry.copy = some copy → copy.replica = given.replica →
      copy.command.entryId = given.entryId → copy.number < given.handed →
      application.effect = false

theorem Sound.atMostOnce (uniform : platform.Uniform)
    (sound : Sound start system) : AtMostOnce system := by
  intro entryId first second one other isFirst isSecond oneEffect otherEffect oneOf
    otherOf
  have sameIndex := sound.effect_index uniform (List.mem_of_getElem? isFirst)
    (List.mem_of_getElem? isSecond) oneEffect otherEffect oneOf otherOf
  refine ⟨sameIndex, fun sameReplica => ?_⟩
  have mapped : ∀ {position : Nat} {application : Application},
      system.applications[position]? = some application →
      (system.applications.map fun application =>
        (application.replica, application.index))[position]? =
          some (application.replica, application.index) := by
    intro position application is
    rw [List.getElem?_map, is]
    rfl
  obtain ⟨lt, isOne⟩ := List.getElem?_eq_some_iff.mp (mapped isFirst)
  obtain ⟨lt', isOther⟩ := List.getElem?_eq_some_iff.mp (mapped isSecond)
  refine (List.Nodup.getElem_inj_iff sound.once).mp (?_ : _[first] = _[second])
  rw [isOne, isOther, sameIndex, sameReplica]

theorem Closed.no_effect (uniform : platform.Uniform) (sound : Sound start system)
    (ordered : Orderly start system) (closed : Closed start system given)
    (member : application ∈ system.applications) (hasCopy : application.entry.copy = some copy)
    (isOf : copy.command.entryId = given.entryId) (earlier : copy.number < given.handed) :
    application.effect = false := by
  by_contra effect
  have recorded := sound.recorded application member
  obtain ⟨_, _, _, _, isEntry, _⟩ := recorded
  have isSql := ordered.numbered.copies _ (List.mem_of_getElem? isEntry)
  rw [hasCopy] at isSql
  obtain ⟨index, state, reaches, fresh, before⟩ := closed.logged
  obtain ⟨_, state', row, reaches', known, _⟩ :=
    (sound.recorded application member).settles (by simpa using effect)
      ⟨copy.command, isSql, isOf⟩
  have kept := reaches'.keeps uniform reaches (before _ _ copy isEntry hasCopy isOf earlier) known
  rw [fresh] at kept
  cases kept

/-- In every run: a statement takes effect at most once; an answer of success is
given where it did, and one of a failed statement where it never does.  Where
each write comes after every earlier attempt at it, the answer that a write was
not proposed is true of every copy handed over before. -/
theorem answers_true (uniform : platform.Uniform) (partitionId : String)
    (table : platform.Table) {events : List (Event platform)} {final : System platform}
    (ran : events.foldlM System.step (System.fresh partitionId table) =
      some final) : AtMostOnce final ∧ SuccessTrue final ∧ FailureTrue final ∧
      (Allowed System.step orderly (System.fresh partitionId table) events →
        UnproposedTrue final) := by
  have always : Allowed System.step (fun _ _ => True) (System.fresh partitionId table) events :=
    allowed_of_forall fun _ _ _ => trivial
  have sound : Sound (.fresh partitionId table) final :=
    run_invariant (fun sound _ stepped => sound.step stepped)
      (Sound.fresh partitionId table) always ran
  refine ⟨sound.atMostOnce uniform, ?_, ?_, ?_⟩
  · intro given member is
    exact sound.answers given member _ is
  · intro given member is application applied isOf
    exact sound.failed_no_effect uniform (sound.answers given member _ is) applied
      isOf
  intro allowed
  have preserves : ∀ {state event next},
      (Sound (.fresh partitionId table) state ∧ Orderly (.fresh partitionId table) state) →
      orderly state event → System.step state event = some next →
      Sound (.fresh partitionId table) next ∧ Orderly (.fresh partitionId table) next :=
    fun both allowed stepped => ⟨both.1.step stepped, both.2.step both.1 allowed stepped⟩
  have both := run_invariant preserves
    ⟨Sound.fresh partitionId table, Orderly.fresh partitionId table⟩ allowed ran
  intro given member unproposed position application copy _ isApplication hasCopy _ isOf earlier
  exact (both.2.answers given member unproposed).no_effect uniform sound both.2
    (List.mem_of_getElem? isApplication) hasCopy isOf earlier

end

namespace Sample

open Participant.Sample

def write : SqlCommand :=
  { type := .insert, entryId := "w", sql := "INSERT INTO k VALUES (2)", params := [] }

def admitted : Admission :=
  { paused := false, mayPropose := true, crowded := false, full := false }

def copy (number : Nat) : Copy := { number, replica := 0, command := write }

def refusedOnce : List (Event sqlLog) :=
  [.request 0 write admitted, .propose 0 "w" 0, .portAnswers 0 "w" 0 .coreRefused, .finish 0 "w"]

def handOver : List (Event sqlLog) :=
  [.request 0 write admitted, .propose 0 "w" 0, .portAnswers 0 "w" 0 .accepted]

/-- The first copy meets a reservation and is parked; its deadline passes; then
the decision and the second copy are applied. -/
def triedAgain : List (Event sqlLog) :=
  handOver ++ [.deadline 0 "w", .finish 0 "w"] ++ handOver ++
    [.commitCommand origin.command 1, .commitCommand prepare.command 1,
      .commit (copy 0) 1 false, .commitCommand (commit 1).command 1,
      .commit (copy 1) 1 false,
      .apply 0 (), .apply 0 (), .apply 0 (),
      .deadline 0 "w", .finish 0 "w", .apply 0 (), .apply 0 ()]

/-- The same write, refused at once by the pause of a cutover. -/
def pausedAgain : List (Event sqlLog) :=
  handOver ++ [.deadline 0 "w", .finish 0 "w",
    .request 0 write { admitted with paused := true },
    .commit (copy 0) 1 false, .apply 0 ()]

theorem uniform : sqlLog.Uniform := fun _ _ _ _ => .refl _

theorem refuted {system : System sqlLog} (given : Answered) (position : Nat)
    (copy : Copy) (member : given ∈ system.answers) (unproposed : given.answer.isUnproposed = true)
    (applied : (system.applications[position]?).map
      (fun application => (application.effect, application.entry.copy)) = some (true, some copy))
    (later : given.applications ≤ position) (replica : copy.replica = given.replica)
    (isOf : copy.command.entryId = given.entryId)
    (earlier : copy.number < given.handed) : ¬ UnproposedTrue system := by
  intro isTrue
  obtain ⟨application, is, equal⟩ := Option.map_eq_some_iff.mp applied
  obtain ⟨effect, hasCopy⟩ := Prod.mk.inj equal
  rw [isTrue given member unproposed position application copy later is hasCopy
    replica isOf earlier] at effect
  cases effect

/-- The answers say that the write was not proposed, and a copy handed over
before them takes effect after them. -/
theorem triedAgain_unproposed_false : sqlLog.Uniform ∧
    (∃ final, triedAgain.foldlM System.step (System.fresh "p" []) = some final ∧
      ¬ UnproposedTrue final) ∧
    (∃ final, pausedAgain.foldlM System.step (System.fresh "p" []) = some final ∧
      ¬ UnproposedTrue final) := by
  refine ⟨uniform, ⟨_, rfl, ?_⟩, ⟨_, rfl, ?_⟩⟩
  · exact refuted
      { replica := 0, entryId := "w", answer := .released .commitDeadlineExceeded,
        handed := 2, applications := 3 } 4 (copy 1)
      (by decide) rfl (by decide) (by decide) rfl rfl (by decide)
  · exact refuted
      { replica := 0, entryId := "w", answer := .cutoverPaused, handed := 1,
        applications := 0 } 0 (copy 0)
      (by decide) rfl (by decide) (by decide) rfl rfl (by decide)

/-- The write is made again after its first attempt is over, meets a reservation, and
its next copy takes effect after the decision. -/
def retried : List (Event sqlLog) :=
  refusedOnce ++ (handOver ++
    [.commitCommand origin.command 1, .commitCommand prepare.command 1,
      .commit (copy 1) 1 false, .commitCommand (commit 1).command 1,
      .apply 0 (), .apply 0 (), .apply 0 (), .apply 0 (),
      .propose 0 "w" 0, .portAnswers 0 "w" 0 .accepted,
      .commit (copy 2) 1 false, .apply 0 (), .finish 0 "w"])

theorem refusedOnce_allowed : Allowed System.step orderly (System.fresh "p" []) refusedOnce := by
  refine ⟨fun _ _ => ⟨fun _ => rfl, rfl⟩, fun _ _ => allowed_of_forall ?_⟩
  simp [orderly]

theorem refusedOnce_idle (final : System sqlLog)
    (ran : refusedOnce.foldlM System.step (System.fresh "p" []) = some final) :
    Idle final 0 "w" := by
  obtain rfl := Option.some.inj ((rfl : _ = some _).symm.trans ran)
  exact ⟨fun other => by cases other <;> rfl, rfl⟩

theorem retried_allowed : Allowed System.step orderly (System.fresh "p" []) retried := by
  refine refusedOnce_allowed.append fun final ran => ?_
  exact ⟨fun _ _ => refusedOnce_idle final ran, fun _ _ => allowed_of_forall (by simp [orderly])⟩

theorem answers_true_retried :
    ∃ final, retried.foldlM System.step (System.fresh "p" []) = some final ∧
      final.answers.map (·.answer.isUnproposed) = [true, false] ∧
      final.applications.map Application.effect = [false, false, false, false, true] ∧
      AtMostOnce final ∧ SuccessTrue final ∧ FailureTrue final ∧ UnproposedTrue final := by
  obtain ⟨final, ran⟩ := Option.isSome_iff_exists.mp (by decide +kernel :
    (retried.foldlM System.step (System.fresh "p" [])).isSome = true)
  have shown : ((retried.foldlM System.step (System.fresh "p" [])).map fun final =>
      (final.answers.map (·.answer.isUnproposed), final.applications.map Application.effect)) =
      some ([true, false], [false, false, false, false, true]) := by decide +kernel
  rw [ran] at shown
  obtain ⟨answers, applied⟩ := Prod.mk.inj (Option.some.inj shown)
  obtain ⟨once, success, failure, unproposed⟩ := answers_true uniform "p" [] ran
  exact ⟨final, ran, answers, applied, once, success, failure, unproposed retried_allowed⟩

end Sample

end LagrangeDb.Write
