import LagrangeDb.Write.Log

namespace LagrangeDb.Write

open Data Participant

theorem unansweredWriteResult_unsettled (proposal : WriteProposal)
    (rejection : Rejection) (verdict : Verdict) :
    unansweredWriteResult proposal rejection ≠ .settled verdict := by
  intro is
  cases proposal with
  | refused result => cases result <;> cases is
  | accepted =>
    cases rejection with
    | released cause mark => cases mark <;> cases is
    | _ => cases is
  | notMade =>
    cases rejection with
    | released cause mark => cases mark <;> cases is
    | _ => cases is

namespace Attempt

def verdict (attempt : Attempt) : Option Verdict :=
  match attempt.response with
  | .resolved verdict => some verdict
  | _ => none

@[simp] theorem verdict_markProposal (mark : Mark) (attempt : Attempt) :
    (attempt.markProposal mark).verdict = attempt.verdict := by
  unfold markProposal verdict
  cases isResponse : attempt.response <;> simp [isResponse]

@[simp] theorem verdict_respond_rejected (rejection : Rejection) (attempt : Attempt) :
    (attempt.respond (.rejected rejection)).verdict = attempt.verdict := by
  unfold respond verdict
  cases isResponse : attempt.response <;> simp [isResponse]

@[simp] theorem verdict_releaseEntry (cause : ReleaseCause) (attempt : Attempt) :
    (attempt.releaseEntry cause).verdict = attempt.verdict := by
  unfold releaseEntry verdict
  cases isResponse : attempt.response <;> simp [isResponse]

theorem verdict_respond_resolved (answer : Verdict) (attempt : Attempt) :
    (attempt.respond (.resolved answer)).verdict = attempt.verdict ∨
      (attempt.respond (.resolved answer)).verdict = some answer := by
  unfold respond
  split
  · exact .inr rfl
  · exact .inl rfl

theorem answered_verdict {attempt : Attempt} {verdict : Verdict}
    (given : attempt.answered = some (.settled verdict)) : attempt.verdict = some verdict := by
  unfold answered at given
  split at given
  · cases given
  split at given
  · cases given
  unfold Attempt.verdict
  cases isResponse : attempt.response with
  | pending mark => simp [isResponse] at given
  | resolved verdict => simpa [isResponse] using given
  | rejected rejection =>
    simp only [isResponse, Option.some.injEq] at given
    split at given
    · cases given
    · exact absurd given (unansweredWriteResult_unsettled _ _ _)

end Attempt

namespace Desk

def verdict (desk : Desk) : Option Verdict := desk.attempt.bind Attempt.verdict

theorem verdict_update
    (same : ∀ attempt, (change attempt).verdict = attempt.verdict) (desk : Desk) :
    (desk.update change).verdict = desk.verdict := by
  unfold verdict update
  cases desk.attempt with
  | none => rfl
  | some attempt => exact same attempt

@[simp] theorem verdict_markProposal (mark : Mark) (desk : Desk) :
    (desk.markProposal mark).verdict = desk.verdict :=
  verdict_update (Attempt.verdict_markProposal mark) desk

@[simp] theorem verdict_reject (rejection : Rejection) (desk : Desk) :
    (desk.reject rejection).verdict = desk.verdict :=
  verdict_update (Attempt.verdict_respond_rejected rejection) desk

@[simp] theorem verdict_releaseEntry (cause : ReleaseCause) (desk : Desk) :
    (desk.releaseEntry cause).verdict = desk.verdict :=
  verdict_update (Attempt.verdict_releaseEntry cause) desk

theorem verdict_ofHandoff (handoff : Handoff)
    (same : ∀ attempt, (change attempt).verdict = attempt.verdict) (desk : Desk) :
    (desk.ofHandoff handoff change).verdict = desk.verdict := by
  refine verdict_update (fun attempt => ?_) desk
  split
  · exact same attempt
  · rfl

@[simp] theorem verdict_endHandoff (position : Nat) (handoff : Handoff)
    (desk : Desk) : (desk.endHandoff position handoff).verdict = desk.verdict :=
  verdict_ofHandoff handoff (fun attempt => by split <;> rfl) desk

@[simp] theorem verdict_setHandoff (position : Nat) (handoff : Handoff)
    (desk : Desk) : (desk.setHandoff position handoff).verdict = desk.verdict :=
  rfl

@[simp] theorem verdict_portAnswers (position : Nat) (handoff : Handoff)
    (result : PortResult) (desk : Desk) :
    (desk.portAnswers position handoff result).verdict = desk.verdict := by
  unfold portAnswers
  split
  · exact verdict_endHandoff ..
  · simp
  · simp only [verdict_endHandoff, portWriteDeferral, verdict_reject]
    rw [verdict_ofHandoff handoff (by intro _; rfl), verdict_markProposal]
  · simp only [verdict_endHandoff, verdict_reject]
    exact verdict_ofHandoff handoff (by intro _; rfl) desk

@[simp] theorem verdict_readmitReservedWrites (desk : Desk) :
    desk.readmitReservedWrites.verdict = desk.verdict := by
  unfold readmitReservedWrites
  split
  next attempt isAttempt =>
    split
    · simp [verdict, isAttempt, Attempt.verdict]
    · rfl
  · rfl

theorem verdict_resolve (answer : Verdict) (desk : Desk) :
    (desk.resolve answer).verdict = desk.verdict ∨ (desk.resolve answer).verdict = some answer := by
  unfold resolve update verdict
  cases desk.attempt with
  | none => exact .inl rfl
  | some attempt => exact Attempt.verdict_respond_resolved answer attempt

theorem verdict_reparkReservedWrite (desk : Desk) :
    desk.reparkReservedWrite.verdict = desk.verdict ∨
      desk.reparkReservedWrite.verdict = some .reserved := by
  unfold reparkReservedWrite
  split
  · left
    rw [verdict_update (by intro _; rfl), verdict_markProposal]
  · exact verdict_resolve .reserved desk

end Desk

section

variable {platform : Platform} {system next : System platform}

/-- An answer of the application repeats the queue or the record. -/
def Justified (system : System platform) (given : Answered) : Prop :=
  ∀ verdict, given.answer = .settled verdict → verdict = .capacityRefused ∨
    ((system.replicas given.replica).desks given.entryId).verdict = some verdict ∨
      ∃ row, recordOf (system.replicas given.replica).partition given.entryId = some row ∧
        verdict = answerSettledStatement row

structure Memory (system next : System platform) : Prop where
  log : next.log = system.log
  applications : next.applications = system.applications
  partition : ∀ replica, (next.replicas replica).partition = (system.replicas replica).partition
  applied : ∀ replica, (next.replicas replica).applied = (system.replicas replica).applied
  verdict : ∀ replica entryId verdict,
    ((next.replicas replica).desks entryId).verdict = some verdict →
      ((system.replicas replica).desks entryId).verdict = some verdict
  answers : ∀ given ∈ next.answers, given ∈ system.answers ∨ Justified system given

inductive Move (system : System platform) : System platform → Prop where
  | memory {next : System platform} : Memory system next → Move system next
  | logged (entry : Entry) (underway : List Copy) :
      Move system { system with log := system.log ++ [entry], underway }
  | applied {entry : Entry} {logged : Logged platform} (replica : Nat)
      (host : platform.Host) :
      system.log[(system.replicas replica).applied]? = some entry →
      applyLogged host (system.replicas replica).partition entry = .ok logged →
      Move system { system.atReplica replica (.afterCommit entry logged) with
        applications := system.applications ++ [{
          replica
          index := (system.replicas replica).applied
          entry
          effect := logged.hasEffect }] }

theorem Memory.refl (system : System platform) : Memory system system where
  log := rfl
  applications := rfl
  partition _ := rfl
  applied _ := rfl
  verdict _ _ _ known := known
  answers _ member := .inl member

theorem Memory.desks (replica : Nat)
    (partition : (change (system.replicas replica)).partition = (system.replicas replica).partition)
    (applied : (change (system.replicas replica)).applied =
      (system.replicas replica).applied) (verdict : ∀ entryId answer,
      ((change (system.replicas replica)).desks entryId).verdict = some answer →
        ((system.replicas replica).desks entryId).verdict = some answer) :
    Memory system (system.atReplica replica change) where
  log := rfl
  applications := rfl
  partition other := by
    by_cases same : other = replica
    · subst same
      simpa [System.atReplica] using partition
    · simp [System.atReplica, same]
  applied other := by
    by_cases same : other = replica
    · subst same
      simpa [System.atReplica] using applied
    · simp [System.atReplica, same]
  verdict other entryId answer := by
    by_cases same : other = replica
    · subst same
      simpa [System.atReplica] using verdict entryId answer
    · simp [System.atReplica, same]
  answers _ member := .inl member

theorem Memory.atDesk (replica : Nat) (entryId : String) (verdict : ∀ answer,
      (change ((system.replicas replica).desks entryId)).verdict = some answer →
        ((system.replicas replica).desks entryId).verdict = some answer) :
    Memory system (system.atReplica replica (.atDesk entryId change)) := by
  refine Memory.desks replica rfl rfl fun other answer => ?_
  by_cases same : other = entryId
  · subst same
    simpa [Replica.atDesk] using verdict answer
  · simp [Replica.atDesk, same]

theorem Memory.underway (memory : Memory system next) (underway : List Copy)
    (handed : Nat) : Memory system { next with underway, handed } :=
  ⟨memory.log, memory.applications, memory.partition, memory.applied,
    memory.verdict, memory.answers⟩

variable {replica : Nat} {entryId : String}

theorem Memory.give (memory : Memory system next)
    (justified : ∀ handed applications, Justified system
      { replica, entryId, answer, handed, applications }) :
    Memory system (next.give replica entryId answer) where
  log := memory.log
  applications := memory.applications
  partition := memory.partition
  applied := memory.applied
  verdict := memory.verdict
  answers given member := by
    rcases List.mem_append.mp member with member | member
    · exact memory.answers given member
    · obtain rfl := List.mem_singleton.mp member
      exact .inr (justified _ _)

theorem request_memory (replica : Nat) (command : SqlCommand) (admission : Admission) :
    Memory system (system.request replica command admission) := by
  unfold System.request
  dsimp only
  split
  · exact .refl system
  split
  next answer atOnce =>
    refine (Memory.refl system).give fun _ _ verdict is => ?_
    dsimp only at is
    subst is
    unfold answerAtOnce at atOnce
    split at atOnce
    next row known =>
      cases atOnce
      exact .inr (.inr ⟨row, known, rfl⟩)
    split at atOnce
    · cases atOnce
    split at atOnce
    · cases atOnce
    split at atOnce
    · cases atOnce
      exact .inl rfl
    split at atOnce
    · cases atOnce
    · cases atOnce
  · refine Memory.desks replica rfl rfl fun entryId answer known => ?_
    by_cases same : entryId = command.entryId
    · subst same
      simp [Replica.start, Replica.atDesk, Desk.verdict, Attempt.verdict] at known
    · simpa [Replica.start, Replica.atDesk, same] using known

theorem propose_memory (proposed : system.propose replica entryId position = some next) :
    Memory system next := by
  unfold System.propose at proposed
  obtain ⟨handoff, _, proposed⟩ := Option.bind_eq_some_iff.mp proposed
  split at proposed
  · cases proposed
  split at proposed
  · cases proposed
    refine Memory.underway (Memory.atDesk replica entryId fun answer known => ?_) _ _
    simpa using known
  cases proposed
  refine Memory.atDesk replica entryId fun answer known => ?_
  rwa [Desk.verdict_endHandoff, Desk.verdict_ofHandoff handoff (by intro _; rfl)] at known

theorem portAnswers_memory
    (answered : system.portAnswers replica entryId position result = some next) :
    Memory system next := by
  unfold System.portAnswers at answered
  obtain ⟨handoff, _, answered⟩ := Option.bind_eq_some_iff.mp answered
  obtain ⟨number, _, answered⟩ := Option.bind_eq_some_iff.mp answered
  have memory : Memory system (system.atReplica replica
      (.atDesk entryId (.portAnswers position handoff result))) :=
    Memory.atDesk replica entryId fun answer known => by simpa using known
  dsimp only at answered
  split at answered
  · split at answered
    · cases answered
      exact memory.underway _ _
    · cases answered
  · cases answered
    exact memory

theorem finish_memory (finished : system.finish replica entryId = some next) :
    Memory system next := by
  unfold System.finish at finished
  obtain ⟨attempt, isAttempt, finished⟩ := Option.bind_eq_some_iff.mp finished
  obtain ⟨answer, answered, finished⟩ := Option.bind_eq_some_iff.mp finished
  cases finished
  refine Memory.give (Memory.atDesk replica entryId fun _ known => ?_)
    fun _ _ verdict is => .inr (.inl ?_)
  · cases known
  rw [Desk.verdict, isAttempt]
  dsimp only at is
  subst is
  exact Attempt.answered_verdict answered

variable {host : platform.Host}

theorem apply_move (applied : system.apply replica host = some next) : Move system next := by
  unfold System.apply at applied
  obtain ⟨entry, isEntry, applied⟩ := Option.bind_eq_some_iff.mp applied
  split at applied
  · cases applied
    refine .memory ?_
    unfold Replica.afterRollback
    split
    · exact Memory.atDesk replica _ fun answer known => by simpa using known
    · exact Memory.desks replica rfl rfl fun _ _ known => known
  next logged ok =>
    cases applied
    exact .applied replica host isEntry ok

theorem step_move (stepped : system.step event = some next) : Move system next := by
  cases event with
  | request replica command admission =>
    cases stepped
    exact .memory (request_memory replica command admission)
  | propose replica entryId handoff => exact .memory (propose_memory stepped)
  | portAnswers replica entryId handoff result => exact .memory (portAnswers_memory stepped)
  | commit copy term crowded =>
    obtain ⟨_, isNext⟩ := Option.ite_none_right_eq_some.mp stepped
    cases isNext
    exact .logged _ _
  | commitCommand command term =>
    cases command with
    | sql => cases stepped
    | _ =>
      cases stepped
      exact .logged _ _
  | discard copy =>
    cases stepped
    exact .memory ((Memory.refl system).underway _ _)
  | apply replica host => exact apply_move stepped
  | deadline replica entryId =>
    cases stepped
    exact .memory (Memory.atDesk replica entryId fun _ known => by simpa using known)
  | release replica cause =>
    cases stepped
    exact .memory (Memory.desks replica rfl rfl fun _ _ known => by simpa using known)
  | finish replica entryId => exact .memory (finish_memory stepped)
  | restart replica =>
    cases stepped
    exact .memory (Memory.desks replica rfl rfl fun _ _ known => by cases known)

def Entry.isOf (entry : Entry) (entryId : String) : Prop :=
  ∃ command, entry.sqlCommand = some command ∧ command.entryId = entryId

def TookEffect (system : System platform) (replica : Nat) (entryId : String) : Prop :=
  ∃ application ∈ system.applications, application.replica = replica ∧
    application.effect = true ∧ application.entry.isOf entryId

/-- What an application found and did, as the log tells it. -/
def Recorded (start : PartitionState platform) (log : List Entry) (application : Application) : Prop :=
  ∃ state host logged, Reaches start log application.index state ∧
    log[application.index]? = some application.entry ∧
    applyLogged host state application.entry = .ok logged ∧
    application.effect = logged.hasEffect

/-- Somewhere along the log the record of the statement says that it failed. -/
def RecordedFailed (start : PartitionState platform) (log : List Entry) (entryId : String) : Prop :=
  ∃ index state row, Reaches start log index state ∧
    recordOf state entryId = some row ∧ row.outcome ≠ .applied

def Holds (start : PartitionState platform) (system : System platform)
    (replica : Nat) (entryId : String) : Verdict → Prop
  | .applied => TookEffect system replica entryId
  | .statementFailed => RecordedFailed start system.log entryId
  | _ => True

structure Sound (start : PartitionState platform) (system : System platform) :
    Prop where
  reaches : ∀ replica, Reaches start system.log
    (system.replicas replica).applied (system.replicas replica).partition
  recorded : ∀ application ∈ system.applications, Recorded start system.log application
  past : ∀ application ∈ system.applications,
    application.index < (system.replicas application.replica).applied
  once : (system.applications.map fun application => (application.replica, application.index)).Nodup
  records : ∀ replica entryId row, recordOf (system.replicas replica).partition entryId = some row →
    Holds start system replica entryId (answerSettledStatement row)
  verdicts : ∀ replica entryId verdict,
    ((system.replicas replica).desks entryId).verdict = some verdict →
    Holds start system replica entryId verdict
  answers : ∀ given ∈ system.answers, ∀ verdict, given.answer = .settled verdict →
    Holds start system given.replica given.entryId verdict

theorem Holds.mono (holds : Holds start system replica entryId answer)
    (later : List Entry) (isLog : next.log = system.log ++ later)
    (applications : ∀ application ∈ system.applications, application ∈ next.applications) :
    Holds start next replica entryId answer := by
  cases answer with
  | applied =>
    obtain ⟨application, member, took⟩ := holds
    exact ⟨application, applications application member, took⟩
  | statementFailed =>
    obtain ⟨index, state, row, reaches, known⟩ := holds
    exact ⟨index, state, row, isLog ▸ reaches.append later, known⟩
  | _ => trivial

theorem Sound.fresh (partitionId : String) (table : platform.Table) :
    Sound (.fresh partitionId table) (System.fresh partitionId table) where
  reaches _ := .start
  recorded _ member := by cases member
  past _ member := by cases member
  once := List.nodup_nil
  records _ _ _ known := by cases known
  verdicts _ _ _ known := by cases known
  answers _ member := by cases member

theorem Sound.memory (sound : Sound start system) (memory : Memory system next) :
    Sound start next := by
  have holds : ∀ {replica entryId answer},
      Holds start system replica entryId answer →
        Holds start next replica entryId answer := fun holds =>
    holds.mono [] (by rw [memory.log, List.append_nil])
      (by rw [memory.applications]; exact fun _ member => member)
  refine ⟨?_, ?_, ?_, ?_, ?_, ?_, ?_⟩
  · intro replica
    rw [memory.log, memory.applied, memory.partition]
    exact sound.reaches replica
  · rw [memory.log, memory.applications]
    exact sound.recorded
  · intro application member
    rw [memory.applied]
    rw [memory.applications] at member
    exact sound.past application member
  · rw [memory.applications]
    exact sound.once
  · intro replica entryId row known
    rw [memory.partition] at known
    exact holds (sound.records replica entryId row known)
  · intro replica entryId answer known
    exact holds (sound.verdicts replica entryId answer
      (memory.verdict replica entryId answer known))
  intro given member verdict is
  rcases memory.answers given member with member | justified
  · exact holds (sound.answers given member verdict is)
  rcases justified verdict is with rfl | known | ⟨row, known, rfl⟩
  · trivial
  · exact holds (sound.verdicts _ _ _ known)
  · exact holds (sound.records _ _ row known)

theorem Sound.logged (sound : Sound start system) (entry : Entry) (underway : List Copy) :
    Sound start { system with log := system.log ++ [entry], underway } := by
  have holds : ∀ {replica entryId answer},
      Holds start system replica entryId answer →
        Holds start { system with log := system.log ++ [entry], underway } replica
          entryId answer := fun holds =>
    holds.mono [entry] rfl fun _ member => member
  refine ⟨fun replica => (sound.reaches replica).append _, ?_, sound.past,
    sound.once, fun _ _ _ known => holds (sound.records _ _ _ known),
    fun _ _ _ known => holds (sound.verdicts _ _ _ known),
    fun _ member _ is => holds (sound.answers _ member _ is)⟩
  intro application member
  obtain ⟨state, host, logged, reaches, isEntry, rest⟩ := sound.recorded application member
  refine ⟨state, host, logged, reaches.append _, ?_, rest⟩
  rw [List.getElem?_append_left (List.getElem?_eq_some_iff.mp isEntry).1]
  exact isEntry

variable {logged : Logged platform}

/-- The replica after an application: the desks of other entries keep their
verdicts, and the entry's own may get the one of the application. -/
theorem afterCommit_verdict {replica : Replica platform}
    (ok : applyLogged host replica.partition entry = .ok logged)
    (known : ((replica.afterCommit entry logged).desks entryId).verdict =
      some answer) : (replica.desks entryId).verdict = some answer ∨
      answer = .reserved ∨ answer = .capacityRefused ∨
      (answer = .applied ∧ logged.hasEffect = true ∧ entry.isOf entryId) ∨
      ∃ row, recordOf logged.state entryId = some row ∧ answer = answerSettledStatement row := by
  unfold Replica.afterCommit at known
  dsimp only at known
  split at known
  next command isSql =>
    by_cases same : entryId = command.entryId
    · subst same
      simp only [Replica.atDesk, Function.update_self] at known
      have resolved : ∀ given,
          ((replica.desks command.entryId).resolve given).verdict = some answer →
            (replica.desks command.entryId).verdict = some answer ∨ answer = given := by
        intro given known
        rcases Desk.verdict_resolve given (replica.desks command.entryId) with is | is
        · exact .inl (is.symm.trans known)
        · exact .inr (Option.some.inj (known.symm.trans is))
      cases applyLogged_statement isSql ok with
      | recordedOnly => exact .inl known
      | settled recorded isRecorded =>
        refine (resolved _ known).imp id fun is => .inr (.inr (.inr ?_))
        exact ⟨recorded, isRecorded, is⟩
      | reserved =>
        rcases Desk.verdict_reparkReservedWrite (replica.desks command.entryId) with is | is
        · exact .inl (is.symm.trans known)
        · exact .inr (.inl (Option.some.inj (known.symm.trans is)))
      | capacity => exact (resolved _ known).imp id fun is => .inr (.inl is)
      | failed fresh row isFailed =>
        refine (resolved _ known).imp id fun is => .inr (.inr (.inr ⟨row, ?_, ?_⟩))
        · exact AList.lookup_insert _
        · rw [is, answerSettledStatement, isFailed]
          rfl
      | applied =>
        refine (resolved _ known).imp id fun is => .inr (.inr (.inl ?_))
        exact ⟨is, rfl, command, isSql, rfl⟩
    · simp only [Replica.atDesk, Function.update_of_ne same] at known
      exact .inl known
  · split at known
    · exact .inl (by simpa using known)
    · exact .inl known

@[simp] theorem afterCommit_partition (replica : Replica platform) (entry : Entry)
    (logged : Logged platform) : (replica.afterCommit entry logged).partition = logged.state := by
  unfold Replica.afterCommit
  dsimp only
  split
  · rfl
  · split <;> rfl

@[simp] theorem afterCommit_applied (replica : Replica platform) (entry : Entry)
    (logged : Logged platform) :
    (replica.afterCommit entry logged).applied = replica.applied + 1 := by
  unfold Replica.afterCommit
  dsimp only
  split
  · rfl
  · split <;> rfl

/-- What an application leaves: its replica past the entry, the others as they were, and
the application on record. -/
structure AppliedAt (replica : Nat) (entry : Entry) (logged : Logged platform)
    (system next : System platform) : Prop where
  log : next.log = system.log
  self : next.replicas replica = (system.replicas replica).afterCommit entry logged
  others : ∀ other, other ≠ replica → next.replicas other = system.replicas other
  applications : next.applications = system.applications ++ [{
    replica
    index := (system.replicas replica).applied
    entry
    effect := logged.hasEffect }]
  answers : next.answers = system.answers

namespace AppliedAt

variable {start : PartitionState platform} {entry : Entry}
  (applied : AppliedAt replica entry logged system next)

include applied

theorem holds {other : Nat} (holds : Holds start system other entryId answer) :
    Holds start next other entryId answer :=
  holds.mono [] (by rw [applied.log, List.append_nil])
    (by rw [applied.applications]; exact fun _ member => List.mem_append_left _ member)

theorem took (effect : logged.hasEffect = true) (isOf : entry.isOf entryId) :
    TookEffect next replica entryId := by
  have member := List.mem_append_right system.applications
    (List.mem_singleton.mpr (rfl : (⟨replica, (system.replicas replica).applied,
      entry, logged.hasEffect⟩ : Application) = _))
  rw [← applied.applications] at member
  exact ⟨_, member, rfl, effect, isOf⟩

variable (sound : Sound start system)
  (isEntry : system.log[(system.replicas replica).applied]? = some entry)
  (ok : applyLogged host (system.replicas replica).partition entry = .ok logged)

include sound

theorem past : ∀ application ∈ next.applications,
    application.index < (next.replicas application.replica).applied := by
  intro application member
  rw [applied.applications] at member
  rcases List.mem_append.mp member with member | member
  · have before := sound.past application member
    by_cases same : application.replica = replica
    · rw [same, applied.self, afterCommit_applied]
      rw [same] at before
      exact Nat.lt_succ_of_lt before
    · rw [applied.others _ same]
      exact before
  · obtain rfl := List.mem_singleton.mp member
    dsimp only
    rw [applied.self, afterCommit_applied]
    exact Nat.lt_succ_self _

/-- The replica was not past the entry before. -/
theorem once : (next.applications.map fun application =>
    (application.replica, application.index)).Nodup := by
  rw [applied.applications, List.map_append, List.map_singleton]
  refine List.nodup_append.mpr
    ⟨sound.once, List.nodup_cons.mpr ⟨List.not_mem_nil, List.nodup_nil⟩, ?_⟩
  intro pair isOld _ isNew same
  obtain ⟨application, member, rfl⟩ := List.mem_map.mp isOld
  obtain rfl := List.mem_singleton.mp isNew
  obtain ⟨sameReplica, sameIndex⟩ := Prod.mk.inj same
  have before := sound.past application member
  rw [sameReplica, sameIndex] at before
  exact Nat.lt_irrefl _ before

include isEntry ok

theorem reached : Reaches start next.log ((system.replicas replica).applied + 1) logged.state := by
  rw [applied.log]
  exact .applied host (sound.reaches replica) isEntry ok

theorem recorded : ∀ application ∈ next.applications, Recorded start next.log application := by
  intro application member
  rw [applied.applications] at member
  rw [applied.log]
  rcases List.mem_append.mp member with member | member
  · exact sound.recorded application member
  · obtain rfl := List.mem_singleton.mp member
    exact ⟨_, host, logged, sound.reaches replica, isEntry, ok, rfl⟩

/-- A record of the replica's new state is an old one or the entry's own. -/
theorem records {row : OutcomeRow} (known : recordOf logged.state entryId = some row) :
    Holds start next replica entryId (answerSettledStatement row) := by
  unfold answerSettledStatement
  split
  next isApplied =>
    rcases applyLogged_record ok known isApplied with old | ⟨effect, isOf⟩
    · have before := sound.records replica entryId row old
      rw [answerSettledStatement, if_pos isApplied] at before
      exact applied.holds before
    · exact applied.took effect isOf
  next notApplied => exact ⟨_, _, row, applied.reached sound isEntry ok, known, notApplied⟩

theorem verdicts {verdict : Verdict}
    (known : ((next.replicas replica).desks entryId).verdict = some verdict) :
    Holds start next replica entryId verdict := by
  rw [applied.self] at known
  rcases afterCommit_verdict ok known with
    old | rfl | rfl | ⟨rfl, effect, isOf⟩ | ⟨row, isRow, rfl⟩
  · exact applied.holds (sound.verdicts replica entryId verdict old)
  · trivial
  · trivial
  · exact applied.took effect isOf
  · exact applied.records sound isEntry ok isRow

end AppliedAt

theorem Sound.applied (sound : Sound start system)
    (isEntry : system.log[(system.replicas replica).applied]? = some entry)
    (ok : applyLogged host (system.replicas replica).partition entry = .ok logged)
    (applied : AppliedAt replica entry logged system next) : Sound start next where
  reaches other := by
    by_cases same : other = replica
    · rw [same, applied.self, afterCommit_applied, afterCommit_partition]
      exact applied.reached sound isEntry ok
    · rw [applied.others other same, applied.log]
      exact sound.reaches other
  recorded := applied.recorded sound isEntry ok
  past := applied.past sound
  once := applied.once sound
  records other entryId row known := by
    by_cases same : other = replica
    · rw [same, applied.self, afterCommit_partition] at known
      rw [same]
      exact applied.records sound isEntry ok known
    · rw [applied.others other same] at known
      exact applied.holds (sound.records other entryId row known)
  verdicts other entryId verdict known := by
    by_cases same : other = replica
    · subst same
      exact applied.verdicts sound isEntry ok known
    · rw [applied.others other same] at known
      exact applied.holds (sound.verdicts other entryId verdict known)
  answers given member verdict is := by
    rw [applied.answers] at member
    exact applied.holds (sound.answers given member verdict is)

theorem Sound.step (sound : Sound start system)
    (stepped : system.step event = some next) : Sound start next := by
  cases step_move stepped with
  | memory memory => exact sound.memory memory
  | logged entry underway => exact sound.logged entry underway
  | applied replica host isEntry ok =>
    exact sound.applied isEntry ok ⟨rfl, Function.update_self .., fun _ different =>
      Function.update_of_ne different .., rfl, rfl⟩

theorem Recorded.settles {log : List Entry} (recorded : Recorded start log application)
    (effect : application.effect = true) (isOf : application.entry.isOf entryId) :
    (∃ state, Reaches start log application.index state ∧ recordOf state entryId = none) ∧
    ∃ state row, Reaches start log (application.index + 1) state ∧
      recordOf state entryId = some row ∧ row.outcome = .applied := by
  obtain ⟨state, host, logged, reaches, isEntry, ok, isEffect⟩ := recorded
  obtain ⟨command, row, isSql, fresh, known, isApplied⟩ := applyLogged_effect ok (isEffect ▸ effect)
  obtain ⟨command', isSql', isId⟩ := isOf
  obtain rfl : command = command' := Option.some.inj (isSql.symm.trans isSql')
  subst isId
  exact ⟨⟨state, reaches, fresh⟩, logged.state, row,
    .applied host reaches isEntry ok, known, isApplied⟩

theorem Sound.effect_index (uniform : platform.Uniform) (sound : Sound start system)
    (isFirst : first ∈ system.applications) (isSecond : second ∈ system.applications)
    (firstEffect : first.effect = true) (secondEffect : second.effect = true)
    (firstOf : first.entry.isOf entryId) (secondOf : second.entry.isOf entryId) :
    first.index = second.index := by
  have apart : ∀ {one other : Application}, one ∈ system.applications →
      other ∈ system.applications → one.effect = true → other.effect = true →
      one.entry.isOf entryId → other.entry.isOf entryId →
      ¬ one.index < other.index := by
    intro one other isOne isOther oneEffect otherEffect oneOf otherOf lt
    obtain ⟨_, state, row, reaches, known, _⟩ := (sound.recorded one isOne).settles oneEffect oneOf
    obtain ⟨⟨state', reaches', fresh⟩, _⟩ :=
      (sound.recorded other isOther).settles otherEffect otherOf
    have kept := reaches.keeps uniform reaches' lt known
    rw [fresh] at kept
    cases kept
  exact le_antisymm (not_lt.mp (apart isSecond isFirst secondEffect firstEffect secondOf firstOf))
    (not_lt.mp (apart isFirst isSecond firstEffect secondEffect firstOf secondOf))

theorem Sound.failed_no_effect (uniform : platform.Uniform) (sound : Sound start system)
    (failed : RecordedFailed start system.log entryId) (member : application ∈ system.applications)
    (isOf : application.entry.isOf entryId) : application.effect = false := by
  by_contra effect
  obtain ⟨index, state, row, reaches, known, notApplied⟩ := failed
  obtain ⟨_, state', row', reaches', known', isApplied⟩ :=
    (sound.recorded application member).settles (by simpa using effect) isOf
  rcases Nat.le_total index (application.index + 1) with le | le
  · rw [reaches.keeps uniform reaches' le known] at known'
    cases known'
    exact notApplied isApplied
  · rw [reaches'.keeps uniform reaches le known'] at known
    cases known
    exact notApplied isApplied

end

end LagrangeDb.Write
