import LagrangeDb.Write.Desk

namespace LagrangeDb.Write

open Participant

/-! The replicas of one partition, the log they share, and the copies of writes
that are on their way into it. -/

/-- A write as one replica handed it to consensus. -/
structure Copy where
  (number replica : Nat)
  command : SqlCommand
deriving DecidableEq

/-- A committed entry.  A write is in the log as one of its copies. -/
structure Entry where
  committed : Committed
  copy : Option Copy
  /-- The ledger of owed events has no room where the entry is applied. -/
  crowded : Bool
deriving DecidableEq

structure Admission where
  (paused mayPropose crowded full : Bool)
deriving DecidableEq

structure Replica (platform : Platform) where
  partition : PartitionState platform
  (applied serial : Nat)
  desks : String → Desk

structure Application where
  (replica index : Nat)
  entry : Entry
  effect : Bool
deriving DecidableEq

/-- An answer, with how many copies had been handed over and how many entries
applied when it was given. -/
structure Answered where
  replica : Nat
  entryId : String
  answer : WriteAnswer
  (handed applications : Nat)
deriving DecidableEq

structure System (platform : Platform) where
  replicas : Nat → Replica platform
  log : List Entry
  underway : List Copy
  handed : Nat
  applications : List Application
  answers : List Answered

inductive Event (platform : Platform) where
  | request (replica : Nat) (command : SqlCommand) (admission : Admission)
  | propose (replica : Nat) (entryId : String) (handoff : Nat)
  | portAnswers (replica : Nat) (entryId : String) (handoff : Nat)
      (result : PortResult)
  | commit (copy : Copy) (term : Nat) (crowded : Bool)
  | commitCommand (command : Command) (term : Nat)
  | discard (copy : Copy)
  | apply (replica : Nat) (host : platform.Host)
  | deadline (replica : Nat) (entryId : String)
  | release (replica : Nat) (cause : ReleaseCause)
  | finish (replica : Nat) (entryId : String)
  | restart (replica : Nat)

section

variable {platform : Platform}

namespace Replica

def atDesk (entryId : String) (change : Desk → Desk) (replica : Replica platform) : Replica platform :=
  { replica with desks := Function.update replica.desks entryId (change (replica.desks entryId)) }

def settled (replica : Replica platform) (entryId : String) : Option OutcomeRow :=
  replica.partition.outcomes.lookup (committedStatementEntryKey entryId)

/-- A write that is started: parked while the partition is reserved, handed to
consensus otherwise. -/
def start (command : SqlCommand) (replica : Replica platform) : Replica platform :=
  let parked := replica.partition.isPartitionReserved
  { replica.atDesk command.entryId fun desk =>
      { attempt := some {
          serial := replica.serial
          command
          parked
          handingOff := !parked }
        handoffs :=
          if parked then desk.handoffs
          else desk.handoffs ++ [{
            serial := replica.serial
            command
            own := true
            awaited := none }] } with
    serial := replica.serial + 1 }

end Replica

def answerSettledStatement (recorded : OutcomeRow) : Verdict :=
  if recorded.outcome = .applied then .applied else .statementFailed

def answerAtOnce (replica : Replica platform) (command : SqlCommand)
    (admission : Admission) : Option WriteAnswer :=
  match replica.settled command.entryId with
  | some recorded => some (.settled (answerSettledStatement recorded))
  | none =>
    if admission.paused then some .cutoverPaused
    else if !replica.partition.isPartitionReserved && !admission.mayPropose then some .notLeader
    else if admission.crowded then some (.settled .capacityRefused)
    else if admission.full then some .backpressure
    else none

inductive LoggedAnswer where
  | partition (answer : Option Answer)
  | capacity

structure Logged (platform : Platform) where
  state : PartitionState platform
  answer : LoggedAnswer
  executions : List Execution := []

/-- A statement that is neither settled nor held back finds no room for the
event it would owe. -/
def refusesCapacity (state : PartitionState platform) (entry : Entry) : Bool :=
  match entry.committed.command with
  | .sql command =>
    entry.crowded && !state.isPartitionReserved &&
      (state.outcomes.lookup (committedStatementEntryKey command.entryId)).isNone
  | _ => false

def applyLogged (host : platform.Host) (state : PartitionState platform)
    (entry : Entry) : Except HostFailure (Logged platform) :=
  if refusesCapacity state entry then .ok { state, answer := .capacity }
  else (applyCommittedEntry host state entry.committed).map fun applied =>
    { state := applied.state
      answer := .partition applied.answer
      executions := applied.executions }

def Logged.hasEffect (logged : Logged platform) : Bool :=
  logged.executions.any fun
    | .statement _ => true
    | .operations _ _ => false

/-- What the application of a statement does to the desk of its write. -/
def LoggedAnswer.atDesk : LoggedAnswer → Desk → Desk
  | .partition (some (.statementApplied _)) => .resolve .applied
  | .partition (some (.statementSettled recorded)) => .resolve (answerSettledStatement recorded)
  | .partition (some (.statementFailed _ _)) => .resolve .statementFailed
  | .partition (some .statementReserved) => .reparkReservedWrite
  | .capacity => .resolve .capacityRefused
  | _ => id

/-- The decision moved its row out of PREPARED. -/
def releasesReservation (before after : PartitionState platform) : Command → Bool
  | .decision command =>
    (before.readParticipantTransactionRow command.identity.key).any
        (fun row => row.state = .prepared) &&
      !(after.readParticipantTransactionRow command.identity.key).any
        fun row => row.state = .prepared
  | _ => false

def Entry.sqlCommand (entry : Entry) : Option SqlCommand :=
  match entry.committed.command with
  | .sql command => some command
  | _ => none

namespace Replica

def afterCommit (entry : Entry) (logged : Logged platform)
    (replica : Replica platform) : Replica platform :=
  let applied := { replica with
    partition := logged.state
    applied := replica.applied + 1 }
  match entry.sqlCommand with
  | some command => applied.atDesk command.entryId logged.answer.atDesk
  | none =>
    if releasesReservation replica.partition logged.state
        entry.committed.command then
      { applied with desks := fun entryId => (applied.desks entryId).readmitReservedWrites }
    else applied

def afterRollback (entry : Entry) (replica : Replica platform) : Replica platform :=
  match entry.sqlCommand with
  | some command => replica.atDesk command.entryId (.reject .application)
  | none => replica

end Replica

namespace System

def atReplica (replica : Nat)
    (change : Replica platform → Replica platform) (system : System platform) : System platform :=
  { system with replicas :=
      Function.update system.replicas replica (change (system.replicas replica)) }

def give (replica : Nat) (entryId : String) (answer : WriteAnswer)
    (system : System platform) : System platform :=
  { system with answers := system.answers ++ [{
      replica
      entryId
      answer
      handed := system.handed
      applications := system.applications.length }] }

def request (replica : Nat) (command : SqlCommand) (admission : Admission)
    (system : System platform) : System platform :=
  let host := system.replicas replica
  -- A write under execution is joined, and a refused command leaves no trace.
  if (host.desks command.entryId).attempt.isSome ||
      !(isNonEmptyString command.entryId && isNonEmptyString command.sql) then
    system
  else
    match answerAtOnce host command admission with
    | some answer => system.give replica command.entryId answer
    | none => system.atReplica replica (.start command)

/-- A write that was released or answered is never handed over. -/
def propose (replica : Nat) (entryId : String) (position : Nat)
    (system : System platform) : Option (System platform) := do
  let desk := (system.replicas replica).desks entryId
  let handoff ← desk.handoffs[position]?
  if handoff.awaited.isSome then none
  else if desk.isPending then
    return { system.atReplica replica (.atDesk entryId fun desk =>
        (desk.markProposal .proposed).setHandoff position
          { handoff with awaited := some system.handed }) with
      underway := system.underway ++ [{
        number := system.handed
        replica
        command := handoff.command }]
      handed := system.handed + 1 }
  else
    return system.atReplica replica (.atDesk entryId fun desk =>
      (desk.ofHandoff handoff fun attempt =>
        { attempt with proposal := .notMade }).endHandoff position handoff)

def portAnswers (replica : Nat) (entryId : String) (position : Nat)
    (result : PortResult) (system : System platform) :
    Option (System platform) := do
  let desk := (system.replicas replica).desks entryId
  let handoff ← desk.handoffs[position]?
  let number ← handoff.awaited
  let answered := system.atReplica replica
    (.atDesk entryId (.portAnswers position handoff result))
  if result.entersNothing then
    -- The port says so of a copy that is not in the log.
    if system.underway.any fun copy => copy.number = number then
      return { answered with
        underway := system.underway.filter fun copy => copy.number ≠ number }
    else none
  else return answered

def commit (copy : Copy) (term : Nat) (crowded : Bool)
    (system : System platform) : Option (System platform) :=
  if copy ∈ system.underway then
    some { system with
      underway := system.underway.filter (· ≠ copy)
      log := system.log ++ [{
        committed := {
          command := .sql copy.command
          position := { index := system.log.length + 1, term } }
        copy := some copy
        crowded }] }
  else none

/-- Statements come into the log as copies only. -/
def commitCommand (command : Command) (term : Nat) (system : System platform) :
    Option (System platform) :=
  match command with
  | .sql _ => none
  | command => some { system with
      log := system.log ++ [{
        committed := {
          command
          position := { index := system.log.length + 1, term } }
        copy := none
        crowded := false }] }

def apply (replica : Nat) (host : platform.Host) (system : System platform) :
    Option (System platform) := do
  let applying := system.replicas replica
  let entry ← system.log[applying.applied]?
  match applyLogged host applying.partition entry with
  | .error _ => return system.atReplica replica (.afterRollback entry)
  | .ok logged => return { system.atReplica replica (.afterCommit entry logged) with
      applications := system.applications ++ [{
        replica
        index := applying.applied
        entry
        effect := logged.hasEffect }] }

def finish (replica : Nat) (entryId : String) (system : System platform) :
    Option (System platform) := do
  let attempt ← ((system.replicas replica).desks entryId).attempt
  let answer ← attempt.answered
  return (system.atReplica replica
    (.atDesk entryId fun desk => { desk with attempt := none })).give replica
      entryId answer

def step (system : System platform) : Event platform → Option (System platform)
  | .request replica command admission => some (system.request replica command admission)
  | .propose replica entryId handoff => system.propose replica entryId handoff
  | .portAnswers replica entryId handoff result => system.portAnswers replica entryId handoff result
  | .commit copy term crowded => system.commit copy term crowded
  | .commitCommand command term => system.commitCommand command term
  | .discard copy => some { system with
      underway := system.underway.filter (· ≠ copy) }
  | .apply replica host => system.apply replica host
  | .deadline replica entryId => some (system.atReplica replica
      (.atDesk entryId (.releaseEntry .commitDeadlineExceeded)))
  | .release replica cause => some (system.atReplica replica fun replica =>
    { replica with desks := fun entryId => (replica.desks entryId).releaseEntry cause })
  | .finish replica entryId => system.finish replica entryId
  -- Memory is lost; the database and its place in the log stay.
  | .restart replica => some (system.atReplica replica fun replica =>
    { replica with desks := fun _ => {} })

def fresh (partitionId : String) (table : platform.Table) : System platform where
  replicas := fun _ => {
    partition := .fresh partitionId table
    applied := 0
    serial := 0
    desks := fun _ => {} }
  log := []
  underway := []
  handed := 0
  applications := []
  answers := []

end System

end

end LagrangeDb.Write
