import LagrangeDb.Participant.Apply

namespace LagrangeDb.Write

open Participant

/-! What a replica holds in memory of the write of one entry. -/

/-- Where a pending write stands with consensus, as far as the queue knows. -/
inductive Mark where
  | queued
  | proposed
deriving DecidableEq

inductive ReleaseCause where
  | leadershipLost
  | commitDeadlineExceeded
  | shutdown
deriving DecidableEq

inductive Verdict where
  | applied
  | statementFailed
  | reserved
  | capacityRefused
deriving DecidableEq

inductive WriteAnswer where
  | settled (verdict : Verdict)
  | outcomeUnknown
  | released (cause : ReleaseCause)
  | notLeader
  | consensusRefused
  | backpressure
  | cutoverPaused
  | deferred
  | failed
deriving DecidableEq

/-- The answers that say that the write was not proposed. -/
def WriteAnswer.isUnproposed : WriteAnswer → Bool
  | .released _ => true
  | .notLeader => true
  | .consensusRefused => true
  | .backpressure => true
  | .cutoverPaused => true
  | _ => false

inductive PortResult where
  | accepted
  /-- Nothing entered consensus; proposed again while the budget lasts. -/
  | deferred (exhausted : Bool)
  | coreRefused
  | coreFatal
  | hostFailure
  | other
deriving DecidableEq

/-- Neither a deferral nor a refusal of the core lets the proposal enter
consensus. -/
def PortResult.entersNothing : PortResult → Bool
  | .deferred _ => true
  | .coreRefused => true
  | _ => false

/-- A release keeps what the queue knew of the write. -/
inductive Rejection where
  | released (cause : ReleaseCause) (mark : Mark)
  | deferral
  | port
  | application
deriving DecidableEq

inductive Response where
  | pending (mark : Mark)
  | resolved (verdict : Verdict)
  | rejected (rejection : Rejection)
deriving DecidableEq

inductive WriteProposal where
  | accepted
  | refused (result : PortResult)
  | notMade
deriving DecidableEq

structure Attempt where
  serial : Nat
  command : SqlCommand
  response : Response := .pending .queued
  proposal : WriteProposal := .accepted
  /-- A hand-off was deferred until its budget ran out. -/
  deferred : Bool := false
  parked : Bool
  /-- The execution waits for its own hand-off before it waits for an answer. -/
  handingOff : Bool
  /-- The execution's own hand-off was deferred so, which ends it. -/
  deferral : Bool := false
deriving DecidableEq

/-- A running hand-off: about to propose, or waiting for the port's answer to a
copy. -/
structure Handoff where
  serial : Nat
  command : SqlCommand
  own : Bool
  awaited : Option Nat
deriving DecidableEq

structure Desk where
  attempt : Option Attempt := none
  handoffs : List Handoff := []
deriving DecidableEq

namespace Attempt

def isPending (attempt : Attempt) : Bool :=
  match attempt.response with
  | .pending _ => true
  | _ => false

def markProposal (mark : Mark) (attempt : Attempt) : Attempt :=
  match attempt.response with
  | .pending _ => { attempt with response := .pending mark }
  | _ => attempt

def respond (response : Response) (attempt : Attempt) : Attempt :=
  match attempt.response with
  | .pending _ => { attempt with response }
  | _ => attempt

end Attempt

def Attempt.releaseEntry (cause : ReleaseCause) (attempt : Attempt) : Attempt :=
  match attempt.response with
  | .pending mark =>
    { attempt with response := .rejected (.released cause mark) }
  | _ => attempt

namespace Desk

def update (change : Attempt → Attempt) (desk : Desk) : Desk :=
  { desk with attempt := desk.attempt.map change }

def isPending (desk : Desk) : Bool := desk.attempt.any Attempt.isPending

def markProposal (mark : Mark) : Desk → Desk := update (.markProposal mark)

def resolve (verdict : Verdict) : Desk → Desk := update (.respond (.resolved verdict))

def reject (rejection : Rejection) : Desk → Desk := update (.respond (.rejected rejection))

def releaseEntry (cause : ReleaseCause) : Desk → Desk := update (.releaseEntry cause)

/-- The hand-off's own attempt; a later attempt under the same entry is another
one. -/
def ofHandoff (handoff : Handoff) (change : Attempt → Attempt) (desk : Desk) : Desk :=
  desk.update fun attempt => if attempt.serial = handoff.serial then change attempt else attempt

def endHandoff (position : Nat) (handoff : Handoff) (desk : Desk) : Desk :=
  { (desk.ofHandoff handoff fun attempt =>
      if handoff.own then { attempt with handingOff := false } else attempt) with
    handoffs := desk.handoffs.eraseIdx position }

def setHandoff (position : Nat) (handoff : Handoff) (desk : Desk) : Desk :=
  { desk with handoffs := desk.handoffs.set position handoff }

/-- The port still deferred the write when its budget ran out. -/
def portWriteDeferral (handoff : Handoff) (desk : Desk) : Desk :=
  (desk.ofHandoff handoff fun attempt =>
    { attempt with
      deferred := true
      deferral := attempt.deferral || handoff.own }).reject .deferral

/-- What a hand-off does with the answer of the port. -/
def portAnswers (position : Nat) (handoff : Handoff) (result : PortResult) (desk : Desk) : Desk :=
  match result with
  | .accepted => desk.endHandoff position handoff
  | .deferred false => (desk.markProposal .queued).setHandoff position
      { handoff with awaited := none }
  | .deferred true => ((desk.markProposal .queued).portWriteDeferral
      handoff).endHandoff position handoff
  | failure => ((desk.ofHandoff handoff fun attempt =>
    { attempt with proposal := .refused failure }).reject .port).endHandoff
      position handoff

/-- A write that met a reservation when it was applied waits for the decision. -/
def reparkReservedWrite (desk : Desk) : Desk :=
  if desk.isPending then
    (desk.markProposal .queued).update fun attempt =>
      { attempt with parked := true }
  else desk.resolve .reserved

def readmitReservedWrites (desk : Desk) : Desk :=
  match desk.attempt with
  | some attempt =>
    if attempt.parked then
      { attempt := some { attempt with parked := false }
        handoffs := desk.handoffs ++ [{
          serial := attempt.serial
          command := attempt.command
          own := false
          awaited := none }] }
    else desk
  | none => desk

end Desk

def buildReleasedPendingWriteAnswer (cause : ReleaseCause) : Mark → WriteAnswer
  | .proposed => .outcomeUnknown
  | .queued => .released cause

def buildPartitionWriteProposalRefusal : PortResult → WriteAnswer
  | .coreRefused => .consensusRefused
  | .hostFailure => .outcomeUnknown
  | .coreFatal => .outcomeUnknown
  | _ => .failed

def unansweredWriteResult (proposal : WriteProposal) (rejection : Rejection) : WriteAnswer :=
  match proposal, rejection with
  | .refused result, _ => buildPartitionWriteProposalRefusal result
  | _, .released cause mark => buildReleasedPendingWriteAnswer cause mark
  | _, _ => .outcomeUnknown

/-- None while the execution still waits. -/
def Attempt.answered (attempt : Attempt) : Option WriteAnswer :=
  if attempt.deferral then some .deferred
  else if attempt.handingOff then none
  else
    match attempt.response with
    | .pending _ => none
    | .resolved verdict => some (.settled verdict)
    | .rejected rejection => some
        (if attempt.deferred then .deferred
        else unansweredWriteResult attempt.proposal rejection)

end LagrangeDb.Write
