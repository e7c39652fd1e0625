import LagrangeDb.Rebalancer.ReplicaRows

namespace LagrangeDb.Rebalancer

inductive OperationType where
  | add
  | remove
  | replace
deriving DecidableEq

inductive WorkflowStep where
  | pending
  | sending
  | creating
  | syncing
  | active
  | stopping
  | removed
  | failed
deriving DecidableEq

structure Operation where
  operationId : String
  type : OperationType
  workflowStep : WorkflowStep
  (replicaId sourceReplicaId targetNodeId : Option String)
deriving DecidableEq

namespace Operation

def isRemoveInitialDispatchPhase (operation : Operation) : Bool :=
  operation.type = .remove && operation.workflowStep ∈ [WorkflowStep.pending, .sending, .active]

def isReplaceRemoveDispatchPhase (operation : Operation) : Bool :=
  operation.type = .replace && operation.workflowStep ∈ [WorkflowStep.active, .stopping]

def given (id : Option String) : Option String := id.filter fun id => !id.isEmpty

def getReplaceTargetReplicaId (operation : Operation) : Option String :=
  if operation.type = .replace ∧ present operation.sourceReplicaId ∧
      operation.replicaId ≠ operation.sourceReplicaId then
    given operation.replicaId
  else none

def operationReplicaId (operation : Operation) : Option String :=
  if operation.type = .replace then given operation.sourceReplicaId
  else given operation.replicaId

def replacementReplicaId (operation : Operation) : Option String :=
  if operation.type = .replace then
    operation.getReplaceTargetReplicaId <|> given operation.replicaId
  else none

end Operation

structure Classification where
  (systemTable priorityControlPlane : Bool)
  /-- A REPLACE hands the leadership of its source over first. -/
  handoffRequired : Bool
  priority_system : priorityControlPlane = true → systemTable = true

structure Completion where
  (operationReadDeferred blocked : Bool)
deriving DecidableEq

structure PartitionSummary where
  requiredDistinctNodeCount : Option Nat
  spreadGap : Bool
deriving DecidableEq

structure Planning where
  publishedActiveNodeIds : List String
  publishedActiveNodeIdsPresent : Bool
  (recoveryActiveNodeIds projectedServingNodeIds locallyEligibleNodeIds : List String)
  supersededTarget : Bool
  completion : Option Completion
  priorityPartitionSummary : Option PartitionSummary
deriving DecidableEq

namespace Planning

def isPriorityRecoveryRemoveSafetySatisfied (planning : Planning) : Bool :=
  planning.completion.any fun completion => !completion.operationReadDeferred && !completion.blocked

def recoveryProjectionNodeIds (planning : Planning) : List String :=
  normalizeNodeIdList (planning.recoveryActiveNodeIds ++
    planning.projectedServingNodeIds ++ planning.locallyEligibleNodeIds)

/-- The nodes that are members: the published ones, or those the recovery is about
to publish. -/
def membershipNodeIds (planning : Planning) (rows : List ServiceRow) : List String :=
  let published := normalizeNodeIdList planning.publishedActiveNodeIds
  let recovery := planning.recoveryProjectionNodeIds
  let missing := (normalizeReplicaRowNodeIds rows).filter (· ∉ published)
  let covers := !missing.isEmpty && missing.all (· ∈ recovery)
  let spreadGap := planning.priorityPartitionSummary.any PartitionSummary.spreadGap
  if !recovery.isEmpty && (spreadGap || covers) then recovery else published

end Planning

inductive Refusal where
  | concurrentOperation (operationId : String)
  | safetyCheckUnavailable
  | replacementUnavailable
  | replacementNotVoterReady (replicaId : String)
  | supersededTarget
  | belowMinimum (projected minimum : Nat)
  | membershipUnavailable
  | operationVisibilityDeferred
  | membershipMissing (nodeIds : List String)
  | belowSpread (projected required : Nat)
  | leadership
  | peerUncontactable (nodeId : String)
deriving DecidableEq

/-- Whether a refused removal is tried again or fails is not told apart. -/
inductive Evaluation where
  | safe
  | refused (refusal : Refusal)
deriving DecidableEq

/-- The second evaluation is made if the first one passes. -/
def Evaluation.andThen (first second : Evaluation) : Evaluation :=
  match first with
  | safe => second
  | refused refusal => refused refusal

structure Input where
  operation : Operation
  classification : Classification
  operations : List Operation
  isOperationTerminal : Operation → Bool
  /-- The configured timeout of the operation's step has passed. -/
  (isDrainStepStale isTargetMarkedFailed : Operation → Bool)
  nodeId : String
  hasRouter : Bool
  ping : String → Bool
  authoritativeRows : Option (List ServiceRow)
  cachedRows : List ServiceRow
  readiness : Readiness
  minReplicaCount : Nat
  planning : Option Planning
  /-- What the gate of leadership answers, if it applies. -/
  leaderSafety : Option Evaluation

namespace Input

variable (input : Input)

/-- A REPLACE in its last phases has no time budget. -/
def isReplaceExemptFromTimeBudget (operation : Operation) : Bool :=
  operation.isReplaceRemoveDispatchPhase

def isConcurrentOperationStalePastStepTimeout (operation : Operation) : Bool :=
  if isReplaceExemptFromTimeBudget operation then input.isTargetMarkedFailed operation
  else input.isDrainStepStale operation

def isPinged (operation : Operation) : Bool :=
  operation.targetNodeId.all fun nodeId =>
    nodeId.isEmpty || nodeId = input.nodeId || !input.hasRouter || input.ping nodeId

def isConcurrentOperationTargetUncontactable (operation : Operation) : Bool :=
  if isReplaceExemptFromTimeBudget operation then input.isTargetMarkedFailed operation
  else !input.isPinged operation

def concurrentActiveOperation : Option Operation :=
  input.operations.find? fun operation =>
    !(operation.operationId = input.operation.operationId || input.isOperationTerminal operation ||
        input.isConcurrentOperationStalePastStepTimeout operation) &&
      !input.isConcurrentOperationTargetUncontactable operation

def criticalReplicaRows : List ServiceRow :=
  getCriticalReplicaRowsForSafety input.authoritativeRows input.cachedRows

def voterReady (rows : List ServiceRow) : List ServiceRow :=
  rows.filter input.readiness.isVoterReadyFloorCountableReplica

def currentVoterReadyRows : List ServiceRow := input.voterReady input.criticalReplicaRows

def others (replicaId : String) (rows : List ServiceRow) : List ServiceRow :=
  rows.filter fun row => !row.isOperationReplicaRow replicaId

def projectedVoterReadyRows (replicaId : String) : List ServiceRow :=
  others replicaId input.currentVoterReadyRows

def replacementReplicaRow : Option ServiceRow :=
  input.operation.replacementReplicaId.bind fun replicaId =>
    input.criticalReplicaRows.find? fun row => row.isOperationReplicaRow replicaId

/-- Topology is evidence enough for the replacement of a priority partition. -/
def isPriorityActiveReplaceTopologyVoterEvidenceSufficient (row : ServiceRow) : Bool :=
  input.operation.type = .replace && input.operation.workflowStep = .active &&
    input.classification.priorityControlPlane && isVoterReadyReplicaTopology row

def isReplacementVoterReady (completionSafe : Bool) (row : ServiceRow) : Bool :=
  if completionSafe then isVoterReadyReplicaTopology row
  else input.readiness.isVoterReadyRoutableReplica row ||
    input.isPriorityActiveReplaceTopologyVoterEvidenceSufficient row

def evaluateReplaceReplacementVoterReady (completionSafe : Bool) : Evaluation :=
  match input.operation.replacementReplicaId with
  | none => .refused .replacementUnavailable
  | some replicaId =>
    if input.replacementReplicaRow.any
        (input.isReplacementVoterReady completionSafe) then .safe
    else .refused (.replacementNotVoterReady replicaId)

def evaluateProjectedPeersContactable (rows : List ServiceRow) : Evaluation :=
  if !input.hasRouter then .safe
  else
    match (rows.filterMap fun row => Operation.given row.nodeId).find? fun nodeId =>
        nodeId ≠ input.nodeId && !input.ping nodeId with
    | some nodeId => .refused (.peerUncontactable nodeId)
    | none => .safe

def simpleFloor (rows : List ServiceRow) : Evaluation :=
  if input.minReplicaCount ≤ rows.length then .safe
  else .refused (.belowMinimum rows.length input.minReplicaCount)

/-- The nodes that the recovery counts on may stand for rows. -/
def completionSafeFloor (planning : Option Planning) (rows : List ServiceRow) : Evaluation :=
  let projected := match planning with
    | none => rows.length
    | some planning => max rows.length planning.recoveryProjectionNodeIds.length
  if input.minReplicaCount ≤ projected then .safe
  else .refused (.belowMinimum projected input.minReplicaCount)

/-- A step may keep the spread or close a gap of it. -/
def publishedSpread (required : Option Nat) (current projected : List ServiceRow) : Evaluation :=
  match required with
  | none => .safe
  | some required =>
    let needed := if current.isEmpty then required
      else min (normalizeReplicaRowNodeIds current).length required
    if required ≤ 1 ∨ needed ≤ (normalizeReplicaRowNodeIds projected).length then .safe
    else .refused
      (.belowSpread (normalizeReplicaRowNodeIds projected).length needed)

def evaluateUniversalPartitionRemoveSafety (replicaId : String) : Evaluation :=
  let rows := input.projectedVoterReadyRows replicaId
  (if input.operation.isReplaceRemoveDispatchPhase then
    input.evaluateReplaceReplacementVoterReady false
  else input.simpleFloor rows).andThen
    (input.evaluateProjectedPeersContactable rows)

end Input

namespace Input

variable (input : Input)

/-- The planning snapshot is read for priority partitions only. -/
def priorityPlanning : Option Planning :=
  if input.classification.priorityControlPlane then input.planning else none

def evaluatePriorityRecoveryCompletionRemoveSafety : Option Evaluation :=
  input.priorityPlanning.bind fun planning =>
    if planning.supersededTarget then some (.refused .supersededTarget)
    else if planning.isPriorityRecoveryRemoveSafetySatisfied then some .safe
    else none

def priorityRecoveryCompletionSafe : Bool :=
  input.evaluatePriorityRecoveryCompletionRemoveSafety = some .safe

def evaluatePriorityPublishedMembershipRemoveSafety (replicaId : String) : Evaluation :=
  let rows := input.projectedVoterReadyRows replicaId
  if !input.classification.priorityControlPlane then .safe
  else
    match input.planning with
    | none => .refused .membershipUnavailable
    | some planning =>
      if planning.isPriorityRecoveryRemoveSafetySatisfied then .safe
      else if planning.supersededTarget then .refused .supersededTarget
      else if planning.completion.any Completion.operationReadDeferred then
        .refused .operationVisibilityDeferred
      else if !(planning.publishedActiveNodeIdsPresent ||
          !(normalizeNodeIdList planning.publishedActiveNodeIds).isEmpty) &&
          planning.recoveryProjectionNodeIds.isEmpty && !rows.isEmpty then
        .refused .membershipUnavailable
      else
        let missing := (normalizeReplicaRowNodeIds rows).filter
          (· ∉ planning.membershipNodeIds rows)
        if !missing.isEmpty then .refused (.membershipMissing missing)
        else
          match planning.priorityPartitionSummary with
          | none => .safe
          | some summary => publishedSpread summary.requiredDistinctNodeCount
              input.currentVoterReadyRows rows

def requiresSourceLeaderHandoff : Bool :=
  input.operation.type = .replace && input.classification.handoffRequired

/-- The floors of a system partition, and the gates of leadership and peers. -/
def evaluateSystemFloors (replicaId : String) : Evaluation :=
  let completionSafe := input.priorityRecoveryCompletionSafe
  let rows := input.projectedVoterReadyRows replicaId
  (if completionSafe then .safe
    else (input.simpleFloor rows).andThen
      (input.evaluatePriorityPublishedMembershipRemoveSafety replicaId)).andThen
    ((if input.leaderSafety = some .safe && completionSafe &&
        input.classification.priorityControlPlane then
      input.completionSafeFloor input.priorityPlanning rows
    else .safe).andThen
      ((input.leaderSafety.getD .safe).andThen (input.evaluateProjectedPeersContactable rows)))

/-- What is said of the completed recovery is the answer, except where the
leadership has to be handed over still. -/
def evaluateSystemPartitionRemoveSafety (replicaId : String) : Evaluation :=
  let completionSafe := input.priorityRecoveryCompletionSafe
  (if input.operation.isReplaceRemoveDispatchPhase then
    input.evaluateReplaceReplacementVoterReady completionSafe
  else .safe).andThen
    (if input.requiresSourceLeaderHandoff && completionSafe then
      input.evaluateSystemFloors replicaId
    else input.evaluatePriorityRecoveryCompletionRemoveSafety.getD
      (input.evaluateSystemFloors replicaId))

def evaluateRemoveSafety : Evaluation :=
  if !input.operation.isRemoveInitialDispatchPhase &&
      !input.operation.isReplaceRemoveDispatchPhase then .safe
  else
    match input.concurrentActiveOperation with
    | some other => .refused (.concurrentOperation other.operationId)
    | none =>
      match input.operation.operationReplicaId with
      | none => .refused .safetyCheckUnavailable
      | some replicaId =>
        let removingVoterReady := input.currentVoterReadyRows.any
          fun row => row.isOperationReplicaRow replicaId
        if input.criticalReplicaRows.isEmpty then .refused .safetyCheckUnavailable
        else if !removingVoterReady && !input.requiresSourceLeaderHandoff then .safe
        else if !input.classification.systemTable then
          input.evaluateUniversalPartitionRemoveSafety replicaId
        else input.evaluateSystemPartitionRemoveSafety replicaId

end Input

end LagrangeDb.Rebalancer
