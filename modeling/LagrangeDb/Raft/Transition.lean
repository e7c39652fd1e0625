import LagrangeDb.Raft.Store

namespace LagrangeDb.Raft

/-! Membership changes that an operation asks the leading replica to propose, and
the fence it keeps against permits that come too late. -/

structure TargetObservation where
  replicaIdentity : String
  peerId : Nat
  configurationKey : List (List Nat) × Bool
  (membershipGenerationIndex term : Nat)
deriving DecidableEq

/-- A promotion carries what its target reported of itself. -/
inductive TransitionStage where
  | addLearner
  | promote (target : TargetObservation)
  | remove
deriving DecidableEq

def TransitionStage.ordinal : TransitionStage → Nat
  | addLearner => 1
  | promote _ => 2
  | remove => 3

inductive ConfChangeType where
  | addNode
  | removeNode
  | addLearnerNode
deriving DecidableEq

structure ConfChangeStep where
  changeType : ConfChangeType
  nodeId : Nat

def committedMembershipChangeType : TransitionStage → ConfChangeType
  | .addLearner => .addLearnerNode
  | .promote _ => .addNode
  | .remove => .removeNode

structure TransitionCommand where
  (operationId transitionIdentity : String)
  permitSequence : Nat
  stage : TransitionStage
  replicaIdentity : String
  peerId : Nat
  (peerAddress replicaLifecycleIncarnation : String)
  (expectedRuntimeGeneration expectedLeaderTerm : Nat)
  expectedConfigurationKey : List (List Nat) × Bool
  expectedMembershipGenerationIndex : Nat
deriving DecidableEq

namespace TransitionCommand

def change (command : TransitionCommand) : List ConfChangeStep :=
  [⟨committedMembershipChangeType command.stage, command.peerId⟩]

def transitionFenceKey (command : TransitionCommand) : String :=
  command.operationId ++ "\x00" ++ command.transitionIdentity

end TransitionCommand

structure Core where
  term : Nat
  leads : Bool
  (commit applied pendingConfIndex : Nat)
  progress : List (Nat × Nat)
  confState : ConfState

structure TransitionFence where
  key : String
  (permitSequence stageOrdinal membershipGenerationIndex : Nat)

/-- The generation is the index of the configuration entry applied last. After a
snapshot that does not say it, it is not known. -/
structure Group where
  core : Core
  lifecycleIncarnation : String
  membershipGenerationIndex : Nat
  membershipGenerationKnown : Bool
  resolvePeerAddress : Nat → Option String
  membershipTransitionFence : Option TransitionFence

inductive MemberRole where
  | voter
  | learner
  | absent
deriving DecidableEq

def memberRole (confState : ConfState) (peerId : Nat) : MemberRole :=
  if (confState.voters ++ confState.votersOutgoing).contains peerId then .voter
  else if (confState.learners ++ confState.learnersNext).contains peerId then .learner
  else .absent

inductive TransitionAnswer where
  | alreadyVoter
  | alreadyLearner
  | alreadyAbsent
  | notLearner
  | identityMismatch
  | targetObservationStale
  | promotionProgressUnavailable
  | promotionProgressBehind
  | stalePermit
  | staleRuntime
  | staleLifecycle
  | staleLeadership
  | staleConfiguration
  | configurationGenerationUnavailable
  | staleDelivery
  | notLeader
  | removesLastVoter
  | confChangePending
deriving DecidableEq

def transitionRoleOutcome (command : TransitionCommand) (role : MemberRole) :
    Option TransitionAnswer :=
  match command.stage, role with
  | .addLearner, .voter | .promote _, .voter => some .alreadyVoter
  | .addLearner, .learner => some .alreadyLearner
  | .remove, .absent => some .alreadyAbsent
  | .promote _, .absent => some .notLearner
  | _, _ => none

def maxSafeIndex : Nat := 2 ^ 53 - 1

def canonicalIndexValue (value : Nat) : Option Nat :=
  if value ≤ maxSafeIndex then some value else none

/-- The decision table for a live leader, whose term and epoch are known. -/
def evaluateLearnerPromotionProof (committedIndex learnerMatchIndex
    leaderMembershipEpoch learnerMembershipEpoch : Nat) : Bool :=
  leaderMembershipEpoch = learnerMembershipEpoch && committedIndex ≤ learnerMatchIndex

def promotionRefusal (command : TransitionCommand) (core : Core) : Option TransitionAnswer :=
  match command.stage with
  | .addLearner | .remove => none
  | .promote target =>
    if target.replicaIdentity ≠ command.replicaIdentity ∨
        target.peerId ≠ command.peerId then some .identityMismatch
    else if target.term ≠ command.expectedLeaderTerm ∨
        target.configurationKey ≠ command.expectedConfigurationKey ∨
        target.membershipGenerationIndex ≠ command.expectedMembershipGenerationIndex then
      some .targetObservationStale
    else
      match canonicalIndexValue core.commit,
          (core.progress.lookup command.peerId).bind canonicalIndexValue with
      | some (committed + 1), some matched =>
        if evaluateLearnerPromotionProof (committed + 1) matched
            command.expectedMembershipGenerationIndex
            target.membershipGenerationIndex then none
        else some .promotionProgressBehind
      | _, _ => some .promotionProgressUnavailable

def leavesNoVoter (confState : ConfState) (steps : List ConfChangeStep) : Bool :=
  !steps.isEmpty && (steps.foldl (fun voters step =>
    match step.changeType with
    | .addNode => step.nodeId :: voters
    | .removeNode | .addLearnerNode => voters.filter (· ≠ step.nodeId))
    confState.voters).isEmpty

def Core.hasPendingConfChange (core : Core) : Bool := core.applied < core.pendingConfIndex

def confChangeProposalRefusal (core : Core) (steps : List ConfChangeStep) :
    Option TransitionAnswer :=
  let joint := !core.confState.votersOutgoing.isEmpty
  if !core.leads then some .notLeader
  else if leavesNoVoter core.confState steps then some .removesLastVoter
  else if !core.hasPendingConfChange && !(joint && !steps.isEmpty) then none
  else some .confChangePending

/-- The fence is kept for one operation and transition at a time, and for one
generation. -/
def staleTransitionFence (group : Group) (command : TransitionCommand) :
    Except TransitionAnswer TransitionFence :=
  let previous := group.membershipTransitionFence.filter fun retained =>
    retained.membershipGenerationIndex = group.membershipGenerationIndex &&
      retained.key = command.transitionFenceKey
  if previous.any fun retained => command.permitSequence < retained.permitSequence ||
      command.stage.ordinal < retained.stageOrdinal then .error .stalePermit
  else .ok {
    key := command.transitionFenceKey
    permitSequence := command.permitSequence
    stageOrdinal := command.stage.ordinal
    membershipGenerationIndex := group.membershipGenerationIndex
  }

def transitionOwnerRefusal (runtimeGeneration expectedGeneration : Nat)
    (group : Group) (command : TransitionCommand) : Option TransitionAnswer :=
  if command.expectedRuntimeGeneration ≠ runtimeGeneration ∨
      expectedGeneration ≠ runtimeGeneration then some .staleRuntime
  else if command.replicaLifecycleIncarnation ≠ group.lifecycleIncarnation then some .staleLifecycle
  else none

/-- Whether the command meets the facts it was decided on. -/
def transitionState (group : Group) (command : TransitionCommand) : Except TransitionAnswer Unit :=
  if !group.membershipGenerationKnown then .error .configurationGenerationUnavailable
  else if !group.core.leads ||
      canonicalIndexValue group.core.term ≠ some command.expectedLeaderTerm then
    .error .staleLeadership
  else if raftRsConfStateKey group.core.confState ≠ command.expectedConfigurationKey ∨
      group.membershipGenerationIndex ≠ command.expectedMembershipGenerationIndex then
    .error .staleConfiguration
  else if group.resolvePeerAddress command.peerId ≠ some command.peerAddress then
    .error .identityMismatch
  else
    match promotionRefusal command group.core with
    | some refusal => .error refusal
    | none => .ok ()

/-- The command is refused, or it passes the fence and then has an answer or is
handed to the native core. `admits` says whether the delivery still stood when
the command arrived and right before the native call. -/
def proposeMembershipTransition (runtimeGeneration expectedGeneration : Nat)
    (admits : Bool × Bool) (group : Group) (command : TransitionCommand) :
    Except TransitionAnswer (TransitionFence × Option TransitionAnswer) :=
  let delivery (admitted : Bool) : Option TransitionAnswer :=
    if admitted then none else some .staleDelivery
  match (transitionOwnerRefusal runtimeGeneration expectedGeneration group
      command).or (delivery admits.1) with
  | some refusal => .error refusal
  | none => do
    transitionState group command
    let fence ← staleTransitionFence group command
    let role := memberRole group.core.confState command.peerId
    return (fence, ((transitionRoleOutcome command role).or
      (confChangeProposalRefusal group.core command.change)).or (delivery admits.2))

/-- A command that passed the fence, with the group it met. Without an answer it was
handed to the native core, which may have appended it at an index. -/
structure Passage where
  command : TransitionCommand
  group : Group
  answer : Option TransitionAnswer
  anchor : Option Nat

def Passage.effect (passage : Passage) : Bool := passage.anchor.isSome

/-- The terms and indexes at which the core appended the proposals of the passages. -/
def anchors (passages : List Passage) : List (Nat × Nat) :=
  passages.filterMap fun passage =>
    passage.anchor.map fun index => (passage.command.expectedLeaderTerm, index)

/-- What happens to the core between two commands: elections, commits, applied entries
and snapshots. A replica that stepped down does not lead the term again, and the entry
that it appended in a term is there as long as it leads that term; the applied entry
sets the generation. The pending index of a new leader is its last index, which may
be reached without a configuration entry. -/
structure Group.Moves (appended : List (Nat × Nat)) (before after : Group) : Prop where
  fence : after.membershipTransitionFence = before.membershipTransitionFence
  term : before.core.term ≤ after.core.term
  generation : before.membershipGenerationIndex ≤ after.membershipGenerationIndex
  tenure : ∀ index, (before.core.term, index) ∈ appended →
    after.core.term = before.core.term → after.core.leads = true →
    before.core.leads = true ∧ before.core.pendingConfIndex ≤ after.core.pendingConfIndex
  settles : ∀ index, (before.core.term, index) ∈ appended →
    after.core.term = before.core.term → after.core.leads = true →
    before.core.applied < index → index ≤ after.core.applied →
    index ≤ after.membershipGenerationIndex

/-- What happens to the core after an answer: nothing, or the change is handed to
it and perhaps appended, behind every entry it has. -/
inductive Group.Takes (group : Group) : Option TransitionAnswer → Core → Option Nat → Prop
  | without (answer : Option TransitionAnswer) : Group.Takes group answer group.core none
  | anchored (unapplied : group.core.applied < index)
      (new : group.core.pendingConfIndex < index)
      (behind : group.membershipGenerationIndex < index) :
      Group.Takes group none { group.core with pendingConfIndex := index } (some index)

section

variable {group : Group} {core : Core} {answer : Option TransitionAnswer} {anchor : Option Nat}

theorem Group.Takes.unanswered (takes : group.Takes answer core (some index)) :
    answer = none := by
  cases takes
  rfl

def Group.fenced (group : Group) (fence : TransitionFence) (core : Core) : Group :=
  { group with core, membershipTransitionFence := some fence }

end

/-- The passages are the history of the run, the latest first. A refused command
leaves the group as it was. -/
inductive Runs (runtimeGeneration : Nat) (start : Group) :
    Group → List Passage → Prop
  | start : Runs runtimeGeneration start start []
  | moves
      (runs : Runs runtimeGeneration start group passages)
      (moves : group.Moves (anchors passages) after) : Runs runtimeGeneration start after passages
  | passes
      (runs : Runs runtimeGeneration start group passages)
      (passes : proposeMembershipTransition runtimeGeneration expectedGeneration
        admits group command = .ok (fence, answer))
      (takes : group.Takes answer core anchor) :
      Runs runtimeGeneration start (group.fenced fence core)
        (⟨command, group, answer, anchor⟩ :: passages)

/-- What the state of the group says where a command gets past it. -/
structure Meets (group : Group) (command : TransitionCommand) : Prop where
  leads : group.core.leads = true
  term : group.core.term = command.expectedLeaderTerm
  configuration : raftRsConfStateKey group.core.confState =
    command.expectedConfigurationKey
  generation : group.membershipGenerationIndex = command.expectedMembershipGenerationIndex
  matched : ∀ target, command.stage = .promote target →
    ∃ matched, group.core.progress.lookup command.peerId = some matched ∧
      group.core.commit ≤ matched

/-- The facts a command was decided on, at the group it is proposed to. -/
structure Warranted (group : Group) (command : TransitionCommand) : Prop extends
    Meets group command where
  settled : group.core.pendingConfIndex ≤ group.core.applied
  simple : group.core.confState.votersOutgoing = []
  learner : ∀ target, command.stage = .promote target →
    memberRole group.core.confState command.peerId = .learner
  voter : leavesNoVoter group.core.confState command.change = false

variable {runtimeGeneration expectedGeneration : Nat}
  {group : Group} {command : TransitionCommand}
  {fence : TransitionFence}

theorem canonicalIndexValue_some
    (canonical : canonicalIndexValue value = some index) : value = index := by
  unfold canonicalIndexValue at canonical
  split at canonical
  · exact Option.some.inj canonical
  · cases canonical

theorem promotionRefusal_none (granted : promotionRefusal command group.core = none) (promotes : command.stage = .promote target) :
    ∃ matched, group.core.progress.lookup command.peerId = some matched ∧
      group.core.commit ≤ matched := by
  simp only [promotionRefusal, promotes] at granted
  split at granted
  · cases granted
  split at granted
  · cases granted
  split at granted
  on_goal 2 => cases granted
  next committed matched isCommitted isMatched =>
  split at granted
  on_goal 2 => cases granted
  next proof =>
  simp only [evaluateLearnerPromotionProof, Bool.and_eq_true, decide_eq_true_eq] at proof
  obtain ⟨found, isFound, canonical⟩ := Option.bind_eq_some_iff.mp isMatched
  refine ⟨found, isFound, ?_⟩
  rw [canonicalIndexValue_some isCommitted, canonicalIndexValue_some canonical]
  exact proof.2

theorem transitionState_ok (state : transitionState group command = .ok ()) :
    Meets group command := by
  unfold transitionState at state
  split at state
  · cases state
  split at state
  · cases state
  next leads =>
  split at state
  · cases state
  next configured =>
  split at state
  · cases state
  split at state
  · cases state
  next granted =>
  simp only [Bool.or_eq_true, Bool.not_eq_true', decide_eq_true_eq, not_or,
    Bool.not_eq_false, ne_eq, not_not] at leads configured
  exact ⟨leads.1, canonicalIndexValue_some leads.2, configured.1, configured.2,
    fun _ => promotionRefusal_none granted⟩

theorem confChangeProposalRefusal_none
    (taken : confChangeProposalRefusal group.core command.change = none) :
    leavesNoVoter group.core.confState command.change = false ∧
      group.core.pendingConfIndex ≤ group.core.applied ∧
      group.core.confState.votersOutgoing = [] := by
  simp only [confChangeProposalRefusal] at taken
  split at taken
  · cases taken
  split at taken
  · cases taken
  next voter =>
  split at taken
  on_goal 2 => cases taken
  next settled =>
  refine ⟨by simpa using voter, ?_⟩
  simpa [Core.hasPendingConfChange, TransitionCommand.change] using settled

theorem proposeMembershipTransition_ok
    (passes : proposeMembershipTransition runtimeGeneration expectedGeneration
      admits group command = .ok (fence, answer)) :
    staleTransitionFence group command = .ok fence ∧ Meets group command ∧
      (answer = none → Warranted group command) := by
  unfold proposeMembershipTransition at passes
  dsimp only at passes
  split at passes
  · cases passes
  obtain ⟨_, isState, passes⟩ := Data.Result.ok_of_bind passes
  have meets := transitionState_ok isState
  obtain ⟨found, isFound, passes⟩ := Data.Result.ok_of_bind passes
  cases passes
  refine ⟨isFound, meets, fun unanswered => ?_⟩
  obtain ⟨unanswered, -⟩ := Option.or_eq_none_iff.mp unanswered
  obtain ⟨role, taken⟩ := Option.or_eq_none_iff.mp unanswered
  obtain ⟨voter, settled, simple⟩ := confChangeProposalRefusal_none taken
  refine ⟨meets, settled, simple, fun target promotes => ?_, voter⟩
  cases isRole : memberRole group.core.confState command.peerId <;>
    simp [transitionRoleOutcome, promotes, isRole] at role ⊢

/-- A command whose proposal was appended meets no group like the one it was proposed
to again: the term has gone on, the entry has set the generation, or it is still
unapplied while the replica leads. -/
def Spent (command : TransitionCommand) (index : Nat) (group : Group) : Prop :=
  command.expectedLeaderTerm < group.core.term ∨
    group.core.term = command.expectedLeaderTerm ∧
      command.expectedMembershipGenerationIndex < index ∧
      (index ≤ group.membershipGenerationIndex ∨
        (group.core.leads = true →
          group.core.applied < index ∧ index ≤ group.core.pendingConfIndex))

variable {index : Nat}

theorem Warranted.not_spent (warranted : Warranted group command) :
    ¬Spent command index group := by
  have generation := warranted.generation
  rintro (term | ⟨-, behind, set | unapplied⟩)
  · exact absurd warranted.term (by omega)
  · omega
  have := unapplied warranted.leads
  have := warranted.settled
  omega

theorem Spent.moves {after : Group} (spent : Spent command index group)
    (appended : (command.expectedLeaderTerm, index) ∈ anchors passages)
    (moves : group.Moves (anchors passages) after) : Spent command index after := by
  have term := moves.term
  have generation := moves.generation
  rcases spent with later | ⟨isTerm, behind, spent⟩
  · exact .inl (by omega)
  rw [← isTerm] at appended
  by_cases same : after.core.term = group.core.term
  on_goal 2 => exact .inl (by omega)
  refine .inr ⟨by omega, behind, ?_⟩
  rcases spent with set | unapplied
  · exact .inl (by omega)
  by_cases leads : after.core.leads = true
  on_goal 2 => exact .inr fun led => absurd led leads
  obtain ⟨led, pending⟩ := moves.tenure index appended same leads
  obtain ⟨unapplied, pends⟩ := unapplied led
  by_cases applied : index ≤ after.core.applied
  · exact .inl (moves.settles index appended same leads unapplied applied)
  · exact .inr fun _ => by omega

variable {core : Core} {answer : Option TransitionAnswer} {anchor : Option Nat}

theorem Spent.fenced (spent : Spent command index group) (takes : group.Takes answer core anchor) :
    Spent command index (group.fenced fence core) := by
  cases takes with
  | without => exact spent
  | anchored unapplied new behind =>
    rcases spent with later | ⟨term, least, spent⟩
    · exact .inl later
    refine .inr ⟨term, least, spent.imp_right fun pends leads => ?_⟩
    have := pends leads
    exact ⟨this.1, by simp only [Group.fenced]; omega⟩

theorem Warranted.spent (warranted : Warranted group command)
    (takes : group.Takes answer core (some index)) :
    Spent command index (group.fenced fence core) := by
  have generation := warranted.generation
  cases takes with
  | anchored unapplied new behind =>
    exact .inr ⟨warranted.term, by omega, .inr fun _ => ⟨unapplied, le_rfl⟩⟩

/-- The fence a command meets was left by a command of its own operation and
transition, in the present generation, unless it is the first of them. -/
def Undisturbed : List Passage → Prop
  | [] => True
  | passage :: earlier =>
    ((∃ other ∈ earlier, other.command.transitionFenceKey = passage.command.transitionFenceKey) →
      ∃ fence, passage.group.membershipTransitionFence = some fence ∧
        fence.key = passage.command.transitionFenceKey ∧
        fence.membershipGenerationIndex = passage.command.expectedMembershipGenerationIndex) ∧
      Undisturbed earlier

def InOrder (later earlier : Passage) : Prop :=
  earlier.command.transitionFenceKey = later.command.transitionFenceKey →
    earlier.command.permitSequence ≤ later.command.permitSequence ∧
      earlier.command.stage.ordinal ≤ later.command.stage.ordinal

def FenceAhead (fence : TransitionFence) (passages : List Passage) : Prop :=
  ∀ passage ∈ passages, passage.command.transitionFenceKey = fence.key →
    passage.command.permitSequence ≤ fence.permitSequence ∧
      passage.command.stage.ordinal ≤ fence.stageOrdinal

structure History (group : Group) (passages : List Passage) : Prop where
  warranted : ∀ passage ∈ passages, passage.answer = none → Warranted passage.group passage.command
  spent : ∀ passage ∈ passages, ∀ index, passage.anchor = some index →
    Spent passage.command index group
  once : passages.Pairwise fun later earlier => later.effect = true →
    earlier.effect = true → later.command ≠ earlier.command
  ordered : Undisturbed passages → passages.Pairwise InOrder ∧
    ∀ fence, group.membershipTransitionFence = some fence → FenceAhead fence passages

variable {passages : List Passage}

theorem staleTransitionFence_some
    (passes : staleTransitionFence group command = .ok fence) :
    fence = ⟨command.transitionFenceKey, command.permitSequence,
      command.stage.ordinal, group.membershipGenerationIndex⟩ ∧
    ∀ retained, group.membershipTransitionFence = some retained →
      retained.key = command.transitionFenceKey →
      retained.membershipGenerationIndex = group.membershipGenerationIndex →
      retained.permitSequence ≤ command.permitSequence ∧
        retained.stageOrdinal ≤ command.stage.ordinal := by
  unfold staleTransitionFence at passes
  dsimp only at passes
  split at passes
  · cases passes
  next fresh =>
  refine ⟨(Except.ok.inj passes).symm, ?_⟩
  intro retained isRetained key same
  simpa [isRetained, key, same] using fresh

theorem History.ordered_cons (history : History group passages)
    (passes : staleTransitionFence group command = .ok fence) (meets : Meets group command)
    (undisturbed : Undisturbed (⟨command, group, answer, anchor⟩ :: passages)) :
    (Passage.mk command group answer anchor :: passages).Pairwise InOrder ∧
      FenceAhead fence (⟨command, group, answer, anchor⟩ :: passages) := by
  obtain ⟨kept, before⟩ := undisturbed
  obtain ⟨pairwise, ahead⟩ := history.ordered before
  obtain ⟨rfl, fresh⟩ := staleTransitionFence_some passes
  have latest : ∀ earlier ∈ passages, earlier.command.transitionFenceKey =
      command.transitionFenceKey →
      earlier.command.permitSequence ≤ command.permitSequence ∧
        earlier.command.stage.ordinal ≤ command.stage.ordinal := by
    intro earlier member same
    obtain ⟨retained, isRetained, key, generation⟩ := kept ⟨earlier, member, same⟩
    have below := ahead retained isRetained earlier member (same.trans key.symm)
    have above := fresh retained isRetained key (generation.trans meets.generation.symm)
    omega
  refine ⟨.cons latest pairwise, ?_⟩
  intro passage member same
  rcases List.mem_cons.mp member with rfl | member
  · exact ⟨le_rfl, le_rfl⟩
  · exact latest passage member same

theorem Runs.history {start : Group} (runs : Runs runtimeGeneration start group passages) :
    History group passages := by
  induction runs with
  | start => exact ⟨by simp, by simp, .nil, fun _ => ⟨.nil, by simp [FenceAhead]⟩⟩
  | @moves group passages after runs moves history =>
    refine ⟨history.warranted, fun passage member index isAnchor => ?_, history.once, ?_⟩
    · refine (history.spent passage member index isAnchor).moves ?_ moves
      exact List.mem_filterMap.mpr ⟨passage, member, by rw [isAnchor]; rfl⟩
    · rw [moves.fence]
      exact history.ordered
  | passes runs passes takes history =>
    obtain ⟨fresh, meets, warranted⟩ := proposeMembershipTransition_ok passes
    refine ⟨?_, ?_, .cons ?_ history.once, fun undisturbed => ?_⟩
    · intro passage member proposed
      rcases List.mem_cons.mp member with rfl | member
      · exact warranted proposed
      · exact history.warranted passage member proposed
    · intro passage member index isAnchor
      rcases List.mem_cons.mp member with rfl | member
      · obtain rfl : _ = some index := isAnchor
        exact (warranted takes.unanswered).spent takes
      · exact (history.spent passage member index isAnchor).fenced takes
    · rintro earlier member effective before rfl
      obtain ⟨index, rfl⟩ := Option.isSome_iff_exists.mp effective
      obtain ⟨index', isAnchor⟩ := Option.isSome_iff_exists.mp before
      exact (warranted takes.unanswered).not_spent (history.spent earlier member index' isAnchor)
    · obtain ⟨pairwise, ahead⟩ := history.ordered_cons fresh meets undisturbed
      exact ⟨pairwise, fun _ isFence => Option.some.inj isFence ▸ ahead⟩

/-- Every proposal is made under the facts of its command, a command takes effect
once, and as long as the fence is left to one operation at a time no command
passes it after a later one. -/
theorem proposals_warranted_once_in_order {start : Group}
    (runs : Runs runtimeGeneration start group passages) :
    (∀ passage ∈ passages, passage.answer = none → Warranted passage.group passage.command) ∧
    (passages.Pairwise fun later earlier => later.effect = true →
      earlier.effect = true → later.command ≠ earlier.command) ∧
    (Undisturbed passages → passages.Pairwise InOrder) :=
  ⟨runs.history.warranted, runs.history.once,
    fun undisturbed => (runs.history.ordered undisturbed).1⟩

namespace Learners

def confState : ConfState := ⟨[1], [], [], [], false⟩

def start : Group where
  core := ⟨1, true, 1, 1, 1, [], confState⟩
  lifecycleIncarnation := "first"
  membershipGenerationIndex := 1
  membershipGenerationKnown := true
  resolvePeerAddress := fun _ => some "node"
  membershipTransitionFence := none

def adding (operationId : String) (peerId permitSequence : Nat) : TransitionCommand where
  operationId
  transitionIdentity := "learners"
  permitSequence
  stage := .addLearner
  replicaIdentity := "replica"
  peerId
  peerAddress := "node"
  replicaLifecycleIncarnation := "first"
  expectedRuntimeGeneration := 0
  expectedLeaderTerm := 1
  expectedConfigurationKey := raftRsConfStateKey confState
  expectedMembershipGenerationIndex := 1

def fenced (operationId : String) (permitSequence : Nat) : Group :=
  start.fenced ⟨operationId ++ "\x00" ++ "learners", permitSequence, 1, 1⟩ start.core

/-- The core drops what is handed to it while its leadership is transferred. -/
def dropped (operationId : String) (peerId permitSequence : Nat) (group : Group) : Passage :=
  ⟨adding operationId peerId permitSequence, group, none, none⟩

def taken (operationId : String) (peerId permitSequence : Nat) (group : Group) : Passage :=
  ⟨adding operationId peerId permitSequence, group, none, some 2⟩

/-- The fence of the newer command is overwritten by another operation, and the older
one of the same generation is proposed after it. -/
theorem older_permit_proposed : (∃ group, Runs 0 start group
      [taken "grow" 3 1 (fenced "repair" 1), dropped "repair" 4 1 (fenced "grow" 2),
        dropped "grow" 2 2 start]) ∧
    (adding "grow" 3 1).transitionFenceKey = (adding "grow" 2 2).transitionFenceKey ∧
    (adding "grow" 3 1).permitSequence < (adding "grow" 2 2).permitSequence := by
  have newer : Runs 0 start (fenced "grow" 2) [dropped "grow" 2 2 start] :=
    .passes .start (rfl : proposeMembershipTransition 0 0 (true, true) start
      (adding "grow" 2 2) = .ok (_, none)) (.without none)
  have other : Runs 0 start (fenced "repair" 1)
      [dropped "repair" 4 1 (fenced "grow" 2), dropped "grow" 2 2 start] :=
    .passes newer (rfl : proposeMembershipTransition 0 0 (true, true) (fenced "grow" 2)
      (adding "repair" 4 1) = .ok (_, none)) (.without none)
  have older : Runs 0 start _ [taken "grow" 3 1 (fenced "repair" 1),
      dropped "repair" 4 1 (fenced "grow" 2), dropped "grow" 2 2 start] :=
    .passes other (rfl : proposeMembershipTransition 0 0 (true, true) (fenced "repair" 1)
      (adding "grow" 3 1) = .ok (_, none)) (.anchored (by decide) (by decide) (by decide))
  exact ⟨⟨_, older⟩, rfl, by decide⟩

theorem permits_in_order :
    Undisturbed [taken "grow" 2 2 (fenced "grow" 1), dropped "grow" 2 1 start] ∧
    Warranted (fenced "grow" 1) (adding "grow" 2 2) ∧
    [taken "grow" 2 2 (fenced "grow" 1), dropped "grow" 2 1 start].Pairwise InOrder := by
  have older : Runs 0 start (fenced "grow" 1) [dropped "grow" 2 1 start] :=
    .passes .start (rfl : proposeMembershipTransition 0 0 (true, true) start
      (adding "grow" 2 1) = .ok (_, none)) (.without none)
  have runs : Runs 0 start _ [taken "grow" 2 2 (fenced "grow" 1), dropped "grow" 2 1 start] :=
    .passes older (rfl : proposeMembershipTransition 0 0 (true, true) (fenced "grow" 1)
      (adding "grow" 2 2) = .ok (_, none)) (.anchored (by decide) (by decide) (by decide))
  have undisturbed :
      Undisturbed [taken "grow" 2 2 (fenced "grow" 1), dropped "grow" 2 1 start] :=
    ⟨fun _ => ⟨_, rfl, rfl, rfl⟩, by simp, trivial⟩
  obtain ⟨warranted, -, ordered⟩ := proposals_warranted_once_in_order runs
  exact ⟨undisturbed, warranted _ List.mem_cons_self rfl, ordered undisturbed⟩

end Learners

end LagrangeDb.Raft
