import LagrangeDb.Rebalancer.RemoveSafety

namespace LagrangeDb.Rebalancer

/-! A removal that is found safe leaves the partition above its floors. -/

structure Input.Removes (input : Input) (replicaId : String) : Prop where
  dispatched : input.operation.isRemoveInitialDispatchPhase = true ∨
    input.operation.isReplaceRemoveDispatchPhase = true
  removed : input.operation.operationReplicaId = some replicaId
  voterReady : input.currentVoterReadyRows.any
    (fun row => row.isOperationReplicaRow replicaId) = true

structure Input.Floors (input : Input) (replicaId : String) : Prop where
  minimum : input.operation.type = .remove →
    ∀ rows, input.authoritativeRows = some rows →
      input.minReplicaCount ≤ (Input.others replicaId (input.voterReady rows)).length
  replacement : input.operation.type = .replace → ∃ replacementId,
    input.operation.replacementReplicaId = some replacementId ∧
      ∃ row ∈ input.projectedVoterReadyRows replicaId,
        row.isOperationReplicaRow replacementId = true
  spread : input.classification.priorityControlPlane = true →
    ∀ planning summary required, input.planning = some planning →
      planning.priorityPartitionSummary = some summary →
      summary.requiredDistinctNodeCount = some required →
      min (normalizeReplicaRowNodeIds input.currentVoterReadyRows).length required ≤
        (normalizeReplicaRowNodeIds (input.projectedVoterReadyRows replicaId)).length
  alone : ∀ other ∈ input.operations,
    other.operationId = input.operation.operationId ∨ input.isOperationTerminal other = true ∨
      input.isDrainStepStale other = true ∨
      input.isPinged other = false ∨
      input.isTargetMarkedFailed other = true

/-- The row is another replica's that counts. -/
def Input.remains (input : Input) (replicaId : String) (row : ServiceRow) : Bool :=
  !row.isOperationReplicaRow replicaId && input.readiness.isVoterReadyFloorCountableReplica row

/-- The cache makes no other replica of a plain REMOVE count, the recovery is not
taken for complete, and the replacement is another replica on a node that is ready. -/
structure Input.Trusted (input : Input) (replicaId : String) : Prop where
  current : input.operation.type = .remove → ∀ rows, input.authoritativeRows = some rows →
    rows ≠ [] ∧ Grounded (input.remains replicaId) rows input.cachedRows
  incomplete : input.classification.priorityControlPlane = true →
    ∀ planning, input.planning = some planning →
      planning.isPriorityRecoveryRemoveSafetySatisfied = false
  replacement : ∀ replacementId, input.operation.replacementReplicaId = some replacementId →
    ∀ row ∈ input.criticalReplicaRows, row.isOperationReplicaRow replacementId = true →
      row.isOperationReplicaRow replicaId = false ∧
        (isVoterReadyReplicaTopology row = true →
          input.readiness.isVoterReadyFloorCountableReplica row = true)
  positive : input.classification.priorityControlPlane = true → 0 < input.minReplicaCount
  named : input.classification.priorityControlPlane = true →
    ∀ row ∈ input.currentVoterReadyRows, normalizeReplicaRowNodeIds [row] ≠ []

theorem Evaluation.andThen_eq_safe {first second : Evaluation} :
    first.andThen second = .safe ↔ first = .safe ∧ second = .safe := by
  cases first with
  | safe => simp [andThen]
  | refused refusal => simp [andThen]

namespace Input

variable {input : Input} {replicaId : String}

theorem alone_of_none (none : input.concurrentActiveOperation = none) : ∀ other ∈ input.operations,
      other.operationId = input.operation.operationId ∨ input.isOperationTerminal other = true ∨
        input.isDrainStepStale other = true ∨ input.isPinged other = false ∨
        input.isTargetMarkedFailed other = true := by
  intro other member
  have passed := List.find?_eq_none.mp none other member
  simp only [isConcurrentOperationStalePastStepTimeout,
    isConcurrentOperationTargetUncontactable] at passed
  cases isReplaceExemptFromTimeBudget other <;> simp at passed <;> grind

variable {rows : List ServiceRow}

theorem simpleFloor_safe (safe : input.simpleFloor rows = .safe) :
    input.minReplicaCount ≤ rows.length := by
  unfold simpleFloor at safe
  split at safe
  · assumption
  · cases safe

variable {required : Nat}

theorem publishedSpread_safe
    (safe : publishedSpread (some required) current projected = .safe) (some_row : current ≠ []) :
    required ≤ 1 ∨ min (normalizeReplicaRowNodeIds current).length required ≤
      (normalizeReplicaRowNodeIds projected).length := by
  have filled : current.isEmpty = false := by simpa using some_row
  simp only [publishedSpread, filled, Bool.false_eq_true, if_false] at safe
  split at safe
  · assumption
  · cases safe

theorem mem_projected {row : ServiceRow} : row ∈ input.projectedVoterReadyRows replicaId ↔
      row ∈ input.criticalReplicaRows ∧
        input.readiness.isVoterReadyFloorCountableReplica row = true ∧
        row.isOperationReplicaRow replicaId = false := by
  simp only [projectedVoterReadyRows, others, currentVoterReadyRows, voterReady,
    List.mem_filter, and_assoc, Bool.not_eq_true']

section

variable (trusted : input.Trusted replicaId)

include trusted

theorem replacement_safe (safe : input.evaluateReplaceReplacementVoterReady false = .safe) :
    ∃ replacementId, input.operation.replacementReplicaId = some replacementId ∧
      ∃ row ∈ input.projectedVoterReadyRows replicaId,
        row.isOperationReplicaRow replacementId = true := by
  unfold evaluateReplaceReplacementVoterReady at safe
  cases named : input.operation.replacementReplicaId with
  | none =>
    rw [named] at safe
    cases safe
  | some replacementId =>
    rw [named] at safe
    dsimp only at safe
    split at safe
    · next ready =>
      obtain ⟨row, found, ready⟩ := Option.any_eq_true _ _ |>.mp ready
      simp only [replacementReplicaRow, named, Option.bind_some] at found
      have member := List.mem_of_find?_eq_some found
      have own : row.isOperationReplicaRow replacementId = true := by
        simpa using List.find?_some found
      obtain ⟨other, counts⟩ := trusted.replacement replacementId named row member own
      have topology : isVoterReadyReplicaTopology row = true := by
        simp only [isReplacementVoterReady, Bool.false_eq_true, if_false,
          Bool.or_eq_true, Readiness.isVoterReadyRoutableReplica,
          isPriorityActiveReplaceTopologyVoterEvidenceSufficient,
          Bool.and_eq_true] at ready
        rcases ready with ready | ready
        · exact ready.1.1
        · exact ready.2
      exact ⟨replacementId, rfl, row, mem_projected.mpr ⟨member, counts topology, other⟩, own⟩
    · cases safe

theorem completion_not_safe :
    input.evaluatePriorityRecoveryCompletionRemoveSafety ≠ some .safe := by
  rw [evaluatePriorityRecoveryCompletionRemoveSafety, priorityPlanning]
  cases priority : input.classification.priorityControlPlane with
  | false => simp
  | true =>
    cases found : input.planning with
    | none => simp
    | some planning =>
      have incomplete := trusted.incomplete priority planning found
      simp [incomplete]

theorem system_safe (safe : input.evaluateSystemPartitionRemoveSafety replicaId = .safe) :
    (input.operation.isReplaceRemoveDispatchPhase = true →
      input.evaluateReplaceReplacementVoterReady false = .safe) ∧
    input.simpleFloor (input.projectedVoterReadyRows replicaId) = .safe ∧
    input.evaluatePriorityPublishedMembershipRemoveSafety replicaId = .safe := by
  have not_complete : input.priorityRecoveryCompletionSafe = false := by
    simpa [priorityRecoveryCompletionSafe] using completion_not_safe trusted
  simp only [evaluateSystemPartitionRemoveSafety, not_complete,
    Bool.and_false, Bool.false_eq_true, if_false,
    Evaluation.andThen_eq_safe] at safe
  refine ⟨fun phase => ?_, ?_⟩
  · rw [if_pos phase] at safe
    exact safe.1
  cases completion : input.evaluatePriorityRecoveryCompletionRemoveSafety with
  | some evaluation =>
    rw [completion, Option.getD_some] at safe
    exact absurd (safe.2 ▸ completion) (completion_not_safe trusted)
  | none =>
    rw [completion, Option.getD_none] at safe
    have floors := safe.2
    simp only [evaluateSystemFloors, not_complete, Bool.false_eq_true,
      if_false, Evaluation.andThen_eq_safe] at floors
    exact floors.1

theorem nodes_of_rows (priority : input.classification.priorityControlPlane = true) (among : ∀ row ∈ rows, row ∈ input.currentVoterReadyRows)
    (some_row : 0 < rows.length) : 0 < (normalizeReplicaRowNodeIds rows).length := by
  obtain ⟨row, member⟩ := List.length_pos_iff_exists_mem.mp some_row
  obtain ⟨nodeId, own⟩ := List.exists_mem_of_ne_nil _ (trusted.named priority row (among row member))
  rw [List.length_pos_iff_exists_mem]
  refine ⟨nodeId, ?_⟩
  simp only [normalizeReplicaRowNodeIds, normalizeNodeIdList, List.mem_dedup,
    List.mem_filter, List.map_cons, List.map_nil, List.mem_singleton,
    List.map_map, List.mem_map] at own ⊢
  exact ⟨⟨row, member, own.1.symm⟩, own.2⟩

theorem membership_safe (voterReady : input.currentVoterReadyRows ≠ [])
    (floor : input.simpleFloor (input.projectedVoterReadyRows replicaId) = .safe)
    (safe : input.evaluatePriorityPublishedMembershipRemoveSafety replicaId = .safe)
    (priority : input.classification.priorityControlPlane = true)
    {planning : Planning} {summary : PartitionSummary} (planned : input.planning = some planning)
    (summarized : planning.priorityPartitionSummary = some summary)
    (needs : summary.requiredDistinctNodeCount = some required) :
    min (normalizeReplicaRowNodeIds input.currentVoterReadyRows).length required ≤
      (normalizeReplicaRowNodeIds (input.projectedVoterReadyRows replicaId)).length := by
  have incomplete := trusted.incomplete priority planning planned
  have spread : publishedSpread (some required) input.currentVoterReadyRows
      (input.projectedVoterReadyRows replicaId) = .safe := by
    simp only [evaluatePriorityPublishedMembershipRemoveSafety, priority, planned,
      incomplete, summarized, needs, Bool.not_true, Bool.false_eq_true,
      if_false] at safe
    split at safe
    · cases safe
    split at safe
    · cases safe
    split at safe
    · cases safe
    split at safe
    · cases safe
    exact safe
  rcases publishedSpread_safe spread voterReady with small | enough
  · have rows : 0 < (input.projectedVoterReadyRows replicaId).length :=
      lt_of_lt_of_le (trusted.positive priority) (simpleFloor_safe floor)
    have among : ∀ row ∈ input.projectedVoterReadyRows replicaId,
        row ∈ input.currentVoterReadyRows :=
      fun row member => (List.mem_filter.mp member).1
    have node := nodes_of_rows trusted priority among rows
    omega
  · exact enough

end

theorem judged_of_safe (removes : input.Removes replicaId)
    (safe : input.evaluateRemoveSafety = .safe) : input.concurrentActiveOperation = none ∧
      (if input.classification.systemTable then input.evaluateSystemPartitionRemoveSafety replicaId
      else input.evaluateUniversalPartitionRemoveSafety replicaId) = .safe := by
  unfold evaluateRemoveSafety at safe
  have dispatched : (!input.operation.isRemoveInitialDispatchPhase &&
      !input.operation.isReplaceRemoveDispatchPhase) = false := by
    rcases removes.dispatched with phase | phase <;> simp [phase]
  rw [dispatched, if_neg Bool.false_ne_true] at safe
  cases other : input.concurrentActiveOperation with
  | some other =>
    rw [other] at safe
    cases safe
  | none =>
    rw [other, removes.removed] at safe
    have some_row : input.criticalReplicaRows.isEmpty = false := by
      obtain ⟨row, member, -⟩ := List.any_eq_true.mp removes.voterReady
      exact List.isEmpty_eq_false_iff_exists_mem.mpr ⟨row, (List.mem_filter.mp member).1⟩
    simp only [removes.voterReady, some_row, Bool.not_true, Bool.false_and,
      Bool.false_eq_true, if_false] at safe
    refine ⟨rfl, ?_⟩
    cases system : input.classification.systemTable with
    | true => simpa [system] using safe
    | false => simpa [system] using safe

theorem filter_remains (rows : List ServiceRow) :
    others replicaId (input.voterReady rows) = rows.filter (input.remains replicaId) := by
  rw [others, voterReady, List.filter_filter]
  rfl

/-- A removal that is found safe leaves the floors, if no other replica counts by the
cache alone, the recovery is not taken for complete, and the replacement is another replica that no
readiness speaks against. -/
theorem remove_safety_floors {input : Input} {replicaId : String}
    (trusted : input.Trusted replicaId) (removes : input.Removes replicaId)
    (safe : input.evaluateRemoveSafety = .safe) : input.Floors replicaId := by
  have current : input.currentVoterReadyRows ≠ [] := by
    intro none
    have voterReady := removes.voterReady
    rw [none] at voterReady
    exact absurd voterReady Bool.false_ne_true
  obtain ⟨alone, judged⟩ := judged_of_safe removes safe
  refine ⟨?_, ?_, ?_, alone_of_none alone⟩
  · intro removal rows read
    have floor : input.simpleFloor (input.projectedVoterReadyRows replicaId) =
        .safe := by
      have plain : input.operation.isReplaceRemoveDispatchPhase = false := by
        simp [Operation.isReplaceRemoveDispatchPhase, removal]
      split at judged
      · exact (system_safe trusted judged).2.1
      simp only [evaluateUniversalPartitionRemoveSafety, plain,
        Bool.false_eq_true, if_false, Evaluation.andThen_eq_safe] at judged
      exact judged.1
    obtain ⟨some_row, grounded⟩ := trusted.current removal rows read
    have merged : input.criticalReplicaRows = mergeReplicaRowsForSafety rows input.cachedRows := by
      rw [criticalReplicaRows, read]
      cases rows with
      | nil => exact absurd rfl some_row
      | cons row rest => rfl
    calc input.minReplicaCount
        ≤ (input.projectedVoterReadyRows replicaId).length := simpleFloor_safe floor
      _ = ((mergeReplicaRowsForSafety rows input.cachedRows).filter
            (input.remains replicaId)).length := by
          rw [projectedVoterReadyRows, currentVoterReadyRows, filter_remains, merged]
      _ ≤ (others replicaId (input.voterReady rows)).length := by
          rw [filter_remains]
          exact grounded.length_le
  · intro replaces
    have phase : input.operation.isReplaceRemoveDispatchPhase = true := by
      refine removes.dispatched.resolve_left ?_
      simp [Operation.isRemoveInitialDispatchPhase, replaces]
    apply replacement_safe trusted
    split at judged
    · exact (system_safe trusted judged).1 phase
    simp only [evaluateUniversalPartitionRemoveSafety, phase, if_true,
      Evaluation.andThen_eq_safe] at judged
    exact judged.1
  · intro priority planning summary required planned summarized needs
    rw [if_pos (input.classification.priority_system priority)] at judged
    obtain ⟨-, floor, membership⟩ := system_safe trusted judged
    exact membership_safe trusted current floor membership priority planned summarized needs

end Input

namespace Sample

def row (id : String) : ServiceRow :=
  ⟨some id, some id, some ("node-" ++ id), some "active", some "address", some "follower"⟩

def removal (authoritativeRows cachedRows : List ServiceRow) : Input where
  operation := ⟨"op", .remove, .pending, some "a", none, none⟩
  classification := ⟨false, false, false, nofun⟩
  operations := []
  isOperationTerminal := fun _ => false
  isDrainStepStale := fun _ => false
  isTargetMarkedFailed := fun _ => false
  nodeId := "node-a"
  hasRouter := true
  ping := fun _ => true
  authoritativeRows := some authoritativeRows
  cachedRows := cachedRows
  readiness := ⟨fun _ => true, fun _ => false⟩
  minReplicaCount := 2
  planning := none
  leaderSafety := none

/-- A replica that is gone from the table is counted as long as the cache has it. -/
theorem removed_replica_counted :
    let input := removal [row "a", row "b"] [row "a", row "b", row "c"]
    input.Removes "a" ∧ input.evaluateRemoveSafety = .safe ∧
      (Input.others "a" (input.voterReady [row "a", row "b"])).length <
        input.minReplicaCount := by
  refine ⟨⟨.inl (by decide), by decide +kernel, by decide +kernel⟩,
    by decide +kernel, by decide +kernel⟩

/-- A replica that has no role yet is no voter, whatever the cache says of the
others. -/
theorem three_replicas_floors :
    (removal [row "a", row "b", row "c", { row "d" with raftRole := none }] [row "b"]).Floors
      "a" := by
  apply Input.remove_safety_floors
  · refine ⟨?_, nofun, ?_, nofun, nofun⟩
    · rintro - rows ⟨⟩
      refine ⟨nofun, ?_⟩
      unfold Grounded
      decide +kernel
    · intro replacementId named
      exact absurd named (by simp [Operation.replacementReplicaId, removal])
  · exact ⟨.inl (by decide), by decide +kernel, by decide +kernel⟩
  · decide +kernel

end Sample

end LagrangeDb.Rebalancer
