import LagrangeDb.Data.Keyed
import LagrangeDb.Participant.Change

namespace LagrangeDb.Participant

open Data

/-! The reservation a prepared row places on its partition, over every run of
committed entries. -/

variable {platform : Platform} {key : RowKey} {row : ParticipantRow} {rows : ParticipantTable}

theorem lookup_insert_cases (hlookup : (rows.insert key row).lookup other = some found) :
    other = key ∧ found = row ∨ other ≠ key ∧ rows.lookup other = some found := by
  rw [Keyed.lookup_insert] at hlookup
  split at hlookup
  next heq => exact .inl ⟨heq, (Option.some.inj hlookup).symm⟩
  next hne => exact .inr ⟨hne, hlookup⟩

theorem runCommittedOperations_of_dryRun (hdet : platform.Deterministic) (again : platform.Host)
    (participantId : String) (position : Position)
    (operations : List Operation) (ordinal : Nat) (table : platform.Table) (outcomes : OutcomeTable)
    (hdry : runCarriedOperations first table operations = .ok ran)
    (hfresh : ∀ later, ordinal ≤ later → operationOutcomeKeyOf participantId later ∉ outcomes) :
    (∃ run, runCommittedOperations again participantId position ordinal
        table outcomes operations = .ok run ∧ run.table = ran) ∨
    (∃ error, runCommittedOperations again participantId position ordinal
        table outcomes operations = .error error ∧
      isDeterministicStatementFailure error = false) := by
  induction operations generalizing ordinal table outcomes with
  | nil =>
    cases hdry
    exact .inl ⟨_, rfl, rfl⟩
  | cons operation rest ih =>
    simp only [runCarriedOperations] at hdry
    split at hdry
    · cases hdry
    next next info hfirst =>
    simp only [runCommittedOperations]
    obtain hrun | ⟨error, hrun, hhost⟩ := hdet first again _ _ _ hfirst
    · rw [hrun]
      have hkey : operationOutcomeKeyOf participantId ordinal ∉ outcomes := hfresh ordinal le_rfl
      simp only [hkey, if_false]
      have hlater : ∀ later, ordinal + 1 ≤ later →
          operationOutcomeKeyOf participantId later ∉
            outcomes.insert (operationOutcomeKeyOf participantId ordinal)
              { outcome := .applied, position, result := some info } := by
        intro later hle hmem
        rcases AList.mem_insert _ |>.mp hmem with heq | hold
        · have := (operationOutcomeKeyOf_injective heq).2
          omega
        · exact hfresh later (by omega) hold
      obtain ⟨run, hok, htable⟩ | ⟨error, herror, hhost⟩ := ih (ordinal + 1) next _ hdry hlater
      · rw [hok]
        exact .inl ⟨_, rfl, htable⟩
      · rw [herror]
        exact .inr ⟨error, rfl, hhost⟩
    · rw [hrun]
      exact .inr ⟨error, rfl, hhost⟩

variable {host : platform.Host} {position : Position} {run : OperationsRun platform}
  {participantId : String}

theorem mem_runCommittedOperations
    (operations : List Operation) (ordinal : Nat) (table : platform.Table) (outcomes : OutcomeTable)
    (hrun : runCommittedOperations host participantId position ordinal table
      outcomes operations = .ok run) (hmem : entryKey ∈ run.outcomes) : entryKey ∈ outcomes ∨
      ∃ later, entryKey = operationOutcomeKeyOf participantId later := by
  induction operations generalizing ordinal table outcomes run with
  | nil =>
    cases hrun
    exact .inl hmem
  | cons operation rest ih =>
    simp only [runCommittedOperations] at hrun
    split at hrun
    · cases hrun
    split at hrun
    · cases hrun
    obtain ⟨inner, hinner, hdone⟩ := Result.ok_of_bind hrun
    cases hdone
    obtain hold | hlater := ih _ _ _ hinner hmem
    · rcases AList.mem_insert _ |>.mp hold with heq | hold
      · exact .inr ⟨ordinal, heq⟩
      · exact .inl hold
    · exact .inr hlater

structure Reserved (state : PartitionState platform) : Prop where
  named : ∀ key row, state.rows.lookup key = some row →
    key.participantId = participantIdOf key.transactionId state.partitionId
  sole : ∀ key row other otherRow, state.rows.lookup key = some row → row.state = .prepared →
    state.rows.lookup other = some otherRow → otherRow.state = .prepared →
    key = other
  evidence : ∀ key row, state.rows.lookup key = some row → row.state = .prepared →
    row.validationText = state.validationTextHereOf ∧ state.origin ≠ none
  replay : ∀ key row, state.rows.lookup key = some row → row.state = .prepared →
    exists (host : platform.Host) (operations : List Operation)
      (table : platform.Table), row.operations? = some operations ∧
        runCarriedOperations host state.table operations = .ok table
  settled : ∀ participantId ordinal, operationOutcomeKeyOf participantId ordinal ∈ state.outcomes →
    ∃ key row, key.participantId = participantId ∧
      state.rows.lookup key = some row ∧ row.state = .committed
  readable : ∀ key row, state.rows.lookup key = some row → row.state = .committed →
    row.operations? ≠ none

theorem Reserved.fresh (partitionId : String) (table : platform.Table) :
    Reserved (PartitionState.fresh partitionId table) := by
  constructor <;> simp [PartitionState.fresh]

variable {state : PartitionState platform} {next : PartitionState platform}

theorem Reserved.unreserved (h : Reserved state) (hunreserved : state.isPartitionReserved = false)
    (hid : next.partitionId = state.partitionId)
    (hrows : next.rows = state.rows) (houtcomes : ∀ participantId ordinal,
      operationOutcomeKeyOf participantId ordinal ∈ next.outcomes →
      operationOutcomeKeyOf participantId ordinal ∈ state.outcomes) : Reserved next := by
  have hnone : ∀ key row, next.rows.lookup key = some row →
      row.state ≠ .prepared := by
    intro key row hlookup hprepared
    rw [hrows] at hlookup
    have := state.isPartitionReserved_iff.mpr ⟨key, row, hlookup, hprepared⟩
    rw [hunreserved] at this
    cases this
  constructor
  · intro key row hlookup
    rw [hid]
    exact h.named key row (hrows ▸ hlookup)
  · intro key row other otherRow hlookup hprepared
    exact absurd hprepared (hnone key row hlookup)
  · intro key row hlookup hprepared
    exact absurd hprepared (hnone key row hlookup)
  · intro key row hlookup hprepared
    exact absurd hprepared (hnone key row hlookup)
  · intro participantId ordinal hmem
    rw [hrows]
    exact h.settled _ _ (houtcomes _ _ hmem)
  · intro key row hlookup
    exact h.readable key row (hrows ▸ hlookup)

theorem Reserved.withRow (h : Reserved state)
    (hname : key.participantId = participantIdOf key.transactionId state.partitionId)
    (hreplaces : ∀ old, state.rows.lookup key = some old → old.state = .prepared)
    (hsettled : row.state ≠ .prepared) (huncommitted : row.state ≠ .committed) :
    Reserved (state.withRow key row) := by
  have hold : ∀ other found, (state.withRow key row).rows.lookup other = some found →
      found.state = .prepared → state.rows.lookup other = some found := by
    intro other found hlookup hprepared
    rcases lookup_insert_cases hlookup with ⟨rfl, rfl⟩ | ⟨-, hold⟩
    · exact absurd hprepared hsettled
    · exact hold
  constructor
  · intro other found hlookup
    rcases lookup_insert_cases hlookup with ⟨rfl, rfl⟩ | ⟨-, hold⟩
    · exact hname
    · exact h.named other found hold
  · intro first firstRow second secondRow hfirst hp hsecond hq
    exact h.sole _ _ _ _ (hold _ _ hfirst hp) hp (hold _ _ hsecond hq) hq
  · intro other found hlookup hprepared
    exact h.evidence other found (hold _ _ hlookup hprepared) hprepared
  · intro other found hlookup hprepared
    exact h.replay other found (hold _ _ hlookup hprepared) hprepared
  · intro participantId ordinal hmem
    obtain ⟨other, found, hid, hlookup, hcommitted⟩ := h.settled _ _ hmem
    refine ⟨other, found, hid, ?_, hcommitted⟩
    simp only [PartitionState.withRow, Keyed.lookup_insert]
    split
    next heq =>
      subst heq
      have := hreplaces found hlookup
      rw [hcommitted] at this
      cases this
    · exact hlookup
  · intro other found hlookup hcommitted
    rcases lookup_insert_cases hlookup with ⟨rfl, rfl⟩ | ⟨-, hold⟩
    · exact absurd hcommitted huncommitted
    · exact h.readable other found hold hcommitted

theorem Reserved.prepare (position : Position)
    (h : Reserved state) (hprepares : Prepares host state command) :
    Reserved (state.withRow command.identity.key
      (preparedRowOf command position .prepared none)) := by
  have hnone : ∀ key row, state.rows.lookup key = some row →
      row.state ≠ .prepared := by
    intro key row hlookup hprepared
    have := state.isPartitionReserved_iff.mpr ⟨key, row, hlookup, hprepared⟩
    rw [hprepares.unreserved] at this
    cases this
  have hsole : ∀ key row,
      (state.withRow command.identity.key
        (preparedRowOf command position .prepared none)).rows.lookup key =
          some row → row.state = .prepared →
      key = command.identity.key ∧ row = preparedRowOf command position .prepared none := by
    intro key row hlookup hprepared
    rcases lookup_insert_cases hlookup with ⟨rfl, rfl⟩ | ⟨-, hold⟩
    · exact ⟨rfl, rfl⟩
    · exact absurd hprepared (hnone key row hold)
  constructor
  · intro key row hlookup
    rcases lookup_insert_cases hlookup with ⟨rfl, rfl⟩ | ⟨-, hold⟩
    · exact participantId_of_identityRefusalOf hprepares.identity
    · exact h.named key row hold
  · intro key row other otherRow hlookup hp hother hq
    rw [(hsole key row hlookup hp).1, (hsole other otherRow hother hq).1]
  · intro key row hlookup hprepared
    obtain ⟨-, rfl⟩ := hsole key row hlookup hprepared
    refine ⟨hprepares.evidence, ?_⟩
    intro hnone
    have hevidence := hprepares.evidence
    have horigin : state.origin = none := hnone
    simp [PartitionState.validationTextHereOf, horigin] at hevidence
  · intro key row hlookup hprepared
    obtain ⟨-, rfl⟩ := hsole key row hlookup hprepared
    obtain ⟨operations, table, hoperations, hrun⟩ := hprepares.dryRun
    exact ⟨host, operations, table, hoperations, hrun⟩
  · intro participantId ordinal hmem
    obtain ⟨key, row, hid, hlookup, hcommitted⟩ := h.settled _ _ hmem
    refine ⟨key, row, hid, ?_, hcommitted⟩
    simp only [PartitionState.withRow, Keyed.lookup_insert]
    split
    next heq =>
      subst heq
      rw [hprepares.absent] at hlookup
      cases hlookup
    · exact hlookup
  · intro key row hlookup hcommitted
    rcases lookup_insert_cases hlookup with ⟨rfl, rfl⟩ | ⟨-, hold⟩
    · cases hcommitted
    · exact h.readable key row hold hcommitted

theorem Reserved.unsettled (h : Reserved state) (hlookup : state.rows.lookup key = some row)
    (hprepared : row.state = .prepared) (ordinal : Nat) :
    operationOutcomeKeyOf key.participantId ordinal ∉ state.outcomes := by
  intro hmem
  obtain ⟨other, found, hid, hother, hcommitted⟩ := h.settled _ _ hmem
  have hsame : other = key := by
    have hnames := h.named other found hother
    rw [hid, h.named key row hlookup] at hnames
    obtain ⟨transactionId, participantId⟩ := key
    obtain ⟨otherTransaction, otherParticipant⟩ := other
    simp only at hid hnames
    rw [hid, participantIdOf_injective hnames]
  rw [hsame, hlookup] at hother
  cases hother
  rw [hprepared] at hcommitted
  cases hcommitted

variable {command : DecisionCommand}

theorem Reserved.no_obstacle (hdet : platform.Deterministic) (h : Reserved state)
    (hlookup : state.rows.lookup command.identity.key = some row)
    (hprepared : row.state = .prepared) : ¬ CommitObstacle host state command position row := by
  intro hobstacle
  obtain ⟨first, operations, table, hoperations, hdry⟩ := h.replay _ row hlookup hprepared
  cases hobstacle with
  | baseMoved hmoved => exact hmoved (h.evidence _ row hlookup hprepared).1
  | unreadable hnone =>
    rw [hoperations] at hnone
    cases hnone
  | failed found error hfound hrun hdeterministic =>
    rw [hoperations] at hfound
    cases hfound
    obtain ⟨run, hok, -⟩ | ⟨other, herror, hhost⟩ :=
      runCommittedOperations_of_dryRun hdet host
        command.identity.participantId position operations 0 state.table
        state.outcomes hdry
        (fun later _ => h.unsettled hlookup hprepared later)
    · rw [hok] at hrun
      cases hrun
    rw [herror] at hrun
    cases hrun
    rw [hdeterministic] at hhost
    cases hhost

/-- A prepared row that is decided, and not committed, frees its partition. -/
theorem Reserved.decided (h : Reserved state) (hdecides : DecidesPrepared state command row)
    (hsettled : found.state ≠ .prepared) (huncommitted : found.state ≠ .committed) :
    Reserved (state.withRow command.identity.key found) := by
  refine h.withRow (participantId_of_identityRefusalOf hdecides.identity) ?_ hsettled huncommitted
  intro old hlookup
  rw [hdecides.lookup] at hlookup
  cases hlookup
  exact hdecides.prepared

theorem Reserved.commit (h : Reserved state) (hdecides : DecidesPrepared state command row)
    (hrun : CommitRun host state command position row operations run) :
    Reserved (state.afterCommit command.identity.key
      (row.decided (decidedOf command position .committed none)) operations run) := by
  have hnone : ∀ key found,
      (state.afterCommit command.identity.key
        (row.decided (decidedOf command position .committed none))
        operations run).rows.lookup key = some found →
      found.state ≠ .prepared := by
    intro key found hlookup hprepared
    rcases lookup_insert_cases hlookup with ⟨rfl, rfl⟩ | ⟨hne, hold⟩
    · cases hprepared
    · exact hne (h.sole _ _ _ _ hold hprepared hdecides.lookup hdecides.prepared)
  constructor
  · intro key found hlookup
    rcases lookup_insert_cases hlookup with ⟨rfl, rfl⟩ | ⟨-, hold⟩
    · exact participantId_of_identityRefusalOf hdecides.identity
    · exact h.named key found hold
  · intro key found other otherRow hlookup hprepared
    exact absurd hprepared (hnone key found hlookup)
  · intro key found hlookup hprepared
    exact absurd hprepared (hnone key found hlookup)
  · intro key found hlookup hprepared
    exact absurd hprepared (hnone key found hlookup)
  · intro participantId ordinal hmem
    simp only [PartitionState.afterCommit, Keyed.lookup_insert]
    obtain hold | ⟨later, heq⟩ :=
      mem_runCommittedOperations operations 0 state.table state.outcomes hrun.run_eq hmem
    · obtain ⟨key, found, hid, hlookup, hcommitted⟩ := h.settled _ _ hold
      refine ⟨key, found, hid, ?_, hcommitted⟩
      split
      next heq =>
        subst heq
        rw [hdecides.lookup] at hlookup
        cases hlookup
        rw [hdecides.prepared] at hcommitted
        cases hcommitted
      · exact hlookup
    · refine ⟨command.identity.key, _, ?_, if_pos rfl, rfl⟩
      exact (operationOutcomeKeyOf_injective heq).1.symm
  intro key found hlookup hcommitted
  rcases lookup_insert_cases hlookup with ⟨rfl, rfl⟩ | ⟨-, hold⟩
  · have hreadable : (row.decided
        (decidedOf command position .committed none)).operations? =
          some operations := hrun.operations_eq
    simp [hreadable]
  · exact h.readable key found hold hcommitted

theorem mem_insert_entryKey {outcomes : OutcomeTable} {entryId : String}
    {row : OutcomeRow} {ordinal : Nat} (hmem : operationOutcomeKeyOf participantId ordinal ∈
      outcomes.insert (committedStatementEntryKey entryId) row) :
    operationOutcomeKeyOf participantId ordinal ∈ outcomes := by
  rcases AList.mem_insert _ |>.mp hmem with heq | hold
  · exact absurd heq (operationOutcomeKeyOf_ne_entryKey _ _ _)
  · exact hold

theorem Reserved.change (hdet : platform.Deterministic) {committed : Committed}
    {executions : List Execution} (h : Reserved state)
    (hchange : Change host state committed next executions) : Reserved next := by
  cases hchange with
  | unchanged => exact h
  | statementFailed command position row hfresh =>
    exact {
      named := h.named
      sole := h.sole
      evidence := h.evidence
      replay := h.replay
      settled := fun _ _ hmem => h.settled _ _ (mem_insert_entryKey hmem)
      readable := h.readable
    }
  | statement command position table info hfresh hunreserved hrun =>
    exact h.unreserved hunreserved rfl rfl (fun _ _ hmem => mem_insert_entryKey hmem)
  | origin command position hnone =>
    refine h.unreserved ?_ rfl rfl (fun _ _ hmem => hmem)
    rw [Bool.eq_false_iff]
    intro hreserved
    obtain ⟨key, row, hlookup, hprepared⟩ := state.isPartitionReserved_iff.mp hreserved
    exact (h.evidence key row hlookup hprepared).2 hnone
  | prepareRefused command position refusal hidentity habsent hcause =>
    refine h.withRow (participantId_of_identityRefusalOf hidentity) ?_
      (by simp [preparedRowOf]) (by simp [preparedRowOf])
    intro old hlookup
    rw [habsent] at hlookup
    cases hlookup
  | prepared command position hprepares => exact h.prepare position hprepares
  | tombstone command position hbound habsent hrollback =>
    refine h.withRow (participantId_of_identityRefusalOf hbound.identity) ?_
      (by simp [tombstoneOf]) (by simp [tombstoneOf])
    intro old hlookup
    rw [habsent] at hlookup
    cases hlookup
  | rolledBack command position row hdecides hrollback =>
    exact h.decided hdecides (by simp [ParticipantRow.decided, decidedOf])
      (by simp [ParticipantRow.decided, decidedOf])
  | commitRefused command position row refusal hdecides hcommit hobstacle =>
    exact absurd hobstacle (h.no_obstacle hdet hdecides.lookup hdecides.prepared)
  | committed command position row operations run hdecides hcommit hrun =>
    exact h.commit hdecides hrun

/-- A row that is refused was refused at its PREPARE. -/
structure PrepareRefusals (state : PartitionState platform) : Prop where
  causes : ∀ key row cause, state.rows.lookup key = some row → row.refusalCause = some cause →
    cause.ofPrepare = true
  undecided : ∀ key row, state.rows.lookup key = some row → row.state = .refused →
    row.decision = none

theorem PrepareRefusals.fresh (partitionId : String) (table : platform.Table) :
    PrepareRefusals (PartitionState.fresh partitionId table) := by
  constructor <;> simp [PartitionState.fresh]

theorem PrepareRefusals.insert (h : PrepareRefusals state)
    (hrows : next.rows = state.rows.insert key row)
    (hcause : ∀ cause, row.refusalCause = some cause → cause.ofPrepare = true)
    (hundecided : row.state = .refused → row.decision = none) : PrepareRefusals next := by
  constructor
  · intro other found cause hlookup hfound
    rw [hrows] at hlookup
    rcases lookup_insert_cases hlookup with ⟨rfl, rfl⟩ | ⟨-, hold⟩
    · exact hcause cause hfound
    · exact h.causes other found cause hold hfound
  · intro other found hlookup hrefused
    rw [hrows] at hlookup
    rcases lookup_insert_cases hlookup with ⟨rfl, rfl⟩ | ⟨-, hold⟩
    · exact hundecided hrefused
    · exact h.undecided other found hold hrefused

theorem PrepareRefusals.change (hdet : platform.Deterministic) {committed : Committed}
    {executions : List Execution} (hreserved : Reserved state) (h : PrepareRefusals state)
    (hchange : Change host state committed next executions) : PrepareRefusals next := by
  cases hchange with
  | unchanged => exact h
  | statementFailed => exact ⟨h.causes, h.undecided⟩
  | statement => exact ⟨h.causes, h.undecided⟩
  | origin => exact ⟨h.causes, h.undecided⟩
  | prepareRefused command position refusal hidentity habsent hcause =>
    refine h.insert rfl ?_ fun _ => rfl
    rintro cause ⟨⟩
    exact hcause
  | prepared => exact h.insert rfl nofun nofun
  | tombstone => exact h.insert rfl nofun nofun
  | rolledBack => exact h.insert rfl nofun nofun
  | commitRefused command position row refusal hdecides hcommit hobstacle =>
    exact absurd hobstacle (hreserved.no_obstacle hdet hdecides.lookup hdecides.prepared)
  | committed => exact h.insert rfl nofun nofun

end LagrangeDb.Participant
