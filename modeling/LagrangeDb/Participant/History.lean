import LagrangeDb.Participant.Reservation

namespace LagrangeDb.Participant

open Data

/-! Runs of committed entries.  A delivery that ends in a host failure leaves
no trace, and its entry is delivered again. -/

variable {platform : Platform}

structure Delivery (platform : Platform) where
  host : platform.Host
  committed : Committed

/-- A partition with the statements its applications kept, oldest first. -/
structure History (platform : Platform) where
  state : PartitionState platform
  executions : List Execution

namespace History

def deliver (history : History platform) (delivery : Delivery platform) : History platform :=
  match applyCommittedEntry delivery.host history.state delivery.committed with
  | .ok applied =>
    { state := applied.state
      executions := history.executions ++ applied.executions }
  | .error _ => history

def after (partitionId : String) (table : platform.Table)
    (deliveries : List (Delivery platform)) : History platform :=
  deliveries.foldl deliver { state := .fresh partitionId table, executions := [] }

@[simp] theorem after_append (partitionId : String) (table : platform.Table)
    (deliveries : List (Delivery platform)) (delivery : Delivery platform) :
    after partitionId table (deliveries ++ [delivery]) =
      (after partitionId table deliveries).deliver delivery := by
  simp [after]

theorem deliver_cases (history : History platform) (delivery : Delivery platform) :
    (∃ failure, applyCommittedEntry delivery.host history.state
        delivery.committed = .error failure ∧ history.deliver delivery = history) ∨
    (∃ executions, Change delivery.host history.state delivery.committed
        (history.deliver delivery).state executions ∧ (history.deliver delivery).executions =
        history.executions ++ executions) := by
  unfold deliver
  split
  next applied happlied =>
    exact .inr ⟨applied.executions, applyCommittedEntry_change happlied, rfl⟩
  next failure hfailure => exact .inl ⟨failure, hfailure, rfl⟩

end History

def operationRuns (key : RowKey) (executions : List Execution) : List (List Operation) :=
  executions.filterMap fun
    | .operations other operations => if other = key then some operations else none
    | .statement _ => none

@[simp] theorem operationRuns_append (key : RowKey)
    (first second : List Execution) : operationRuns key (first ++ second) =
      operationRuns key first ++ operationRuns key second := by
  simp [operationRuns]

def committedRuns : Option ParticipantRow → List (List Operation)
  | none => []
  | some row => if row.state = .committed then row.operations?.toList else []

@[simp] theorem committedRuns_of_not_committed {row : ParticipantRow}
    (h : row.state ≠ .committed) : committedRuns (some row) = [] :=
  if_neg h

variable {key : RowKey}

theorem committedRuns_insert {rows : ParticipantTable} {row : ParticipantRow}
    (hrow : committedRuns (some row) = committedRuns (rows.lookup key))
    (other : RowKey) : committedRuns ((rows.insert key row).lookup other) =
      committedRuns (rows.lookup other) := by
  rw [Keyed.lookup_insert]
  split
  next heq => rw [heq, hrow]
  · rfl

variable {state next : PartitionState platform} {executions : List Execution}
  {committed : Committed} {host : platform.Host}

theorem Change.operationRuns
    (hchange : Change host state committed next executions) (key : RowKey) :
    committedRuns (state.rows.lookup key) ++ operationRuns key executions =
      committedRuns (next.rows.lookup key) := by
  have hprepared : ∀ {row : ParticipantRow}, row.state = .prepared →
      committedRuns (some row) = [] := by
    intro row hstate
    exact committedRuns_of_not_committed (by rw [hstate]; decide)
  cases hchange with
  | unchanged => exact List.append_nil _
  | statementFailed => exact List.append_nil _
  | statement => exact List.append_nil _
  | origin => exact List.append_nil _
  | prepareRefused command position refusal hidentity habsent hcause =>
    refine (List.append_nil _).trans (committedRuns_insert ?_ key).symm
    rw [habsent]
    rfl
  | prepared command position hprepares =>
    refine (List.append_nil _).trans (committedRuns_insert ?_ key).symm
    rw [hprepares.absent]
    rfl
  | tombstone command position hbound habsent hrollback =>
    refine (List.append_nil _).trans (committedRuns_insert ?_ key).symm
    rw [habsent]
    rfl
  | rolledBack command position row hdecides hrollback =>
    refine (List.append_nil _).trans (committedRuns_insert ?_ key).symm
    rw [hdecides.lookup, hprepared hdecides.prepared]
    rfl
  | commitRefused command position row refusal hdecides hcommit hobstacle =>
    refine (List.append_nil _).trans (committedRuns_insert ?_ key).symm
    rw [hdecides.lookup, hprepared hdecides.prepared]
    rfl
  | committed command position row operations run hdecides hcommit hrun =>
    simp only [PartitionState.afterCommit, Keyed.lookup_insert]
    by_cases hkey : key = command.identity.key
    · subst hkey
      rw [hdecides.lookup, hprepared hdecides.prepared, if_pos rfl]
      have hruns : committedRuns (some (row.decided
          (decidedOf command position .committed none))) = row.operations?.toList := rfl
      rw [hruns, hrun.operations_eq]
      simp [LagrangeDb.Participant.operationRuns]
    · have hother : command.identity.key ≠ key := fun heq => hkey heq.symm
      simp [LagrangeDb.Participant.operationRuns, hother, hkey]

theorem Change.row {row : ParticipantRow} (hchange : Change host state committed next executions)
    (hlookup : state.rows.lookup key = some row) : next.rows.lookup key = some row ∨
      (row.state = .prepared ∧ ∃ decided : Decided, decided.state ≠ .prepared ∧
        next.rows.lookup key = some (row.decided decided)) := by
  have hinsert : ∀ {other : RowKey} {found : ParticipantRow}, state.rows.lookup other = none →
      (state.rows.insert other found).lookup key = some row := by
    intro other found habsent
    rw [Keyed.lookup_insert, if_neg, hlookup]
    rintro rfl
    rw [habsent] at hlookup
    cases hlookup
  have hdecide : ∀ {command : DecisionCommand} {found : ParticipantRow}
      (decided : Decided), DecidesPrepared state command found →
      decided.state ≠ .prepared →
      (state.rows.insert command.identity.key (found.decided decided)).lookup key = some row ∨
        (row.state = .prepared ∧ ∃ chosen : Decided, chosen.state ≠ .prepared ∧
          (state.rows.insert command.identity.key
            (found.decided decided)).lookup key = some (row.decided chosen)) := by
    intro command found decided hdecides hstate
    by_cases hkey : key = command.identity.key
    · subst hkey
      rw [hdecides.lookup] at hlookup
      cases hlookup
      exact .inr ⟨hdecides.prepared, decided, hstate, by simp⟩
    · exact .inl (by rw [Keyed.lookup_insert, if_neg hkey, hlookup])
  cases hchange with
  | unchanged => exact .inl hlookup
  | statementFailed => exact .inl hlookup
  | statement => exact .inl hlookup
  | origin => exact .inl hlookup
  | prepareRefused command position refusal hidentity habsent hcause => exact .inl (hinsert habsent)
  | prepared command position hprepares => exact .inl (hinsert hprepares.absent)
  | tombstone command position hbound habsent hrollback => exact .inl (hinsert habsent)
  | rolledBack command position found hdecides hrollback =>
    exact hdecide (decidedOf command position .rolledBack none) hdecides (by simp [decidedOf])
  | commitRefused command position found refusal hdecides hcommit hobstacle =>
    exact hdecide (decidedOf command position .refused (some refusal))
      hdecides (by simp [decidedOf])
  | committed command position found operations run hdecides hcommit hrun =>
    exact hdecide (decidedOf command position .committed none) hdecides (by simp [decidedOf])

theorem Reserved.held {row later : ParticipantRow} (h : Reserved state)
    (hchange : Change host state committed next executions)
    (hlookup : state.rows.lookup key = some row) (hprepared : row.state = .prepared)
    (hnext : next.rows.lookup key = some later) (hlater : later.state = .prepared) :
    next.generation = state.generation ∧ next.table = state.table := by
  cases hchange with
  | unchanged => exact ⟨rfl, rfl⟩
  | statementFailed => exact ⟨rfl, rfl⟩
  | statement command position table info hfresh hunreserved hrun =>
    have := state.isPartitionReserved_iff.mpr ⟨key, row, hlookup, hprepared⟩
    rw [hunreserved] at this
    cases this
  | origin command position hnone => exact absurd hnone (h.evidence key row hlookup hprepared).2
  | prepareRefused => exact ⟨rfl, rfl⟩
  | prepared => exact ⟨rfl, rfl⟩
  | tombstone => exact ⟨rfl, rfl⟩
  | rolledBack => exact ⟨rfl, rfl⟩
  | commitRefused => exact ⟨rfl, rfl⟩
  | committed command position found operations run hdecides hcommit hrun =>
    have hkey := h.sole _ _ _ _ hlookup hprepared hdecides.lookup
      hdecides.prepared
    subst hkey
    simp only [PartitionState.afterCommit, Keyed.lookup_insert, if_true] at hnext
    cases hnext
    cases hlater

variable {command : DecisionCommand}

theorem Reserved.commit_applies (hdet : platform.Deterministic)
    {row : ParticipantRow} (h : Reserved state) (host : platform.Host)
    (position : Position) (hdecides : DecidesPrepared state command row)
    (hcommit : command.decision = .commit) : (∃ applied operations, applyCommittedEntry host state
        { command := .decision command, position } = .ok applied ∧
      applied.state.rows.lookup command.identity.key =
        some (row.decided (decidedOf command position .committed none)) ∧
      row.operations? = some operations ∧
      applied.executions = [.operations command.identity.key operations] ∧
      applied.answer.isSome) ∨
    (∃ error, applyCommittedEntry host state
        { command := .decision command, position } = .error (.statementEnvironmentFailed error) ∧
      isDeterministicStatementFailure error = false) := by
  obtain ⟨first, operations, table, hoperations, hdry⟩ :=
    h.replay _ row hdecides.lookup hdecides.prepared
  have hevidence := (h.evidence _ row hdecides.lookup hdecides.prepared).1
  have hunfold : applyCommittedEntry host state
      { command := .decision command, position } =
        commitPrepared host state command position row := by
    simp [applyCommittedEntry, applyParticipantDecision, hdecides.identity,
      hdecides.binding, PartitionState.readParticipantTransactionRow,
      hdecides.lookup, hdecides.mode, hdecides.epoch, decisionOverState,
      hdecides.prepared, decideOverPrepared, hdecides.digest, hcommit]
  rw [hunfold]
  simp only [commitPrepared, hevidence, hoperations, ne_eq, not_true_eq_false, if_false]
  obtain ⟨run, hok, -⟩ | ⟨error, herror, hhost⟩ :=
    runCommittedOperations_of_dryRun hdet host command.identity.participantId
      position operations 0 state.table state.outcomes hdry
      (fun later _ => h.unsettled hdecides.lookup hdecides.prepared later)
  · left
    rw [hok]
    simp only [updateParticipantTransactionDecided, hdecides.lookup, hdecides.prepared, if_true]
    refine ⟨_, operations, rfl, ?_, rfl, rfl, rfl⟩
    simp
  right
  rw [herror]
  refine ⟨error, ?_, hhost⟩
  have hcode : error.code ≠ some statementRefusalCode := by
    intro hcode
    simp [isDeterministicStatementFailure, hcode] at hhost
  simp [deterministicRefusalOf, hcode, hhost]
  rfl

theorem History.after_reserved (hdet : platform.Deterministic)
    (partitionId : String) (table : platform.Table) (deliveries : List (Delivery platform)) :
    Reserved (History.after partitionId table deliveries).state ∧
      PrepareRefusals (History.after partitionId table deliveries).state := by
  induction deliveries using List.reverseRecOn with
  | nil => exact ⟨.fresh partitionId table, .fresh partitionId table⟩
  | append_singleton earlier delivery ih =>
    rw [after_append]
    obtain ⟨failure, -, hsame⟩ | ⟨executions, hchange, -⟩ :=
      deliver_cases (after partitionId table earlier) delivery
    · rw [hsame]
      exact ih
    · exact ⟨ih.1.change hdet hchange, ih.2.change hdet ih.1 hchange⟩

theorem History.after_operationRuns (partitionId : String)
    (table : platform.Table) (deliveries : List (Delivery platform)) (key : RowKey) :
    operationRuns key (History.after partitionId table deliveries).executions = committedRuns
        ((History.after partitionId table deliveries).state.rows.lookup key) := by
  induction deliveries using List.reverseRecOn with
  | nil => rfl
  | append_singleton earlier delivery ih =>
    rw [after_append]
    obtain ⟨failure, -, hsame⟩ | ⟨executions, hchange, hexecutions⟩ :=
      deliver_cases (after partitionId table earlier) delivery
    · rw [hsame]
      exact ih
    · rw [hexecutions, operationRuns_append, ih]
      exact hchange.operationRuns key

/-- The partition a commit decision is bound to holds the prepared row the
decision names, prepared under the decision's mode and epoch. -/
structure BoundCommit (state : PartitionState platform)
    (command : DecisionCommand) (row : ParticipantRow) : Prop
    extends BoundDecision state command where
  commit : command.decision = .commit
  lookup : state.rows.lookup command.identity.key = some row
  prepared : row.state = .prepared
  digest : command.preparedDigest = row.preparedDigest
  mode : command.identity.commitMode = row.commitMode
  epoch : command.identity.transactionEpoch = row.transactionEpoch

theorem BoundCommit.decidesPrepared {row : ParticipantRow}
    (h : BoundCommit state command row) : DecidesPrepared state command row :=
  { toBoundDecision := h.toBoundDecision
    lookup := h.lookup
    prepared := h.prepared
    mode := h.mode.symm
    epoch := h.epoch.symm
    digest := by simp [decisionMatchesPreparedRow, h.digest] }

/-- In every state a run of committed entries reaches: one prepared row at
most; the next entry leaves the generation and the table alone while a row
stays prepared; a row is decided once and then stands; no row was refused by
its own commit; a bound commit commits its row unless the host fails; and the
operations of a participant ran once if its row is committed, else never. -/
theorem History.reservation (hdet : platform.Deterministic) (partitionId : String)
    (table : platform.Table) (deliveries : List (Delivery platform)) (next : Delivery platform) :
    let before := History.after partitionId table deliveries
    let following := History.after partitionId table (deliveries ++ [next])
    (∀ key row other otherRow, before.state.rows.lookup key = some row → row.state = .prepared →
      before.state.rows.lookup other = some otherRow →
      otherRow.state = .prepared → key = other) ∧
    (∀ key row later, before.state.rows.lookup key = some row → row.state = .prepared →
      following.state.rows.lookup key = some later → later.state = .prepared →
      following.state.generation = before.state.generation ∧
        following.state.table = before.state.table) ∧
    (∀ key row, before.state.rows.lookup key = some row →
      following.state.rows.lookup key = some row ∨
      (row.state = .prepared ∧ ∃ decided : Decided,
        (decided.state = .committed ∨ decided.state = .rolledBack ∨ decided.state = .refused) ∧
        following.state.rows.lookup key = some (row.decided decided))) ∧
    (∀ key row, before.state.rows.lookup key = some row →
      row.refusalCause ≠ some .commitBaseMoved ∧ row.refusalCause ≠ some .commitStatementFailed) ∧
    (∀ command position row,
      next.committed = { command := .decision command, position } →
      BoundCommit before.state command row →
      (∃ operations,
        following.state.rows.lookup command.identity.key =
          some (row.decided (decidedOf command position .committed none)) ∧
        row.operations? = some operations ∧
        following.executions = before.executions ++ [.operations command.identity.key operations]) ∨
      (∃ error, applyCommittedEntry next.host before.state next.committed =
          .error (.statementEnvironmentFailed error) ∧
        isDeterministicStatementFailure error = false)) ∧
    (∀ key row, before.state.rows.lookup key = some row →
      (row.state = .committed → ∃ operations, row.operations? = some operations ∧
        operationRuns key before.executions = [operations]) ∧
      (row.state ≠ .committed → operationRuns key before.executions = [])) := by
  intro before following
  obtain ⟨hreserved, hrefusals⟩ : Reserved before.state ∧ PrepareRefusals before.state :=
    after_reserved hdet partitionId table deliveries
  have hfollowing : following = before.deliver next := by
    simp only [following, before, after_append]
  refine ⟨hreserved.sole, ?_, ?_, ?_, ?_, ?_⟩
  · intro key row later hlookup hprepared hnext hlater
    rw [hfollowing] at hnext ⊢
    obtain ⟨failure, -, hsame⟩ | ⟨executions, hchange, -⟩ := deliver_cases before next
    · rw [hsame]
      exact ⟨rfl, rfl⟩
    · exact hreserved.held hchange hlookup hprepared hnext hlater
  · intro key row hlookup
    rw [hfollowing]
    obtain ⟨failure, -, hsame⟩ | ⟨executions, hchange, -⟩ := deliver_cases before next
    · rw [hsame]
      exact .inl hlookup
    obtain hstays | ⟨hprepared, decided, hstate, hmoved⟩ := hchange.row hlookup
    · exact .inl hstays
    refine .inr ⟨hprepared, decided, ?_, hmoved⟩
    cases hdecided : decided.state with
    | prepared => exact absurd hdecided hstate
    | committed => exact .inl rfl
    | rolledBack => exact .inr (.inl rfl)
    | refused => exact .inr (.inr rfl)
  · intro key row hlookup
    constructor <;> intro hcause <;>
      cases hrefusals.causes key row _ hlookup hcause
  · intro command position row hnext hbound
    obtain ⟨applied, operations, hok, hrow, hoperations, hran, -⟩ |
        ⟨error, herror, hhost⟩ :=
      hreserved.commit_applies hdet next.host position hbound.decidesPrepared
        hbound.commit
    · refine .inl ⟨operations, ?_, hoperations, ?_⟩ <;>
        rw [hfollowing, History.deliver, hnext, hok]
      · exact hrow
      · exact congrArg (before.executions ++ ·) hran
    · rw [hnext]
      exact .inr ⟨error, herror, hhost⟩
  · intro key row hlookup
    have hruns := after_operationRuns partitionId table deliveries key
    rw [show (after partitionId table deliveries).state.rows.lookup key =
      some row from hlookup] at hruns
    constructor
    · intro hcommitted
      obtain ⟨operations, hoperations⟩ := Option.ne_none_iff_exists'.mp
        (hreserved.readable key row hlookup hcommitted)
      refine ⟨operations, hoperations, ?_⟩
      simpa [committedRuns, hcommitted, hoperations] using hruns
    · intro hother
      simpa [hother] using hruns

namespace Sample

def sqlLog : Platform where
  Table := List String
  Host := Unit
  sha256Hex
    | .prepared operations _ => "prepared " ++ operations.spelling
    | .generation value => "generation " ++ toString value
    | .decision _ => "decision"
  runCommittedPartitionStatement := fun _ table statement =>
    .ok (table ++ [statement.sql], { changes := 1, lastInsertRowid := none })

theorem sqlLog_deterministic : sqlLog.Deterministic := fun _ _ _ _ _ hrun => .inl hrun

def identity (epoch : Int) : Identity :=
  { sessionId := none, transactionId := "t", participantId := "t:p"
    commitMode := "two-phase", transactionEpoch := epoch }

def operations : List Operation :=
  [{ entryId := none, sql := "INSERT INTO k VALUES (1)", params := [] }]

def origin : Committed :=
  { command := .generationOrigin
      { entryId := "p:generation-origin", partitionId := "p" }
    position := { index := 1, term := 1 } }

def prepare : Committed :=
  { command := .prepare {
      entryId := "t:p:prepare"
      identity := identity 1
      operationsText := { spelling := "ops", operations := some operations }
      validationText := validationTextOf sqlLog.sha256Hex 0 "p" 1
      preparedDigest := "prepared ops" }
    position := { index := 2, term := 1 } }

def commitCommand (epoch : Int) : DecisionCommand :=
  { entryId := "t:p:decision:decision"
    identity := identity epoch
    decision := .commit
    preparedDigest := some "prepared ops"
    decisionText := .rendered {
      transactionId := "t"
      decision := .commit
      participants := [("t:p", some "prepared ops")] }
    decisionDigest := "decision" }

def commit (epoch : Int) : Committed :=
  { command := .decision (commitCommand epoch)
    position := { index := 3, term := 1 } }

def delivered (entries : List Committed) : List (Delivery sqlLog) :=
  entries.map fun committed => { host := (), committed }

def preparedRow : ParticipantRow :=
  { sessionId := none
    commitMode := "two-phase"
    transactionEpoch := 1
    state := .prepared
    operationsText := some { spelling := "ops", operations := some operations }
    validationText := some (validationTextOf sqlLog.sha256Hex 0 "p" 1)
    preparedDigest := some "prepared ops"
    prepareEntryId := some "t:p:prepare"
    prepareAt := some { index := 2, term := 1 } }

end Sample

open Sample in
theorem History.reservation_commits :
    let before := History.after "p" ([] : sqlLog.Table) (delivered [origin, prepare])
    let following := History.after "p" ([] : sqlLog.Table)
      (delivered [origin, prepare] ++ delivered [commit 1])
    BoundCommit before.state (commitCommand 1) preparedRow ∧
    following.executions = before.executions ++ [.operations (identity 1).key operations] := by
  have hbound : BoundCommit
      (History.after "p" ([] : sqlLog.Table)
        (delivered [origin, prepare])).state (commitCommand 1) preparedRow := by
    constructor <;> (try constructor) <;> decide
  refine ⟨hbound, ?_⟩
  have hcommits := (History.reservation sqlLog_deterministic "p" []
    (delivered [origin, prepare]) { host := (), committed := commit 1 }
    ).2.2.2.2.1 (commitCommand 1) { index := 3, term := 1 } preparedRow rfl
    hbound
  obtain ⟨ran, -, hran, hexecutions⟩ | ⟨error, herror, -⟩ := hcommits
  · cases hran
    exact hexecutions
  have hok : (applyCommittedEntry ()
      (History.after "p" ([] : sqlLog.Table) (delivered [origin, prepare])).state
      (commit 1)).isOk = true := by decide
  have hfailed := congrArg Except.isOk herror
  cases hok.symm.trans hfailed

open Sample in
/-- A commit bound to the prepared digest but carrying another epoch passes
admission, is consumed as an identity mismatch, and the row stays prepared. -/
theorem History.commit_of_other_epoch_leaves_prepared :
    let following := History.after "p" ([] : sqlLog.Table)
      (delivered [origin, prepare, commit 2])
    ([origin, prepare, commit 2].all fun committed =>
      admitCommittedCommand sqlLog.sha256Hex committed.command) = true ∧
    (commitCommand 2).preparedDigest = preparedRow.preparedDigest ∧
    (commitCommand 2).decision = .commit ∧
    (History.after "p" ([] : sqlLog.Table)
      (delivered [origin, prepare])).state.rows.lookup (identity 2).key = some preparedRow ∧
    following.state.rows.lookup (identity 2).key = some preparedRow ∧
    following.executions = [] := by
  decide

end LagrangeDb.Participant
