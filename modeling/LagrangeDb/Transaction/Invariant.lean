import LagrangeDb.Participant.Arrival
import LagrangeDb.Transaction.Cluster

namespace LagrangeDb.Transaction

open Data LagrangeDb.Participant

/-! What holds of the shared rows, partitions and messages whatever the
coordinators do, and what never goes back. -/

variable {setting : Setting}

namespace Cluster

def Frozen (cluster : Cluster setting) : Prop := cluster.store.row.participantSetState = .frozen

def Admitted (cluster : Cluster setting) (partitionId : String) : Prop :=
  partitionId ∈ cluster.store.row.participantSetText

def Decided (cluster : Cluster setting) (decision : Decision) : Prop :=
  ∃ stored, cluster.store.row.decision = some stored ∧ stored.decision = decision

/-- The participant keeps a row that its PREPARE was not refused with: it prepared once. -/
def Held (cluster : Cluster setting) (partitionId : String) : Prop :=
  ∃ row, cluster.participantRow partitionId = some row ∧ row.refusesPrepare = false

structure Grows (before after : Cluster setting) : Prop where
  decision : ∀ stored, before.store.row.decision = some stored →
    after.store.row.decision = some stored
  frozen : before.Frozen → after.Frozen ∧
    after.store.row.participantSetText = before.store.row.participantSetText
  admitted : ∀ partitionId, before.Admitted partitionId → after.Admitted partitionId
  held : ∀ partitionId, before.Held partitionId → after.Held partitionId

theorem Grows.refl (cluster : Cluster setting) : cluster.Grows cluster :=
  ⟨fun _ h => h, fun h => ⟨h, rfl⟩, fun _ h => h, fun _ h => h⟩

theorem Grows.trans {first second third : Cluster setting}
    (h : first.Grows second) (hnext : second.Grows third) : first.Grows third where
  decision stored hstored := hnext.decision stored (h.decision stored hstored)
  frozen hfrozen := by
    obtain ⟨hsecond, htext⟩ := h.frozen hfrozen
    obtain ⟨hthird, hnextText⟩ := hnext.frozen hsecond
    exact ⟨hthird, hnextText.trans htext⟩
  admitted partitionId hadmitted := hnext.admitted partitionId (h.admitted partitionId hadmitted)
  held partitionId hheld := hnext.held partitionId (h.held partitionId hheld)

variable {before after : Cluster setting} {decision : Decision}

theorem Decided.grows (h : before.Decided decision)
    (hgrows : before.Grows after) : after.Decided decision := by
  obtain ⟨stored, hstored, hdecision⟩ := h
  exact ⟨stored, hgrows.decision stored hstored, hdecision⟩

theorem Decided.unique {cluster : Cluster setting}
    (hfirst : cluster.Decided first) (hsecond : cluster.Decided second) : first = second := by
  obtain ⟨stored, hstored, rfl⟩ := hfirst
  obtain ⟨other, hother, rfl⟩ := hsecond
  rw [hstored] at hother
  cases hother
  rfl

/-- A digest stands for a prepared row of the participant. -/
def Backed (cluster : Cluster setting) (partitionId : String) (digest : Option String) : Prop :=
  digest.isSome → cluster.Held partitionId

variable {partitionId : String}

theorem Backed.grows (h : before.Backed partitionId digest) (hgrows : before.Grows after) :
    after.Backed partitionId digest :=
  fun hsome => hgrows.held partitionId (h hsome)

/-- A decision that may be stored over the set of the given text. -/
def Supports (cluster : Cluster setting) (text : List String) (decision : Decision) : Prop :=
  decision = .commit → ∀ partitionId, partitionId ∈ text → cluster.Held partitionId

theorem Supports.grows (h : before.Supports text decision)
    (hgrows : before.Grows after) : after.Supports text decision :=
  fun hcommit partitionId hmem => hgrows.held partitionId (h hcommit partitionId hmem)

def Admissible (cluster : Cluster setting) : Mutation → Prop
  | .status _ => True
  | .participantSet previousText text _ _ _ => previousText ⊆ text
  | .decision text stored => cluster.Supports text stored.decision
  | .participant partitionId record =>
    cluster.Admitted partitionId ∧ cluster.Backed partitionId record.preparedDigest

theorem Admissible.grows (h : before.Admissible mutation)
    (hgrows : before.Grows after) : after.Admissible mutation := by
  cases mutation with
  | status value => trivial
  | participantSet previousText text state commitMode count => exact h
  | decision text stored => exact Supports.grows h hgrows
  | participant partitionId record => exact ⟨hgrows.admitted partitionId h.1, h.2.grows hgrows⟩

def Permits (cluster : Cluster setting) (request : Request) : Prop :=
  match request.body with
  | .prepare => cluster.Frozen ∧ cluster.Admitted request.partitionId
  | .decide binding => cluster.Decided binding.decision
  | _ => True

theorem Permits.grows (h : before.Permits request)
    (hgrows : before.Grows after) : after.Permits request := by
  unfold Permits at h ⊢
  split at h
  · exact ⟨(hgrows.frozen h.1).1, hgrows.admitted _ h.2⟩
  · exact h.grows hgrows
  · exact h

def Confirms (cluster : Cluster setting) (reply : Reply) : Prop :=
  ∀ outcome, reply.operation = .prepare → reply.answer.success = true →
    reply.answer.outcome = some outcome → outcome.state = .row .prepared →
    cluster.Held reply.partitionId

theorem Confirms.grows {reply : Reply} (h : before.Confirms reply)
    (hgrows : before.Grows after) : after.Confirms reply :=
  fun outcome hoperation hsuccess houtcome hstate =>
    hgrows.held _ (h outcome hoperation hsuccess houtcome hstate)

def Accounts (cluster : Cluster setting) (partitionId : String) (row : ParticipantRow) : Prop :=
  match row.state with
  | .prepared => True
  | .committed => cluster.Decided .commit
  | .rolledBack => cluster.Decided .rollback
  | .refused => row.decision = none → cluster.Frozen ∧ cluster.Admitted partitionId

theorem Accounts.grows (h : before.Accounts partitionId row) (hgrows : before.Grows after) :
    after.Accounts partitionId row := by
  unfold Accounts at h ⊢
  split at h
  · trivial
  · exact h.grows hgrows
  · exact h.grows hgrows
  · intro hundecided
    obtain ⟨hfrozen, hadmitted⟩ := h hundecided
    exact ⟨(hgrows.frozen hfrozen).1, hgrows.admitted _ hadmitted⟩

structure Sound (cluster : Cluster setting) : Prop where
  decided : ∀ stored, cluster.store.row.decision = some stored →
    cluster.Frozen ∧ cluster.Supports cluster.store.row.participantSetText
      stored.decision
  participants : ∀ partitionId record, cluster.store.participants.lookup partitionId = some record →
    cluster.Admitted partitionId ∧ cluster.Backed partitionId record.preparedDigest
  requests : ∀ request, request ∈ cluster.requests → cluster.Permits request
  replies : ∀ reply, reply ∈ cluster.replies → cluster.Confirms reply
  pending : ∀ mutation, mutation ∈ cluster.pending → cluster.Admissible mutation
  named : ∀ partitionId, (cluster.partitions partitionId).partitionId = partitionId
  reserved : ∀ partitionId, Reserved (cluster.partitions partitionId)
  rows : ∀ partitionId row, cluster.participantRow partitionId = some row →
    cluster.Accounts partitionId row

end Cluster

inductive Mutation.Effect (store : Store) : Mutation → Store → Bool → Prop where
  | status (value : Status) :
      Effect store (.status value) { store with row.status := value } true
  | participantSet (text : List String) (state : ParticipantSetState)
      (commitMode : CommitMode) (count : Nat)
      (hopened : store.row.participantSetState = .opened)
      (hundecided : store.row.decision = none) :
      Effect store (.participantSet store.row.participantSetText text state commitMode count)
        { store with
          row.participantSetText := text
          row.participantSetState := state
          row.commitMode := commitMode
          row.frozenParticipantCount := count } true
  | decision (stored : StoredDecision)
      (hfrozen : store.row.participantSetState = .frozen)
      (hundecided : store.row.decision = none) :
      Effect store (.decision store.row.participantSetText stored)
        { store with row.decision := some stored } true
  | participant (partitionId : String) (record : ParticipantRecord) :
      Effect store (.participant partitionId record)
        { store with
          participants := store.participants.insert partitionId record } true
  | missed (mutation : Mutation) : Effect store mutation store false

theorem Mutation.apply_effect (store : Store) (mutation : Mutation) :
    mutation.Effect store (mutation.apply store).1 (mutation.apply store).2 := by
  cases mutation with
  | status value => exact .status value
  | participantSet previousText text state commitMode count =>
    simp only [Mutation.apply]
    split
    next hguard =>
      obtain ⟨hopened, rfl, hundecided⟩ := hguard
      exact .participantSet text state commitMode count hopened hundecided
    · exact .missed _
  | decision text stored =>
    simp only [Mutation.apply]
    split
    next hguard =>
      obtain ⟨hfrozen, rfl, hundecided⟩ := hguard
      exact .decision stored hfrozen hundecided
    · exact .missed _
  | participant partitionId record => exact .participant partitionId record

theorem Mutation.Effect.decided {store after : Store}
    (h : Mutation.Effect store (.decision text stored) after true) :
    after.row.decision = some stored := by
  cases h
  rfl

theorem Mutation.Effect.admitted {store after : Store} {state : ParticipantSetState} (h : Mutation.Effect store
      (.participantSet previousText text state commitMode count) after true) :
    after.row.participantSetText = text ∧ after.row.participantSetState = state := by
  cases h
  exact ⟨rfl, rfl⟩

namespace Cluster

variable {cluster : Cluster setting} {store : Store}

theorem grows_of_effect (h : cluster.Admissible mutation)
    (heffect : mutation.Effect cluster.store store changed) :
    cluster.Grows { cluster with store } := by
  cases heffect with
  | status value => exact ⟨fun _ h => h, fun h => ⟨h, rfl⟩, fun _ h => h, fun _ h => h⟩
  | participantSet text state commitMode count hopened hundecided =>
    refine ⟨?_, ?_, fun partitionId hadmitted => h hadmitted, fun _ hheld => hheld⟩
    · intro stored hstored
      rw [hundecided] at hstored
      cases hstored
    · intro hfrozen
      rw [Frozen, hopened] at hfrozen
      cases hfrozen
  | decision stored hfrozen hundecided =>
    refine ⟨?_, fun hfrozen => ⟨hfrozen, rfl⟩, fun _ h => h, fun _ hheld => hheld⟩
    intro other hother
    rw [hundecided] at hother
    cases hother
  | participant partitionId record =>
    exact ⟨fun _ h => h, fun h => ⟨h, rfl⟩, fun _ h => h, fun _ h => h⟩
  | missed => exact Grows.refl cluster

section

variable (h : cluster.Sound)

include h

theorem Sound.withStore (hgrows : cluster.Grows { cluster with store })
    (hdecided : ∀ stored, store.row.decision = some stored →
      store.row.participantSetState = .frozen ∧
        cluster.Supports store.row.participantSetText stored.decision)
    (hparticipants : ∀ partitionId record, store.participants.lookup partitionId = some record →
      partitionId ∈ store.row.participantSetText ∧
        cluster.Backed partitionId record.preparedDigest) : Sound { cluster with store } where
  decided := hdecided
  participants := hparticipants
  requests request hmem := (h.requests request hmem).grows hgrows
  replies reply hmem := (h.replies reply hmem).grows hgrows
  pending mutation hmem := (h.pending mutation hmem).grows hgrows
  named := h.named
  reserved := h.reserved
  rows partitionId row hrow := (h.rows partitionId row hrow).grows hgrows

theorem Sound.effect (hadmissible : cluster.Admissible mutation)
    (heffect : mutation.Effect cluster.store store changed) : Sound { cluster with store } := by
  have hgrows := grows_of_effect hadmissible heffect
  cases heffect with
  | status value => exact h.withStore hgrows h.decided h.participants
  | participantSet text state commitMode count hopened hundecided =>
    refine h.withStore hgrows ?_ ?_
    · intro stored hstored
      rw [hundecided] at hstored
      cases hstored
    intro partitionId record hlookup
    obtain ⟨hadmitted, hbacked⟩ := h.participants partitionId record hlookup
    exact ⟨hadmissible hadmitted, hbacked⟩
  | decision stored hfrozen hundecided =>
    refine h.withStore hgrows ?_ h.participants
    rintro other hother
    cases hother
    exact ⟨hfrozen, hadmissible⟩
  | participant partitionId record =>
    refine h.withStore hgrows h.decided ?_
    intro other found hlookup
    by_cases hsame : other = partitionId
    · subst hsame
      rw [AList.lookup_insert] at hlookup
      cases hlookup
      exact hadmissible
    · rw [AList.lookup_insert_ne hsame] at hlookup
      exact h.participants other found hlookup
  | missed => exact h

theorem Sound.post (hadmissible : cluster.Admissible mutation) :
    Sound { cluster with pending := mutation :: cluster.pending } :=
  { h with
    pending := by
      rintro other (_ | ⟨_, hmem⟩)
      · exact hadmissible
      · exact h.pending other hmem }

theorem Sound.send (hpermits : cluster.Permits request) :
    Sound { cluster with requests := request :: cluster.requests } :=
  { h with
    requests := by
      rintro other (_ | ⟨_, hmem⟩)
      · exact hpermits
      · exact h.requests other hmem }

theorem Sound.reply {replies : List Reply}
    (hconfirms : ∀ reply, reply ∈ replies → cluster.Confirms reply) :
    Sound { cluster with replies := replies ++ cluster.replies } :=
  { h with
    replies := by
      intro reply hmem
      obtain hmem | hmem := List.mem_append.mp hmem
      · exact hconfirms reply hmem
      · exact h.replies reply hmem }

variable {next : Cluster setting}

theorem Sound.answerFromRow {operation : ParticipantOperation}
    (hnext : cluster.answerFromRow partitionId operation = some next) :
    next.Sound ∧ cluster.Grows next := by
  unfold Cluster.answerFromRow at hnext
  split at hnext
  · cases hnext
  next row hrow =>
  cases hnext
  refine ⟨@Sound.reply _ cluster h [_] ?_, ⟨fun _ h => h,
    fun h => ⟨h, rfl⟩, fun _ h => h, fun _ h => h⟩⟩
  intro reply hmem outcome _ _ houtcome hstate
  obtain rfl := List.mem_singleton.mp hmem
  cases houtcome
  refine ⟨row, hrow, ?_⟩
  simp [ParticipantRow.refusesPrepare, ParticipantStateName.row.inj hstate]

theorem Sound.admits_prepare (hadmits : cluster.admits partitionId (.prepare command) = true)
    (hof : command.identity.transactionId = setting.transactionId) :
    cluster.Frozen ∧ cluster.Admitted partitionId := by
  simp only [Cluster.admits, hof, ne_eq, not_true_eq_false, decide_false,
    Bool.false_or, Bool.and_eq_true, List.any_eq_true, decide_eq_true_eq]
    at hadmits
  obtain ⟨-, request, hmem, ⟨rfl, -⟩, hbody⟩ := hadmits
  have hpermits := h.requests request hmem
  rw [Permits, hbody] at hpermits
  exact hpermits

theorem Sound.admits_decision (hadmits : cluster.admits partitionId (.decision command) = true)
    (hof : command.identity.transactionId = setting.transactionId) :
    cluster.Decided command.decision := by
  simp only [Cluster.admits, hof, ne_eq, not_true_eq_false, decide_false,
    Bool.false_or, Bool.and_eq_true, List.any_eq_true, decide_eq_true_eq]
    at hadmits
  obtain ⟨-, request, hmem, -, hbody⟩ := hadmits
  have hpermits := h.requests request hmem
  rw [Permits, hbody] at hpermits
  exact hpermits

theorem Sound.accounts_arrival (hadmits : cluster.admits partitionId command = true)
    (harrival : Arrival (cluster.partitions partitionId) (setting.keyAt partitionId) row command) :
    cluster.Accounts partitionId row := by
  cases harrival with
  | prepare command hkey habsent hstate =>
    have hof : command.identity.transactionId = setting.transactionId :=
      congrArg RowKey.transactionId hkey
    obtain hstate | hstate := hstate
    · rw [Accounts, hstate]
      trivial
    · rw [Accounts, hstate]
      exact fun _ => h.admits_prepare hadmits hof
  | decision command hkey hstate =>
    have hof : command.identity.transactionId = setting.transactionId :=
      congrArg RowKey.transactionId hkey
    have hdecided := h.admits_decision hadmits hof
    obtain ⟨hstate, hdecision⟩ | ⟨hstate, hdecision⟩ := hstate
    · rw [Accounts, hstate]
      exact hdecision ▸ hdecided
    · rw [Accounts, hstate]
      exact hdecision ▸ hdecided
  | failed command hkey hstate hdecision =>
    rw [Accounts, hstate]
    intro hundecided
    rw [hundecided] at hdecision
    cases hdecision

end

def withReplica (cluster : Cluster setting) (partitionId : String)
    (state : Cdc.ReplicaState setting.cdc) : Cluster setting :=
  { cluster with
    replicas := Function.update cluster.replicas partitionId state }

@[simp] theorem withReplica_self (cluster : Cluster setting)
    (partitionId : String) (state : Cdc.ReplicaState setting.cdc) :
    (cluster.withReplica partitionId state).partitions partitionId = state.partition := by
  simp only [partitions, withReplica, Function.update_self]

@[simp] theorem withReplica_other (cluster : Cluster setting)
    (state : Cdc.ReplicaState setting.cdc) (hne : other ≠ partitionId) :
    (cluster.withReplica partitionId state).partitions other = cluster.partitions other := by
  simp only [partitions, withReplica, Function.update_of_ne hne]

variable {state : Cdc.ReplicaState setting.cdc}

theorem withReplica_grows
    (hturn : Turn (cluster.partitions partitionId) state.partition command) :
    cluster.Grows (cluster.withReplica partitionId state) := by
  refine ⟨fun _ h => h, fun h => ⟨h, rfl⟩, fun _ h => h, ?_⟩
  rintro other ⟨row, hrow, hstate⟩
  by_cases hsame : other = partitionId
  · subst hsame
    obtain ⟨found, hfound, hunrefused⟩ := hturn.unrefused hrow hstate
    refine ⟨found, ?_, hunrefused⟩
    rw [participantRow, withReplica_self]
    exact hfound
  · refine ⟨row, ?_, hstate⟩
    rw [participantRow, withReplica_other _ _ hsame]
    exact hrow

theorem Sound.withReplica (h : cluster.Sound)
    (hadmits : cluster.admits partitionId command = true)
    (hturn : Turn (cluster.partitions partitionId) state.partition command) :
    (cluster.withReplica partitionId state).Sound := by
  have hgrows := withReplica_grows hturn
  refine {
    decided := ?_
    participants := ?_
    requests := fun request hmem => (h.requests request hmem).grows hgrows
    replies := fun reply hmem => (h.replies reply hmem).grows hgrows
    pending := fun mutation hmem => (h.pending mutation hmem).grows hgrows
    named := ?_
    reserved := ?_
    rows := ?_
  }
  · intro stored hstored
    obtain ⟨hfrozen, hsupports⟩ := h.decided stored hstored
    exact ⟨hfrozen, hsupports.grows hgrows⟩
  · intro other record hlookup
    obtain ⟨hadmitted, hbacked⟩ := h.participants other record hlookup
    exact ⟨hadmitted, hbacked.grows hgrows⟩
  · intro other
    by_cases hsame : other = partitionId
    · subst hsame
      rw [withReplica_self, hturn.partitionId]
      exact h.named other
    · rw [withReplica_other _ _ hsame]
      exact h.named other
  · intro other
    by_cases hsame : other = partitionId
    · subst hsame
      rw [withReplica_self]
      exact hturn.reserved
    · rw [withReplica_other _ _ hsame]
      exact h.reserved other
  · intro other row hrow
    by_cases hsame : other = partitionId
    · subst hsame
      rw [participantRow, withReplica_self] at hrow
      obtain hold | harrival := hturn.arrival _ row hrow
      · exact (h.rows other row hold).grows hgrows
      · exact (h.accounts_arrival hadmits harrival).grows hgrows
    · rw [participantRow, withReplica_other _ _ hsame] at hrow
      exact (h.rows other row hrow).grows hgrows

theorem Sound.confirms_repliesOf {before : PartitionState setting.platform}
    {applied : Applied setting.platform} {reply : Reply}
    (h : (cluster.withReplica partitionId state).Sound)
    (happlied : applyCommittedEntry host before committed = .ok applied)
    (hstate : state.partition = applied.state)
    (hmem : reply ∈ repliesOf setting partitionId committed.command (.partition applied.answer)) :
    (cluster.withReplica partitionId state).Confirms reply := by
  obtain ⟨command, position⟩ := committed
  unfold repliesOf at hmem
  split at hmem
  on_goal 2 => cases hmem
  next hof =>
  obtain ⟨answer, hanswer, rfl⟩ := List.mem_map.mp hmem
  replace hanswer : applied.answer = some (.participant answer) := by
    rw [Option.mem_toList, participantAnswerOf.eq_def] at hanswer
    split at hanswer <;> simp_all
  intro outcome hoperation hsuccess houtcome hname
  cases command with
  | prepare command =>
    have hrow := applyParticipantPrepare_answersRow happlied answer outcome
      hanswer hsuccess houtcome
    cases hlookup : applied.state.rows.lookup command.identity.key with
    | none =>
      rw [hrow, hlookup] at hname
      cases hname
    | some row =>
      rw [hrow, hlookup] at hname
      rw [← hstate] at hlookup
      have hkey : command.identity.key = setting.keyAt partitionId := by
        have hnamed := (h.reserved partitionId).named
          command.identity.key row (by rw [withReplica_self]; exact hlookup)
        rw [h.named] at hnamed
        have hsame := of_decide_eq_true hof
        simp only [Identity.key] at hnamed
        simp only [Identity.key, Setting.keyAt, hnamed, hsame]
      refine ⟨row, ?_, ?_⟩
      · rw [participantRow, withReplica_self, ← hkey]
        exact hlookup
      · simp [ParticipantRow.refusesPrepare, ParticipantStateName.row.inj hname]
  | decision command => cases hoperation
  | sql command => cases hoperation
  | generationOrigin command => cases hoperation
  | unrecognised type => cases hoperation

/-- An entry that did not answer for its command confirms nothing. -/
theorem confirms_of_passes {applied : Cdc.AppliedEntry setting.cdc} {reply : Reply}
    {replica : Cdc.ReplicaState setting.cdc} (hpasses : Cdc.Passes replica applied)
    (hmem : reply ∈ entryReplies setting partitionId command applied.answer) :
    cluster.Confirms reply := by
  cases command with
  | cdcDelivered => cases hmem
  | partition command stamp details =>
    simp only [entryReplies, repliesOf] at hmem
    split at hmem
    on_goal 2 => cases hmem
    obtain ⟨answer, hanswer, rfl⟩ := List.mem_map.mp hmem
    intro outcome _ hsuccess _ _
    rw [Option.mem_toList, participantAnswerOf.eq_def] at hanswer
    split at hanswer
    next found hfound => exact absurd hfound (hpasses.answer _)
    · cases hanswer
      cases hsuccess
    · cases hanswer

theorem Sound.replied {replies : List Reply}
    (h : (cluster.withReplica partitionId state).Sound)
    (hturn : Turn (cluster.partitions partitionId) state.partition command)
    (hconfirms : ∀ reply ∈ replies, (cluster.withReplica partitionId state).Confirms reply) :
    Sound { cluster.withReplica partitionId state with replies := replies ++ cluster.replies } ∧
      cluster.Grows
        { cluster.withReplica partitionId state with replies := replies ++ cluster.replies } := by
  have hgrows := withReplica_grows hturn
  exact ⟨h.reply hconfirms, ⟨hgrows.decision, hgrows.frozen, hgrows.admitted, hgrows.held⟩⟩

theorem Sound.applyEntry (hdet : setting.platform.Deterministic) (h : cluster.Sound)
    (hnext : cluster.applyEntry partitionId replica host entry = some next) :
    next.Sound ∧ cluster.Grows next := by
  unfold Cluster.applyEntry at hnext
  split at hnext
  on_goal 2 => cases hnext
  next hadmits =>
  split at hnext
  · cases hnext
    exact ⟨h, Grows.refl cluster⟩
  next applied happlied =>
  cases hnext
  cases Cdc.applyEntry_step happlied with
  | passes entry hpasses =>
    have hchange : Change host (cluster.partitions partitionId)
        ⟨.unrecognised "", entry.position⟩ applied.state.partition [] := by
      rw [hpasses.state]
      exact .unchanged _
    have hturn := hchange.turn hdet (h.reserved partitionId)
    exact (h.withReplica rfl hturn).replied hturn fun reply hmem => confirms_of_passes hpasses hmem
  | follows command stamp details position plain hplain hfollows =>
    have hturn : Turn (cluster.partitions partitionId) applied.state.partition command := by
      rw [hfollows.state]
      exact (applyCommittedEntry_change hplain).turn hdet (h.reserved partitionId)
    have hmoved := h.withReplica hadmits hturn
    refine hmoved.replied hturn fun reply hmem => ?_
    rw [hfollows.answer] at hmem
    exact hmoved.confirms_repliesOf hplain hfollows.state hmem
  | refuses command stamp details position hcaptures hrefuses =>
    obtain ⟨row, at_, refusal, hdecides, hstate⟩ := hrefuses.state
    have hturn : Turn (cluster.partitions partitionId) applied.state.partition
        (.decision command) := by
      rw [hstate]
      exact hdecides.refused_turn (h.reserved partitionId) at_ refusal
    have hdecision : cluster.admits partitionId (.decision command) = true := hadmits
    refine (h.withReplica hdecision hturn).replied hturn ?_
    rintro reply hmem outcome hoperation
    simp only [entryReplies, repliesOf] at hmem
    split at hmem
    on_goal 2 => cases hmem
    obtain ⟨answer, -, rfl⟩ := List.mem_map.mp hmem
    cases hoperation

/-- No participant refused a COMMIT. -/
def CommitsUnrefused (cluster : Cluster setting) : Prop :=
  ∀ partitionId, PrepareRefusals (cluster.partitions partitionId)

theorem CommitsUnrefused.applyEntry (hdet : setting.platform.Deterministic) (hsound : cluster.Sound)
    (h : cluster.CommitsUnrefused)
    (hcaptures : Cdc.captures replica (cluster.replicas partitionId) host entry = true)
    (hnext : cluster.applyEntry partitionId replica host entry = some next) :
    next.CommitsUnrefused := by
  unfold Cluster.applyEntry at hnext
  split at hnext
  on_goal 2 => cases hnext
  split at hnext
  · cases hnext
    exact h
  next applied happlied =>
  cases hnext
  have hplaced : PrepareRefusals applied.state.partition := by
    cases Cdc.applyEntry_step happlied with
    | passes entry hpasses => exact hpasses.state ▸ h partitionId
    | follows command stamp details position plain hplain hfollows =>
      rw [hfollows.state]
      exact (h partitionId).change hdet (hsound.reserved partitionId)
        (applyCommittedEntry_change hplain)
    | refuses command stamp details position hfails =>
      rw [hcaptures] at hfails
      cases hfails
  intro other
  by_cases hsame : other = partitionId
  · subst hsame
    simpa only [partitions, Function.update_self] using hplaced
  · simpa only [partitions, Function.update_of_ne hsame] using h other

end Cluster

end LagrangeDb.Transaction
