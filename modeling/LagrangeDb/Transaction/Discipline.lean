import LagrangeDb.Transaction.Invariant
import LagrangeDb.Transaction.World

namespace LagrangeDb.Transaction

open Data LagrangeDb.Participant

/-! What a coordinator's memory tells about the cluster, and the terms on which its operation and
the tasks of its stages share it. -/

variable {setting : Setting}

/-- The part of the memory only the operation writes.  Tasks replace records
and their places in the map, and leave its keys. -/
structure Core where
  status : Status
  participantSetState : ParticipantSetState
  participantSetText : List String
  keys : Set String
  decision : Option DecisionRecord
  (commitPointReached recoveryDiscovered : Bool)
  ended : Option Bool

def Memory.core (memory : Memory) : Core :=
  { status := memory.tx.status
    participantSetState := memory.tx.participantSetState
    participantSetText := memory.tx.participantSetText
    keys := { partitionId | partitionId ∈ memory.tx.participants }
    decision := memory.tx.decision
    commitPointReached := memory.tx.commitPointReached
    recoveryDiscovered := memory.tx.recoveryDiscovered
    ended := memory.ended }

/-- The frozen set and the participants of the transaction are the same. -/
structure Core.Grounded (core : Core) : Prop where
  frozen : core.participantSetState = .frozen
  covers : ∀ partitionId, partitionId ∈ core.participantSetText → partitionId ∈ core.keys

structure Core.Sound (core : Core) (cluster : Cluster setting) : Prop where
  decided : ∀ record, core.decision = some record → cluster.Decided record.body.decision
  admitted : ∀ partitionId, partitionId ∈ core.participantSetText → cluster.Admitted partitionId
  frozen : core.participantSetState = .frozen →
    cluster.Frozen ∧ cluster.store.row.participantSetText = core.participantSetText
  prepared : core.recoveryDiscovered = false → core.status = .prepared →
    core.Grounded
  ended : core.ended = some false → cluster.Decided .rollback

variable {before after : Cluster setting}

theorem Core.Sound.grows {core : Core} (h : core.Sound before)
    (hgrows : before.Grows after) : core.Sound after where
  decided record hrecord := (h.decided record hrecord).grows hgrows
  admitted partitionId hmem := hgrows.admitted _ (h.admitted partitionId hmem)
  frozen hfrozen := by
    obtain ⟨hbefore, htext⟩ := h.frozen hfrozen
    obtain ⟨hafter, hsame⟩ := hgrows.frozen hbefore
    exact ⟨hafter, hsame.trans htext⟩
  prepared := h.prepared
  ended hended := (h.ended hended).grows hgrows

/-- Records stay, for the partition they are of, and so do the keys. -/
structure Memory.Keeps (before after : Memory) : Prop where
  records : ∀ reference participant, before.records.lookup reference = some participant →
    ∃ found, after.records.lookup reference = some found ∧
      found.partitionId = participant.partitionId
  keys : before.core.keys ⊆ after.core.keys

theorem Memory.Keeps.refl (memory : Memory) : memory.Keeps memory :=
  ⟨fun _ participant hlookup => ⟨participant, hlookup, rfl⟩, subset_rfl⟩

theorem Memory.Keeps.trans {first second third : Memory}
    (h : first.Keeps second) (hnext : second.Keeps third) : first.Keeps third := by
  refine ⟨?_, h.keys.trans hnext.keys⟩
  intro reference participant hlookup
  obtain ⟨found, hfound, hsame⟩ := h.records reference participant hlookup
  obtain ⟨last, hlast, hnextSame⟩ := hnext.records reference found hfound
  exact ⟨last, hlast, hnextSame.trans hsame⟩

def Memory.Names (memory : Memory) (reference : Nat) (partitionId : String) : Prop :=
  ∃ participant, memory.records.lookup reference = some participant ∧
    participant.partitionId = partitionId

variable {reference : Nat} {partitionId : String}

theorem Memory.Names.keeps {before after : Memory}
    (h : before.Names reference partitionId) (hkeeps : before.Keeps after) :
    after.Names reference partitionId := by
  obtain ⟨participant, hlookup, rfl⟩ := h
  exact hkeeps.records reference participant hlookup

/-- Every record stands for an admitted partition, and every place of the map
holds a record of its partition. -/
structure Memory.Placed (memory : Memory) (cluster : Cluster setting) :
    Prop where
  records : ∀ reference participant, memory.records.lookup reference = some participant →
    cluster.Admitted participant.partitionId ∧
      cluster.Backed participant.partitionId participant.preparedDigest
  participants : ∀ partitionId reference,
    memory.tx.participants.lookup partitionId = some reference →
    memory.Names reference partitionId
  fresh : ∀ reference participant, memory.records.lookup reference = some participant →
    reference < memory.nextRecord

variable {memory : Memory}

theorem Memory.Placed.grows (h : memory.Placed before)
    (hgrows : before.Grows after) : memory.Placed after where
  records reference participant hlookup := by
    obtain ⟨hadmitted, hbacked⟩ := h.records reference participant hlookup
    exact ⟨hgrows.admitted _ hadmitted, hbacked.grows hgrows⟩
  participants := h.participants
  fresh := h.fresh

structure Memory.Sound (memory : Memory) (cluster : Cluster setting) :
    Prop where
  core : memory.core.Sound cluster
  placed : memory.Placed cluster

theorem Memory.Sound.grows (h : memory.Sound before)
    (hgrows : before.Grows after) : memory.Sound after :=
  ⟨h.core.grows hgrows, h.placed.grows hgrows⟩

variable {cluster : Cluster setting}

theorem Memory.Placed.withTx {tx : Tx} {active : Bool} {ended : Option Bool}
    (h : memory.Placed cluster) (hplaces : tx.participants = memory.tx.participants) :
    Memory.Placed { memory with tx, active, ended } cluster where
  records := h.records
  participants partitionId reference hlookup :=
    h.participants partitionId reference (hplaces ▸ hlookup)
  fresh := h.fresh

@[simp] theorem Memory.setRecord_core (memory : Memory) (reference : Nat)
    (update : Participant → Participant) :
    (memory.setRecord reference update).core = memory.core := by
  unfold Memory.setRecord
  split <;> rfl

theorem Memory.setRecord_keeps (memory : Memory) (reference : Nat)
    (hupdate : ∀ participant, (update participant).partitionId = participant.partitionId) :
    memory.Keeps (memory.setRecord reference update) := by
  refine ⟨?_, by rw [Memory.setRecord_core]⟩
  intro other participant hlookup
  unfold Memory.setRecord
  split
  · exact ⟨participant, hlookup, rfl⟩
  next found hfound =>
  simp only [Data.Keyed.lookup_insert]
  split
  next heq =>
    rw [heq, hfound] at hlookup
    cases hlookup
    exact ⟨_, rfl, hupdate _⟩
  · exact ⟨participant, hlookup, rfl⟩

theorem Memory.Placed.setRecord (h : memory.Placed cluster) (hupdate : ∀ participant,
      (update participant).partitionId = participant.partitionId) (hbacked : ∀ participant,
      memory.records.lookup reference = some participant → cluster.Backed participant.partitionId
        (update participant).preparedDigest) :
    (memory.setRecord reference update).Placed cluster := by
  have hkeeps := memory.setRecord_keeps reference hupdate
  cases hfound : memory.records.lookup reference with
  | none =>
    simp only [Memory.setRecord, hfound]
    exact h
  | some found =>
  simp only [Memory.setRecord, hfound] at hkeeps ⊢
  refine ⟨?_, ?_, ?_⟩
  · intro other participant hlookup
    simp only [Data.Keyed.lookup_insert] at hlookup
    split at hlookup
    · cases hlookup
      rw [hupdate]
      exact ⟨(h.records reference found hfound).1, hbacked found hfound⟩
    · exact h.records other participant hlookup
  · intro partitionId other hplace
    exact (h.participants partitionId other hplace).keeps hkeeps
  intro other participant hlookup
  simp only [Data.Keyed.lookup_insert] at hlookup
  split at hlookup
  next heq =>
    rw [heq]
    exact h.fresh reference found hfound
  · exact h.fresh other participant hlookup

@[simp] theorem Memory.install_keys (memory : Memory)
    (participant : Participant) : (memory.install participant).core.keys =
      insert participant.partitionId memory.core.keys := by
  ext partitionId
  simp [Memory.core, Memory.install, AList.mem_insert]

theorem Memory.install_core (memory : Memory) (participant : Participant) :
    (memory.install participant).core = { memory.core with
        keys := insert participant.partitionId memory.core.keys } := by
  rw [← Memory.install_keys]
  rfl

theorem Memory.Placed.install_keeps (h : memory.Placed cluster) (participant : Participant) :
    memory.Keeps (memory.install participant) := by
  refine ⟨?_, by
    rw [Memory.install_keys]
    exact Set.subset_insert _ _⟩
  intro reference found hlookup
  refine ⟨found, ?_, rfl⟩
  have hlt := h.fresh reference found hlookup
  simp only [Memory.install, Data.Keyed.lookup_insert]
  rw [if_neg (by omega)]
  exact hlookup

theorem Memory.Placed.install (h : memory.Placed cluster)
    (hadmitted : cluster.Admitted participant.partitionId)
    (hbacked : cluster.Backed participant.partitionId participant.preparedDigest) :
    (memory.install participant).Placed cluster := by
  have hkeeps := h.install_keeps participant
  refine ⟨?_, ?_, ?_⟩
  · intro reference found hlookup
    simp only [Memory.install, Data.Keyed.lookup_insert] at hlookup
    split at hlookup
    · cases hlookup
      exact ⟨hadmitted, hbacked⟩
    · exact h.records reference found hlookup
  · intro partitionId reference hplace
    simp only [Memory.install, Data.Keyed.lookup_insert] at hplace
    split at hplace
    next heq =>
      cases hplace
      exact ⟨participant, by simp [Memory.install], heq.symm⟩
    · exact (h.participants partitionId reference hplace).keeps hkeeps
  · intro reference found hlookup
    simp only [Memory.install, Data.Keyed.lookup_insert] at hlookup
    show reference < memory.nextRecord + 1
    split at hlookup
    · omega
    · have := h.fresh reference found hlookup
      omega

theorem Memory.bind_core (reference : Nat) (hmem : partitionId ∈ memory.core.keys) :
    (memory.bind partitionId (some reference)).core = memory.core := by
  have hkeys : (memory.bind partitionId (some reference)).core.keys =
      memory.core.keys := by
    ext other
    simp only [Memory.core, Memory.bind, AList.mem_insert, Set.mem_ofPred_eq, or_iff_right_iff_imp]
    rintro rfl
    exact hmem
  rw [Memory.core, Core.mk.injEq]
  exact ⟨rfl, rfl, rfl, hkeys, rfl, rfl, rfl, rfl⟩

theorem Memory.Placed.bind (h : memory.Placed cluster)
    (hnames : memory.Names reference partitionId) :
    (memory.bind partitionId (some reference)).Placed cluster := by
  refine ⟨h.records, ?_, h.fresh⟩
  intro other found hplace
  simp only [Memory.bind, Data.Keyed.lookup_insert] at hplace
  split at hplace
  next heq =>
    cases hplace
    exact heq ▸ hnames
  · exact h.participants other found hplace

theorem Memory.Placed.admitted (h : memory.Placed cluster)
    (hmem : partitionId ∈ memory.core.keys) : cluster.Admitted partitionId := by
  obtain ⟨reference, hplace⟩ := Option.isSome_iff_exists.mp (AList.lookup_isSome.mpr hmem)
  obtain ⟨participant, hlookup, rfl⟩ := h.participants _ reference hplace
  exact (h.records reference participant hlookup).1

namespace Scene

abbrev core (scene : Scene setting) : Core := scene.memory.core

def Sound (scene : Scene setting) : Prop := scene.cluster.Sound ∧ scene.memory.Sound scene.cluster

theorem Sound.core {scene : Scene setting} (h : scene.Sound) : scene.core.Sound scene.cluster :=
  h.2.core

structure Grows (before after : Scene setting) : Prop where
  cluster : before.cluster.Grows after.cluster
  memory : before.memory.Keeps after.memory

theorem Grows.refl (scene : Scene setting) : scene.Grows scene := ⟨.refl _, .refl _⟩

theorem Grows.trans {first second third : Scene setting}
    (h : first.Grows second) (hnext : second.Grows third) : first.Grows third :=
  ⟨h.cluster.trans hnext.cluster, h.memory.trans hnext.memory⟩

def Ready (scene : Scene setting) : Task → Prop
  | .stage stage partitionId _ => stage = .prepare →
      scene.cluster.Frozen ∧ scene.cluster.Admitted partitionId
  | .begin partitionId reference => partitionId ∈ scene.memory.core.keys ∧
      ∀ found, reference = some found → scene.memory.Names found partitionId

theorem Ready.grows {before after : Scene setting}
    (h : before.Ready task) (hgrows : before.Grows after) : after.Ready task := by
  cases task with
  | stage stage partitionId budgetBound =>
    intro hprepare
    obtain ⟨hfrozen, hadmitted⟩ := h hprepare
    exact ⟨(hgrows.cluster.frozen hfrozen).1, hgrows.cluster.admitted partitionId hadmitted⟩
  | begin partitionId reference =>
    refine ⟨hgrows.memory.keys h.1, ?_⟩
    intro found hfound
    exact (h.2 found hfound).keeps hgrows.memory

end Scene

/-- Who runs: the operation of the session, or a task of one of its stages. -/
inductive Party where
  | operation
  | task
deriving DecidableEq

def Performs : (request : Call) → Scene setting → request.Answer → Scene setting → Prop
  | .stage _, before, _, after => after = before
  | request, before, answer, after => ∃ response, request.run before response = some (answer, after)

def discipline (setting : Setting) (party : Party) :
    Program.Discipline (Scene setting) Call Call.Answer where
  invariant := Scene.Sound
  rely before after := before.Grows after ∧
    (party = .operation → after.memory.core = before.memory.core)
  guarantee before after := before.Grows after ∧
    (party = .task → after.memory.core = before.memory.core)
  requires request scene :=
    match request with
    | .stage tasks => party = .operation ∧
        ∀ task, task ∈ tasks → scene.Ready task
    | _ => True
  performs := Performs

abbrev SafeBy (party : Party) {α : Type}
    (post : Scene setting → Except Failure α → Prop) (program : Prog α)
    (scene : Scene setting) : Prop :=
  Program.Safe (discipline setting party) post program scene

end LagrangeDb.Transaction
