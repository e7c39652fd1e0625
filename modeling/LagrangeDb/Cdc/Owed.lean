import LagrangeDb.Cdc.Converge

namespace LagrangeDb.Cdc

open Data Participant

/-! What becomes of the obligations a replica recorded: each of them is owed, kept as delivered, or
at or below the progress. -/

namespace Obligation

def recorded (row : Obligation) : Obligation := { row with delivered := none }

@[simp] theorem recorded_place (row : Obligation) : row.recorded.place = row.place := rfl

/-- The obligation stands in the ledger in one way only. -/
def Stands (row : Obligation) (ledger : Ledger) : Prop :=
  match ledger.readCdcObligationStanding row.logIndex row.ordinal with
  | .reclaimed => ∀ held ∈ ledger.rows, held.place ≠ row.place
  | .unknown => False
  | .owed held => held = row
  | .delivered held => held.recorded = row

end Obligation

namespace Ledger

def countCdcObligations (ledger : Ledger) : Nat × Nat :=
  (ledger.countOwed, ledger.progress.elim 0 Progress.reclaimed +
    (ledger.rows.filter fun row => !row.isOwed).length)

def throughPlace (ledger : Ledger) : WithBot (Nat ×ₗ Nat) :=
  ledger.progress.elim ⊥ fun progress => progress.place

theorem reclaimed_iff {ledger : Ledger} {place : Nat ×ₗ Nat} :
    ledger.isCdcPositionReclaimed place = true ↔ place ≤ ledger.throughPlace := by
  unfold isCdcPositionReclaimed throughPlace
  cases ledger.progress <;> simp

/-- The ledger accounts for the recorded obligations up to an index: its rows are those above the
progress. -/
structure Keeps (ledger : Ledger) (recorded : List Obligation) (index : Nat) : Prop where
  rows : ledger.rows.map Obligation.recorded =
    recorded.filter fun row => !ledger.isCdcPositionReclaimed row.place
  counted : ledger.progress.elim 0 Progress.reclaimed + ledger.rows.length = recorded.length
  places : (recorded.map Obligation.place).Nodup
  keys : (ledger.rows.map Obligation.eventKey).Nodup
  bounded : ∀ row ∈ recorded, row.logIndex ≤ index
  through : ∀ progress, ledger.progress = some progress → progress.throughLogIndex ≤ index

variable {ledger next : Ledger} {recorded events : List Obligation} {index : Nat}

namespace Keeps

variable (keeps : ledger.Keeps recorded index) {row : Obligation}

include keeps

theorem mem (member : row ∈ ledger.rows) :
    row.recorded ∈ recorded ∧ ledger.isCdcPositionReclaimed row.place = false := by
  have kept := keeps.rows ▸ List.mem_map_of_mem member
  simpa using List.mem_filter.mp kept

theorem above (member : row ∈ ledger.rows) : ledger.throughPlace < row.place :=
  not_le.mp (reclaimed_iff.not.mp (Bool.eq_false_iff.mp (keeps.mem member).2))

theorem later (isLater : index ≤ position) : ledger.Keeps recorded position where
  __ := keeps
  bounded row member := (keeps.bounded row member).trans isLater
  through progress isProgress := (keeps.through progress isProgress).trans isLater

theorem rowPlaces : (ledger.rows.map Obligation.place).Nodup := by
  have nodup : ((recorded.filter fun row => !ledger.isCdcPositionReclaimed row.place).map
      Obligation.place).Nodup := keeps.places.sublist (List.filter_sublist.map _)
  rw [← keeps.rows, List.map_map] at nodup
  exact nodup

theorem stands (member : row ∈ recorded) : row.Stands ledger := by
  cases reclaimed : ledger.isCdcPositionReclaimed row.place with
  | true =>
    have standing : ledger.readCdcObligationStanding row.logIndex row.ordinal = .reclaimed :=
      if_pos reclaimed
    rw [Obligation.Stands, standing]
    intro held isHeld same
    have above := (keeps.mem isHeld).2
    rw [same, reclaimed] at above
    cases above
  | false =>
    have kept : row ∈ ledger.rows.map Obligation.recorded := by
      rw [keeps.rows]
      exact List.mem_filter.mpr ⟨member, by simp [reclaimed]⟩
    obtain ⟨held, isHeld, rfl⟩ := List.mem_map.mp kept
    have found : ledger.rows.find? (fun row => row.place = held.place) = some held := by
      obtain ⟨front, back, split⟩ := List.append_of_mem isHeld
      refine List.find?_eq_some_iff_append.mpr ⟨by simp, front, back, split, ?_⟩
      intro other isOther
      have places := keeps.rowPlaces
      rw [split, List.map_append, List.nodup_append] at places
      simpa using places.2.2 _ (List.mem_map_of_mem isOther) held.place (by simp)
    have standing : ledger.readCdcObligationStanding held.logIndex held.ordinal =
        if held.isOwed then .owed held else .delivered held := by
      have place : toLex (held.logIndex, held.ordinal) = held.place := rfl
      simp [readCdcObligationStanding, place, keeps.mem isHeld, found]
    rw [Obligation.Stands, show ledger.readCdcObligationStanding held.recorded.logIndex
      held.recorded.ordinal = _ from standing]
    cases owed : held.isOwed with
    | true =>
      rw [Obligation.recorded, ← Option.isNone_iff_eq_none.mp owed]
      rfl
    | false => rfl

theorem countCdcObligations_sum :
    ledger.countCdcObligations.1 + ledger.countCdcObligations.2 = recorded.length := by
  have counted := keeps.counted
  rw [List.length_eq_length_filter_add Obligation.isOwed] at counted
  simp only [countCdcObligations, countOwed]
  omega

end Keeps

theorem insertCdcObligations_ok (ok : insertCdcObligations ledger events = .ok next)
    (keys : (ledger.rows.map Obligation.eventKey).Nodup)
    (places : (ledger.rows.map Obligation.place).Nodup) :
    next = { ledger with rows := ledger.rows ++ events } ∧
      (next.rows.map Obligation.eventKey).Nodup ∧ (next.rows.map Obligation.place).Nodup := by
  induction events generalizing ledger with
  | nil =>
    cases ok
    simp [keys, places]
  | cons event rest induction =>
    obtain ⟨middle, inserted, ok⟩ := Result.ok_of_bind ok
    unfold insertCdcObligation at inserted
    split at inserted
    · cases inserted
    split at inserted
    · cases inserted
    next newKey newPlace =>
    cases inserted
    simp only [List.any_eq_true, decide_eq_true_eq, not_exists, not_and] at newKey newPlace
    have fresh : ∀ {β : Type} (f : Obligation → β), (ledger.rows.map f).Nodup →
        (∀ other ∈ ledger.rows, ¬f other = f event) → ((ledger.rows ++ [event]).map f).Nodup := by
      intro β f nodup new
      rw [List.map_append, List.nodup_append]
      exact ⟨nodup, by simp, by simpa using new⟩
    obtain ⟨rfl, rest⟩ := induction ok (fresh _ keys newKey) (fresh _ places newPlace)
    exact ⟨by simp, rest⟩

/-- Obligations of a later entry are all above the progress. -/
theorem Keeps.insert (keeps : ledger.Keeps recorded index) {later : Nat} (isLater : index < later)
    (new : ∀ event ∈ events, event.logIndex = later ∧ event.delivered = none)
    (ok : insertCdcObligations ledger events = .ok next) :
    next = { ledger with rows := ledger.rows ++ events } ∧
      next.Keeps (recorded ++ events) later := by
  obtain ⟨rfl, keys, places⟩ := insertCdcObligations_ok ok keeps.keys keeps.rowPlaces
  have same : events.map Obligation.recorded = events := by
    refine (List.map_congr_left fun event member => ?_).trans (List.map_id _)
    rw [Obligation.recorded, ← (new event member).2]
    rfl
  have above : ∀ event ∈ events, ledger.isCdcPositionReclaimed event.place = false := by
    intro event member
    unfold isCdcPositionReclaimed
    cases isProgress : ledger.progress with
    | none => rfl
    | some progress =>
      have through := keeps.through progress isProgress
      have := (new event member).1
      refine decide_eq_false (not_le.mpr (Prod.Lex.toLex_lt_toLex.mpr (.inl ?_)))
      omega
  refine ⟨rfl, ?_, ?_, ?_, keys, ?_, ?_⟩
  · rw [List.map_append, List.filter_append, same, keeps.rows]
    refine congrArg _ (List.filter_eq_self.mpr fun event member => ?_).symm
    exact congrArg not (above event member)
  · have counted := keeps.counted
    simp only [List.length_append]
    omega
  · rw [List.map_append, List.nodup_append] at places ⊢
    refine ⟨keeps.places, places.2.1, ?_⟩
    simp only [List.forall_mem_map]
    intro row isRow event isEvent same
    have index : row.logIndex = event.logIndex := congrArg (fun place => (ofLex place).1) same
    have := keeps.bounded row isRow
    have := (new event isEvent).1
    omega
  · intro row member
    rcases List.mem_append.mp member with member | member
    · exact (keeps.bounded row member).trans isLater.le
    · exact (new row member).1.le
  · exact fun progress isProgress => (keeps.through progress isProgress).trans isLater.le

structure Marks (ledger next : Ledger) (keys : List String) : Prop where
  progress : next.progress = ledger.progress
  rows : next.rows.map Obligation.recorded = ledger.rows.map Obligation.recorded
  owed : ∀ row ∈ ledger.rows, row.isOwed = true → row ∈ next.rows ∨ row.eventKey ∈ keys

theorem Marks.keeps {keys : List String} (marks : Marks ledger next keys)
    (keeps : ledger.Keeps recorded index) : next.Keeps recorded index := by
  obtain ⟨progress, rows, -⟩ := marks
  have lengths := congrArg List.length rows
  have keys := congrArg (List.map Obligation.eventKey) rows
  rw [List.length_map, List.length_map] at lengths
  rw [List.map_map, List.map_map] at keys
  refine ⟨?_, ?_, keeps.places, keys ▸ keeps.keys, keeps.bounded, progress ▸ keeps.through⟩
  · rw [rows, keeps.rows]
    simp only [isCdcPositionReclaimed, progress]
  · rw [progress, lengths]
    exact keeps.counted

theorem markCdcObligationDelivered_ok
    (ok : markCdcObligationDelivered position ledger key = .ok next) : Marks ledger next [key] := by
  unfold markCdcObligationDelivered at ok
  dsimp only at ok
  split at ok
  on_goal 2 => cases ok
  cases ok
  refine ⟨rfl, ?_, ?_⟩
  · rw [List.map_map]
    refine List.map_congr_left fun row _ => ?_
    dsimp only [Function.comp_apply]
    split <;> rfl
  · intro row member _
    by_cases named : row.eventKey = key
    · exact .inr (List.mem_singleton.mpr named)
    · exact .inl (List.mem_map.mpr ⟨row, member, by simp [named]⟩)

theorem marks_of_foldlM {keys : List String}
    (ok : keys.foldlM (markCdcObligationDelivered position) ledger = .ok next) :
    Marks ledger next keys := by
  induction keys generalizing ledger with
  | nil =>
    cases ok
    exact ⟨rfl, rfl, fun row member _ => .inl member⟩
  | cons key rest induction =>
    obtain ⟨middle, marked, ok⟩ := Result.ok_of_bind ok
    have first := markCdcObligationDelivered_ok marked
    have later := induction ok
    refine ⟨later.progress.trans first.progress, later.rows.trans first.rows, ?_⟩
    intro row member owed
    rcases first.owed row member owed with kept | named
    · exact (later.owed row kept owed).imp_right (List.mem_cons_of_mem _)
    · exact .inr (List.mem_cons.mpr (.inl (List.mem_singleton.mp named)))

theorem mem_insertByPlace {rows : List Obligation}
    (member : row ∈ insertByPlace other rows) : row = other ∨ row ∈ rows := by
  induction rows with
  | nil => exact .inl (List.mem_singleton.mp member)
  | cons first rest induction =>
    unfold insertByPlace at member
    split at member
    · exact List.mem_cons.mp member
    rcases List.mem_cons.mp member with rfl | member
    · exact .inr List.mem_cons_self
    · exact (induction member).imp_right (List.mem_cons_of_mem _)

theorem mem_sortByPlace {rows : List Obligation} (member : row ∈ sortByPlace rows) : row ∈ rows := by
  induction rows with
  | nil => exact member
  | cons other rest induction =>
    rcases mem_insertByPlace member with rfl | member
    · exact List.mem_cons_self
    · exact List.mem_cons_of_mem _ (induction member)

theorem Keeps.reclaim (keeps : ledger.Keeps recorded index)
    (ok : ledger.reclaimDeliveredCdcObligations position = .ok next) :
    next.Keeps recorded index ∧ ledger.throughPlace ≤ next.throughPlace ∧
      ∀ row ∈ ledger.rows, row.isOwed = true → row ∈ next.rows := by
  unfold reclaimDeliveredCdcObligations at ok
  split at ok
  · cases ok
    exact ⟨keeps, le_rfl, fun _ member _ => member⟩
  next last isLast =>
  dsimp only at ok
  split at ok
  · cases ok
  cases ok
  have member := mem_sortByPlace (List.mem_of_mem_take (List.mem_of_getLast? isLast))
  simp only [List.mem_filter, List.all_eq_true, decide_eq_true_eq, and_imp] at member
  obtain ⟨⟨isRow, -⟩, lowest⟩ := member
  have past := keeps.above isRow
  -- An owed row is above the last reclaimed one, so only the place decides.
  have stays : ∀ row ∈ ledger.rows, (!(!row.isOwed && decide (row.place ≤ last.place))) =
      !decide (row.place ≤ last.place) := by
    intro row member
    cases owed : row.isOwed with
    | true => simp [lowest row member owed]
    | false => rfl
  refine ⟨⟨?_, ?_, keeps.places, ?_, keeps.bounded, ?_⟩, past.le, ?_⟩
  · rw [List.filter_congr stays]
    change (ledger.rows.filter ((fun row => !decide (row.place ≤ last.place)) ∘
      Obligation.recorded)).map Obligation.recorded =
        recorded.filter fun row => !decide (row.place ≤ last.place)
    rw [← List.filter_map, keeps.rows, List.filter_filter]
    refine List.filter_congr fun row _ => ?_
    by_cases below : row.place ≤ last.place
    · simp [below]
    have above : ledger.isCdcPositionReclaimed row.place = false := by
      rw [← Bool.not_eq_true, reclaimed_iff]
      exact not_le.mpr (past.trans (WithBot.coe_lt_coe.mpr (not_le.mp below)))
    simp [above]
  · have counted := keeps.counted
    have parts := List.length_eq_length_filter_add (l := ledger.rows)
      fun row => !row.isOwed && decide (row.place ≤ last.place)
    simp only [Option.elim_some]
    omega
  · exact keeps.keys.sublist (List.filter_sublist.map _)
  · rintro _ ⟨⟩
    exact keeps.bounded last.recorded (keeps.mem isRow).1
  · intro row member owed
    exact List.mem_filter.mpr ⟨member, by simp [owed]⟩

end Ledger

section

variable {platform : CdcPlatform}

/-- The acknowledgement names the place of the obligation and the digest of its key. -/
def Names (platform : CdcPlatform) (groups : List AcknowledgedGroup) (row : Obligation) : Prop :=
  ∃ group ∈ groups, ∃ event ∈ group.events, group.logIndex = row.logIndex ∧
    event.ordinal = row.ordinal ∧ event.eventKeyDigest = platform.digestEventKey row.eventKey

/-- The keys an acknowledgement moves are those of rows it names. -/
def Judgement.Named (platform : CdcPlatform) (ledger : Ledger) (groups : List AcknowledgedGroup)
    (judged : Judgement) : Prop :=
  ∀ key ∈ judged.owed, ∃ row ∈ ledger.rows, row.eventKey = key ∧ Names platform groups row

theorem named_of_judgement (ok : acknowledgementJudgementOf platform ledger groups = .ok judged) :
    judged.Named platform ledger groups := by
  refine Result.foldlM_invariant (Judgement.Named platform ledger groups) ?_ ?_ ok
  on_goal 2 => simp [Judgement.Named]
  intro group isGroup _ _ named ok
  refine Result.foldlM_invariant (Judgement.Named platform ledger groups) ?_ named ok
  intro event isEvent before after named ok
  unfold judgeEvent Ledger.readCdcObligationStanding at ok
  dsimp only at ok
  split at ok
  · cases ok
  · cases ok
  next row standing =>
    split at ok
    · cases ok
    next digest =>
    cases ok
    split at standing
    · cases standing
    split at standing
    · cases standing
    next found isFound =>
    split at standing
    on_goal 2 => cases standing
    cases standing
    intro key member
    rcases List.mem_append.mp member with member | member
    · exact named key member
    obtain rfl := List.mem_singleton.mp member
    have place := List.find?_some isFound
    simp only [Obligation.place, decide_eq_true_eq, toLex_inj, Prod.mk.injEq] at place
    exact ⟨row, List.mem_of_find?_eq_some isFound, rfl, group, isGroup, event, isEvent,
      place.1.symm, place.2.symm, (not_not.mp digest).symm⟩
  · split at ok
    · cases ok
    cases ok
    exact named

/-- What one entry may do to the ledger: the progress never goes back, and a row is owed until an
acknowledgement that names it is applied. -/
structure Advances (entry : LogEntry) (state : ReplicaState platform)
    (applied : AppliedEntry platform) : Prop where
  through : state.ledger.throughPlace ≤ applied.state.ledger.throughPlace
  owed : ∀ row ∈ state.ledger.rows, row.isOwed = true → row ∈ applied.state.ledger.rows ∨
    ∃ command, entry.command = .cdcDelivered command ∧ applied.outcome = .applied ∧
      Names platform command.acknowledged row

variable {replica : Replica} {state : ReplicaState platform} {host : platform.Host}
  {applied : AppliedEntry platform} {entry : LogEntry} {recorded : List Obligation} {index : Nat}

theorem Advances.unchanged (same : applied.state = state) : Advances entry state applied :=
  ⟨same ▸ le_rfl, fun _ member _ => .inl (same ▸ member)⟩

theorem acknowledgement_keeps (keeps : state.ledger.Keeps recorded index)
    (ok : applyCdcAcknowledgementCommand state command position = .ok applied) :
    applied.state.ledger.Keeps recorded index ∧
      Advances ⟨.cdcDelivered command, position⟩ state applied := by
  unfold applyCdcAcknowledgementCommand at ok
  split at ok
  · cases ok
    exact ⟨keeps, .unchanged rfl⟩
  split at ok
  · cases ok
    exact ⟨keeps, .unchanged rfl⟩
  next groups isGroups =>
  split at ok
  · cases ok
    exact ⟨keeps, .unchanged rfl⟩
  next judged isJudged =>
  obtain ⟨marked, isMarked, ok⟩ := Result.ok_of_bind ok
  obtain ⟨ledger, isReclaimed, ok⟩ := Result.ok_of_bind ok
  cases ok
  have marks := Ledger.marks_of_foldlM (Result.ok_of_mapError isMarked)
  obtain ⟨kept, through, owed⟩ := (marks.keeps keeps).reclaim (Result.ok_of_mapError isReclaimed)
  refine ⟨kept, ?_, ?_⟩
  · rw [Ledger.throughPlace, ← marks.progress]
    exact through
  intro row member isOwed
  rcases marks.owed row member isOwed with stays | moved
  · exact .inl (owed row stays isOwed)
  obtain ⟨named, isNamed, sameKey, names⟩ := named_of_judgement isJudged _ moved
  have same : named = row := List.inj_on_of_nodup_map keeps.keys isNamed member sameKey
  have isGroups : groups = command.acknowledged := by
    unfold acknowledgedGroupsOf at isGroups
    dsimp only at isGroups
    split at isGroups
    · cases isGroups
    exact (Option.some.inj isGroups).symm
  refine .inr ⟨command, rfl, ?_, isGroups ▸ same ▸ names⟩
  simp [List.ne_nil_of_mem moved]

/-- An acknowledgement records nothing; another entry puts what it records after the rows that were
there. -/
def LogEntry.adds (entry : LogEntry) (before after : Ledger) : List Obligation :=
  match entry.command with
  | .partition .. => after.rows.drop before.rows.length
  | .cdcDelivered _ => []

theorem applyEntry_keeps (keeps : state.ledger.Keeps recorded index)
    (later : index < entry.position.index)
    (ok : applyEntry replica state host entry = .ok applied) :
    applied.state.ledger.Keeps (recorded ++ entry.adds state.ledger applied.state.ledger)
      entry.position.index ∧ Advances entry state applied := by
  obtain ⟨command, position⟩ := entry
  cases command with
  | cdcDelivered command =>
    obtain ⟨kept, advances⟩ := acknowledgement_keeps keeps ok
    refine ⟨?_, advances⟩
    rw [LogEntry.adds, List.append_nil]
    exact kept.later later.le
  | partition command stamp details =>
    obtain ⟨events, new, inserted⟩ := (applyPartition_records ok).records
    obtain ⟨isNext, kept⟩ := keeps.insert later new inserted
    have isEvents : applied.state.ledger.rows.drop state.ledger.rows.length = events := by
      rw [isNext]
      exact List.drop_left
    refine ⟨by simpa only [LogEntry.adds, isEvents] using kept, ?_, ?_⟩
    · rw [isNext]
      exact le_rfl
    intro row member _
    rw [isNext]
    exact .inl (List.mem_append_left _ member)

/-- A replica has applied entries of rising index from an empty ledger on. What it knows of
itself may change on the way. -/
inductive Recording : ReplicaState platform → List Obligation → Nat → Prop where
  | empty {state : ReplicaState platform} : state.ledger = .empty → Recording state [] 0
  | applied {state : ReplicaState platform} {recorded : List Obligation} {index : Nat}
      {replica : Replica} {host : platform.Host} {entry : LogEntry}
      {applied : AppliedEntry platform} :
      Recording state recorded index → index < entry.position.index →
      applyEntry replica state host entry = .ok applied →
      Recording applied.state
        (recorded ++ entry.adds state.ledger applied.state.ledger) entry.position.index

theorem Recording.keeps (recording : Recording state recorded index) :
    state.ledger.Keeps recorded index := by
  induction recording with
  | empty isEmpty =>
    rw [isEmpty]
    exact ⟨rfl, rfl, .nil, .nil, by simp, nofun⟩
  | applied _ later ok keeps => exact (applyEntry_keeps keeps later ok).1

/-- Nothing undelivered is forgotten. -/
theorem obligations_accounted (recording : Recording state recorded index) :
    (∀ row ∈ recorded, row.Stands state.ledger) ∧
    (∀ row ∈ state.ledger.rows, state.ledger.throughPlace < row.place) ∧
    state.ledger.countCdcObligations.1 + state.ledger.countCdcObligations.2 = recorded.length ∧
    ∀ (replica : Replica) (host : platform.Host) (entry : LogEntry)
      (applied : AppliedEntry platform),
      index < entry.position.index → applyEntry replica state host entry = .ok applied →
      Advances entry state applied := by
  have keeps := recording.keeps
  refine ⟨fun row => keeps.stands, fun row => keeps.above, keeps.countCdcObligations_sum, ?_⟩
  intro replica host entry applied later ok
  exact (applyEntry_keeps keeps later ok).2

end

namespace Users

def leader : Replica := { founder with isLeader := true }

/-- The second of two events is acknowledged first. -/
def delivery : LogEntry where
  command := .cdcDelivered {
    entryId := "a1"
    partitionId := "p1"
    acknowledged := [⟨2, [⟨0, platform.digestEventKey ""⟩]⟩] }
  position := { index := 3, term := 1 }

set_option maxRecDepth 4000 in
theorem insertion_owed : ∃ (final : ReplicaState platform) (first second : Obligation),
    Recording final [first, second] 3 ∧ first.Stands final.ledger ∧
      second.Stands final.ledger ∧ final.ledger.countCdcObligations = (1, 1) := by
  have recording := Recording.applied (.empty rfl) (by decide)
    (show applyEntry founder start () (insertion (some "r1")) = .ok _ from rfl)
  have recording := Recording.applied recording (by decide)
    (show applyEntry leader _ () (insertionAt "e2" 2 (some "r1")) = .ok _ from rfl)
  have recording := Recording.applied recording (by decide)
    (show applyEntry leader _ () delivery = .ok _ from rfl)
  have stands := (obligations_accounted recording).1
  exact ⟨_, _, _, recording, stands _ List.mem_cons_self,
    stands _ (List.mem_cons_of_mem _ List.mem_cons_self), rfl⟩

end Users

end LagrangeDb.Cdc
