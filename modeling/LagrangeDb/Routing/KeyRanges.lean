import LagrangeDb.Data.Run
import LagrangeDb.Data.Tiling
import LagrangeDb.Routing.KeyOrder

namespace LagrangeDb.Routing.KeyRanges

open Data.Tiling
open LagrangeDb.Partition (KeyValue)

/-! The key ranges of a table's partitions. A range has its start and not its end;
either may be missing. -/

structure KeyRange where
  (start end_ : Option KeyValue)

/-- A bound that is null or undefined is none. -/
def bound (key : KeyValue) : Option KeyValue := if key.isAbsent then none else some key

def boundKey (bound : Option KeyValue) : KeyValue := bound.getD (.primitive .null)

namespace KeyRange

def full : KeyRange := ⟨none, none⟩

/-- None where a comparison throws. -/
def contains (range : KeyRange) (key : KeyValue) : Option Bool :=
  match range.start, range.end_ with
  | none, none => some true
  | none, some end_ => do return (← compareRoutingKeys key end_) = .lt
  | some start, none => do return (← compareRoutingKeys key start) ≠ .lt
  | some start, some end_ => do
    if (← compareRoutingKeys key start) = .lt then return false
    return (← compareRoutingKeys key end_) = .lt

def isAdjacentTo (range other : KeyRange) : Option Bool :=
  match range.end_, other.start with
  | some end_, some start => do return (← compareRoutingKeys end_ start) = .eq
  | _, _ => some false

def endsBefore (range other : KeyRange) : Option Bool :=
  match range.end_, other.start with
  | some end_, some start => do return (← compareRoutingKeys end_ start).isLE
  | _, _ => some false

def overlaps (range other : KeyRange) : Option Bool := do
  if ← range.endsBefore other then return false
  return !(← other.endsBefore range)

end KeyRange

structure Entry where
  partitionId : String
  range : KeyRange

/-- The map from partition ids to ranges, in the order of insertion. -/
structure KeyRangeManager where
  ranges : List Entry
  distinct : (ranges.map Entry.partitionId).Nodup

inductive KeyRangeError where
  | overlap (partitionId existingId : String)
  | partitionNotFound (partitionId : String)
  | splitKeyOutOfRange (splitKey : KeyValue)
  | leftPartitionNotFound (partitionId : String)
  | rightPartitionNotFound (partitionId : String)
  | partitionsNotAdjacent (leftId rightId : String)
  | keyTypeMismatch

inductive ValidationError where
  | firstPartitionStarts (partitionId : String)
  | lastPartitionEnds (partitionId : String)
  | gapBetweenPartitions (currentId nextId : String) (currentEnd nextStart : KeyValue)
  | overlapBetweenPartitions (currentId nextId : String)

/-- The comparator of the sort: unbounded starts come first. -/
def compareStarts (entry other : Entry) : Option Ordering :=
  match entry.range.start, other.range.start with
  | none, _ => some .lt
  | some _, none => some .gt
  | some start, some otherStart => compareRoutingKeys start otherStart

/-- The sort is stable: an entry comes behind those it is not less than. -/
def insertSorted (entry : Entry) : List Entry → Option (List Entry)
  | [] => some [entry]
  | head :: rest => do
    if (← compareStarts entry head) = .lt then return entry :: head :: rest
    return head :: (← insertSorted entry rest)

def pairErrors (current next : Entry) : Option (List ValidationError) := do
  if ← current.range.isAdjacentTo next.range then return []
  let currentEnd := boundKey current.range.end_
  let nextStart := boundKey next.range.start
  match ← compareRoutingKeys currentEnd nextStart with
  | .lt => return [.gapBetweenPartitions current.partitionId next.partitionId
      currentEnd nextStart]
  | .gt => return [.overlapBetweenPartitions current.partitionId next.partitionId]
  | .eq => return []

def adjacentErrors : List Entry → Option (List ValidationError)
  | current :: next :: rest => do
    return (← pairErrors current next) ++ (← adjacentErrors (next :: rest))
  | _ => some []

namespace KeyRangeManager

def get (manager : KeyRangeManager) (partitionId : String) : Option KeyRange :=
  (manager.ranges.find? fun entry => entry.partitionId = partitionId).map Entry.range

def set (manager : KeyRangeManager) (partitionId : String) (range : KeyRange) : KeyRangeManager :=
  if has : partitionId ∈ manager.ranges.map Entry.partitionId then
    { ranges := manager.ranges.map fun entry =>
        if entry.partitionId = partitionId then ⟨partitionId, range⟩ else entry
      distinct := by
        have ids : ∀ entry : Entry, (if entry.partitionId = partitionId then
            ⟨partitionId, range⟩ else entry : Entry).partitionId =
              entry.partitionId := by
          intro entry
          split
          · exact Eq.symm ‹_›
          · rfl
        rw [List.map_map]
        exact (List.map_congr_left fun entry _ => ids entry) ▸ manager.distinct }
  else
    { ranges := manager.ranges ++ [⟨partitionId, range⟩]
      distinct := by
        rw [List.map_append]
        exact manager.distinct.append (List.nodup_singleton _) (List.disjoint_singleton.mpr has) }

def delete (manager : KeyRangeManager) (partitionId : String) : KeyRangeManager where
  ranges := manager.ranges.filter fun entry => entry.partitionId ≠ partitionId
  distinct := manager.distinct.sublist (List.filter_sublist.map _)

def addPartition (manager : KeyRangeManager) (partitionId : String)
    (range : KeyRange) : Except KeyRangeError KeyRangeManager := do
  checkOverlaps manager.ranges
  return manager.set partitionId range
where
  checkOverlaps : List Entry → Except KeyRangeError Unit
    | [] => .ok ()
    | existing :: rest =>
      if existing.partitionId = partitionId then checkOverlaps rest
      else match range.overlaps existing.range with
        | none => .error .keyTypeMismatch
        | some true => .error (.overlap partitionId existing.partitionId)
        | some false => checkOverlaps rest

/-- The inner none is a key that is in no range. -/
def findPartitionForKey (manager : KeyRangeManager) (key : KeyValue) : Option (Option String) :=
  search manager.ranges
where
  search : List Entry → Option (Option String)
    | [] => some none
    | entry :: rest => do
      if ← entry.range.contains key then return some entry.partitionId
      search rest

def getSortedPartitions (manager : KeyRangeManager) : Option (List Entry) :=
  manager.ranges.foldlM (fun sorted entry => insertSorted entry sorted) []

def validateRanges (manager : KeyRangeManager) : Option (List ValidationError) := do
  let sorted ← manager.getSortedPartitions
  match sorted.head?, sorted.getLast? with
  | some first, some last =>
    let errors ← adjacentErrors sorted
    return (if first.range.start.isSome then
        [.firstPartitionStarts first.partitionId] else []) ++
      (if last.range.end_.isSome then [.lastPartitionEnds last.partitionId] else []) ++ errors
  | _, _ => return []

def splitPartition (manager : KeyRangeManager) (partitionId : String)
    (splitKey : KeyValue) (leftPartitionId rightPartitionId : String) :
    Except KeyRangeError KeyRangeManager :=
  match manager.get partitionId with
  | none => .error (.partitionNotFound partitionId)
  | some range =>
    match range.contains splitKey with
    | none => .error .keyTypeMismatch
    | some false => .error (.splitKeyOutOfRange splitKey)
    | some true =>
      .ok (((manager.delete partitionId).set leftPartitionId
        ⟨range.start, bound splitKey⟩).set rightPartitionId ⟨bound splitKey, range.end_⟩)

def mergePartitions (manager : KeyRangeManager)
    (leftPartitionId rightPartitionId mergedPartitionId : String) :
    Except KeyRangeError KeyRangeManager :=
  match manager.get leftPartitionId, manager.get rightPartitionId with
  | none, _ => .error (.leftPartitionNotFound leftPartitionId)
  | some _, none => .error (.rightPartitionNotFound rightPartitionId)
  | some leftRange, some rightRange =>
    match leftRange.isAdjacentTo rightRange with
    | none => .error .keyTypeMismatch
    | some false => .error (.partitionsNotAdjacent leftPartitionId rightPartitionId)
    | some true =>
      .ok (((manager.delete leftPartitionId).delete rightPartitionId).set
        mergedPartitionId ⟨leftRange.start, rightRange.end_⟩)

def initial (partitionId : String) : KeyRangeManager where
  ranges := [⟨partitionId, .full⟩]
  distinct := List.nodup_singleton _

inductive Operation where
  | split (partitionId : String) (splitKey : KeyValue)
      (leftPartitionId rightPartitionId : String)
  | merge (leftPartitionId rightPartitionId mergedPartitionId : String)

def step (manager : KeyRangeManager) : Operation → Option KeyRangeManager
  | .split partitionId splitKey leftPartitionId rightPartitionId =>
    (manager.splitPartition partitionId splitKey leftPartitionId rightPartitionId).toOption
  | .merge leftPartitionId rightPartitionId mergedPartitionId =>
    (manager.mergePartitions leftPartitionId rightPartitionId mergedPartitionId).toOption

end KeyRangeManager

/-- Keys that are all compared with one another, as their ranks are. -/
structure KeySpace (α : Type) [LinearOrder α] where
  keys : Set KeyValue
  rank : KeyValue → α
  present : ∀ key ∈ keys, key.isAbsent = false
  compared : ∀ key ∈ keys, ∀ other ∈ keys,
    compareRoutingKeys key other = some (cmp (rank key) (rank other))

section

variable {α : Type} [LinearOrder α] (space : KeySpace α)

def Disjoint (manager : KeyRangeManager) : Prop :=
  ∀ key ∈ space.keys, ∀ entry ∈ manager.ranges, ∀ other ∈ manager.ranges,
    entry.range.contains key = some true → other.range.contains key = some true →
    entry = other

structure Tiles (manager : KeyRangeManager) : Prop where
  covered : ∀ key ∈ space.keys, ∃ entry ∈ manager.ranges, entry.range.contains key = some true
  disjoint : Disjoint space manager

/-- A key is found where it is, and the validation reports no error. -/
structure Consistent (manager : KeyRangeManager) : Prop extends Tiles space manager where
  found : ∀ key ∈ space.keys, ∀ entry ∈ manager.ranges, entry.range.contains key = some true →
    manager.findPartitionForKey key = some (some entry.partitionId)
  valid : manager.validateRanges = some []

namespace Entry

structure Over (entry : Entry) : Prop where
  start : ∀ key ∈ entry.range.start, key ∈ space.keys
  end_ : ∀ key ∈ entry.range.end_, key ∈ space.keys

def low (entry : Entry) : WithBot α := entry.range.start.elim ⊥ fun key => space.rank key

def high (entry : Entry) : WithTop α := entry.range.end_.elim ⊤ fun key => space.rank key

end Entry

namespace KeyRangeManager

/-- A partition is split at a key of the space other than the first one of its
range, and a new id is of no other partition. -/
def Orderly (manager : KeyRangeManager) : Operation → Prop
  | .split partitionId splitKey leftPartitionId rightPartitionId =>
    splitKey ∈ space.keys ∧ leftPartitionId ≠ rightPartitionId ∧
      ∀ entry ∈ manager.ranges,
        if entry.partitionId = partitionId then
          ∀ start ∈ entry.range.start, compareRoutingKeys splitKey start ≠ some .eq
        else entry.partitionId ≠ leftPartitionId ∧
          entry.partitionId ≠ rightPartitionId
  | .merge leftPartitionId rightPartitionId mergedPartitionId =>
    ∀ entry ∈ manager.ranges, entry.partitionId = mergedPartitionId →
      entry.partitionId = leftPartitionId ∨ entry.partitionId = rightPartitionId

/-- There are partitions, their bounds are keys of the space, and not two of them
are unbounded below. -/
structure Regular (manager : KeyRangeManager) : Prop where
  nonempty : manager.ranges ≠ []
  within : ∀ entry ∈ manager.ranges, entry.Over space
  unbounded : ∀ entry ∈ manager.ranges, ∀ other ∈ manager.ranges,
    entry.range.start = none → other.range.start = none → entry = other

end KeyRangeManager

variable {space} {entry : Entry} {key : KeyValue}

theorem Entry.contains_eq (within : entry.Over space) (member : key ∈ space.keys) :
    ∃ inside, entry.range.contains key = some inside ∧
      (inside = true ↔ Contains (low space) (high space) (space.rank key) entry) := by
  obtain ⟨partitionId, ⟨start, end_⟩⟩ := entry
  cases start with
  | none =>
    cases end_ with
    | none => exact ⟨true, rfl, by simp [Contains, low, high]⟩
    | some end_ =>
      have stops := space.compared key member end_ (within.end_ end_ rfl)
      refine ⟨space.rank key < space.rank end_, ?_, ?_⟩
      · simp [KeyRange.contains, stops]
      · simp [Contains, low, high]
  | some start =>
    have starts := space.compared key member start (within.start start rfl)
    cases end_ with
    | none =>
      refine ⟨!decide (space.rank key < space.rank start), ?_, ?_⟩
      · simp [KeyRange.contains, starts]
      · simp [Contains, low, high]
    | some end_ =>
      have stops := space.compared key member end_ (within.end_ end_ rfl)
      refine ⟨space.rank start ≤ space.rank key ∧ space.rank key < space.rank end_, ?_, ?_⟩
      · by_cases below : space.rank key < space.rank start
        · simp [KeyRange.contains, starts, stops, below]
        · simp [KeyRange.contains, starts, stops, below, not_lt.mp below]
      · simp [Contains, low, high]

theorem Entry.contains_iff (within : entry.Over space)
    (member : key ∈ space.keys) : entry.range.contains key = some true ↔
      Contains (low space) (high space) (space.rank key) entry := by
  obtain ⟨inside, contained, inside_iff⟩ := contains_eq within member
  rw [contained, Option.some_inj, inside_iff]

theorem Entry.contains_eq_false (within : entry.Over space) (member : key ∈ space.keys)
    (outside : ¬Contains (low space) (high space) (space.rank key) entry) :
    entry.range.contains key = some false := by
  obtain ⟨inside, contained, inside_iff⟩ := contains_eq within member
  rw [contained, Bool.eq_false_iff.mpr (mt inside_iff.mp outside)]

theorem Entry.isAdjacentTo_iff (within : entry.Over space) (nextOver : next.Over space) :
    entry.range.isAdjacentTo next.range = some true ↔
      Meets (low space) (high space) entry next := by
  obtain ⟨partitionId, ⟨start, end_⟩⟩ := entry
  obtain ⟨nextId, ⟨nextStart, nextEnd⟩⟩ := next
  cases end_ with
  | none => simp [KeyRange.isAdjacentTo, Meets, high]
  | some end_ =>
    cases nextStart with
    | none => simp [KeyRange.isAdjacentTo, Meets, low]
    | some nextStart =>
      have compared := space.compared end_ (within.end_ end_ rfl) nextStart
        (nextOver.start nextStart rfl)
      simp [KeyRange.isAdjacentTo, Meets, low, high, compared, eq_comm (a := space.rank nextStart)]

variable {entries : List Entry}

theorem search_eq (member : entry ∈ entries) (inside : entry.range.contains key = some true)
    (others : ∀ other ∈ entries, other ≠ entry → other.range.contains key = some false) :
    KeyRangeManager.findPartitionForKey.search key entries = some (some entry.partitionId) := by
  induction entries with
  | nil => cases member
  | cons head rest induction =>
    by_cases own : head = entry
    · subst own
      simp [KeyRangeManager.findPartitionForKey.search, inside]
    have outside := others head List.mem_cons_self own
    have later : entry ∈ rest := (List.mem_cons.mp member).resolve_left (Ne.symm own)
    have found := induction later fun other inRest => others other (List.mem_cons_of_mem _ inRest)
    simp [KeyRangeManager.findPartitionForKey.search, outside, found]

variable {other : Entry}

theorem Entry.not_contains_of_endsBefore (within : entry.Over space) (otherOver : other.Over space)
    (before : entry.range.endsBefore other.range = some true)
    (inside : Contains (low space) (high space) point entry) :
    ¬Contains (low space) (high space) point other := by
  obtain ⟨partitionId, ⟨start, end_⟩⟩ := entry
  obtain ⟨otherId, ⟨otherStart, otherEnd⟩⟩ := other
  rintro ⟨above, -⟩
  obtain ⟨-, below⟩ := inside
  cases end_ with
  | none => cases before
  | some end_ =>
    cases otherStart with
    | none => cases before
    | some otherStart =>
      have compared := space.compared end_ (within.end_ end_ rfl) otherStart
        (otherOver.start otherStart rfl)
      simp only [KeyRange.endsBefore, compared, Option.bind_eq_bind,
        Option.bind_some, Option.pure_def, Option.some.injEq, Data.isLE_cmp] at before
      simp only [low, high, Option.elim_some, WithBot.coe_le_coe, WithTop.coe_lt_coe] at above below
      exact absurd (below.trans_le before) (not_lt.mpr above)

theorem Entry.not_contains_of_overlaps (within : entry.Over space) (otherOver : other.Over space)
    (apart : entry.range.overlaps other.range = some false)
    (inside : Contains (low space) (high space) point entry) :
    ¬Contains (low space) (high space) point other := by
  rw [KeyRange.overlaps] at apart
  cases before : entry.range.endsBefore other.range with
  | none => simp [before] at apart
  | some decided =>
    cases decided with
    | true => exact not_contains_of_endsBefore within otherOver before inside
    | false =>
      intro otherInside
      have after : other.range.endsBefore entry.range = some true := by
        simpa [before, Option.bind_eq_some_iff] using apart
      exact not_contains_of_endsBefore otherOver within after otherInside inside

namespace KeyRangeManager

variable {manager : KeyRangeManager} {partitionId : String} {range : KeyRange}

theorem mem_set (member : entry ∈ (manager.set partitionId range).ranges) :
    entry = ⟨partitionId, range⟩ ∨ entry ∈ manager.ranges ∧ entry.partitionId ≠ partitionId := by
  rw [set] at member
  split at member
  · obtain ⟨old, own, rfl⟩ := List.mem_map.mp member
    by_cases same : old.partitionId = partitionId
    · exact .inl (if_pos same)
    · rw [if_neg same]
      exact .inr ⟨own, same⟩
  · rename_i new
    rcases List.mem_append.mp member with own | added
    · exact .inr ⟨own, fun same => new (List.mem_map.mpr ⟨entry, own, same⟩)⟩
    · exact .inl (List.mem_singleton.mp added)

theorem checkOverlaps_eq_ok
    (checked : addPartition.checkOverlaps partitionId range entries = .ok ()) :
    ∀ existing ∈ entries, existing.partitionId ≠ partitionId →
      range.overlaps existing.range = some false := by
  induction entries with
  | nil => nofun
  | cons head rest induction =>
    intro existing member other
    rw [addPartition.checkOverlaps] at checked
    split at checked
    · rename_i same
      rcases List.mem_cons.mp member with rfl | later
      · exact absurd same other
      · exact induction checked existing later other
    split at checked
    · cases checked
    · cases checked
    rename_i apart
    rcases List.mem_cons.mp member with rfl | later
    · exact apart
    · exact induction checked existing later other

/-- A range that is added meets none of the others. -/
theorem addPartition_disjoint {next : KeyRangeManager}
    (within : ∀ entry ∈ manager.ranges, entry.Over space)
    (rangeOver : Entry.Over space ⟨partitionId, range⟩) (disjoint : Disjoint space manager)
    (added : manager.addPartition partitionId range = .ok next) : Disjoint space next := by
  rw [addPartition] at added
  cases checked : addPartition.checkOverlaps partitionId range manager.ranges with
  | error problem => simp [checked, bind, Except.bind] at added
  | ok done =>
    obtain rfl : manager.set partitionId range = next := by
      simpa [checked, bind, Except.bind, pure, Except.pure] using added
    have apart : ∀ key ∈ space.keys, ∀ other ∈ manager.ranges,
        other.partitionId ≠ partitionId → range.contains key = some true →
        other.range.contains key ≠ some true := by
      intro key member other own different inside otherInside
      exact Entry.not_contains_of_overlaps rangeOver (within other own)
        (checkOverlaps_eq_ok checked other own different)
        ((Entry.contains_iff rangeOver member).mp inside)
        ((Entry.contains_iff (within other own) member).mp otherInside)
    intro key member entry entryOwn other otherOwn inside otherInside
    rcases mem_set entryOwn with rfl | ⟨entryOld, entryId⟩
    · rcases mem_set otherOwn with rfl | ⟨otherOld, otherId⟩
      · rfl
      · exact absurd otherInside (apart key member other otherOld otherId inside)
    · rcases mem_set otherOwn with rfl | ⟨otherOld, otherId⟩
      · exact absurd inside (apart key member entry entryOld entryId otherInside)
      · exact disjoint key member entry entryOld other otherOld inside otherInside

end KeyRangeManager

theorem compareStarts_eq (within : entry.Over space) (otherOver : other.Over space)
    (bounded : ¬(entry.range.start = none ∧ other.range.start = none)) :
    compareStarts entry other = some (cmp (entry.low space) (other.low space)) := by
  obtain ⟨partitionId, ⟨start, end_⟩⟩ := entry
  obtain ⟨otherId, ⟨otherStart, otherEnd⟩⟩ := other
  cases start with
  | none =>
    cases otherStart with
    | none => simp at bounded
    | some otherStart => simp [compareStarts, Entry.low, cmp, cmpUsing]
  | some start =>
    cases otherStart with
    | none => simp [compareStarts, Entry.low, cmp, cmpUsing]
    | some otherStart =>
      have compared := space.compared start (within.start start rfl) otherStart
        (otherOver.start otherStart rfl)
      simp [compareStarts, Entry.low, compared, cmp, cmpUsing]

def Sorted (space : KeySpace α) (entries : List Entry) : Prop :=
  entries.Pairwise fun entry later => entry.low space ≤ later.low space ∧ later.low space ≠ ⊥

theorem Entry.low_eq_bot_iff : entry.low space = ⊥ ↔ entry.range.start = none := by
  cases start : entry.range.start <;> simp [low, start]

theorem Entry.high_eq_top_iff : entry.high space = ⊤ ↔ entry.range.end_ = none := by
  cases end_ : entry.range.end_ <;> simp [high, end_]

theorem insertSorted_eq (within : entry.Over space)
    (othersOver : ∀ other ∈ entries, other.Over space)
    (bounded : ∀ other ∈ entries, ¬(entry.range.start = none ∧ other.range.start = none))
    (sorted : Sorted space entries) : ∃ result,
      insertSorted entry entries = some result ∧ result.Perm (entry :: entries) ∧
        Sorted space result := by
  induction entries with
  | nil => exact ⟨[entry], rfl, .refl _, List.pairwise_singleton ..⟩
  | cons head rest induction =>
    obtain ⟨first, sortedRest⟩ := List.pairwise_cons.mp sorted
    have compared := compareStarts_eq within (othersOver head List.mem_cons_self)
      (bounded head List.mem_cons_self)
    by_cases before : entry.low space < head.low space
    · have less : cmp (entry.low space) (head.low space) = .lt := cmp_eq_lt_iff _ _ |>.mpr before
      refine ⟨entry :: head :: rest, ?_, .refl _, .cons ?_ sorted⟩
      · simp [insertSorted, compared, less]
      intro later member
      rcases List.mem_cons.mp member with rfl | member
      · exact ⟨before.le, ne_bot_of_gt before⟩
      · exact ⟨before.le.trans (first later member).1, (first later member).2⟩
    · obtain ⟨result, inserted, perm, sortedResult⟩ := induction
        (fun other member => othersOver other (List.mem_cons_of_mem _ member))
        (fun other member => bounded other (List.mem_cons_of_mem _ member)) sortedRest
      refine ⟨head :: result, ?_, ?_, .cons ?_ sortedResult⟩
      · have notLess : cmp (entry.low space) (head.low space) ≠ .lt :=
          mt (cmp_eq_lt_iff _ _).mp before
        simp [insertSorted, compared, notLess, inserted]
      · exact (perm.cons head).trans (.swap entry head rest)
      intro later member
      rcases List.mem_cons.mp (perm.mem_iff.mp member) with rfl | member
      · refine ⟨not_lt.mp before, fun bottom => ?_⟩
        have headBottom : head.low space = ⊥ := le_bot_iff.mp ((not_lt.mp before).trans_eq bottom)
        exact bounded head List.mem_cons_self
          ⟨Entry.low_eq_bot_iff.mp bottom, Entry.low_eq_bot_iff.mp headBottom⟩
      · exact first later member

namespace KeyRangeManager

variable {manager : KeyRangeManager}

theorem ranges_nodup : manager.ranges.Nodup := manager.distinct.of_map _

theorem Regular.getSortedPartitions_eq (regular : manager.Regular space) :
    ∃ sorted, manager.getSortedPartitions = some sorted ∧
      sorted.Perm manager.ranges ∧ Sorted space sorted := by
  have sorts : ∀ entries done : List Entry, (done ++ entries).Nodup →
      (∀ entry ∈ done ++ entries, entry ∈ manager.ranges) → Sorted space done →
      ∃ sorted, entries.foldlM (fun sorted entry => insertSorted entry sorted) done =
        some sorted ∧ sorted.Perm (done ++ entries) ∧ Sorted space sorted := by
    intro entries
    induction entries with
    | nil =>
      intro done _ _ sorted
      exact ⟨done, rfl, by simp, sorted⟩
    | cons entry rest induction =>
      intro done nodup members sorted
      have new : ∀ other ∈ done, other ≠ entry := by
        rintro other member rfl
        exact (List.disjoint_of_nodup_append nodup) member List.mem_cons_self
      have own : entry ∈ manager.ranges := members entry (by simp)
      have earlier : ∀ other ∈ done, other ∈ manager.ranges := fun other member =>
        members other (List.mem_append_left _ member)
      obtain ⟨inserted, equal, perm, sortedInserted⟩ := insertSorted_eq (regular.within entry own)
        (fun other member => regular.within other (earlier other member))
        (fun other member both => new other member
          (regular.unbounded other (earlier other member) entry own both.2 both.1))
        sorted
      have together : (inserted ++ rest).Perm (done ++ entry :: rest) :=
        (perm.append_right rest).trans List.perm_middle.symm
      obtain ⟨result, folded, permResult, sortedResult⟩ := induction inserted
        (together.nodup_iff.mpr nodup)
        (fun other member => members other (together.mem_iff.mp member))
        sortedInserted
      refine ⟨result, ?_, permResult.trans together, sortedResult⟩
      rw [List.foldlM_cons, equal]
      exact folded
  exact sorts manager.ranges [] ranges_nodup (fun _ => id) .nil

end KeyRangeManager

theorem KeySpace.null_lt (member : key ∈ space.keys) :
    compareRoutingKeys (.primitive .null) key = some .lt := by
  have self := space.compared key member key member
  have supported : key.routingKeySupported = true := by
    by_contra unsupported
    simp [compareRoutingKeys, space.present key member, unsupported] at self
  have absent : KeyValue.isAbsent (.primitive .null) = true := rfl
  simp [compareRoutingKeys, space.present key member, supported, absent]

theorem pairErrors_eq_nil_iff {current : Entry} (within : current.Over space)
    (nextOver : next.Over space) (bounded : next.low space ≠ ⊥) :
    pairErrors current next = some [] ↔
      Meets (Entry.low space) (Entry.high space) current next := by
  obtain ⟨currentId, ⟨start, end_⟩⟩ := current
  obtain ⟨nextId, ⟨nextStart, nextEnd⟩⟩ := next
  cases nextStart with
  | none => exact absurd rfl bounded
  | some nextStart =>
    have inSpace := nextOver.start nextStart rfl
    cases end_ with
    | none =>
      simp [pairErrors, KeyRange.isAdjacentTo, boundKey, KeySpace.null_lt inSpace,
        Meets, Entry.high]
    | some end_ =>
      have compared := space.compared end_ (within.end_ end_ rfl) nextStart inSpace
      cases order : cmp (space.rank end_) (space.rank nextStart) with
      | eq =>
        have same := cmp_eq_eq_iff _ _ |>.mp order
        simp [pairErrors, KeyRange.isAdjacentTo, compared, Meets, Entry.high, Entry.low, same]
      | lt =>
        have different := (cmp_eq_lt_iff _ _ |>.mp order).ne'
        simp [pairErrors, KeyRange.isAdjacentTo, boundKey, compared, order, Meets,
          Entry.high, Entry.low, different]
      | gt =>
        have different := (cmp_eq_gt_iff _ _ |>.mp order).ne
        simp [pairErrors, KeyRange.isAdjacentTo, boundKey, compared, order, Meets,
          Entry.high, Entry.low, different]

theorem adjacentErrors_eq_nil_iff (within : ∀ entry ∈ entries, entry.Over space)
    (sorted : Sorted space entries) : adjacentErrors entries = some [] ↔
      entries.IsChain (Meets (Entry.low space) (Entry.high space)) := by
  induction entries with
  | nil => exact iff_of_true rfl .nil
  | cons current rest induction =>
    cases rest with
    | nil => exact iff_of_true rfl (.singleton _)
    | cons next rest =>
      obtain ⟨first, sortedRest⟩ := List.pairwise_cons.mp sorted
      have pair := pairErrors_eq_nil_iff (within current List.mem_cons_self)
        (within next (by simp)) (first next List.mem_cons_self).2
      have others := induction
        (fun entry member => within entry (List.mem_cons_of_mem _ member)) sortedRest
      rw [List.isChain_cons_cons, ← pair, ← others, adjacentErrors]
      cases pairErrors current next <;> cases adjacentErrors (next :: rest) <;> simp

variable {manager : KeyRangeManager}

theorem KeyRangeManager.validateRanges_eq
    (sorted : manager.getSortedPartitions = some (head :: rest)) :
    manager.validateRanges = some [] ↔ head.range.start = none ∧
      (∀ last ∈ (head :: rest).getLast?, last.range.end_ = none) ∧
      adjacentErrors (head :: rest) = some [] := by
  rw [validateRanges, sorted]
  obtain ⟨last, lastEq⟩ := Option.isSome_iff_exists.mp
    (List.getLast?_isSome.mpr (List.cons_ne_nil head rest))
  simp only [Option.bind_eq_bind, Option.bind_some, List.head?_cons, lastEq]
  cases adjacentErrors (head :: rest) with
  | none => simp
  | some errors => cases head.range.start <;> cases ends : last.range.end_ <;> simp [ends]

theorem KeyRangeManager.Regular.validateRanges_iff
    (regular : manager.Regular space) : ∃ sorted : List Entry,
      sorted.Perm manager.ranges ∧ Sorted space sorted ∧ (manager.validateRanges = some [] ↔
        Linked (Entry.low space) (Entry.high space) ⊥ sorted) := by
  obtain ⟨sorted, equal, perm, ordered⟩ := regular.getSortedPartitions_eq
  refine ⟨sorted, perm, ordered, ?_⟩
  cases sorted with
  | nil => exact absurd (List.nil_perm.mp perm) regular.nonempty
  | cons head rest =>
    have within : ∀ entry ∈ head :: rest, entry.Over space := fun entry member =>
      regular.within entry (perm.mem_iff.mp member)
    have ends : (∀ last ∈ (head :: rest).getLast?, last.high space = ⊤) ↔
        ∀ last ∈ (head :: rest).getLast?, last.range.end_ = none := by
      simp only [Entry.high_eq_top_iff]
    rw [validateRanges_eq equal, adjacentErrors_eq_nil_iff within ordered,
      linked_cons_iff (ordered.imp And.left), Entry.low_eq_bot_iff, ends]

end

end LagrangeDb.Routing.KeyRanges
