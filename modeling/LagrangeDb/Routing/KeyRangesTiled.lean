import LagrangeDb.Routing.KeyRanges

namespace LagrangeDb.Routing.KeyRanges

open Data.Tiling
open LagrangeDb.Partition (KeyValue)

section

variable {α : Type} [LinearOrder α] {space : KeySpace α}

namespace KeyRangeManager

variable {manager : KeyRangeManager} {chain : List Entry}

theorem tiles_of_linked (perm : chain.Perm manager.ranges)
    (within : ∀ entry ∈ manager.ranges, entry.Over space)
    (linked : Linked (Entry.low space) (Entry.high space) ⊥ chain) : Tiles space manager := by
  constructor
  · intro key member
    obtain ⟨before, entry, after, rfl, inside, -⟩ := linked.contains (bot_le : ⊥ ≤ (space.rank key : WithBot α))
    have own : entry ∈ manager.ranges := perm.mem_iff.mp (by simp)
    exact ⟨entry, own, (Entry.contains_iff (within entry own) member).mpr inside⟩
  intro key member entry own other otherOwn inside otherInside
  obtain ⟨before, only, after, rfl, -, others⟩ := linked.contains (bot_le : ⊥ ≤ (space.rank key : WithBot α))
  have unique : ∀ entry ∈ manager.ranges, entry.range.contains key = some true →
      entry = only := by
    intro entry own inside
    by_contra different
    have elsewhere : entry ∈ before ++ after := by
      have := perm.mem_iff.mpr own
      grind
    exact others entry elsewhere ((Entry.contains_iff (within entry own) member).mp inside)
  rw [unique entry own inside, unique other otherOwn otherInside]

variable {entry : Entry} {key : KeyValue}

theorem Tiles.findPartitionForKey_eq (tiles : Tiles space manager)
    (within : ∀ entry ∈ manager.ranges, entry.Over space) (member : key ∈ space.keys)
    (own : entry ∈ manager.ranges) (inside : entry.range.contains key = some true) :
    manager.findPartitionForKey key = some (some entry.partitionId) := by
  refine search_eq own inside fun other otherOwn different => ?_
  refine Entry.contains_eq_false (within other otherOwn) member fun contained => ?_
  have otherInside := (Entry.contains_iff (within other otherOwn) member).mpr contained
  exact different (tiles.disjoint key member other otherOwn entry own otherInside inside)

/-- The chain has the partitions in their order; no range is empty. -/
structure Laid (space : KeySpace α) (manager : KeyRangeManager)
    (chain : List Entry) : Prop where
  perm : chain.Perm manager.ranges
  within : ∀ entry ∈ chain, entry.Over space
  linked : Linked (Entry.low space) (Entry.high space) ⊥ chain
  full : Full (Entry.low space) (Entry.high space) chain

namespace Laid

variable (laid : Laid space manager chain)
include laid

theorem ranges_over : ∀ entry ∈ manager.ranges, entry.Over space := fun entry own =>
  laid.within entry (laid.perm.mem_iff.mpr own)

theorem regular : manager.Regular space where
  nonempty := by
    intro empty
    have nothing := laid.perm
    rw [empty, List.perm_nil] at nothing
    have linked := laid.linked
    rw [nothing] at linked
    exact linked
  within := laid.ranges_over
  unbounded := by
    intro entry own other otherOwn start otherStart
    refine laid.linked.eq_of_low laid.full (laid.perm.mem_iff.mpr own)
      (laid.perm.mem_iff.mpr otherOwn) ?_
    rw [Entry.low_eq_bot_iff.mpr start, Entry.low_eq_bot_iff.mpr otherStart]

theorem sorted : Sorted space chain :=
  (laid.linked.pairwise_lt laid.full).imp fun before => ⟨before.le, ne_bot_of_gt before⟩

theorem consistent : Consistent space manager := by
  have tiles := tiles_of_linked laid.perm laid.ranges_over laid.linked
  refine ⟨tiles, fun key member entry own =>
    Tiles.findPartitionForKey_eq tiles laid.ranges_over member own, ?_⟩
  obtain ⟨sorted, perm, ordered, valid⟩ := laid.regular.validateRanges_iff
  have same : sorted = chain := by
    refine (perm.trans laid.perm.symm).eq_of_pairwise ?_
      (ordered.imp And.left) (laid.sorted.imp And.left)
    intro entry other own otherOwn below above
    exact laid.linked.eq_of_low laid.full (laid.perm.mem_iff.mpr (perm.mem_iff.mp own))
      otherOwn (below.antisymm above)
  rw [valid, same]
  exact laid.linked

end Laid

theorem laid_initial (partitionId : String) :
    Laid space (initial partitionId) [⟨partitionId, .full⟩] where
  perm := .refl _
  within := by
    intro entry member
    obtain rfl := List.mem_singleton.mp member
    exact ⟨nofun, nofun⟩
  linked := ⟨rfl, .inl ⟨rfl, rfl⟩⟩
  full := by
    intro entry member cut ends
    obtain rfl := List.mem_singleton.mp member
    cases ends

variable {partitionId : String} {range : KeyRange}

theorem exists_of_get (found : manager.get partitionId = some range) :
    ∃ entry ∈ manager.ranges, entry.partitionId = partitionId ∧ entry.range = range := by
  obtain ⟨entry, foundEntry, rfl⟩ := Option.map_eq_some_iff.mp found
  have named := List.find?_some foundEntry
  exact ⟨entry, List.mem_of_find?_eq_some foundEntry, of_decide_eq_true named, rfl⟩

theorem set_ranges (new : ∀ entry ∈ manager.ranges, entry.partitionId ≠ partitionId) :
    (manager.set partitionId range).ranges = manager.ranges ++ [⟨partitionId, range⟩] := by
  have absent : partitionId ∉ manager.ranges.map Entry.partitionId := by
    intro member
    obtain ⟨entry, own, same⟩ := List.mem_map.mp member
    exact new entry own same
  rw [set, dif_neg absent]

theorem mem_delete : entry ∈ (manager.delete partitionId).ranges ↔
      entry ∈ manager.ranges ∧ entry.partitionId ≠ partitionId := by
  simp [delete]

theorem perm_cons_delete (own : entry ∈ manager.ranges) :
    manager.ranges.Perm (entry :: (manager.delete entry.partitionId).ranges) := by
  obtain ⟨before, after, split⟩ := List.append_of_mem own
  have distinct := manager.distinct
  rw [split, List.map_append, List.map_cons, List.nodup_middle, List.nodup_cons,
    ← List.map_append] at distinct
  have others : (before ++ after).filter
      (fun other => other.partitionId ≠ entry.partitionId) = before ++ after := by
    refine List.filter_eq_self.mpr fun other member => decide_eq_true fun same => ?_
    exact distinct.1 (List.mem_map.mpr ⟨other, member, same⟩)
  have kept : (manager.delete entry.partitionId).ranges = before ++ after := by
    rw [List.filter_append] at others
    simpa [delete, split, List.filter_append] using others
  rw [kept, split]
  exact List.perm_middle

variable {next : KeyRangeManager} {splitKey : KeyValue} {leftId rightId : String}

theorem step_split
    (stepped : manager.step (.split partitionId splitKey leftId rightId) = some next) :
    ∃ entry ∈ manager.ranges, entry.partitionId = partitionId ∧
      entry.range.contains splitKey = some true ∧ next = ((manager.delete partitionId).set leftId
        ⟨entry.range.start, bound splitKey⟩).set rightId ⟨bound splitKey, entry.range.end_⟩ := by
  rw [step, splitPartition] at stepped
  cases found : manager.get partitionId with
  | none => simp [found, Except.toOption] at stepped
  | some range =>
    obtain ⟨entry, own, named, rfl⟩ := exists_of_get found
    cases contained : entry.range.contains splitKey with
    | none => simp [found, contained, Except.toOption] at stepped
    | some inside =>
      cases inside with
      | false => simp [found, contained, Except.toOption] at stepped
      | true =>
        simp only [found, contained, Except.toOption, Option.some.injEq] at stepped
        exact ⟨entry, own, named, contained, stepped.symm⟩

theorem step_merge {mergedId : String}
    (stepped : manager.step (.merge leftId rightId mergedId) = some next) :
    ∃ left ∈ manager.ranges, ∃ right ∈ manager.ranges, left.partitionId = leftId ∧
      right.partitionId = rightId ∧ left.range.isAdjacentTo right.range = some true ∧
      next = ((manager.delete leftId).delete rightId).set mergedId
        ⟨left.range.start, right.range.end_⟩ := by
  rw [step, mergePartitions] at stepped
  cases leftFound : manager.get leftId with
  | none => simp [leftFound, Except.toOption] at stepped
  | some leftRange =>
    cases rightFound : manager.get rightId with
    | none => simp [leftFound, rightFound, Except.toOption] at stepped
    | some rightRange =>
      obtain ⟨left, leftOwn, leftNamed, rfl⟩ := exists_of_get leftFound
      obtain ⟨right, rightOwn, rightNamed, rfl⟩ := exists_of_get rightFound
      cases adjacent : left.range.isAdjacentTo right.range with
      | none => simp [leftFound, rightFound, adjacent, Except.toOption] at stepped
      | some meets =>
        cases meets with
        | false => simp [leftFound, rightFound, adjacent, Except.toOption] at stepped
        | true =>
          simp only [leftFound, rightFound, adjacent, Except.toOption, Option.some.injEq] at stepped
          exact ⟨left, leftOwn, right, rightOwn, leftNamed, rightNamed, adjacent, stepped.symm⟩

theorem bound_eq (member : key ∈ space.keys) : bound key = some key := by
  rw [bound, space.present key member]
  rfl

variable {before after : List Entry} {left right : Entry}

theorem Laid.split (laid : Laid space manager (before ++ entry :: after))
    (member : splitKey ∈ space.keys) (inside : entry.range.contains splitKey = some true)
    (inner : ∀ start ∈ entry.range.start, compareRoutingKeys splitKey start ≠ some .eq)
    (leftRange : left.range = ⟨entry.range.start, some splitKey⟩)
    (rightRange : right.range = ⟨some splitKey, entry.range.end_⟩)
    (perm : (left :: right :: (before ++ after)).Perm next.ranges) :
    Laid space next (before ++ left :: right :: after) := by
  have within := laid.within entry (by simp)
  obtain ⟨above, below⟩ := (Entry.contains_iff within member).mp inside
  have leftLow : left.low space = entry.low space := by rw [Entry.low, leftRange]; rfl
  have leftHigh : left.high space = space.rank splitKey := by rw [Entry.high, leftRange]; rfl
  have rightLow : right.low space = space.rank splitKey := by rw [Entry.low, rightRange]; rfl
  have rightHigh : right.high space = entry.high space := by rw [Entry.high, rightRange]; rfl
  have strict : entry.low space < space.rank splitKey := by
    refine above.lt_of_ne fun same => ?_
    cases start : entry.range.start with
    | none => simp [Entry.low, start] at same
    | some start' =>
      refine inner start' start ?_
      rw [space.compared splitKey member start' (within.start start' start)]
      simp only [Entry.low, start, Option.elim_some, WithBot.coe_inj] at same
      rw [same, cmp_self_eq_eq]
  refine ⟨?_, ?_, laid.linked.split leftLow leftHigh rightLow rightHigh above below.le, ?_⟩
  · exact (List.perm_append_comm_assoc before [left, right] after).trans perm
  · intro other own
    rcases List.mem_append.mp own with own | own
    · exact laid.within other (List.mem_append_left _ own)
    rcases List.mem_cons.mp own with rfl | own
    · exact ⟨by rw [leftRange]; exact within.start,
        by rw [leftRange]; rintro _ ⟨⟩; exact member⟩
    rcases List.mem_cons.mp own with rfl | own
    · exact ⟨by rw [rightRange]; rintro _ ⟨⟩; exact member,
        by rw [rightRange]; exact within.end_⟩
    · exact laid.within other (by simp [own])
  · intro other own cut ends
    rcases List.mem_append.mp own with own | own
    · exact laid.full other (List.mem_append_left _ own) cut ends
    rcases List.mem_cons.mp own with rfl | own
    · rw [leftHigh, WithTop.coe_inj] at ends
      rw [leftLow, ← ends]
      exact strict
    rcases List.mem_cons.mp own with rfl | own
    · rw [rightHigh] at ends
      rw [ends, WithTop.coe_lt_coe] at below
      rw [rightLow]
      exact WithBot.coe_lt_coe.mpr below
    · exact laid.full other (by simp [own]) cut ends

theorem Laid.low_lt (laid : Laid space manager (before ++ left :: right :: after)) :
    left.low space < right.low space := by
  have ordered := laid.linked.pairwise_lt laid.full
  rw [List.pairwise_append, List.pairwise_cons] at ordered
  exact ordered.2.1.1 right List.mem_cons_self

theorem Laid.merge {merged : Entry} (laid : Laid space manager (before ++ left :: right :: after))
    (mergedRange : merged.range = ⟨left.range.start, right.range.end_⟩)
    (perm : (merged :: (before ++ after)).Perm next.ranges) :
    Laid space next (before ++ merged :: after) := by
  have mergedLow : merged.low space = left.low space := by rw [Entry.low, mergedRange]; rfl
  have mergedHigh : merged.high space = right.high space := by rw [Entry.high, mergedRange]; rfl
  refine ⟨List.perm_middle.trans perm, ?_, laid.linked.merge mergedLow mergedHigh, ?_⟩
  · intro other own
    rcases List.mem_append.mp own with own | own
    · exact laid.within other (List.mem_append_left _ own)
    rcases List.mem_cons.mp own with rfl | own
    · exact ⟨by rw [mergedRange]; exact (laid.within left (by simp)).start,
        by rw [mergedRange]; exact (laid.within right (by simp)).end_⟩
    · exact laid.within other (by simp [own])
  · intro other own cut ends
    rcases List.mem_append.mp own with own | own
    · exact laid.full other (List.mem_append_left _ own) cut ends
    rcases List.mem_cons.mp own with rfl | own
    · rw [mergedHigh] at ends
      rw [mergedLow]
      exact laid.low_lt.trans (laid.full right (by simp) cut ends)
    · exact laid.full other (by simp [own]) cut ends

theorem Laid.step {operation : Operation} (laid : ∃ chain, Laid space manager chain)
    (orderly : manager.Orderly space operation) (stepped : manager.step operation = some next) :
    ∃ chain, Laid space next chain := by
  obtain ⟨chain, laid⟩ := laid
  cases operation with
  | split partitionId splitKey leftId rightId =>
    obtain ⟨member, different, others⟩ := orderly
    obtain ⟨entry, own, rfl, inside, rfl⟩ := step_split stepped
    obtain ⟨before, after, rfl⟩ := List.append_of_mem (laid.perm.mem_iff.mpr own)
    have inner := others entry own
    rw [if_pos rfl] at inner
    have new : ∀ other ∈ (manager.delete entry.partitionId).ranges,
        other.partitionId ≠ leftId ∧ other.partitionId ≠ rightId := by
      intro other kept
      obtain ⟨otherOwn, otherId⟩ := mem_delete.mp kept
      have fresh := others other otherOwn
      rwa [if_neg otherId] at fresh
    have rest : (before ++ after).Perm (manager.delete entry.partitionId).ranges :=
      (List.perm_middle.symm.trans (laid.perm.trans (perm_cons_delete own))).cons_inv
    rw [bound_eq member]
    refine ⟨before ++ ⟨leftId, entry.range.start, some splitKey⟩ ::
      ⟨rightId, some splitKey, entry.range.end_⟩ :: after,
      laid.split member inside inner rfl rfl ?_⟩
    have added : ((manager.delete entry.partitionId).set leftId
        ⟨entry.range.start, some splitKey⟩).ranges =
          (manager.delete entry.partitionId).ranges ++
            [⟨leftId, entry.range.start, some splitKey⟩] :=
      set_ranges fun other kept => (new other kept).1
    have newRight : ∀ other ∈ ((manager.delete entry.partitionId).set leftId
        ⟨entry.range.start, some splitKey⟩).ranges, other.partitionId ≠ rightId := by
      intro other kept
      rw [added] at kept
      rcases List.mem_append.mp kept with kept | kept
      · exact (new other kept).2
      · obtain rfl := List.mem_singleton.mp kept
        exact different
    rw [set_ranges newRight, added]
    refine .trans ?_ (List.perm_append_singleton _ _).symm
    refine (List.Perm.swap ..).trans (.cons _ ?_)
    exact (rest.cons _).trans (List.perm_append_singleton _ _).symm
  | merge leftId rightId mergedId =>
    obtain ⟨left, leftOwn, right, rightOwn, rfl, rfl, adjacent, rfl⟩ := step_merge stepped
    have leftMember := laid.perm.mem_iff.mpr leftOwn
    have rightMember := laid.perm.mem_iff.mpr rightOwn
    obtain ⟨before, after, rfl⟩ := laid.linked.exists_of_meets laid.full leftMember
      rightMember ((Entry.isAdjacentTo_iff (laid.within left leftMember)
        (laid.within right rightMember)).mp adjacent)
    refine ⟨before ++ ⟨mergedId, left.range.start, right.range.end_⟩ :: after, laid.merge rfl ?_⟩
    have apart : right ∈ (manager.delete left.partitionId).ranges := by
      refine mem_delete.mpr ⟨rightOwn, fun same => laid.low_lt.ne ?_⟩
      rw [List.inj_on_of_nodup_map manager.distinct rightOwn leftOwn same]
    have rest : (before ++ after).Perm
        ((manager.delete left.partitionId).delete right.partitionId).ranges := by
      have both := (perm_cons_delete leftOwn).trans ((perm_cons_delete apart).cons left)
      exact ((List.perm_append_comm_assoc [left, right] before after).trans
        (laid.perm.trans both)).cons_inv.cons_inv
    have new : ∀ other ∈ ((manager.delete left.partitionId).delete right.partitionId).ranges,
        other.partitionId ≠ mergedId := by
      intro other kept merged
      obtain ⟨kept, notRight⟩ := mem_delete.mp kept
      obtain ⟨own, notLeft⟩ := mem_delete.mp kept
      exact (orderly other own merged).elim notLeft notRight
    rw [set_ranges new]
    exact (rest.cons _).trans (List.perm_append_singleton _ _).symm

end KeyRangeManager

end

/-- Texts, or integers that are given as numbers or as big integers, where no big integer
is rounded to another one's number. -/
def KeySpace.scalars (elements : Set Scalar) (separated : Separated elements) (isText : Bool) :
    KeySpace Rank where
  keys := {key | ∃ element ∈ elements, element.isText = isText ∧ key = element.value}
  rank := Routing.rank
  present := by
    rintro _ ⟨element, -, -, rfl⟩
    cases element <;> rfl
  compared := by
    rintro _ ⟨element, own, kind, rfl⟩ _ ⟨other, otherOwn, otherKind, rfl⟩
    exact (Key.compare_scalar element other).trans (compareScalars_eq
      (Scalar.comparable (separated.apart own otherOwn) (kind.trans otherKind.symm)))

/-- In every run of orderly calls that succeed, each key is in one range, is found
there, and the validation finds no error. Where at most one partition is unbounded
below, no error is found only if each key is in one range. -/
theorem ranges_consistent {α : Type} [LinearOrder α] (space : KeySpace α) :
    (∀ partitionId operations final,
      Data.Allowed KeyRangeManager.step (KeyRangeManager.Orderly space)
        (.initial partitionId) operations →
      operations.foldlM KeyRangeManager.step (.initial partitionId) = some final →
      Consistent space final) ∧ ∀ manager : KeyRangeManager, manager.Regular space →
      manager.validateRanges = some [] → Tiles space manager := by
  constructor
  · intro partitionId operations final allowed ran
    obtain ⟨chain, laid⟩ := Data.run_invariant KeyRangeManager.Laid.step
      ⟨_, KeyRangeManager.laid_initial partitionId⟩ allowed ran
    exact laid.consistent
  · intro manager regular valid
    obtain ⟨sorted, perm, -, linked⟩ := regular.validateRanges_iff
    exact KeyRangeManager.tiles_of_linked perm regular.within (linked.mp valid)

def Sample.texts : KeySpace Rank :=
  .scalars {element | ∃ value, element = .text value} (by rintro _ ⟨_, ⟨⟩⟩) true

def Sample.operations : List KeyRangeManager.Operation :=
  [.split "p1" (.primitive (.string "g")) "p2" "p3",
    .split "p3" (.primitive (.string "n")) "p3" "p4", .merge "p2" "p3" "p1"]

def Sample.bigints : KeySpace Rank :=
  .scalars {element | ∃ value, element = .bigint value} nofun false

def Sample.halves : KeyRangeManager :=
  ⟨[⟨"p2", ⟨some (.bigint 10), none⟩⟩, ⟨"p1", ⟨none, some (.bigint 10)⟩⟩], by decide⟩

theorem sample_ranges_consistent : (∃ final,
    Sample.operations.foldlM KeyRangeManager.step (.initial "p1") = some final ∧
      Consistent Sample.texts final) ∧ Tiles Sample.bigints Sample.halves := by
  constructor
  · have space (value : String) : .primitive (.string value) ∈ Sample.texts.keys :=
      ⟨.text value, ⟨value, rfl⟩, rfl, rfl⟩
    refine ⟨_, rfl, (ranges_consistent Sample.texts).1 "p1" Sample.operations _ ?_ rfl⟩
    refine ⟨⟨space "g", by decide, ?_⟩, ?_⟩
    · decide
    rintro _ ⟨⟩
    refine ⟨⟨space "n", by decide, ?_⟩, ?_⟩
    · decide
    rintro _ ⟨⟩
    refine ⟨?_, fun _ _ => trivial⟩
    rw [KeyRangeManager.Orderly]
    decide
  · have ten : .bigint 10 ∈ Sample.bigints.keys := ⟨.bigint 10, ⟨10, rfl⟩, rfl, rfl⟩
    refine (ranges_consistent Sample.bigints).2 Sample.halves ⟨by simp [Sample.halves], ?_, ?_⟩ rfl
    · simp only [Sample.halves, List.forall_mem_cons]
      exact ⟨⟨by simpa using ten, by simp⟩, ⟨by simp, by simpa using ten⟩, by simp⟩
    · simp [Sample.halves]

/-- A split at null leaves two partitions with the whole key space, and the
validation finds no error. A split into one id loses the keys on the left. A merge
around the empty range that a split at a first key leaves is reported. -/
theorem split_overlaps_and_loses : (∃ final, (KeyRangeManager.initial "p1").step
        (.split "p1" (.primitive .null) "p2" "p3") = some final ∧
      final.ranges.map (fun entry => entry.range.contains (.bigint 1)) = [some true, some true] ∧
      final.validateRanges = some []) ∧
    (∃ final, (KeyRangeManager.initial "p1").step
        (.split "p1" (.bigint 10) "p2" "p2") = some final ∧
      final.findPartitionForKey (.bigint 5) = some none) ∧
    ∃ final, [.split "p1" (.bigint 10) "p2" "p3",
        .split "p3" (.bigint 10) "p4" "p5", .merge "p2" "p5" "p6"].foldlM
          KeyRangeManager.step (.initial "p1") = some final ∧
      final.validateRanges = some [.lastPartitionEnds "p4",
        .gapBetweenPartitions "p6" "p4" (.primitive .null) (.bigint 10)] :=
  ⟨⟨_, rfl, rfl, rfl⟩, ⟨_, rfl, rfl⟩, _, rfl, rfl⟩

end LagrangeDb.Routing.KeyRanges
