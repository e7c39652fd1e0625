import Mathlib

namespace LagrangeDb.Data

/-! The k-way merge that takes the least head of its chunks until none is left. -/

variable {α : Type} (compare : α → α → Ordering)

/-- The best head so far gives way to a strictly smaller one only. -/
def consider (best : Option (Nat × α)) (index : Nat) : List α → Option (Nat × α)
  | [] => best
  | value :: _ =>
    match best with
    | none => some (index, value)
    | some least => if compare value least.2 = .lt then some (index, value) else some least

def findMin (best : Option (Nat × α)) (index : Nat) : List (List α) → Option (Nat × α)
  | [] => best
  | chunk :: rest => findMin (consider compare best index chunk) (index + 1) rest

def kWayMerge : Nat → List (List α) → List α
  | 0, _ => []
  | fuel + 1, chunks =>
    match findMin compare none 0 chunks with
    | none => []
    | some (index, value) => value :: kWayMerge fuel (chunks.modify index List.tail)

/-- The head taken is below those of the chunks before it, and not above those after. -/
def Least (front : List (List α)) (value : α) (back : List (List α)) : Prop :=
  (∀ chunk ∈ front, ∀ head ∈ chunk.head?, compare value head = .lt) ∧
    ∀ chunk ∈ back, ∀ head ∈ chunk.head?, compare value head ≠ .gt

/-- What the scan knows of the chunks it has seen. -/
def Best (seen : List (List α)) : Option (Nat × α) → Prop
  | none => ∀ chunk ∈ seen, chunk = []
  | some (index, value) => ∃ front tail back, seen = front ++ (value :: tail) :: back ∧
      front.length = index ∧ Least compare front value back

/-- `output` has the rows in order, and those that compare equal as they stood. -/
structure StableSort (rows output : List α) : Prop where
  perm : output.Perm rows
  sorted : output.Pairwise (compare · · ≠ .gt)
  stable : ∀ pivot, output.filter (compare pivot · = .eq) = rows.filter (compare pivot · = .eq)

variable {compare} {chunks : List (List α)}

/-- What holds of the heads and goes up holds of every row. -/
theorem of_heads {bound : α → Prop} (up : ∀ a b, bound a → compare a b ≠ .gt → bound b)
    (heads : ∀ chunk ∈ chunks, ∀ head ∈ chunk.head?, bound head)
    (sorted : ∀ chunk ∈ chunks, chunk.Pairwise (compare · · ≠ .gt)) :
    ∀ row ∈ chunks.flatten, bound row := by
  intro row member
  obtain ⟨chunk, inChunks, inChunk⟩ := List.mem_flatten.mp member
  match chunk, heads chunk inChunks, sorted chunk inChunks, inChunk with
  | head :: tail, heads, sorted, inChunk =>
    obtain rfl | inTail := List.mem_cons.mp inChunk
    · exact heads _ rfl
    · exact up head row (heads head rfl) (List.rel_of_pairwise_cons sorted inTail)

variable [Std.TransCmp compare]

theorem ne_gt_trans (first : compare a b ≠ .gt) (second : compare b c ≠ .gt) :
    compare a c ≠ .gt := by
  simp only [Ne, ← Ordering.isLE_iff_ne_gt] at *
  exact Std.TransCmp.isLE_trans first second

theorem best_consider {best : Option (Nat × α)} (h : Best compare seen best) (chunk : List α) :
    Best compare (seen ++ [chunk]) (consider compare best seen.length chunk) := by
  match chunk, best with
  | [], none => exact fun chunk member => (List.mem_append.mp member).elim (h chunk) (by simp)
  | [], some (index, value) =>
    obtain ⟨front, tail, back, rfl, place, before, after⟩ := h
    exact ⟨front, tail, back ++ [[]], by simp, place, before, by
      simpa [or_imp, forall_and] using after⟩
  | value :: tail, none =>
    refine ⟨seen, tail, [], rfl, rfl, fun chunk member => ?_, by simp⟩
    simp [h chunk member]
  | value :: tail, some (index, least) =>
    obtain ⟨front, rest, back, rfl, place, before, after⟩ := h
    simp only [consider]
    split
    next less =>
      refine ⟨_, tail, [], rfl, rfl, fun chunk member head isHead => ?_, by simp⟩
      simp only [List.mem_append, List.mem_cons] at member
      obtain member | rfl | member := member
      · exact Std.TransCmp.lt_trans less (before chunk member head isHead)
      · cases isHead
        exact less
      · exact Std.TransCmp.lt_of_lt_of_isLE less
          (Ordering.isLE_iff_ne_gt.mpr (after chunk member head isHead))
    next notLess =>
      refine ⟨front, rest, back ++ [value :: tail], by simp, place, before, ?_⟩
      have last : compare least value ≠ .gt := by rwa [Ne, Std.OrientedCmp.gt_iff_lt]
      simpa [or_imp, forall_and] using ⟨after, last⟩

theorem best_findMin (chunks : List (List α)) {seen : List (List α)} {best : Option (Nat × α)}
    (h : Best compare seen best) :
    Best compare (seen ++ chunks) (findMin compare best seen.length chunks) := by
  induction chunks generalizing seen best with
  | nil => simpa [findMin] using h
  | cons chunk rest ih => simpa [findMin] using ih (best_consider h chunk)

/-- Taking the least head goes before a stable sort of what is left. -/
theorem StableSort.take {tail : List α} {value : α} (least : Least compare front value back)
    (sorted : ∀ chunk ∈ front ++ (value :: tail) :: back, chunk.Pairwise (compare · · ≠ .gt))
    (rest : StableSort compare (front ++ tail :: back).flatten output) :
    StableSort compare (front ++ (value :: tail) :: back).flatten (value :: output) := by
  simp only [List.forall_mem_append, List.forall_mem_cons, List.pairwise_cons] at sorted
  obtain ⟨sortedFront, ⟨belowTail, -⟩, sortedBack⟩ := sorted
  have belowFront : ∀ row ∈ front.flatten, compare value row = .lt :=
    of_heads (fun _ _ first second => Std.TransCmp.lt_of_lt_of_isLE first
      (Ordering.isLE_iff_ne_gt.mpr second)) least.1 sortedFront
  have belowBack : ∀ row ∈ back.flatten, compare value row ≠ .gt :=
    of_heads (fun _ _ => ne_gt_trans) least.2 sortedBack
  have flat (chunk : List α) :
      (front ++ chunk :: back).flatten = front.flatten ++ (chunk ++ back.flatten) := by simp
  rw [flat] at rest ⊢
  refine ⟨(rest.perm.cons _).trans List.perm_middle.symm,
    rest.sorted.cons fun row member => ?_, fun pivot => ?_⟩
  · simp only [rest.perm.mem_iff, List.mem_append] at member
    obtain member | member | member := member
    · simp [belowFront row member]
    · exact belowTail row member
    · exact belowBack row member
  · have stable := rest.stable pivot
    simp only [List.filter_append, List.cons_append, List.filter_cons] at stable ⊢
    split
    next tied =>
      -- No row of the chunks before compares equal to the one taken.
      have unequal : front.flatten.filter (compare pivot · = .eq) = [] := by
        refine List.filter_eq_nil_iff.mpr fun row member => ?_
        simp [Std.TransCmp.congr_left (of_decide_eq_true tied), belowFront row member]
      simp [stable, unequal]
    next => exact stable

theorem stableSort_kWayMerge (fuel : Nat) (chunks : List (List α))
    (enough : chunks.flatten.length = fuel)
    (sorted : ∀ chunk ∈ chunks, chunk.Pairwise (compare · · ≠ .gt)) :
    StableSort compare chunks.flatten (kWayMerge compare fuel chunks) := by
  induction fuel generalizing chunks with
  | zero =>
    rw [List.length_eq_zero_iff.mp enough]
    exact ⟨.nil, .nil, fun _ => rfl⟩
  | succ fuel ih =>
    have best : Best compare ([] ++ chunks) (findMin compare none 0 chunks) :=
      best_findMin chunks (by simp [Best])
    rw [List.nil_append] at best
    unfold kWayMerge
    split
    next found =>
      rw [found] at best
      simp [List.flatten_eq_nil_iff.mpr best] at enough
    next index value found =>
      rw [found] at best
      obtain ⟨front, tail, back, rfl, rfl, least⟩ := best
      have advanced : (front ++ (value :: tail) :: back).modify front.length List.tail =
          front ++ tail :: back := by
        rw [List.modify_eq_take_cons_drop (by simp)]
        simp
      rw [advanced]
      refine .take least sorted (ih _ ?_ ?_)
      · simp at enough ⊢
        omega
      · simp only [List.forall_mem_append, List.forall_mem_cons, List.pairwise_cons] at sorted ⊢
        exact ⟨sorted.1, sorted.2.1.2, sorted.2.2⟩

theorem stableSort_mergeSort (rows : List α) :
    StableSort compare rows (rows.mergeSort (compare · · ≠ .gt)) := by
  have trans (a b c : α) (first : decide (compare a b ≠ .gt) = true)
      (second : decide (compare b c ≠ .gt) = true) : decide (compare a c ≠ .gt) = true := by
    simp only [decide_eq_true_eq] at *
    exact ne_gt_trans first second
  have total (a b : α) : (decide (compare a b ≠ .gt) || decide (compare b a ≠ .gt)) = true := by
    rw [@Std.OrientedCmp.eq_swap _ compare _ a b]
    cases compare b a <;> rfl
  have perm := List.mergeSort_perm rows (compare · · ≠ .gt)
  refine ⟨perm, by simpa using List.pairwise_mergeSort trans total rows, fun pivot => ?_⟩
  have ties : (rows.filter (compare pivot · = .eq)).Pairwise
      (fun a b => decide (compare a b ≠ .gt) = true) := by
    refine List.pairwise_of_forall_mem_list fun a memberA b memberB => ?_
    simp only [List.mem_filter, decide_eq_true_eq] at memberA memberB
    simp [Std.TransCmp.eq_trans (Std.OrientedCmp.eq_symm memberA.2) memberB.2]
  have kept := (List.sublist_mergeSort trans total ties List.filter_sublist).filter
    (compare pivot · = .eq)
  rw [List.filter_filter] at kept
  simp only [Bool.and_self] at kept
  exact (kept.eq_of_length (perm.filter _).length_eq.symm).symm

theorem stableSort_chunks (chunks : List (List α)) :
    StableSort compare chunks.flatten (kWayMerge compare chunks.flatten.length
      (chunks.map fun chunk => chunk.mergeSort (compare · · ≠ .gt))) := by
  have sorts (chunk : List α) : StableSort compare chunk _ := stableSort_mergeSort chunk
  have merged : StableSort compare
      (chunks.map fun chunk => chunk.mergeSort (compare · · ≠ .gt)).flatten _ :=
    stableSort_kWayMerge chunks.flatten.length _ (by simp [Function.comp_def])
      (by simpa using fun chunk _ => (sorts chunk).sorted)
  rw [← List.flatMap_def] at merged
  refine ⟨merged.perm.trans ?_, merged.sorted, fun pivot => (merged.stable pivot).trans ?_⟩
  · rw [← List.flatMap_id]
    exact List.Perm.flatMap_left _ fun chunk _ => (sorts chunk).perm
  · rw [List.filter_flatMap, ← List.flatMap_id, List.filter_flatMap]
    simp only [(sorts _).stable, id]

theorem StableSort.pair_iff (h : StableSort compare rows output)
    (tied : compare a b = .eq) : [a, b].Sublist output ↔ [a, b].Sublist rows := by
  have among (list : List α) :
      [a, b].Sublist list ↔ [a, b].Sublist (list.filter (compare a · = .eq)) := by
    refine ⟨fun pair => ?_, fun pair => pair.trans List.filter_sublist⟩
    simpa [tied, Std.ReflCmp.compare_self] using pair.filter (compare a · = .eq)
  rw [among, h.stable, ← among]

/-- Sorted by a comparison that refines the one of the sort: the rows that the sort
holds equal have to stand right from the start. -/
theorem StableSort.refined_iff {refined : α → α → Ordering} (h : StableSort compare rows output)
    (agrees : ∀ a b, compare a b ≠ .eq → refined a b = compare a b) :
    output.Pairwise (refined · · ≠ .gt) ↔
      ∀ a b, [a, b].Sublist rows → compare a b = .eq → refined a b ≠ .gt := by
  rw [List.pairwise_iff_forall_sublist]
  constructor
  · intro sorted a b pair tied
    exact sorted ((h.pair_iff tied).mpr pair)
  · intro ties a b pair
    by_cases tied : compare a b = .eq
    · exact ties a b ((h.pair_iff tied).mp pair) tied
    · rw [agrees a b tied]
      exact List.pairwise_iff_forall_sublist.mp h.sorted pair

end LagrangeDb.Data
