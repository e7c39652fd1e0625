import LagrangeDb.Data.KWayMerge
import LagrangeDb.Query.Combine

namespace LagrangeDb.Query

open Data

/-! The sorted merge of the streaming aggregator: each chunk is sorted and the chunks
are merged.  Its comparison of rows ends at the first key both rows have one value for. -/

namespace SortedMerge

section

variable {Row : Type} (value : Row → String → Js.Value)
  (localeCompare : String → String → Ordering) (orderBy : List OrderItem)

def directed (direction : Direction) (ordering : Ordering) : Ordering :=
  if direction = .desc then ordering.swap else ordering

def compareNullishValues (left right : Js.Value) (direction : Direction) : Option Ordering :=
  if left.strictEquals right then some .eq
  else if left.isNullish then some (directed direction .gt)
  else if right.isNullish then some (directed direction .lt)
  else none

def compareDefinedValues (left right : Js.Value) (direction : Direction) : Ordering :=
  match left, right with
  | .string left, .string right => directed direction (localeCompare left right)
  | left, right =>
    if left.less right then directed direction .lt
    else if right.less left then directed direction .gt
    else .eq

/-- Values that are equal answer for the rows, and the keys after them are not read. -/
def compareRows : List OrderItem → Row → Row → Ordering
  | [], _, _ => .eq
  | clause :: rest, left, right =>
    let column := orderColumn clause.expression
    match compareNullishValues (value left column) (value right column) clause.direction with
    | some ordering => ordering
    | none => (compareDefinedValues localeCompare (value left column) (value right column)
        clause.direction).then (compareRows rest left right)

def sortChunk (chunk : List Row) : List Row :=
  chunk.mergeSort (compareRows value localeCompare orderBy · · ≠ .gt)

def applySortedMerge (aggregator : StreamingAggregator Row) : List Row :=
  match aggregator.flushCurrentChunk.chunks with
  | [] => []
  | [chunk] => sortChunk value localeCompare orderBy chunk
  | chunks => kWayMerge (compareRows value localeCompare orderBy) chunks.flatten.length
      (chunks.map (sortChunk value localeCompare orderBy))

/-- The order the ORDER BY list asks for: a key decides where those before it tie. -/
def lexicographic : List OrderItem → Row → Row → Ordering
  | [], _, _ => .eq
  | clause :: rest, left, right =>
    let column := orderColumn clause.expression
    ((compareNullishValues (value left column) (value right column) clause.direction).getD
      (compareDefinedValues localeCompare (value left column) (value right column)
        clause.direction)).then (lexicographic rest left right)

theorem lexicographic_of_unequal (left right : Row)
    (unequal : compareRows value localeCompare orderBy left right ≠ .eq) :
    lexicographic value localeCompare orderBy left right =
      compareRows value localeCompare orderBy left right := by
  induction orderBy with
  | nil => rfl
  | cons clause rest ih =>
    simp only [compareRows, lexicographic] at unequal ⊢
    split at unequal
    next ordering found => cases ordering <;> simp_all
    next found =>
      rw [found, Option.getD_none]
      cases tied : compareDefinedValues localeCompare _ _ clause.direction <;> simp_all

variable [Std.TransCmp (compareRows value localeCompare orderBy)]
  (aggregator : StreamingAggregator Row)

theorem applySortedMerge_stableSort :
    StableSort (compareRows value localeCompare orderBy) aggregator.rows
      (applySortedMerge value localeCompare orderBy aggregator) := by
  have sorts (chunk : List Row) : StableSort (compareRows value localeCompare orderBy) chunk
      (sortChunk value localeCompare orderBy chunk) := stableSort_mergeSort chunk
  rw [← aggregator.getAllRows_eq]
  unfold applySortedMerge StreamingAggregator.getAllRows
  split
  next empty => simpa [empty, sortChunk] using sorts []
  next chunk only => simpa [only] using sorts chunk
  next => exact stableSort_chunks _

/-- The merge has all rows, and has them in the order asked for exactly where no two
rows of one first key are added the wrong way round. -/
theorem applySortedMerge_sorted_iff :
    (applySortedMerge value localeCompare orderBy aggregator).Perm aggregator.rows ∧
      ((applySortedMerge value localeCompare orderBy aggregator).Pairwise
          (lexicographic value localeCompare orderBy · · ≠ .gt) ↔
        ∀ left right, [left, right].Sublist aggregator.rows →
          compareRows value localeCompare orderBy left right = .eq →
          lexicographic value localeCompare orderBy left right ≠ .gt) := by
  have sort := applySortedMerge_stableSort value localeCompare orderBy aggregator
  exact ⟨sort.perm, sort.refined_iff (lexicographic_of_unequal value localeCompare orderBy)⟩

end

namespace Flags

/-- A row has its values of `a` and `b`. -/
def value (row : Bool × Bool) (column : String) : Js.Value :=
  .boolean (if column = "a" then row.1 else row.2)

def orderBy : List OrderItem := ["a", "b"].map fun column => ⟨.columnRef none column, .asc⟩

/-- What the partitions hold, in chunks of one row. -/
def aggregator (rows : List (Bool × Bool)) : StreamingAggregator (Bool × Bool) :=
  rows.foldl StreamingAggregator.addRow (.create ⟨some 1, none⟩ ⟨none, none⟩)

instance : Std.TransCmp (compareRows value (fun _ _ => .eq) orderBy) where
  eq_swap {left right} := by revert left right; decide +kernel
  isLE_trans {left middle right} := by revert left middle right; decide +kernel

end Flags

open Flags in
theorem applySortedMerge_sorted_pair :
    (applySortedMerge value (fun _ _ => .eq) orderBy
      (aggregator [(true, false), (false, true)])).Perm
        (aggregator [(true, false), (false, true)]).rows ∧
    (applySortedMerge value (fun _ _ => .eq) orderBy
      (aggregator [(true, false), (false, true)])).Pairwise
        (lexicographic value (fun _ _ => .eq) orderBy · · ≠ .gt) := by
  refine (applySortedMerge_sorted_iff value _ orderBy _).imp_right fun sorted => sorted.mpr ?_
  decide +kernel

open Flags in
/-- Two rows that differ in the second key only come out as they were added. -/
theorem applySortedMerge_unsorted :
    applySortedMerge value (fun _ _ => .eq) orderBy
      (aggregator [(false, true), (false, false)]) = [(false, true), (false, false)] ∧
    ¬[(false, true), (false, false)].Pairwise
      (lexicographic value (fun _ _ => .eq) orderBy · · ≠ .gt) := by
  decide +kernel

end SortedMerge

end LagrangeDb.Query
