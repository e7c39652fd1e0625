import LagrangeDb.Data.Json

namespace LagrangeDb.Query

open Data

/-! The merge of partition results: the rows go through the streaming buffer,
and what the buffer holds is merged with global semantics. -/

variable {Row Result : Type}

/-- Values a limit may be configured with.  `0` counts as not configured. -/
def firstConfigured (options config : Option Int) (default : Int) : Int :=
  ((options.filter (· ≠ 0)).or (config.filter (· ≠ 0))).getD default

structure Limits where
  (chunkSize maxMemoryBytes : Option Int)
deriving DecidableEq

def coordinatorStreamingChunkSize : Int := 1000

def coordinatorMaxResultBufferBytes : Int := 1048576 * 1024

structure StreamingAggregator (Row : Type) where
  (chunkSize maxMemoryBytes : Int)
  chunks : List (List Row)
  currentChunk : List Row
  totalRows : Nat
  estimatedBytes : Int
deriving DecidableEq

namespace StreamingAggregator

def create (options config : Limits) : StreamingAggregator Row :=
  { chunkSize := firstConfigured options.chunkSize config.chunkSize
      coordinatorStreamingChunkSize
    maxMemoryBytes := firstConfigured options.maxMemoryBytes
      config.maxMemoryBytes coordinatorMaxResultBufferBytes
    chunks := []
    currentChunk := []
    totalRows := 0
    estimatedBytes := 0 }

/-- `stringify` has no text for rows that cannot be serialised. -/
def estimateBytes (stringify : List Row → Option String) (rows : List Row) : Nat :=
  match stringify rows with
  | some text => utf16Length text * 2
  | none => rows.length * 100

def flushCurrentChunk (aggregator : StreamingAggregator Row) : StreamingAggregator Row :=
  if aggregator.currentChunk.isEmpty then aggregator
  else
    { aggregator with
      chunks := aggregator.chunks ++ [aggregator.currentChunk]
      currentChunk := [] }

def addRow (aggregator : StreamingAggregator Row) (row : Row) : StreamingAggregator Row :=
  let grown := { aggregator with
    currentChunk := aggregator.currentChunk ++ [row]
    totalRows := aggregator.totalRows + 1 }
  if grown.chunkSize ≤ grown.currentChunk.length then grown.flushCurrentChunk
  else grown

/-- Whether the rows were added.  A batch that would pass the limit is left
out. -/
def addRows (stringify : List Row → Option String)
    (aggregator : StreamingAggregator Row) (rows : List Row) : Bool × StreamingAggregator Row :=
  if rows.isEmpty then (true, aggregator)
  else
    let rowBytes := estimateBytes stringify rows
    if aggregator.maxMemoryBytes < aggregator.estimatedBytes + rowBytes then (false, aggregator)
    else
      let filled := rows.foldl addRow aggregator
      (true, { filled with
        estimatedBytes := filled.estimatedBytes + rowBytes })

def getAllRows (aggregator : StreamingAggregator Row) : List Row :=
  aggregator.flushCurrentChunk.chunks.flatten

end StreamingAggregator

/-- `rows` is missing where the answer carries no list. -/
structure PartitionResult (Row : Type) where
  success : Bool
  rows : Option (List Row)
deriving DecidableEq

def PartitionResult.batch (result : PartitionResult Row) : List Row :=
  if result.success then result.rows.getD [] else []

/-- One partition result goes into the buffer; whether it was accepted is not
looked at. -/
def bufferPartitionResult (stringify : List Row → Option String)
    (aggregator : StreamingAggregator Row) (result : PartitionResult Row) :
    StreamingAggregator Row :=
  match result.success, result.rows with
  | true, some rows => (aggregator.addRows stringify rows).2
  | _, _ => aggregator

def mergedRows (stringify : List Row → Option String) (aggregator : StreamingAggregator Row)
    (partitionResults : List (PartitionResult Row)) : List Row :=
  (partitionResults.foldl (bufferPartitionResult stringify) aggregator).getAllRows

inductive FanoutPlanKind where
  | rawRows
  | partialAggregate
deriving DecidableEq

/-- The merges the query executor offers over the buffered rows. -/
structure GlobalMerge (Row Result : Type) where
  (combinePartialAggregateRows aggregateSelectResults : List Row → Result)

def GlobalMerge.merge (executor : GlobalMerge Row Result)
    (plan : Option FanoutPlanKind) (rows : List Row) : Result :=
  if plan = some .partialAggregate then executor.combinePartialAggregateRows rows
  else executor.aggregateSelectResults rows

def mergePartitionResults (stringify : List Row → Option String)
    (aggregator : StreamingAggregator Row) (executor : GlobalMerge Row Result)
    (plan : Option FanoutPlanKind) (partitionResults : List (PartitionResult Row)) : Result :=
  executor.merge plan (mergedRows stringify aggregator partitionResults)

namespace StreamingAggregator

def rows (aggregator : StreamingAggregator Row) : List Row :=
  aggregator.chunks.flatten ++ aggregator.currentChunk

@[simp] theorem rows_create (options config : Limits) :
    (create options config : StreamingAggregator Row).rows = [] := rfl

section

variable (aggregator : StreamingAggregator Row)

include aggregator

@[simp] theorem rows_flushCurrentChunk : aggregator.flushCurrentChunk.rows = aggregator.rows := by
  unfold flushCurrentChunk
  split
  · rfl
  · simp [rows]

theorem getAllRows_eq : aggregator.getAllRows = aggregator.rows := by
  unfold getAllRows flushCurrentChunk
  split
  next hempty => simp [rows, List.isEmpty_iff.mp hempty]
  · simp [rows]

@[simp] theorem rows_addRow (row : Row) :
    (aggregator.addRow row).rows = aggregator.rows ++ [row] := by
  unfold addRow
  dsimp only
  split
  · rw [rows_flushCurrentChunk]
    simp [rows]
  · simp [rows]

theorem addRow_estimate (row : Row) :
    (aggregator.addRow row).maxMemoryBytes = aggregator.maxMemoryBytes ∧
      (aggregator.addRow row).estimatedBytes = aggregator.estimatedBytes := by
  unfold addRow flushCurrentChunk
  dsimp only
  split
  · split <;> exact ⟨rfl, rfl⟩
  · exact ⟨rfl, rfl⟩

end

theorem foldl_addRow (added : List Row) (aggregator : StreamingAggregator Row) :
    (added.foldl addRow aggregator).rows = aggregator.rows ++ added ∧
      (added.foldl addRow aggregator).maxMemoryBytes = aggregator.maxMemoryBytes ∧
      (added.foldl addRow aggregator).estimatedBytes = aggregator.estimatedBytes := by
  induction added generalizing aggregator with
  | nil => simp
  | cons row rest ih =>
    obtain ⟨hrows, hmax, hbytes⟩ := ih (aggregator.addRow row)
    obtain ⟨hrowMax, hrowBytes⟩ := aggregator.addRow_estimate row
    refine ⟨?_, hmax.trans hrowMax, hbytes.trans hrowBytes⟩
    rw [List.foldl_cons, hrows, rows_addRow, List.append_assoc]
    rfl

end StreamingAggregator

def PartitionResult.bytes (stringify : List Row → Option String)
    (result : PartitionResult Row) : Nat :=
  if result.batch.isEmpty then 0
  else StreamingAggregator.estimateBytes stringify result.batch

inductive Buffered (stringify : List Row → Option String)
    (before : StreamingAggregator Row) (result : PartitionResult Row)
    (after : StreamingAggregator Row) : Prop where
  | empty (hbatch : result.batch = []) (hsame : after = before)
  | refused (hbatch : result.batch ≠ []) (hsame : after = before)
      (hlimit : before.maxMemoryBytes < before.estimatedBytes + result.bytes stringify)
  | accepted (hrows : after.rows = before.rows ++ result.batch)
      (hmax : after.maxMemoryBytes = before.maxMemoryBytes)
      (hbytes : after.estimatedBytes = before.estimatedBytes + result.bytes stringify)
      (hlimit : before.estimatedBytes + result.bytes stringify ≤ before.maxMemoryBytes)

theorem bufferPartitionResult_buffered (stringify : List Row → Option String)
    (aggregator : StreamingAggregator Row) (result : PartitionResult Row) :
    Buffered stringify aggregator result (bufferPartitionResult stringify aggregator result) := by
  obtain ⟨success, rows⟩ := result
  cases success with
  | false => exact .empty rfl (by cases rows <;> rfl)
  | true =>
  cases rows with
  | none => exact .empty rfl rfl
  | some rows =>
  have hbatch : PartitionResult.batch ⟨true, some rows⟩ = rows := rfl
  simp only [bufferPartitionResult, StreamingAggregator.addRows]
  split
  next hempty => exact .empty (List.isEmpty_iff.mp hempty) rfl
  next hrows =>
  have hbytes : PartitionResult.bytes stringify ⟨true, some rows⟩ =
      StreamingAggregator.estimateBytes stringify rows := by
    simp only [PartitionResult.bytes, hbatch]
    exact if_neg hrows
  split
  next hlimit =>
    refine .refused ?_ rfl (hbytes ▸ hlimit)
    intro hnone
    exact hrows (by rw [← hbatch, hnone]; rfl)
  next hlimit =>
  obtain ⟨hadded, hmax, hsame⟩ := StreamingAggregator.foldl_addRow rows aggregator
  refine .accepted hadded hmax ?_ ?_
  · rw [hbytes]
    exact congrArg (· + _) hsame
  · rw [hbytes]
    omega

theorem foldl_buffer_sublist (stringify : List Row → Option String)
    (results : List (PartitionResult Row)) (aggregator : StreamingAggregator Row) :
    ∃ kept, (results.foldl (bufferPartitionResult stringify)
        aggregator).rows = aggregator.rows ++ kept ∧
      kept.Sublist (results.flatMap PartitionResult.batch) := by
  induction results generalizing aggregator with
  | nil => exact ⟨[], by simp, List.Sublist.refl _⟩
  | cons result rest ih =>
    obtain ⟨kept, hrows, hkept⟩ := ih (bufferPartitionResult stringify aggregator result)
    rw [List.foldl_cons, List.flatMap_cons]
    cases bufferPartitionResult_buffered stringify aggregator result with
    | empty hbatch hsame =>
      refine ⟨kept, by rw [hrows, hsame], ?_⟩
      rw [hbatch]
      exact hkept
    | refused hbatch hsame hlimit =>
      refine ⟨kept, by rw [hrows, hsame], ?_⟩
      exact hkept.trans (List.sublist_append_right _ _)
    | accepted hadded hmax hbytes hlimit =>
      refine ⟨result.batch ++ kept, ?_, (List.Sublist.refl _).append hkept⟩
      rw [hrows, hadded, List.append_assoc]

variable {stringify : List Row → Option String}

theorem bytes_of_empty {result : PartitionResult Row} (h : result.batch = []) :
    result.bytes stringify = 0 := by
  simp [PartitionResult.bytes, h]

theorem sum_bytes_of_empty {results : List (PartitionResult Row)}
    (h : ∀ result, result ∈ results → result.batch = []) :
    (results.map (PartitionResult.bytes stringify)).sum = 0 := by
  induction results with
  | nil => rfl
  | cons result rest ih =>
    rw [List.map_cons, List.sum_cons, bytes_of_empty (h result (by simp)),
      ih fun other hmem => h other (by simp [hmem])]

theorem foldl_buffer_exact (stringify : List Row → Option String)
    (results : List (PartitionResult Row)) (aggregator : StreamingAggregator Row) :
    (results.foldl (bufferPartitionResult stringify) aggregator).rows =
        aggregator.rows ++ results.flatMap PartitionResult.batch ↔
      (∀ result, result ∈ results → result.batch = []) ∨ aggregator.estimatedBytes +
        (results.map (PartitionResult.bytes stringify)).sum ≤ aggregator.maxMemoryBytes := by
  induction results generalizing aggregator with
  | nil => simp
  | cons result rest ih =>
    rw [List.foldl_cons, List.flatMap_cons, List.map_cons, List.sum_cons, List.forall_mem_cons]
    cases bufferPartitionResult_buffered stringify aggregator result with
    | empty hbatch hsame =>
      rw [hsame, hbatch, bytes_of_empty hbatch, List.nil_append, ih]
      simp
    | refused hbatch hsame hlimit =>
      rw [hsame]
      constructor
      · intro hall
        obtain ⟨kept, hrows, hkept⟩ := foldl_buffer_sublist stringify rest aggregator
        have hlength := hkept.length_le
        have hlost : kept = result.batch ++ rest.flatMap PartitionResult.batch :=
          List.append_cancel_left (hrows.symm.trans hall)
        have := List.length_pos_of_ne_nil hbatch
        rw [hlost, List.length_append] at hlength
        omega
      · rintro (⟨hempty, -⟩ | hfits)
        · exact absurd hempty hbatch
        · rw [Int.natCast_add] at hfits
          omega
    | accepted hadded hmax hbytes hlimit =>
      have hnext := ih (bufferPartitionResult stringify aggregator result)
      rw [hadded, hmax, hbytes, List.append_assoc] at hnext
      rw [hnext]
      constructor
      · rintro (hempty | hfits)
        · rw [sum_bytes_of_empty hempty]
          exact .inr (by push_cast; omega)
        · exact .inr (by push_cast at hfits ⊢; omega)
      · rintro (⟨-, hempty⟩ | hfits)
        · exact .inl hempty
        · exact .inr (by push_cast at hfits ⊢; omega)

theorem mergedRows_exact (stringify : List Row → Option String)
    (options config : Limits) (results : List (PartitionResult Row)) :
    mergedRows stringify (.create options config) results = results.flatMap PartitionResult.batch ↔
      (∀ result, result ∈ results → result.batch = []) ∨
      (results.map (PartitionResult.bytes stringify)).sum ≤
        firstConfigured options.maxMemoryBytes config.maxMemoryBytes
          coordinatorMaxResultBufferBytes := by
  have hexact := foldl_buffer_exact stringify results (.create options config)
  rw [StreamingAggregator.rows_create, List.nil_append] at hexact
  rw [mergedRows, StreamingAggregator.getAllRows_eq, hexact]
  simp only [StreamingAggregator.create, Int.zero_add]

/-- The merge is that of all the partitions' rows, in order, exactly where the
sizes of the successful results together are within the configured limit, or
there is no row at all. -/
theorem mergePartitionResults_exact_iff
    (stringify : List Row → Option String) (options config : Limits)
    (results : List (PartitionResult Row)) : (∀ (executor : GlobalMerge Row (List Row)) plan,
      mergePartitionResults stringify (.create options config) executor plan results =
        executor.merge plan (results.flatMap PartitionResult.batch)) ↔
      (∀ result, result ∈ results → result.batch = []) ∨
      (results.map (PartitionResult.bytes stringify)).sum ≤
        firstConfigured options.maxMemoryBytes config.maxMemoryBytes
          coordinatorMaxResultBufferBytes := by
  rw [← mergedRows_exact]
  constructor
  · intro hmerge
    exact hmerge { combinePartialAggregateRows := id
                   aggregateSelectResults := id } none
  · intro hrows executor plan
    rw [mergePartitionResults, hrows]

namespace Sample

def stringifyRows (rows : List (List (String × Int))) : Option String :=
  some (Json.array (rows.map fun row =>
    .object (row.map fun field => (field.1, .integer field.2)))).stringify

def roomForOne : Limits := { chunkSize := none, maxMemoryBytes := some 20 }

def unlimited : Limits := { chunkSize := none, maxMemoryBytes := none }

/-- A join hands its rows over as one batch. -/
def joined : List (PartitionResult (List (String × Int))) :=
  [{ success := true, rows := some [[("id", 1)], [("id", 2)]] }]

end Sample

/-- The rows are left out, and nothing reports it. -/
theorem mergePartitionResults_drops_row : mergePartitionResults Sample.stringifyRows
        (.create Sample.roomForOne Sample.unlimited)
        { combinePartialAggregateRows := id, aggregateSelectResults := id }
        none Sample.joined = [] ∧
      Sample.joined.flatMap PartitionResult.batch = [[("id", 1)], [("id", 2)]] := by
  decide

end LagrangeDb.Query
