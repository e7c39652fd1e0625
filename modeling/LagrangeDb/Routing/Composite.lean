import LagrangeDb.Routing.KeyConditions

namespace LagrangeDb.Routing

open LagrangeDb.Partition (KeyValue)

/-! The partitions of a table with a composite key that a query goes to. -/

/-- A bound as it is stored: none, a tuple, or something else. -/
inductive RawBound where
  | unbounded
  | tuple (elements : List KeyValue)
  | malformed

structure PartitionRange where
  partitionId : String
  (start end_ : RawBound)

def isValidCompositeElement (element : KeyValue) : Bool :=
  match element.resolveSplitKeyType with
  | none | some .tuple => false
  | some _ => true

/-- A bound that is no tuple of valid elements throws. -/
def decodeCompositeValue : RawBound → Option (Option (List KeyValue))
  | .unbounded => some none
  | .tuple elements =>
    if !elements.isEmpty && elements.all isValidCompositeElement
    then some (some elements) else none
  | .malformed => none

def isValueInPartition (value : List KeyValue) (partition : PartitionRange) :
    Option Bool := do
  let value ← decodeCompositeValue (.tuple value)
  let start ← decodeCompositeValue partition.start
  let end_ ← decodeCompositeValue partition.end_
  match value, start, end_ with
  | none, _, _ | _, none, none => return true
  | some value, none, some end_ => return (← compareRoutingKeys (.tuple value) (.tuple end_)) = .lt
  | some value, some start, none =>
    return (← compareRoutingKeys (.tuple value) (.tuple start)) ≠ .lt
  | some value, some start, some end_ =>
    if (← compareRoutingKeys (.tuple value) (.tuple start)) = .lt then return false
    return (← compareRoutingKeys (.tuple value) (.tuple end_)) = .lt

def resolvePartitionForKey (keyValue : List KeyValue) : List PartitionRange → Option (Option String)
  | [] => some none
  | partition :: rest => do
    if ← isValueInPartition keyValue partition then return some partition.partitionId
    resolvePartitionForKey keyValue rest

/-- The inner none is a bound that cannot be used. -/
def decodeCompositeBoundaryTuple (expectedLength : Nat) : RawBound → Option (Option (List KeyValue))
  | .unbounded => some none
  | .tuple elements => if elements.length = expectedLength then some (some elements) else none
  | .malformed => none

def compareTuplePrefix : List KeyValue → List KeyValue → Option Ordering
  | [], _ => some .eq
  | value :: values, boundary => do
    match ← compareRoutingKeys value (boundary.headD (.primitive .undefined)) with
    | .eq => compareTuplePrefix values boundary.tail
    | decided => return decided

/-- The range of the next column comes up to the start's next element. -/
def highReachesStart : Option KeyConditions → List KeyValue → Option Bool
  | some range, boundary :: _ =>
    if range.high.isAbsent then some true
    else do
      match ← compareRoutingKeys range.high boundary with
      | .lt => return false
      | .eq => return range.highInclusive
      | .gt => return true
  | _, _ => some true

def matchesCompositeStartBound (prefixValues : List KeyValue)
    (nextRange : Option KeyConditions) (startTuple : Option (List KeyValue)) : Option Bool :=
  match startTuple with
  | none => some true
  | some startTuple => do
    match ← compareTuplePrefix prefixValues startTuple with
    | .lt => return false
    | .gt => return true
    | .eq => highReachesStart nextRange (startTuple.drop prefixValues.length)

/-- The range of the next column begins before the end's next element. At the last
column it may not begin with it either. -/
def lowReachesEnd (isLastColumn : Bool) : Option KeyConditions → List KeyValue → Option Bool
  | some range, boundary :: _ =>
    if range.low.isAbsent then some true
    else do
      match ← compareRoutingKeys range.low boundary with
      | .gt => return false
      | .eq => return range.lowInclusive && !isLastColumn
      | .lt => return true
  | _, _ => some true

def matchesCompositeEndBound (prefixValues : List KeyValue) (nextRange : Option KeyConditions)
    (endTuple : Option (List KeyValue)) (totalColumns : Nat) : Option Bool :=
  match endTuple with
  | none => some true
  | some endTuple => do
    match ← compareTuplePrefix prefixValues endTuple with
    | .gt => return false
    | .lt => return true
    | .eq =>
      lowReachesEnd (prefixValues.length + 1 = totalColumns) nextRange
        (endTuple.drop prefixValues.length)

structure DecodedBounds where
  partitionId : String
  (startTuple endTuple : Option (List KeyValue))

def decodeAllCompositePartitionBounds (expectedLength : Nat) :
    List PartitionRange → Option (List DecodedBounds)
  | [] => some []
  | partition :: rest => do
    let startTuple ← decodeCompositeBoundaryTuple expectedLength partition.start
    let endTuple ← decodeCompositeBoundaryTuple expectedLength partition.end_
    let rest ← decodeAllCompositePartitionBounds expectedLength rest
    return ⟨partition.partitionId, startTuple, endTuple⟩ :: rest

def KeyConditions.equalsValue (conditions : KeyConditions) : Option KeyValue :=
  match conditions.type, conditions.values with
  | some .equals, [value] => some value
  | _, _ => none

/-- The values of the first columns, as long as they are bound by equality. -/
def equalityValues : List (Option KeyConditions) → List KeyValue
  | [] => []
  | conditions :: rest =>
    match conditions.bind KeyConditions.equalsValue with
    | some value => value :: equalityValues rest
    | none => []

def rangeOf (conditions : Option KeyConditions) : Option KeyConditions :=
  conditions.filter fun conditions => conditions.type = some .range

def keepMatching (matching : DecodedBounds → Option Bool) :
    List DecodedBounds → Option (List String)
  | [] => some []
  | bounds :: rest => do
    let kept ← matching bounds
    let others ← keepMatching matching rest
    return if kept then bounds.partitionId :: others else others

def matchesComposite (prefixValues : List KeyValue) (nextRange : Option KeyConditions)
    (totalColumns : Nat) (bounds : DecodedBounds) : Option Bool := do
  if ← matchesCompositeStartBound prefixValues nextRange bounds.startTuple then
    matchesCompositeEndBound prefixValues nextRange bounds.endTuple totalColumns
  else return false

/-- The inner none is where no pruning is possible. -/
def pruneCompositePartitionsByPrefix (partitions : List PartitionRange)
    (columnConditions : List (Option KeyConditions)) : Option (Option (List String)) :=
  let prefixValues := equalityValues columnConditions
  let totalColumns := columnConditions.length
  let nextRange := rangeOf (columnConditions.drop prefixValues.length).head?.join
  if prefixValues.isEmpty then some none
  else
    match decodeAllCompositePartitionBounds totalColumns partitions with
    | none => some none
    | some decodedBounds => do
      let matched ← keepMatching
        (matchesComposite prefixValues nextRange totalColumns) decodedBounds
      return some matched

/-- The conditions of each key column; none inside at a contradiction. -/
def collectCompositeColumnConditions (whereClause : WhereClause) :
    List String → Option (Option (List (Option KeyConditions)))
  | [] => some (some [])
  | keyColumn :: rest => do
    let conditions ← extractKeyConditions whereClause keyColumn
    if conditions.any KeyConditions.contradiction then return none
    let others ← collectCompositeColumnConditions whereClause rest
    return others.map (conditions :: ·)

def resolveCompositeKeyPartitions (whereClause : WhereClause)
    (keyColumns : List String) (partitions : List PartitionRange) :
    Option (List String) := do
  match ← collectCompositeColumnConditions whereClause keyColumns with
  | none => return []
  | some columnConditions =>
    let values := equalityValues columnConditions
    if values.length = columnConditions.length then
      return (← resolvePartitionForKey values partitions).toList
    match ← pruneCompositePartitionsByPrefix partitions columnConditions with
    | some pruned => return pruned
    | none => return partitions.map PartitionRange.partitionId

end LagrangeDb.Routing
