import LagrangeDb.Data.Grouping
import LagrangeDb.Data.Run
import LagrangeDb.Partition.SqlText

namespace LagrangeDb.Partition

open Data

/-! Splitting a partition: rows and statements are routed to one of two
children by the key of the partition. -/

structure Entry where
  type : Option OperationType
  sql : String
  params : List KeyValue
  (data whereClause : Option Fields)

def resolveSplitOperationType (entry : Entry) : OperationType :=
  operationTypeOf (entry.type.getD .query) entry.sql

def extractRoutingKeyFromSql (entry : Entry) (primaryKeyColumn : String) : Option KeyValue :=
  let operationType := resolveSplitOperationType entry
  let text := entry.sql.toList
  let extracted : Fields :=
    if entry.sql.isEmpty then []
    else if !entry.params.isEmpty && text.contains '?' then
      extractDataFromParameterizedSQL text entry.params operationType
    else
      match operationType with
      | .insert | .upsert => extractInsertDataFromSQL text
      | .update => extractUpdateDataFromSQL text
      | .delete => extractDeleteDataFromSQL text
      | _ => []
  extracted.get primaryKeyColumn

/-- None where the routing of the statement fails. A key given with the entry is
taken as it is, even when it is absent. -/
def extractSplitRoutingKey (entry : Entry) (primaryKeyColumn : String) : Option KeyValue :=
  match entry.whereClause.bind (Fields.get · primaryKeyColumn) with
  | some value => some value
  | none =>
    match entry.data.bind (Fields.get · primaryKeyColumn) with
    | some value => some value
    | none =>
      match extractRoutingKeyFromSql entry primaryKeyColumn with
      | some value => if value.isAbsent then none else some value
      | none => none

/-- The columns of the table and the one its key stands in. -/
structure Schema where
  tableName : String
  columns : List String
  primaryKeyColumn : String
  columns_nodup : columns.Nodup

abbrev Row := List KeyValue

abbrev Table := List Row

namespace Schema

variable (schema : Schema)

def value (row : Row) (column : String) : KeyValue :=
  ((schema.columns.zip row).lookup column).getD (.primitive .undefined)

def key (row : Row) : KeyValue := schema.value row schema.primaryKeyColumn

end Schema

def joinWith (separator : String) : List String → String
  | [] => ""
  | [last] => last
  | first :: rest => first ++ separator ++ joinWith separator rest

def snapshotSql (tableName : String) (columns : List String) (rows : Nat) : String :=
  let placeholders := joinWith ", " (columns.map fun _ => "?")
  "INSERT OR REPLACE INTO " ++ tableName ++ " (" ++ joinWith ", " columns ++ ") VALUES " ++
    joinWith ", " (List.replicate rows ("(" ++ placeholders ++ ")"))

/-- The rows fit the table beside those it has. -/
def Apart (clashes : Row → Row → Bool) (table rows : List Row) : Prop :=
  ∀ row ∈ rows, ∀ other ∈ table, clashes row other = false

def Distinct (clashes : Row → Row → Bool) (rows : List Row) : Prop :=
  rows.Pairwise fun other row => clashes row other = false

/-- SQLite's execution of a statement with its parameters, none where a constraint
stops it. Two rows clash that the key or a unique column keeps from standing in one
table. The text of a snapshot batch adds the rows its parameters spell, where they
clash with none. -/
structure Sqlite (schema : Schema) where
  execute : String → List KeyValue → Table → Option Table
  clashes : Row → Row → Bool
  execute_snapshot : ∀ table rows : List Row,
    (∀ row ∈ rows, row.length = schema.columns.length) →
    Apart clashes table rows → Distinct clashes rows →
    execute (snapshotSql schema.tableName schema.columns rows.length) rows.flatten table =
      some (table ++ rows)

structure Children where
  (left right : Table)

namespace Children

def get (children : Children) : Side → Table
  | .left => children.left
  | .right => children.right

def put (children : Children) (table : Table) : Side → Children
  | .left => { children with left := table }
  | .right => { children with right := table }

end Children

section

variable {schema : Schema} (sqlite : Sqlite schema) (splitKey : KeyValue)

def routeSplitMirroredWrite (children : Children) (side : Side) (sql : String)
    (params : List KeyValue) : Option Children := do
  return children.put (← sqlite.execute sql params (children.get side)) side

def replaySplitEntry (children : Children) (entry : Entry) : Option Children := do
  let routingKey ← extractSplitRoutingKey entry schema.primaryKeyColumn
  let side ← resolveSplitTargetPartitionId routingKey splitKey
  routeSplitMirroredWrite sqlite children side entry.sql entry.params

def resolveSplitSnapshotBatchRowLimit (columns requestedRows : Nat) : Nat :=
  let bindLimitedRows := if 0 < columns then max 1 (32766 / columns) else 1
  min (max requestedRows 1) bindLimitedRows

def groupByTarget (schema : Schema) (splitKey : KeyValue) (rows : List Row) :
    Option (Groups Side Row) :=
  rows.foldlM (fun groups row => do
    let side ← resolveSplitTargetPartitionId (schema.key row) splitKey
    return groups.insert side row) []

def chunks (size : Nat) : Nat → List Row → List (List Row)
  | 0, _ => []
  | fuel + 1, rows =>
    if rows.isEmpty then []
    else rows.take size :: chunks size fuel (rows.drop size)

def copyRows (children : Children) (side : Side) (rows : List Row) : Option Children :=
  routeSplitMirroredWrite sqlite children side
    (snapshotSql schema.tableName schema.columns rows.length)
    (rows.flatMap fun row => schema.columns.map (schema.value row))

def copyGroup (children : Children) (group : Side × List Row) : Option Children :=
  let rowLimit := resolveSplitSnapshotBatchRowLimit schema.columns.length group.2.length
  (chunks rowLimit group.2.length group.2).foldlM
    (fun children rows => copyRows sqlite children group.1 rows) children

def routeSplitSnapshotBatch (children : Children) (rows : List Row) :
    Option Children := do
  let groups ← groupByTarget schema splitKey rows
  groups.foldlM (copyGroup sqlite) children

end

end LagrangeDb.Partition
