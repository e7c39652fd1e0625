import LagrangeDb.Cdc.Event
import LagrangeDb.LiveQuery.Predicate
import LagrangeDb.LiveQuery.Sqlite

namespace LagrangeDb.LiveQuery

open Query

/-! A query group: the rows it keeps of its query, and the events it sends its
clients for the changes of the table. -/

/-- Rows are compared by their entries, which can be evaluated. -/
instance decidableEqRow : DecidableEq Row := fun row other =>
  decidable_of_iff (row.entries = other.entries) AList.ext_iff.symm

/-- A change as it is delivered: the rows after and before it. -/
structure Change where
  operation : Cdc.Operation
  (data oldData : Option Row)
deriving DecidableEq

inductive Event where
  | insert (row : Row)
  | delete (row : Row)
  | update (old new : Row)
deriving DecidableEq

def nonEmpty (name : String) : Option String := if name.isEmpty then none else some name

def columnName (column : Column) : Option String :=
  match column.expression with
  | .columnRef _ name => nonEmpty name
  | .functionCall name _ => nonEmpty name
  | _ => none

def targetKey (column : Column) : Option String := column.asName.bind nonEmpty <|> columnName column

/-- The value of a result column: that of its source, or the one under its own
name in a row that is projected already. -/
def projectedValue (row : Row) (column : Column) (target : String) : Js.Value :=
  match ((columnName column).map row.get).getD .undefined with
  | .undefined => if (row.get target).isNullish then .null else row.get target
  | value => value

def projectSingleColumn (row projected : Row) (column : Column) : Row :=
  match targetKey column with
  | none => projected
  | some target => projected.insert target (projectedValue row column target)

def isStar (column : Column) : Bool :=
  match column.expression with
  | .star => true
  | _ => false

def isStarProjection (columns : List Column) : Bool := columns.isEmpty || columns.any isStar

def projectRow (columns : List Column) (row : Row) : Row :=
  if isStarProjection columns then row
  else columns.foldl (projectSingleColumn row) ∅

structure Group where
  query : Select
  params : List Js.Value
  /-- The first column of the declared primary key. -/
  partitionKeyColumn : Option String
  resultSet : AList fun _ : Js.Value => Row

/-- The object with the properties of both, those of the second over those of the
first. -/
def spread (base top : Row) : Row := top ∪ base

namespace Group

def keyColumn (group : Group) : String := (group.partitionKeyColumn.bind nonEmpty).getD "id"

def getRowPrimaryKey (group : Group) (row : Row) : Js.Value :=
  let own := row.get group.keyColumn
  let id := row.get "id"
  let rowid := row.get "rowid"
  if !own.isNullish then own
  else if !id.isNullish then id
  else if !rowid.isNullish then rowid
  else .null

def storedRow (group : Group) (key : Js.Value) : Option Row :=
  if key.isNullish then none else group.resultSet.lookup key

def store (group : Group) (key : Js.Value) (row : Row) : Group :=
  if key.isNullish then group
  else { group with resultSet := group.resultSet.insert key row }

def discard (group : Group) (key : Js.Value) : Group :=
  if key.isNullish then group
  else { group with resultSet := group.resultSet.erase key }

def project (group : Group) (row : Row) : Row := projectRow group.query.columns row

variable (regExp : RegExpEngine)

def predicate (group : Group) (row : Row) : Bool :=
  compilePredicate regExp row group.params group.query.condition

def evaluateInsert (group : Group) (newRow : Row) : Group × Option Event :=
  let key := group.getRowPrimaryKey newRow
  if group.predicate regExp newRow then
    (group.store key newRow, some (.insert (group.project newRow)))
  else (group.discard key, none)

def evaluateDelete (group : Group) (oldRow : Row) : Group × Option Event :=
  let key := group.getRowPrimaryKey oldRow
  let stored := group.storedRow key
  let effectiveRow := (stored.map fun row => spread row oldRow).getD oldRow
  let matched := stored.isSome || group.predicate regExp effectiveRow
  (group.discard key,
    if matched then some (.delete (group.project effectiveRow)) else none)

/-- The row a change leaves of a stored one and of what it says of it. -/
def effective (stored image : Option Row) : Option Row :=
  match stored with
  | none => image
  | some row => some (spread row (image.getD ∅))

def evaluateUpdate (group : Group) (oldRow newRow : Option Row) : Group × Option Event :=
  let keyOf := fun row : Option Row => (row.map group.getRowPrimaryKey).getD .null
  let key := if (keyOf newRow).isNullish then keyOf oldRow else keyOf newRow
  let stored := group.storedRow key
  let effectiveOld := effective stored oldRow
  let effectiveNew := effective stored newRow
  let oldMatched := stored.isSome || effectiveOld.any (group.predicate regExp)
  match effectiveNew.filter (group.predicate regExp) with
  | some new =>
    (group.store key new,
      match effectiveOld, oldMatched with
      | some old, true => some (.update (group.project old) (group.project new))
      | _, _ => some (.insert (group.project new)))
  | none =>
    (group.discard key,
      match effectiveOld, oldMatched with
      | some old, true => some (.delete (group.project old))
      | _, _ => none)

def evaluateChange (group : Group) (change : Change) : Group × Option Event :=
  match change.operation with
  | .insert =>
    match change.data with
    | some newRow => group.evaluateInsert regExp newRow
    | none => (group, none)
  | .update => group.evaluateUpdate regExp change.oldData change.data
  | .delete =>
    match change.oldData with
    | some oldRow => group.evaluateDelete regExp oldRow
    | none => (group, none)
  | .upsert => (group, none)

def storeSnapshotRows (group : Group) (rows : List Row) : Group :=
  rows.foldl (fun group row => group.store (group.getRowPrimaryKey row) row) group

end Group

inductive Write where
  | insert (row : Row)
  | update (old new : Row)
  | upsert (row : Row)
  | delete (row : Row)
deriving DecidableEq

namespace Write

def sameKey (keyColumns : List String) (row other : Row) : Bool :=
  keyColumns.all fun column => row.get column = other.get column

def apply (keyColumns : List String) (table : List Row) : Write → Option (List Row)
  | insert row => if table.any (sameKey keyColumns row) then none else some (row :: table)
  | update old new =>
    if old ∈ table ∧ !(table.erase old).any (sameKey keyColumns new) then
      some (new :: table.erase old)
    else none
  | upsert row => some (row :: table.filter fun other => !sameKey keyColumns row other)
  | delete row => if row ∈ table then some (table.erase row) else none

/-- The event names the operation and has the rows. The old row of an update may
be missing, and that of a delete may be its data, as the change data capture
writes it. -/
def describedBy : Write → Change → Bool
  | insert row, change => change.operation = .insert && change.data = some row
  | update old new, change =>
    change.operation = .update && change.data = some new &&
      change.oldData.all (· = old)
  | upsert row, change => change.operation = .upsert && change.data = some row
  | delete row, change =>
    change.operation = .delete && change.oldData.all (· = row) &&
      change.data.all (· = row) && (change.oldData.isSome || change.data.isSome)

end Write

structure Live where
  group : Group
  (client table : List Row)

def applyEvent (client : List Row) : Event → List Row
  | .insert row => row :: client
  | .delete row => client.erase row
  | .update old new => new :: client.erase old

structure Setting where
  regExp : RegExpEngine
  sqlite : Sqlite
  schema : List TableColumn
  primaryKeyColumns : List String

namespace Setting

variable (setting : Setting)

def select (query : Select) (params : List Js.Value) (table : List Row) : List Row :=
  setting.sqlite.select setting.schema params query table

def executeInitialQuery (query : Select) (params : List Js.Value) (table : List Row) : Live :=
  let rows := setting.select query params table
  let group : Group := ⟨query, params, setting.primaryKeyColumns.head?, ∅⟩
  ⟨group.storeSnapshotRows rows, rows.map group.project, table⟩

def step (live : Live) (delivery : Write × Change) : Option Live :=
  if delivery.1.describedBy delivery.2 then
    (delivery.1.apply setting.primaryKeyColumns live.table).map fun table =>
      let (group, event) := live.group.evaluateChange setting.regExp delivery.2
      ⟨group, (event.map (applyEvent live.client)).getD live.client, table⟩
  else none

end Setting

end LagrangeDb.LiveQuery
