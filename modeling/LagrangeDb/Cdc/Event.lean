import LagrangeDb.Partition.SqlText

namespace LagrangeDb.Cdc

open Data Data.Pattern LagrangeDb.Partition

/-! The event a committed write is announced with. -/

inductive Operation where
  | insert
  | update
  | upsert
  | delete
deriving DecidableEq

structure WriteEntry where
  type : OperationType
  sql : String
  params : List KeyValue
  (data whereClause : Option Fields)
  (tableName timestamp : Option String)
  changes : Option Nat

/-- An event without the place of its source in the cluster. -/
structure Event where
  tableName : String
  operation : Operation
  timestamp : Option String
  (sourcePartition sourceReplica : String)
  data : Fields

/-- The first row whose columns have the given values. -/
abbrev FetchRow (ε : Type) := String → Fields → Except ε (Option Fields)

structure Source where
  (partitionId replicaId tableName : String)

def WriteEntry.entryType (entry : WriteEntry) : OperationType :=
  operationTypeOf entry.type entry.sql

def determineOperation (entry : WriteEntry) : Option Operation :=
  match entry.entryType with
  | .insert => some .insert
  | .update => some .update
  | .upsert => some .upsert
  | .delete => some .delete
  | _ => none

def shouldSuppressNoOpWrite (entry : WriteEntry) : Bool :=
  entry.changes = some 0 && match entry.entryType with
    | .update | .delete | .upsert | .query => true
    | _ => false

/-- (?:UPDATE|INSERT\s+(?:OR\s+\w+\s+)?INTO|DELETE\s+FROM)\s+(\w+) -/
def statementTable : Pattern := sequence
  [alt (keyword "UPDATE")
    (alt
      (sequence [keyword "INSERT", many space 1,
        optional (sequence [keyword "OR", many space 1, many isWord 1, many space 1]),
        keyword "INTO"])
      (sequence [keyword "DELETE", many space 1, keyword "FROM"])),
    many space 1, capture (many isWord 1)]

def extractTableName (source : Source) (entry : WriteEntry) : String :=
  let named := match entry.tableName with
    | some name => if name.isEmpty then source.tableName else name
    | none => source.tableName
  if entry.type = .query && !entry.sql.isEmpty then
    match statementTable.search entry.sql.toList with
    | some [name] => String.ofList name
    | _ => named
  else named

section

variable {ε : Type} (fetchRow : FetchRow ε) (tableName : String)

def fetchInsertRow (keyColumn : String) (keyValue : KeyValue)
    (fallbackData : Fields) : Except ε Fields := do
  if keyColumn.isEmpty || keyValue.isAbsent then return fallbackData
  return (← fetchRow tableName [(keyColumn, keyValue)]).getD fallbackData

def fetchUpdatedRow (whereClause : Fields) : Except ε (Option Fields) :=
  let entries := whereClause.filter fun (_, value) => !value.isAbsent
  if entries.isEmpty then .ok none else fetchRow tableName entries

def extractParamInsertData (sql : List Char) (params : List KeyValue) : Except ε Fields :=
  match insertColumns.search sql with
  | some [names] =>
    let columns := columnNames names
    let data := Fields.ofColumns columns params
    let keyColumn := columns.headD ""
    if columns.length = params.length then
      fetchInsertRow fetchRow tableName keyColumn
        ((data.get keyColumn).getD (.primitive .undefined)) data
    else .ok []
  | _ => .ok []

def setColumnNames (set : List Char) : List String :=
  (set.splitOn ',').filterMap fun part =>
    match equated.search (Js.trim part) with
    | some [column] => some (String.ofList column)
    | _ => none

/-- The columns of SET, then those of WHERE that SET did not give. -/
def updateData (setColumns whereColumns : List String) (params : List KeyValue) : Fields :=
  (whereColumns.zip (params.drop setColumns.length)).foldl
    (fun fields (name, value) => if fields.has name then fields else fields.set name value)
    (Fields.ofColumns setColumns params)

def extractParamUpdateData (sql : List Char) (params : List KeyValue) : Except ε Fields :=
  match setClause.search sql with
  | some [set] => do
    let setColumns := setColumnNames set
    let whereColumns := match whereClause.search sql with
      | some [condition] => extractConjunctiveWhereColumns condition
      | _ => []
    if setColumns.length + whereColumns.length = params.length then
      let matched := Fields.ofColumns whereColumns
        (params.drop setColumns.length)
      return (← fetchUpdatedRow fetchRow tableName matched).getD
        (updateData setColumns whereColumns params)
    else return []
  | _ => .ok []

def extractParamDeleteData (sql : List Char) (params : List KeyValue) : Fields :=
  extractParameterizedDelete sql params

def extractParamData (sql : List Char) (params : List KeyValue)
    (operation : OperationType) : Except ε Fields :=
  match operation with
  | .insert | .upsert => extractParamInsertData fetchRow tableName sql params
  | .update => extractParamUpdateData fetchRow tableName sql params
  | .delete => .ok (extractParamDeleteData sql params)
  | _ => .ok []

def extractInsertRow (sql : List Char) : Except ε Fields :=
  match insertedColumns sql with
  | some (columns, values) => do
    let data := Fields.ofColumns columns values
    let keyValue := values.headD (.primitive .undefined)
    if keyValue.isAbsent then return data
    return (← fetchRow tableName [(columns.headD "", keyValue)]).getD data
  | none => .ok []

def extractUpdateRow (sql : List Char) : Except ε Fields :=
  match extractUpdateDataFromSQL sql with
  | [] => .ok []
  | key => return (← fetchRow tableName key).getD []

/-- What the text of a query gives, tried in turn while there is nothing. -/
def extractQueryData (entry : WriteEntry) (given : Fields) : Except ε Fields := do
  let sql := entry.sql.toList
  let entryType := entry.entryType
  let fromParams ←
    if given.isEmpty && !entry.params.isEmpty && sql.contains '?' then
      extractParamData fetchRow tableName sql entry.params entryType
    else .ok given
  if !fromParams.isEmpty then return fromParams
  match entryType with
  | .insert | .upsert => extractInsertRow fetchRow tableName sql
  | .update => extractUpdateRow fetchRow tableName sql
  | .delete => return extractDeleteDataFromSQL sql
  | _ => return fromParams

def givenData (entry : WriteEntry) : Fields :=
  let data := entry.data.getD []
  match entry.entryType, entry.whereClause with
  | .update, some clause => data.foldl (fun fields (name, value) => fields.set name value) clause
  | .delete, some clause => clause
  | _, _ => data

def extractCDCData (entry : WriteEntry) : Except ε Fields := do
  let data ←
    if entry.type = .query && !entry.sql.isEmpty then
      extractQueryData fetchRow tableName entry (givenData entry)
    else .ok (givenData entry)
  match entry.entryType, entry.whereClause with
  | .update, some clause => return (← fetchUpdatedRow fetchRow tableName clause).getD data
  | _, _ => return data

end

def stampOriginHlc (data : Fields) : Option String → Fields
  | none => data
  | some originHlc => data.set "updated_at_hlc" (.primitive (.string originHlc))

/-- None where no event is built. An event names the replica that proposed the
write, where the write says so. -/
def buildEvent {ε : Type} (fetchRow : FetchRow ε) (source : Source)
    (sourceReplica : Option String) (entry : WriteEntry) : Except ε (Option Event) :=
  match determineOperation entry with
  | none => .ok none
  | some operation =>
    if shouldSuppressNoOpWrite entry then .ok none
    else do
      let tableName := extractTableName source entry
      let data ← extractCDCData fetchRow tableName entry
      return some {
        tableName
        operation
        timestamp := entry.timestamp
        sourcePartition := source.partitionId
        sourceReplica := sourceReplica.getD source.replicaId
        data := stampOriginHlc data entry.timestamp
      }

end LagrangeDb.Cdc
