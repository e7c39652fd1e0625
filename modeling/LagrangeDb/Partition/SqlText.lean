import LagrangeDb.Data.Pattern
import LagrangeDb.Partition.SplitKey

namespace LagrangeDb.Partition

open Data Data.Pattern

abbrev Fields := List (String × KeyValue)

namespace Fields

def get (fields : Fields) (name : String) : Option KeyValue := fields.lookup name

def has (fields : Fields) (name : String) : Bool := (fields.get name).isSome

def set (fields : Fields) (name : String) (value : KeyValue) : Fields :=
  if fields.has name then
    fields.map fun (other, old) => (other, if other = name then value else old)
  else fields ++ [(name, value)]

/-- Columns and values of one length, later ones over earlier ones. -/
def ofColumns (columns : List String) (values : List KeyValue) : Fields :=
  (columns.zip values).foldl (fun fields (name, value) => fields.set name value) []

end Fields

inductive OperationType where
  | query
  | insert
  | upsert
  | update
  | delete
  | other (name : String)
deriving DecidableEq

def startsWithWord (word : String) (text : List Char) : Bool :=
  word.toList.isPrefixOf (text.map Char.toUpper)

def operationTypeOf (type : OperationType) (sql : String) : OperationType :=
  let text := Js.trim sql.toList
  if type ≠ .query || sql.isEmpty then type
  else if startsWithWord "INSERT OR REPLACE INTO" text then .upsert
  else if startsWithWord "INSERT" text then .insert
  else if startsWithWord "UPDATE" text then .update
  else if startsWithWord "DELETE" text then .delete
  else type

def space : Char → Bool := Js.isWhitespace

def anything : Char → Bool := fun _ => true

/-- INSERT\s+(?:OR\s+(?:REPLACE|IGNORE)\s+)?INTO\s+\w+\s*\(([^)]+)\) -/
def insertColumns : Pattern := sequence
  [keyword "INSERT", many space 1,
    optional (sequence [keyword "OR", many space 1,
      alt (keyword "REPLACE") (keyword "IGNORE"), many space 1]),
    keyword "INTO", many space 1, many isWord 1, many space 0, character '(',
    capture (many (· ≠ ')') 1), character ')']

/-- VALUES\s*\(([^)]+)\) -/
def insertValues : Pattern := sequence
  [keyword "VALUES", many space 0, character '(', capture (many (· ≠ ')') 1), character ')']

/-- WHERE\s*\(?(\w+)\s*=\s*'([^']+)' -/
def whereQuoted : Pattern := sequence
  [keyword "WHERE", many space 0, optional (character '('),
    capture (many isWord 1), many space 0, character '=', many space 0,
    character '\'', capture (many (· ≠ '\'') 1), character '\'']

/-- \bSET\s+([\s\S]+?)\s+\bWHERE\b -/
def setClause : Pattern := sequence
  [boundary, keyword "SET", many space 1, capture (few anything 1), many space 1,
    boundary, keyword "WHERE", boundary]

/-- \bWHERE\s+([\s\S]+)$ -/
def whereClause : Pattern := sequence
  [boundary, keyword "WHERE", many space 1, capture (many anything 1), finish]

/-- ^(\w+)\s*=\s*([\s\S]+)$ -/
def assignment : Pattern := sequence
  [start, capture (many isWord 1), many space 0, character '=', many space 0,
    capture (many anything 1), finish]

/-- ^(\w+)\s*= -/
def equated : Pattern := sequence
  [start, capture (many isWord 1), many space 0, character '=']

/-- \s+AND\s+ -/
def conjunction : Pattern := sequence
  [many space 1, keyword "AND", many space 1]

/-- Parentheses around a conjunct: ^\(+|\)+$ -/
def unwrapped (text : List Char) : List Char :=
  ((text.dropWhile (· = '(')).reverse.dropWhile (· = ')')).reverse

def columnNames (text : List Char) : List String :=
  (text.splitOn ',').map fun name => String.ofList (Js.trim name)

def isQuotedBy (quote : Char) (text : List Char) : Bool :=
  text.head? = some quote && text.getLast? = some quote

def parseValue (text : List Char) : KeyValue :=
  if text.map Char.toUpper = "NULL".toList then .primitive .null
  else if isQuotedBy '\'' text || isQuotedBy '"' text then
    .primitive (.string (String.ofList (text.drop 1).dropLast))
  else
    match Js.numberOfString (String.ofList text) with
    | .nan => .primitive (.string (String.ofList text))
    | number => .primitive (.number number)

/-- The values of a VALUES clause. The quotes around a value are dropped before
it is parsed. -/
def parseValuesFrom : List Char → Option Char → List Char → List KeyValue → List KeyValue
  | [], _, current, values =>
    if (Js.trim current).isEmpty then values
    else values ++ [parseValue (Js.trim current)]
  | character :: rest, none, current, values =>
    if character = '\'' || character = '"' then parseValuesFrom rest (some character) current values
    else if character = ',' then
      parseValuesFrom rest none [] (values ++ [parseValue (Js.trim current)])
    else parseValuesFrom rest none (current ++ [character]) values
  | character :: next :: rest, some quote, current, values =>
    if character = quote then
      if next = quote then parseValuesFrom rest (some quote) (current ++ [character]) values
      else parseValuesFrom (next :: rest) none current values
    else
      parseValuesFrom (next :: rest) (some quote) (current ++ [character]) values
  | [character], some quote, current, values =>
    if character = quote then parseValuesFrom [] none current values
    else parseValuesFrom [] (some quote) (current ++ [character]) values

def parseValuesFromSQL (text : List Char) : List KeyValue := parseValuesFrom text none [] []

def insertedColumns (sql : List Char) : Option (List String × List KeyValue) :=
  match insertColumns.search sql, insertValues.search sql with
  | some [columns], some [values] =>
    let columns := columnNames columns
    let values := parseValuesFromSQL values
    if columns.length = values.length then some (columns, values) else none
  | _, _ => none

/-- Without a database at hand the row itself is not fetched. -/
def extractInsertDataFromSQL (sql : List Char) : Fields :=
  match insertedColumns sql with
  | some (columns, values) => Fields.ofColumns columns values
  | none => []

def extractWhereQuoted (sql : List Char) : Fields :=
  match whereQuoted.search sql with
  | some [column, value] => [(String.ofList column, .primitive (.string (String.ofList value)))]
  | _ => []

def extractUpdateDataFromSQL (sql : List Char) : Fields := extractWhereQuoted sql

def extractDeleteDataFromSQL (sql : List Char) : Fields := extractWhereQuoted sql

def extractParameterizedInsert (sql : List Char) (params : List KeyValue) : Fields :=
  match insertColumns.search sql with
  | some [columns] =>
    let columns := columnNames columns
    if columns.length = params.length then Fields.ofColumns columns params
    else []
  | _ => []

def questionMarks (text : List Char) : Nat := text.count '?'

def paramAt (params : List KeyValue) (index : Nat) : KeyValue :=
  params.getD index (.primitive .undefined)

/-- One assignment of a SET clause: only a bare placeholder gives a value. -/
def scrapeSet (params : List KeyValue) (state : Fields × Nat) (part : List Char) : Fields × Nat :=
  match assignment.search (Js.trim part) with
  | some [column, value] =>
    let fields :=
      if questionMarks value = 1 && Js.trim value = ['?'] then
        state.1.set (String.ofList column) (paramAt params state.2)
      else state.1
    (fields, state.2 + questionMarks value)
  | _ => state

/-- One conjunct of a WHERE clause: a column that SET gave keeps its value. -/
def scrapeWhere (params : List KeyValue) (state : Fields × Nat) (part : List Char) : Fields × Nat :=
  match assignment.search (unwrapped (Js.trim part)) with
  | some [column, value] =>
    let name := String.ofList column
    let count := questionMarks value
    let found := if 0 < count then paramAt params state.2 else parseValue (Js.trim value)
    (if state.1.has name then state.1 else state.1.set name found,
      state.2 + count)
  | _ => state

def extractParameterizedUpdate (sql : List Char) (params : List KeyValue) : Fields :=
  match setClause.search sql with
  | some [set] =>
    let ofSet := (set.splitOn ',').foldl (scrapeSet params) ([], 0)
    let (fields, used) :=
      match whereClause.search sql with
      | some [condition] =>
        (conjunction.split (Js.trim condition)).foldl (scrapeWhere params)
          ofSet
      | _ => ofSet
    if used = params.length then fields else []
  | _ => []

def extractConjunctiveWhereColumns (condition : List Char) : List String :=
  (conjunction.split (Js.trim condition)).filterMap fun part =>
    match equated.search (unwrapped (Js.trim part)) with
    | some [column] => some (String.ofList column)
    | _ => none

def extractParameterizedDelete (sql : List Char) (params : List KeyValue) : Fields :=
  match whereClause.search sql with
  | some [condition] =>
    let columns := extractConjunctiveWhereColumns condition
    if columns.length = params.length then Fields.ofColumns columns params
    else []
  | _ => []

def extractDataFromParameterizedSQL (sql : List Char) (params : List KeyValue)
    (operation : OperationType) : Fields :=
  if params.isEmpty then []
  else
    match operation with
    | .insert | .upsert => extractParameterizedInsert sql params
    | .update => extractParameterizedUpdate sql params
    | .delete => extractParameterizedDelete sql params
    | _ => []

end LagrangeDb.Partition
