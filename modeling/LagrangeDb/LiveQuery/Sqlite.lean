import LagrangeDb.Query.Evaluate

namespace LagrangeDb.LiveQuery

open Query

/-! What SQLite returns for a SELECT from one table: the meaning a live query is
measured by. -/

inductive Affinity where
  | numeric
  | text
  | blob
deriving DecidableEq

structure TableColumn where
  name : String
  affinity : Affinity
deriving DecidableEq

/-- The conversions between numbers and texts, and the name of a result column
without AS. -/
structure Sqlite where
  toNumeric : String → Js.Value
  castNumber : String → Js.Number
  toText : Js.Number → String
  resultName : Expr → String

namespace Truth

def not (operand : Option Bool) : Option Bool := operand.map Bool.not

def and : Option Bool → Option Bool → Option Bool
  | some false, _ | _, some false => some false
  | some true, some true => some true
  | _, _ => none

def or : Option Bool → Option Bool → Option Bool
  | some true, _ | _, some true => some true
  | some false, some false => some false
  | _, _ => none

/-- A truth value is an integer or null. -/
def toValue : Option Bool → Js.Value
  | none => .null
  | some truth => .number (.finite (if truth then 1 else 0))

theorem and_eq_true : and left right = some true ↔ left = some true ∧ right = some true := by
  rcases left with _ | _ | _ <;> rcases right with _ | _ | _ <;> simp [and]

theorem or_eq_true : or left right = some true ↔ left = some true ∨ right = some true := by
  rcases left with _ | _ | _ <;> rcases right with _ | _ | _ <;> simp [or]

end Truth

def asciiUpper (code : Nat) : Nat := if 97 ≤ code && code ≤ 122 then code - 32 else code

def codePoints (value : String) : List Nat := value.toList.map Char.toNat

namespace Sqlite

variable (sqlite : Sqlite)

def underAffinity : Affinity → Js.Value → Js.Value
  | .numeric, .string text => sqlite.toNumeric text
  | .text, .number value => .string (sqlite.toText value)
  | _, value => value

/-- The operands of a comparison after the affinity of one was applied to the
other. -/
def comparands (left right : Affinity) (first second : Js.Value) : Js.Value × Js.Value :=
  match left, right with
  | .numeric, .numeric => (first, second)
  | .numeric, _ => (first, sqlite.underAffinity .numeric second)
  | _, .numeric => (sqlite.underAffinity .numeric first, second)
  | .text, .blob => (first, sqlite.underAffinity .text second)
  | .blob, .text => (sqlite.underAffinity .text first, second)
  | _, _ => (first, second)

/-- Numbers stand before texts, and null is not compared. -/
def order : Js.Value → Js.Value → Option Ordering
  | .number left, .number right => some
      (if left.less right then .lt else if right.less left then .gt else .eq)
  | .number _, .string _ => some .lt
  | .string _, .number _ => some .gt
  | .string left, .string right => some (compareOfLessAndEq left right)
  | _, _ => none

def holds : BinaryOperator → Ordering → Option Bool
  | .equals, ordering => some ordering.isEq
  | .notEquals, ordering => some ordering.isNe
  | .less, ordering => some ordering.isLT
  | .lessOrEqual, ordering => some ordering.isLE
  | .greater, ordering => some ordering.isGT
  | .greaterOrEqual, ordering => some ordering.isGE
  | _, _ => none

def compare (operator : BinaryOperator) (left right : Affinity)
    (first second : Js.Value) : Option Bool :=
  let (first, second) := sqlite.comparands left right first second
  (order first second).bind (holds operator)

/-- An IN is the disjunction of the equations with its members, which have no
affinity of their own. -/
def isIn (affinity : Affinity) (value : Js.Value) (members : List Js.Value) : Option Bool :=
  members.foldr (fun member rest =>
    Truth.or (sqlite.compare .equals affinity .blob value member) rest)
    (some false)

def likeMatches : List Nat → List Nat → Bool
  | [], text => text.isEmpty
  | 37 :: pattern, text => text.tails.any (likeMatches pattern)
  | 95 :: pattern, text =>
    match text with
    | _ :: rest => likeMatches pattern rest
    | [] => false
  | literal :: pattern, text =>
    match text with
    | code :: rest => asciiUpper code = asciiUpper literal && likeMatches pattern rest
    | [] => false

def textOf : Js.Value → Option String
  | .number value => some (sqlite.toText value)
  | .string value => some value
  | _ => none

def isLike (value pattern : Js.Value) : Option Bool := do
  let value ← sqlite.textOf value
  let pattern ← sqlite.textOf pattern
  return likeMatches (codePoints pattern) (codePoints value)

def truth : Js.Value → Option Bool
  | .number value => some (value ≠ .finite 0)
  | .string value => some (sqlite.castNumber value ≠ .finite 0)
  | _ => none

section

variable (schema : List TableColumn)

def columnNamed (name : String) : Option TableColumn :=
  schema.find? fun column => column.name.toLower = name.toLower

def affinityOf : Expr → Affinity
  | .columnRef _ column => ((columnNamed schema column).map TableColumn.affinity).getD .blob
  | _ => .blob

/-- A value as it is bound or written in a statement. -/
def bound : Js.Value → Js.Value
  | .boolean value => Truth.toValue (some value)
  | .undefined => .null
  | value => value

variable (params : List Js.Value) (row : Row)

mutual
/-- The forms the WHERE clause of a live query is built from. -/
def evaluate : Expr → Js.Value
  | .literal value => bound value
  | .parameter index => bound (params.getD index .null)
  | .columnRef _ column =>
    ((columnNamed schema column).map fun found => row.get found.name).getD
      .null
  | .binary .and left right => Truth.toValue
      (Truth.and (sqlite.truth (evaluate left)) (sqlite.truth (evaluate right)))
  | .binary .or left right => Truth.toValue
      (Truth.or (sqlite.truth (evaluate left)) (sqlite.truth (evaluate right)))
  | .binary operator left right => Truth.toValue
      (sqlite.compare operator (affinityOf schema left)
        (affinityOf schema right) (evaluate left) (evaluate right))
  | .nullTest operand negated => Truth.toValue
      (some ((evaluate operand == .null) != negated))
  | .unary .not operand => Truth.toValue
      (Truth.not (sqlite.truth (evaluate operand)))
  | .inList expression values negated =>
    let found := sqlite.isIn (affinityOf schema expression)
      (evaluate expression) (evaluateAll values)
    Truth.toValue (if negated then Truth.not found else found)
  | .between expression low high => Truth.toValue
      (Truth.and
        (sqlite.compare .greaterOrEqual (affinityOf schema expression)
          (affinityOf schema low) (evaluate expression) (evaluate low))
        (sqlite.compare .lessOrEqual (affinityOf schema expression)
          (affinityOf schema high) (evaluate expression) (evaluate high)))
  | .like expression pattern negated =>
    let found := sqlite.isLike (evaluate expression) (evaluate pattern)
    Truth.toValue (if negated then Truth.not found else found)
  | _ => .null

def evaluateAll : List Expr → List Js.Value
  | [] => []
  | expression :: rest => evaluate expression :: evaluateAll rest
end

theorem evaluateAll_eq_map (values : List Expr) : sqlite.evaluateAll schema params row values =
      values.map (sqlite.evaluate schema params row) := by
  induction values with
  | nil => rfl
  | cons value rest induction => rw [evaluateAll, induction, List.map_cons]

def condition (expression : Expr) : Option Bool :=
  sqlite.truth (sqlite.evaluate schema params row expression)

def satisfies (where? : Option Expr) : Bool :=
  where?.all fun expression => sqlite.condition schema params row expression = some true

def columnName (column : Column) : String :=
  column.asName.getD (match column.expression with
    | .columnRef _ name => ((columnNamed schema name).map TableColumn.name).getD name
    | expression => sqlite.resultName expression)

/-- The object the driver makes of a result row. -/
def project (columns : List Column) : Row :=
  columns.foldl (fun result column =>
    match column.expression with
    | .star => row ∪ result
    | expression => result.insert (sqlite.columnName schema column)
        (sqlite.evaluate schema params row expression)) ∅

end

def select (schema : List TableColumn) (params : List Js.Value) (query : Select)
    (table : List Row) : List Row :=
  (table.filter fun row =>
    sqlite.satisfies schema params row query.condition).map fun row =>
      sqlite.project schema params row query.columns

@[simp] theorem truth_toValue (value : Option Bool) :
    sqlite.truth (Truth.toValue value) = value := by
  cases value with
  | none => rfl
  | some value => cases value <;> simp [Truth.toValue, truth]

end Sqlite

end LagrangeDb.LiveQuery
