import LagrangeDb.LiveQuery.Agreement

namespace LagrangeDb.Query

open LiveQuery

/-! What SQLite makes of an expression over a row, and which of its comparisons the
language makes alike. -/

/-- How the columns and the aggregates of an expression are read. -/
structure RowReading where
  column : Option String → String → Js.Value
  affinity : Option String → String → Affinity
  aggregate : AggregateFunction → Expr → Bool → Js.Value

structure Arithmetic where
  binary : BinaryOperator → Js.Value → Js.Value → Js.Value
  minus : Js.Value → Js.Value
  minus_null : minus .null = .null
  minus_number : ∀ value, minus (.number value) = .number value.negate

def BinaryOperator.isComparison : BinaryOperator → Bool
  | .equals | .notEquals | .less | .lessOrEqual | .greater | .greaterOrEqual => true
  | _ => false

def RowReading.affinityOf (reading : RowReading) : Expr → Affinity
  | .columnRef table column => reading.affinity table column
  | _ => .blob

section

variable (sqlite : Sqlite) (arithmetic : Arithmetic) (reading : RowReading)

mutual
def meaning : Expr → Js.Value
  | .literal value => Sqlite.bound value
  | .columnRef table column => reading.column table column
  | .aggregate function argument distinct => reading.aggregate function argument distinct
  | .binary .and left right => Truth.toValue
      (Truth.and (sqlite.truth (meaning left)) (sqlite.truth (meaning right)))
  | .binary .or left right => Truth.toValue
      (Truth.or (sqlite.truth (meaning left)) (sqlite.truth (meaning right)))
  | .binary operator left right =>
    if operator.isComparison then Truth.toValue
      (sqlite.compare operator (reading.affinityOf left) (reading.affinityOf right)
        (meaning left) (meaning right))
    else arithmetic.binary operator (meaning left) (meaning right)
  | .nullTest operand negated => Truth.toValue
      (some ((meaning operand == .null) != negated))
  | .unary .not operand => Truth.toValue (Truth.not (sqlite.truth (meaning operand)))
  | .unary .plus operand => meaning operand
  | .unary .minus operand => arithmetic.minus (meaning operand)
  | .inList expression values negated =>
    let found := sqlite.isIn (reading.affinityOf expression) (meaning expression)
      (meanings values)
    Truth.toValue (if negated then Truth.not found else found)
  | .between expression low high => Truth.toValue
      (Truth.and
        (sqlite.compare .greaterOrEqual (reading.affinityOf expression)
          (reading.affinityOf low) (meaning expression) (meaning low))
        (sqlite.compare .lessOrEqual (reading.affinityOf expression)
          (reading.affinityOf high) (meaning expression) (meaning high)))
  | .like expression pattern negated =>
    let found := sqlite.isLike (meaning expression) (meaning pattern)
    Truth.toValue (if negated then Truth.not found else found)
  | _ => .null

def meanings : List Expr → List Js.Value
  | [] => []
  | expression :: rest => meaning expression :: meanings rest
end

theorem meanings_eq_map (values : List Expr) : meanings sqlite arithmetic reading values =
      values.map (meaning sqlite arithmetic reading) := by
  induction values with
  | nil => rfl
  | cons value rest induction => rw [meanings, induction, List.map_cons]

def condition (expression : Expr) : Option Bool :=
  sqlite.truth (meaning sqlite arithmetic reading expression)

end

/-- SQLite has no booleans. -/
def isBoolean : Js.Value → Bool
  | .boolean _ => true
  | _ => false

def isMixed : Js.Value → Js.Value → Bool
  | .number _, .string _ | .string _, .number _ => true
  | _, _ => false

/-- The language, which compares a number with the one a text is converted to,
has the number before the text. -/
def Before (number converted : Js.Number) : BinaryOperator → Prop
  | .less => number.less converted = true
  | .lessOrEqual => number.lessOrEqual converted = true
  | .greater => converted.less number = false
  | .greaterOrEqual => converted.lessOrEqual number = false
  | _ => False

/-- As above, with the text as the left operand. -/
def After (number converted : Js.Number) : BinaryOperator → Prop
  | .less => converted.less number = false
  | .lessOrEqual => converted.lessOrEqual number = false
  | .greater => number.less converted = true
  | .greaterOrEqual => number.lessOrEqual converted = true
  | _ => False

/-- Two numbers, or two texts, that no affinity converts; the order of texts is that
of their characters, but the language orders them by code units. A number and a text
are never equal to the language, and SQLite has the number first unless it converts
one of them. -/
inductive Comparable (sqlite : Sqlite) (left right : Affinity) (operator : BinaryOperator) :
    Js.Value → Js.Value → Prop where
  | numbers {first second : Js.Number} : operator.isComparison = true →
      first ≠ .nan → second ≠ .nan →
      sqlite.comparands left right (.number first) (.number second) =
        (.number first, .number second) →
      Comparable sqlite left right operator (.number first) (.number second)
  | texts {first second : String} : operator.isComparison = true →
      (operator ∈ [.equals, .notEquals] ∨ isBasic first = true ∧ isBasic second = true) →
      sqlite.comparands left right (.string first) (.string second) =
        (.string first, .string second) →
      Comparable sqlite left right operator (.string first) (.string second)
  | unequal {first second : Js.Value} : operator ∈ [.equals, .notEquals] →
      isMixed first second = true →
      sqlite.compare .equals left right first second = some false →
      Comparable sqlite left right operator first second
  | numberText {first number : Js.Number} {second text : String} :
      Before first (Js.numberOfString second) operator →
      sqlite.comparands left right (.number first) (.string second) =
        (.number number, .string text) →
      Comparable sqlite left right operator (.number first) (.string second)
  | textNumber {first text : String} {second number : Js.Number} :
      After second (Js.numberOfString first) operator →
      sqlite.comparands left right (.string first) (.number second) =
        (.string text, .number number) →
      Comparable sqlite left right operator (.string first) (.number second)
  | converted {first second : Js.Value} :
      operator ∈ [.less, .lessOrEqual, .greater, .greaterOrEqual] →
      isMixed first second = true → first.toNumber ≠ .nan → second.toNumber ≠ .nan →
      sqlite.comparands left right first second =
        (.number first.toNumber, .number second.toNumber) →
      Comparable sqlite left right operator first second

theorem Comparable.isComparison (comparable : Comparable sqlite left right operator first second) :
    operator.isComparison = true := by
  cases comparable with
  | numbers compares | texts compares => exact compares
  | unequal which | converted which => fin_cases which <;> rfl
  | numberText before | textNumber before => cases operator <;> first | rfl | cases before

theorem Comparable.isNullish (comparable : Comparable sqlite left right operator first second) :
    first.isNullish = false ∧ second.isNullish = false := by
  cases comparable with
  | unequal _ mixed | converted _ mixed =>
    cases first <;> cases second <;> first | exact ⟨rfl, rfl⟩ | cases mixed
  | _ => exact ⟨rfl, rfl⟩

theorem strictEquals_comm (left right : Js.Value) :
    left.strictEquals right = right.strictEquals left := by
  cases left with
  | number left => cases right with
    | number right => cases left <;> cases right <;>
        simp [Js.Value.strictEquals, Js.Number.equals, eq_comm]
    | _ => rfl
  | _ => cases right <;> simp [Js.Value.strictEquals, eq_comm]

section

variable {sqlite : Sqlite}

theorem compare_comparands (found : sqlite.comparands left right first second = (one, other)) :
    sqlite.compare operator left right first second =
      (Sqlite.order one other).bind (Sqlite.holds operator) := by
  rw [Sqlite.compare, found]

theorem strictEquals_mixed (mixed : isMixed first second = true) :
    first.strictEquals second = false := by
  cases first <;> cases second <;> first | rfl | cases mixed

theorem compare_notEquals : sqlite.compare .notEquals left right first second =
    (sqlite.compare .equals left right first second).map Bool.not := by
  rw [Sqlite.compare, Sqlite.compare]
  generalize sqlite.comparands left right first second = operands
  cases found : Sqlite.order operands.1 operands.2 with
  | none => simp [found]
  | some ordering => cases ordering <;> simp [found, Sqlite.holds]

theorem compareWith_toNumber
    (which : operator ∈ [.less, .lessOrEqual, .greater, .greaterOrEqual])
    (mixed : isMixed first second = true) :
    compareWith operator first second =
      compareWith operator (.number first.toNumber) (.number second.toNumber) := by
  cases first <;> cases second <;> first | (fin_cases which <;> rfl) | cases mixed

theorem Comparable.compare_eq (comparable : Comparable sqlite left right operator first second) :
    sqlite.compare operator left right first second = some (compareWith operator first second) := by
  cases comparable with
  | numbers compares known other same =>
    rw [compare_comparands same]
    exact holds_numbers known other
      (by cases operator <;> simp_all [BinaryOperator.isComparison])
  | texts compares either same =>
    rw [compare_comparands same]
    rcases either with equation | ⟨basic, basicRight⟩
    · exact holds_texts equation
    · exact holds_basic (by cases operator <;> simp_all [BinaryOperator.isComparison])
        basic basicRight
  | unequal which mixed differs =>
    fin_cases which
    · rw [differs, compareWith, strictEquals_mixed mixed]
    · rw [compare_notEquals, differs, compareWith, strictEquals_mixed mixed]
      rfl
  | numberText before found =>
    rw [compare_comparands found]
    cases operator <;> first | exact congrArg some before.symm | cases before
  | textNumber after found =>
    rw [compare_comparands found]
    cases operator <;> first | exact congrArg some after.symm | cases after
  | converted which mixed known other found =>
    rw [compare_comparands found, compareWith_toNumber which mixed]
    exact holds_numbers known other (List.mem_append_right [.equals, .notEquals] which)

theorem isIn_found {affinity : Affinity} (among : member ∈ members)
    (equal : sqlite.compare .equals affinity .blob value member = some true) :
    sqlite.isIn affinity value members = some true := by
  induction members with
  | nil => cases among
  | cons head rest induction =>
    refine Truth.or_eq_true.mpr ?_
    rcases List.mem_cons.mp among with rfl | among
    · exact .inl equal
    · exact .inr (induction among)

theorem compare_nullish (null : first = .null ∨ second = .null) :
    sqlite.compare operator left right first second = none := by
  rw [Sqlite.compare]
  rcases null with rfl | rfl
  · cases left <;> cases right <;> rfl
  have none_right : ∀ value, Sqlite.order value .null = none := by
    intro value
    cases value <;> rfl
  cases left <;> cases right <;>
    simp [Sqlite.comparands, Sqlite.underAffinity, none_right]

end

theorem afterRuns_subset (text : List Nat) : afterRuns text ⊆ text.tails := by
  induction text with
  | nil => simp [afterRuns]
  | cons code rest induction =>
    rw [afterRuns, List.tails_cons]
    refine List.cons_subset_cons _ ?_
    split
    · exact List.nil_subset _
    · exact induction

/-- The expression matches nothing that SQLite does not match. -/
theorem likeMatches_sqlite {pattern text : List Nat} (found : likeMatches pattern text = true) :
    Sqlite.likeMatches pattern text = true := by
  induction pattern generalizing text with
  | nil => exact found
  | cons literal pattern induction =>
    by_cases percent : literal = 37
    · subst percent
      rw [likeMatches, List.any_eq_true] at found
      rw [Sqlite.likeMatches, List.any_eq_true]
      obtain ⟨rest, member, found⟩ := found
      exact ⟨rest, afterRuns_subset text member, induction found⟩
    cases text with
    | nil => by_cases underscore : literal = 95 <;> simp_all [likeMatches]
    | cons code rest =>
      by_cases underscore : literal = 95
      · subst underscore
        rw [likeMatches, Bool.and_eq_true] at found
        rw [Sqlite.likeMatches]
        exact induction found.2
      · rw [likeMatches, Bool.and_eq_true, decide_eq_true_iff] at found <;> try assumption
        rw [Sqlite.likeMatches, Bool.and_eq_true, decide_eq_true_iff] <;> try assumption
        exact ⟨congrArg asciiUpper found.1, induction found.2⟩

/-- Both have one text for the value and one for the pattern, and the expression
matches or SQLite does not. -/
structure LikeAlike (sqlite : Sqlite) (value pattern : Js.Value) : Prop where
  text : sqlite.textOf value = some value.toText
  patternText : sqlite.textOf pattern = some pattern.toText
  basic : isBasic value.toText = true
  basicPattern : isBasic pattern.toText = true
  either : likeMatches (codePoints pattern.toText) (codePoints value.toText) = true ∨
    Sqlite.likeMatches (codePoints pattern.toText) (codePoints value.toText) = false

theorem LikeAlike.isLike_eq {sqlite : Sqlite}
    (alike : LikeAlike sqlite value pattern) : sqlite.isLike value pattern =
      some (likeMatches (Js.utf16 pattern.toText) (Js.utf16 value.toText)) := by
  have same : likeMatches (codePoints pattern.toText) (codePoints value.toText) =
      Sqlite.likeMatches (codePoints pattern.toText) (codePoints value.toText) := by
    rcases alike.either with found | missed
    · rw [found, likeMatches_sqlite found]
    · rw [missed, Bool.eq_false_iff]
      exact fun found => Bool.false_ne_true (missed.symm.trans (likeMatches_sqlite found))
  rw [utf16_basic alike.basic, utf16_basic alike.basicPattern, same, Sqlite.isLike, alike.text,
    alike.patternText]
  rfl

namespace Sample

def arithmetic : Arithmetic where
  binary
    | .add, .number left, .number right => .number (left.add right)
    | _, _, _ => .null
  minus
    | .number value => .number value.negate
    | _ => .null
  minus_null := rfl
  minus_number _ := rfl

def sqlite : Sqlite where
  toNumeric value := .string value
  castNumber _ := .finite 0
  toText value := value.toText
  resultName _ := ""

def untyped (_ : Option String) (_ : String) : Affinity := .blob

end Sample

/-- The combined row as SQLite has it: an aggregate is read by its key. -/
def Row.groupReading (row : Row) (affinity : Option String → String → Affinity) : RowReading where
  column table column := Sqlite.bound (row.read table column)
  affinity := affinity
  aggregate function argument _ := Sqlite.bound (row.get (aggregateKey function argument))

/-- Literals, columns and aggregates, and numbers with a sign. -/
inductive HavingOperand (row : Row) : Expr → Js.Value → Prop where
  | literal (value : Js.Value) : HavingOperand row (.literal value) value
  | column (table : Option String) (column : String) :
      HavingOperand row (.columnRef table column) (row.read table column)
  | aggregate (function : AggregateFunction) (argument : Expr) (distinct : Bool) :
      HavingOperand row (.aggregate function argument distinct)
        (row.get (aggregateKey function argument))
  | plus : HavingOperand row operand (.number value) →
      HavingOperand row (.unary .plus operand) (.number value)
  | minus : HavingOperand row operand (.number value) →
      HavingOperand row (.unary .minus operand) (.number value.negate)

section

variable {sqlite : Sqlite} {arithmetic : Arithmetic}
  {affinity : Option String → String → Affinity} {row : Row} {value : Js.Value}
  {members : List Js.Value}

theorem HavingOperand.evaluated (operand : HavingOperand row expression value) :
    evaluateExpression row [] expression = some value := by
  induction operand with
  | literal | column | aggregate => rw [evaluateExpression]
  | plus _ induction | minus _ induction =>
    rw [evaluateExpression, induction]
    rfl

theorem HavingOperand.means (operand : HavingOperand row expression value) :
    meaning sqlite arithmetic (row.groupReading affinity) expression = Sqlite.bound value := by
  induction operand with
  | literal | column | aggregate => rw [meaning]; try rfl
  | plus _ induction => rw [meaning, induction]
  | minus _ induction =>
    rw [meaning, induction]
    exact arithmetic.minus_number _

theorem operands_evaluated (operands : List.Forall₂ (HavingOperand row) values members) :
    evaluateExpressions row [] values = some members := by
  induction operands with
  | nil => rfl
  | cons operand _ induction =>
    rw [evaluateExpressions, operand.evaluated, induction]
    rfl

theorem operands_mean (operands : List.Forall₂ (HavingOperand row) values members) :
    meanings sqlite arithmetic (row.groupReading affinity) values = members.map Sqlite.bound := by
  induction operands with
  | nil => rfl
  | cons operand _ induction =>
    rw [meanings, operand.means, induction]
    rfl

end

end LagrangeDb.Query
