import LagrangeDb.Data.Parentheses
import LagrangeDb.Query.Rendering
import LagrangeDb.Query.Shape

namespace LagrangeDb.Query

open Data

/-! The tokens of the rendered text and the grammar SQLite reads them with. -/

/-- One symbol may be an operand's or an operator's: a minus, a star, the AND of
a BETWEEN. The two words of a negated operator are one symbol. -/
inductive Symbol where
  | and
  | or
  | not
  | equals
  | notEquals
  | less
  | lessOrEqual
  | greater
  | greaterOrEqual
  | plus
  | minus
  | star
  | slash
  | percent
  | like (negated : Bool)
  | is (negated : Bool)
  | other (text : String)
deriving DecidableEq

namespace Symbol

def text : Symbol → String
  | and => "AND"
  | or => "OR"
  | not => "NOT"
  | equals => "="
  | notEquals => "<>"
  | less => "<"
  | lessOrEqual => "<="
  | greater => ">"
  | greaterOrEqual => ">="
  | plus => "+"
  | minus => "-"
  | star => "*"
  | slash => "/"
  | percent => "%"
  | like negated => if negated then "NOT LIKE" else "LIKE"
  | is negated => if negated then "IS NOT" else "IS"
  | other value => value

/-- SQLite's levels of binary operators, from OR up. -/
def level : Symbol → Option Nat
  | or => some 1
  | and => some 2
  | equals | notEquals | like _ | is _ => some 4
  | less | lessOrEqual | greater | greaterOrEqual => some 5
  | plus | minus => some 7
  | star | slash | percent => some 8
  | not => none
  | other value =>
    if value = "==" ∨ value = "GLOB" ∨ value = "REGEXP" ∨ value = "MATCH" then some 4
    else if value = "&" ∨ value = "|" ∨ value = "<<" ∨ value = ">>" then some 6
    else if value = "||" ∨ value = "->" ∨ value = "->>" then some 9
    else none

/-- NOT stands between AND and the comparisons, the signs above all. -/
def unaryLevel : Symbol → Option Nat
  | not => some 3
  | plus | minus => some 11
  | other value => if value = "~" then some 11 else none
  | _ => none

end Symbol

/-- A leaf is a literal, a column, a placeholder or a whole subquery. -/
inductive Lexeme where
  | leaf (expression : Expr)
  | symbol (value : Symbol)
  | opening
  | closing
  | comma
  | call (name : String)
  | aggregate (function : AggregateFunction) (distinct : Bool)
  | castOpening
  | castClosing (affinity : String)
  | caseOpening
  | whenWord
  | thenWord
  | elseWord
  | caseClosing
  | inOpening (negated : Bool)
  | between
  | blank
deriving DecidableEq

def Expr.isLeaf : Expr → Bool
  | .literal _ | .columnRef _ _ | .parameter _ => true
  | .subquery query | .existsQuery query => (buildSelectSQL query).isSome
  | _ => false

namespace Lexeme

def text : Lexeme → String
  | leaf expression => ((buildExpressionSQL expression).map Sql.text).getD ""
  | symbol value => value.text
  | opening => "("
  | closing => ")"
  | comma => ","
  | call name => name ++ "("
  | aggregate function distinct => function.name ++ "(" ++ if distinct then "DISTINCT " else ""
  | castOpening => "CAST("
  | castClosing affinity => "AS " ++ affinity ++ ")"
  | caseOpening => "CASE"
  | whenWord => "WHEN"
  | thenWord => "THEN"
  | elseWord => "ELSE"
  | caseClosing => "END"
  | inOpening negated => if negated then "NOT IN (" else "IN ("
  | between => "BETWEEN"
  | blank => " "

def operandRole : Lexeme → OperandRole
  | leaf expression => if expression.isLeaf then .leaf else .absent
  | symbol .star => .leaf
  | symbol value =>
    match value.unaryLevel with
    | some level => .operator level
    | none => .absent
  | opening | call _ | aggregate _ _ | castOpening | caseOpening => .opening
  | _ => .absent

def operatorRole : Lexeme → OperatorRole Lexeme
  | symbol value =>
    match value.level with
    | some level => .binary level
    | none => .absent
  | inOpening _ => .suffix 4
  | between => .ternary 4 3 (symbol .and)
  | _ => .absent

def insideRole : Lexeme → InsideRole
  | comma | whenWord | thenWord | elseWord => .mark
  | closing | castClosing _ | caseClosing => .closing
  | _ => .absent

def spaced : Lexeme → List Lexeme
  | comma => [comma, blank]
  | closing => [closing]
  | other => if other.insideRole = .closing then [blank, other]
      else [blank, other, blank]

end Lexeme

def sqlite : Grammar Lexeme where
  operand := Lexeme.operandRole
  operator := Lexeme.operatorRole
  inside := Lexeme.insideRole
  group := .opening
  ungroup := .closing
  operand_group := rfl
  inside_ungroup := rfl
  inside_operand := by
    intro token present
    cases token with
    | leaf _ | symbol _ => exact absurd rfl present
    | _ => first | rfl | exact absurd rfl present
  inside_operator := by
    intro token present
    cases token with
    | leaf _ | symbol _ => exact absurd rfl present
    | _ => first | rfl | exact absurd rfl present
  opening_operator := by
    intro token role
    cases token with
    | symbol value =>
      exfalso
      unfold Lexeme.operandRole at role
      cases value <;> simp [Symbol.unaryLevel] at role
      split at role <;> cases role
    | _ => first | rfl | cases role
  suffix_operand := by
    intro token level role
    cases token with
    | symbol value =>
      exfalso
      unfold Lexeme.operatorRole at role
      dsimp only at role
      split at role <;> cases role
    | _ => first | rfl | cases role

def BinaryOperator.symbol : BinaryOperator → Symbol
  | .and => .and
  | .or => .or
  | .equals => .equals
  | .notEquals => .notEquals
  | .less => .less
  | .lessOrEqual => .lessOrEqual
  | .greater => .greater
  | .greaterOrEqual => .greaterOrEqual
  | .add => .plus
  | .subtract => .minus
  | .multiply => .star
  | .divide => .slash
  | .modulo => .percent
  | .other value => .other value

def UnaryOperator.symbol : UnaryOperator → Symbol
  | .not => .not
  | .plus => .plus
  | .minus => .minus
  | .other value => .other value

def argumentMark : Bool → Option Lexeme
  | true => none
  | false => some .comma

mutual
def print : Expr → Option (Reading Lexeme)
  | .star => some (.leaf (.symbol .star))
  | .literal value => some (.leaf (.leaf (.literal value)))
  | .columnRef table column => some (.leaf (.leaf (.columnRef table column)))
  | .parameter index => some (.leaf (.leaf (.parameter index)))
  | .subquery query =>
    if (buildSelectSQL query).isSome then some (.leaf (.leaf (.subquery query)))
    else none
  | .existsQuery query =>
    if (buildSelectSQL query).isSome then some (.leaf (.leaf (.existsQuery query)))
    else none
  | .binary operator left right => do
    return .group (.binary (← print left) (.symbol operator.symbol)
      (← print right))
  | .nullTest operand negated => do
    return .group (.binary (← print operand) (.symbol (.is negated))
      (.leaf (.leaf (.literal .null))))
  | .unary operator operand => do
    return .unary (.symbol operator.symbol) (← print operand)
  | .aggregate function argument distinct => do
    return .bracket (.aggregate function distinct)
      (.part none (← print argument) (.done .closing))
  | .inList expression values negated => do
    return .suffix (← print expression) (.inOpening negated)
      (← printArguments true values)
  | .inSubquery _ _ _ => none
  | .between expression low high => do
    return .ternary (← print expression) .between (← print low)
      (.symbol .and) (← print high)
  | .like expression pattern negated => do
    return .binary (← print expression) (.symbol (.like negated))
      (← print pattern)
  | .cast expression affinity => do
    return .bracket .castOpening
      (.part none (← print expression) (.done (.castClosing affinity)))
  | .case operand conditions elseExpr => do
    let otherwise ← printClause (some .elseWord) elseExpr (.done .caseClosing)
    let branches ← printBranches conditions otherwise
    return .bracket .caseOpening (← printClause none operand branches)
  | .functionCall name args => do
    return .bracket (.call name) (← printArguments true args)
  | .list _ => none

def printArguments (first : Bool) : List Expr → Option (Reading Lexeme)
  | [] => some (.done .closing)
  | expression :: rest => do
    return .part (argumentMark first) (← print expression)
      (← printArguments false rest)

def printClause (mark : Option Lexeme) : Option Expr → Reading Lexeme → Option (Reading Lexeme)
  | none, inside => some inside
  | some expression, inside => do
    return .part mark (← print expression) inside

def printBranches : List Branch → Reading Lexeme → Option (Reading Lexeme)
  | [], inside => some inside
  | ⟨condition, result⟩ :: rest, inside => do
    return .part (some .whenWord) (← print condition)
      (.part (some .thenWord) (← print result) (← printBranches rest inside))
end

def blankAfter : Lexeme → Reading Lexeme → List Lexeme
  | .caseOpening, .part none _ _ => [.blank]
  | _, _ => []

def withBlanks : Reading Lexeme → List Lexeme
  | .leaf token => [token]
  | .unary operator operand => operator :: .blank :: withBlanks operand
  | .binary left operator right =>
    withBlanks left ++ .blank :: operator :: .blank :: withBlanks right
  | .ternary left operator middle last right =>
    withBlanks left ++ .blank :: operator :: .blank :: (withBlanks middle ++
      .blank :: last :: .blank :: withBlanks right)
  | .group content => .opening :: (withBlanks content ++ [.closing])
  | .bracket token inside => token :: (blankAfter token inside ++ withBlanks inside)
  | .suffix left token inside => withBlanks left ++ .blank :: token ::
      withBlanks inside
  | .done token => token.spaced
  | .part mark content inside =>
    (mark.map Lexeme.spaced).getD [] ++ (withBlanks content ++ withBlanks inside)

def spell (tokens : List Lexeme) : String := tokens.foldr (fun token rest => token.text ++ rest) ""

def Symbol.binaryOperator : Symbol → Option BinaryOperator
  | .and => some .and
  | .or => some .or
  | .equals => some .equals
  | .notEquals => some .notEquals
  | .less => some .less
  | .lessOrEqual => some .lessOrEqual
  | .greater => some .greater
  | .greaterOrEqual => some .greaterOrEqual
  | .plus => some .add
  | .minus => some .subtract
  | .star => some .multiply
  | .slash => some .divide
  | .percent => some .modulo
  | .other value => some (.other value)
  | .not | .like _ | .is _ => none

def Symbol.unaryOperator : Symbol → Option UnaryOperator
  | .not => some .not
  | .plus => some .plus
  | .minus => some .minus
  | .other value => some (.other value)
  | _ => none

/-- The source's parser takes IS with the null literal only. -/
def readBinary (left : Expr) (operator : Symbol) (right : Expr) : Option Expr :=
  match operator with
  | .like negated => some (.like left right negated)
  | .is negated => if right = .literal .null then some (.nullTest left negated) else none
  | operator => operator.binaryOperator.map fun operator => .binary operator left right

mutual
def interpret : Reading Lexeme → Option Expr
  | .leaf (.leaf expression) => if expression.isLeaf then some expression else none
  | .leaf (.symbol .star) => some .star
  | .unary (.symbol operator) operand => do
    return .unary (← operator.unaryOperator) (← interpret operand)
  | .binary left (.symbol operator) right => do
    readBinary (← interpret left) operator (← interpret right)
  | .ternary left .between middle (.symbol .and) right => do
    return .between (← interpret left) (← interpret middle)
      (← interpret right)
  | .group content => interpret content
  | .bracket (.call name) inside => do
    return .functionCall name (← interpretArguments true inside)
  | .bracket (.aggregate function distinct)
      (.part none argument (.done .closing)) => do
      return .aggregate function (← interpret argument) distinct
  | .bracket .castOpening (.part none content (.done (.castClosing affinity))) =>
    do return .cast (← interpret content) affinity
  | .bracket .caseOpening (.part none operand inside) => do
    let operand ← interpret operand
    let (conditions, elseExpr) ← interpretBranches inside
    return .case (some operand) conditions elseExpr
  | .bracket .caseOpening inside => do
    let (conditions, elseExpr) ← interpretBranches inside
    return .case none conditions elseExpr
  | .suffix left (.inOpening negated) inside => do
    return .inList (← interpret left) (← interpretArguments true inside)
      negated
  | _ => none
  termination_by structural tree => tree

def interpretArguments (first : Bool) : Reading Lexeme → Option (List Expr)
  | .done .closing => some []
  | .part mark content inside => do
    if mark = argumentMark first then
      return (← interpret content) :: (← interpretArguments false inside)
    else none
  | _ => none
  termination_by structural tree => tree

def interpretBranches : Reading Lexeme → Option (List Branch × Option Expr)
  | .done .caseClosing => some ([], none)
  | .part (some .elseWord) content (.done .caseClosing) => do
    return ([], some (← interpret content))
  | .part (some .whenWord) condition (.part (some .thenWord) result inside) => do
    let condition ← interpret condition
    let result ← interpret result
    let (conditions, elseExpr) ← interpretBranches inside
    return (⟨condition, result⟩ :: conditions, elseExpr)
  | _ => none
  termination_by structural tree => tree
end

end LagrangeDb.Query
