import LagrangeDb.Query.Ast

namespace LagrangeDb.Query

/-! The fan-out plan tells expressions apart by the JSON text of their tree.
Two trees have one text exactly when they are the same tree. -/

mutual
def Expr.same : Expr → Expr → Bool
  | .literal left, .literal right => left = right
  | .columnRef table column, .columnRef table' column' => table = table' && column = column'
  | .parameter index, .parameter index' => index = index'
  | .star, .star => true
  | .binary operator left right, .binary operator' left' right' =>
    operator = operator' && left.same left' && right.same right'
  | .nullTest operand negated, .nullTest operand' negated' =>
    operand.same operand' && negated = negated'
  | .unary operator operand, .unary operator' operand' =>
    operator = operator' && operand.same operand'
  | .inList expression values negated, .inList expression' values' negated' =>
    expression.same expression' && sameAll values values' && negated = negated'
  | .inSubquery expression query negated,
      .inSubquery expression' query' negated' =>
      expression.same expression' && query.same query' && negated = negated'
  | .between expression low high, .between expression' low' high' =>
    expression.same expression' && low.same low' && high.same high'
  | .like expression pattern negated, .like expression' pattern' negated' =>
    expression.same expression' && pattern.same pattern' && negated = negated'
  | .aggregate function argument distinct,
      .aggregate function' argument' distinct' =>
      function = function' && argument.same argument' && distinct = distinct'
  | .cast expression affinity, .cast expression' affinity' =>
    expression.same expression' && affinity = affinity'
  | .case operand conditions elseExpr, .case operand' conditions' elseExpr' =>
    sameOption operand operand' && sameBranches conditions conditions' &&
      sameOption elseExpr elseExpr'
  | .functionCall name args, .functionCall name' args' => name = name' && sameAll args args'
  | .subquery query, .subquery query' => query.same query'
  | .existsQuery query, .existsQuery query' => query.same query'
  | .list elements, .list elements' => sameAll elements elements'
  | _, _ => false
  termination_by structural x => x

def sameAll : List Expr → List Expr → Bool
  | [], [] => true
  | left :: lefts, right :: rights => left.same right && sameAll lefts rights
  | _, _ => false
  termination_by structural x => x

def sameOption : Option Expr → Option Expr → Bool
  | none, none => true
  | some left, some right => left.same right
  | _, _ => false
  termination_by structural x => x

def sameBranches : List Branch → List Branch → Bool
  | [], [] => true
  | ⟨condition, result⟩ :: rest, ⟨condition', result'⟩ :: rest' =>
    condition.same condition' && result.same result' && sameBranches rest rest'
  | _, _ => false
  termination_by structural x => x

def sameColumns : List Column → List Column → Bool
  | [], [] => true
  | ⟨expression, asName⟩ :: rest, ⟨expression', asName'⟩ :: rest' =>
    expression.same expression' && asName = asName' && sameColumns rest rest'
  | _, _ => false
  termination_by structural x => x

def Source.same : Source → Source → Bool
  | .table name asName, .table name' asName' => name = name' && asName = asName'
  | .subquery query asName, .subquery query' asName' => query.same query' && asName = asName'
  | _, _ => false
  termination_by structural x => x

def sameSource : Option Source → Option Source → Bool
  | none, none => true
  | some source, some source' => source.same source'
  | _, _ => false
  termination_by structural x => x

def sameJoins : List Join → List Join → Bool
  | [], [] => true
  | ⟨joinType, table, condition⟩ :: rest,
      ⟨joinType', table', condition'⟩ :: rest' =>
      joinType = joinType' && table.same table' &&
        sameOption condition condition' && sameJoins rest rest'
  | _, _ => false
  termination_by structural x => x

def sameOrders : List OrderItem → List OrderItem → Bool
  | [], [] => true
  | ⟨expression, direction⟩ :: rest, ⟨expression', direction'⟩ :: rest' =>
    expression.same expression' && direction = direction' && sameOrders rest rest'
  | _, _ => false
  termination_by structural x => x

def sameCtes : List Cte → List Cte → Bool
  | [], [] => true
  | ⟨name, query⟩ :: rest, ⟨name', query'⟩ :: rest' =>
    name = name' && query.same query' && sameCtes rest rest'
  | _, _ => false
  termination_by structural x => x

def sameSetOperation : Option SetOperation → Option SetOperation → Bool
  | none, none => true
  | some ⟨type, right⟩, some ⟨type', right'⟩ => type = type' && right.same right'
  | _, _ => false
  termination_by structural x => x

def Select.same : Select → Select → Bool
  | ⟨distinct, columns, source, joins, condition, groupBy, having, orderBy,
      limit, ctes, recursive, setOperation⟩,
    ⟨distinct', columns', source', joins', condition', groupBy', having',
      orderBy', limit', ctes', recursive', setOperation'⟩ =>
      distinct = distinct' && sameColumns columns columns' &&
        sameSource source source' && sameJoins joins joins' &&
        sameOption condition condition' && sameAll groupBy groupBy' &&
        sameOption having having' && sameOrders orderBy orderBy' &&
        limit = limit' && sameCtes ctes ctes' && recursive = recursive' &&
        sameSetOperation setOperation setOperation'
  termination_by structural x => x
end

mutual
theorem Expr.same_iff : (left right : Expr) → (left.same right = true ↔ left = right)
  | .literal _, right | .columnRef _ _, right | .parameter _, right
  | .star, right => by cases right <;> simp [Expr.same]
  | .binary _ first second, right => by
    cases right <;> simp [Expr.same, Expr.same_iff first, Expr.same_iff second, and_assoc]
  | .nullTest operand _, right | .unary _ operand, right
  | .cast operand _, right => by cases right <;> simp [Expr.same, Expr.same_iff operand]
  | .inList expression values _, right => by
    cases right <;> simp [Expr.same, Expr.same_iff expression, sameAll_iff values, and_assoc]
  | .inSubquery expression query _, right => by
    cases right <;> simp [Expr.same, Expr.same_iff expression, Select.same_iff query, and_assoc]
  | .between expression low high, right => by
    cases right <;> simp [Expr.same, Expr.same_iff expression,
      Expr.same_iff low, Expr.same_iff high, and_assoc]
  | .like expression pattern _, right => by
    cases right <;> simp [Expr.same, Expr.same_iff expression, Expr.same_iff pattern, and_assoc]
  | .aggregate _ argument _, right => by
    cases right <;> simp [Expr.same, Expr.same_iff argument, and_assoc]
  | .case operand conditions elseExpr, right => by
    cases right <;> simp [Expr.same, sameOption_iff operand,
      sameBranches_iff conditions, sameOption_iff elseExpr, and_assoc]
  | .functionCall _ args, right => by cases right <;> simp [Expr.same, sameAll_iff args]
  | .subquery query, right => by cases right <;> simp [Expr.same, Select.same_iff query]
  | .existsQuery query, right => by cases right <;> simp [Expr.same, Select.same_iff query]
  | .list elements, right => by cases right <;> simp [Expr.same, sameAll_iff elements]

theorem sameAll_iff : (left right : List Expr) → (sameAll left right = true ↔ left = right)
  | [], right => by cases right <;> simp [sameAll]
  | head :: tail, right => by cases right <;> simp [sameAll, Expr.same_iff head, sameAll_iff tail]

theorem sameOption_iff : (left right : Option Expr) → (sameOption left right = true ↔ left = right)
  | none, right => by cases right <;> simp [sameOption]
  | some left, right => by cases right <;> simp [sameOption, Expr.same_iff left]

theorem sameBranches_iff : (left right : List Branch) →
    (sameBranches left right = true ↔ left = right)
  | [], right => by cases right <;> simp [sameBranches]
  | ⟨condition, result⟩ :: rest, right => by
    rcases right with _ | ⟨⟨_, _⟩, _⟩ <;>
      simp [sameBranches, Expr.same_iff condition, Expr.same_iff result, sameBranches_iff rest]

theorem sameColumns_iff : (left right : List Column) →
    (sameColumns left right = true ↔ left = right)
  | [], right => by cases right <;> simp [sameColumns]
  | ⟨expression, _⟩ :: rest, right => by
    rcases right with _ | ⟨⟨_, _⟩, _⟩ <;>
      simp [sameColumns, Expr.same_iff expression, sameColumns_iff rest]

theorem Source.same_iff : (left right : Source) → (left.same right = true ↔ left = right)
  | .table _ _, right => by cases right <;> simp [Source.same]
  | .subquery query _, right => by cases right <;> simp [Source.same, Select.same_iff query]

theorem sameSource_iff : (left right : Option Source) →
    (sameSource left right = true ↔ left = right)
  | none, right => by cases right <;> simp [sameSource]
  | some source, right => by cases right <;> simp [sameSource, Source.same_iff source]

theorem sameJoins_iff : (left right : List Join) → (sameJoins left right = true ↔ left = right)
  | [], right => by cases right <;> simp [sameJoins]
  | ⟨_, table, condition⟩ :: rest, right => by
    rcases right with _ | ⟨⟨_, _, _⟩, _⟩ <;>
      simp [sameJoins, Source.same_iff table, sameOption_iff condition,
        sameJoins_iff rest, and_assoc]

theorem sameOrders_iff : (left right : List OrderItem) →
    (sameOrders left right = true ↔ left = right)
  | [], right => by cases right <;> simp [sameOrders]
  | ⟨expression, _⟩ :: rest, right => by
    rcases right with _ | ⟨⟨_, _⟩, _⟩ <;>
      simp [sameOrders, Expr.same_iff expression, sameOrders_iff rest]

theorem sameCtes_iff : (left right : List Cte) → (sameCtes left right = true ↔ left = right)
  | [], right => by cases right <;> simp [sameCtes]
  | ⟨_, query⟩ :: rest, right => by
    rcases right with _ | ⟨⟨_, _⟩, _⟩ <;>
      simp [sameCtes, Select.same_iff query, sameCtes_iff rest]

theorem sameSetOperation_iff : (left right : Option SetOperation) →
    (sameSetOperation left right = true ↔ left = right)
  | none, right => by cases right <;> simp [sameSetOperation]
  | some ⟨_, query⟩, right => by
    rcases right with _ | ⟨_, _⟩ <;>
      simp [sameSetOperation, Select.same_iff query]

theorem Select.same_iff : (left right : Select) → (left.same right = true ↔ left = right)
  | ⟨distinct, columns, source, joins, condition, groupBy, having, orderBy,
      limit, ctes, recursive, setOperation⟩, right => by
      cases right
      simp [Select.same, sameColumns_iff columns, sameSource_iff source,
        sameJoins_iff joins, sameOption_iff condition, sameAll_iff groupBy,
        sameOption_iff having, sameOrders_iff orderBy, sameCtes_iff ctes,
        sameSetOperation_iff setOperation, and_assoc]
end

instance : DecidableEq Expr := fun left right => decidable_of_iff _ (Expr.same_iff left right)

end LagrangeDb.Query
