import LagrangeDb.Query.Numbering

namespace LagrangeDb.Query

namespace Sql

@[simp] theorem placeholders_append (first second : Sql) : placeholders (first ++ second) =
      placeholders first ++ placeholders second := by
  induction first with
  | nil => rfl
  | cons piece rest induction => cases piece <;> simp [placeholders, induction]

@[simp] theorem placeholders_text (value : String) (rest : Sql) :
    placeholders (.text value :: rest) = placeholders rest := rfl

@[simp] theorem placeholders_nil : placeholders [] = [] := rfl

@[simp] theorem placeholders_join (separator : String) (parts : List Sql) :
    placeholders (join separator parts) = parts.flatMap placeholders := by
  induction parts with
  | nil => rfl
  | cons first rest induction =>
    cases rest with
    | nil => simp [join]
    | cons second rest => simp [join, induction]

end Sql

@[simp] theorem placeholders_asClause (asName : Option String) :
    (asClause asName).placeholders = [] := by
  cases asName <;> rfl

@[simp] theorem placeholders_limitClause (limit : Option Limit) :
    (limitClause limit).placeholders = [] := by
  unfold limitClause
  split
  · rfl
  · split <;> rfl

theorem placeholders_listClause (word : String) (elements : List Sql) :
    (if elements.isEmpty = true then []
      else Piece.text word :: Sql.join ", " elements : Sql).placeholders =
      elements.flatMap Sql.placeholders := by
  cases elements with
  | nil => rfl
  | cons first rest => simp

mutual
theorem buildExpressionSQL_placeholders : (expression : Expr) →
    Yields (buildExpressionSQL expression) (·.placeholders = textParameters expression)
  | .star | .literal _ | .parameter _ | .columnRef none _
  | .columnRef (some _) _ => .some rfl
  | .list _ | .inSubquery _ _ _ => .none
  | .binary _ left right =>
    (buildExpressionSQL_placeholders left).bind fun _ ofLeft =>
    (buildExpressionSQL_placeholders right).bind fun _ ofRight =>
    .some (by simp [ofLeft, ofRight, walk, visitParameter])
  | .nullTest operand _ | .unary _ operand | .aggregate _ operand _
  | .cast operand _ =>
    (buildExpressionSQL_placeholders operand).bind fun _ ofOperand =>
    .some (by simp [ofOperand, walk, visitParameter])
  | .inList expression values _ =>
    (buildExpressionsSQL_placeholders values).bind fun _ ofValues =>
    (buildExpressionSQL_placeholders expression).bind fun _ ofLeft =>
    .some (by simp [ofLeft, ofValues, walk, visitParameter])
  | .between expression low high =>
    (buildExpressionSQL_placeholders expression).bind fun _ ofLeft =>
    (buildExpressionSQL_placeholders low).bind fun _ ofLow =>
    (buildExpressionSQL_placeholders high).bind fun _ ofHigh =>
    .some (by simp [ofLeft, ofLow, ofHigh, walk, visitParameter])
  | .like expression pattern _ =>
    (buildExpressionSQL_placeholders expression).bind fun _ ofLeft =>
    (buildExpressionSQL_placeholders pattern).bind fun _ ofPattern =>
    .some (by simp [ofLeft, ofPattern, walk, visitParameter])
  | .case operand conditions elseExpr =>
    (buildClauseSQL_placeholders operand).bind fun _ ofOperand =>
    (buildBranchesSQL_placeholders conditions).bind fun _ ofBranches =>
    (buildClauseSQL_placeholders elseExpr).bind fun _ ofElse =>
    .some (by simp [ofOperand, ofBranches, ofElse, walk, visitParameter])
  | .subquery query | .existsQuery query =>
    (buildSelectSQL_placeholders query).bind fun _ ofQuery =>
    .some (by simp [ofQuery, walk, visitParameter])
  | .functionCall _ args =>
    (buildExpressionsSQL_placeholders args).bind fun _ ofArgs =>
    .some (by simp [ofArgs, walk, visitParameter])

theorem buildExpressionsSQL_placeholders : (expressions : List Expr) →
    Yields (buildExpressionsSQL expressions)
      (·.flatMap Sql.placeholders = walkAll .text visitParameter expressions)
  | [] => .some rfl
  | expression :: rest =>
    (buildExpressionSQL_placeholders expression).bind fun _ ofFirst =>
    (buildExpressionsSQL_placeholders rest).bind fun _ ofRest =>
    .some (by simp [ofFirst, ofRest, walkAll])

theorem buildClauseSQL_placeholders :
    (expression : Option Expr) → Yields (buildClauseSQL word expression)
      (·.placeholders = walkOption .text visitParameter expression)
  | none => .some rfl
  | some expression =>
    (buildExpressionSQL_placeholders expression).bind fun _ ofExpression =>
    .some (by simp [ofExpression, walkOption])

theorem buildBranchesSQL_placeholders : (branches : List Branch) →
    Yields (buildBranchesSQL branches) (·.placeholders = walkBranches .text visitParameter branches)
  | [] => .some rfl
  | ⟨condition, result⟩ :: rest =>
    (buildExpressionSQL_placeholders condition).bind fun _ ofCondition =>
    (buildExpressionSQL_placeholders result).bind fun _ ofResult =>
    (buildBranchesSQL_placeholders rest).bind fun _ ofRest =>
    .some (by simp [ofCondition, ofResult, ofRest, walkBranches])

theorem buildColumnsSQL_placeholders : (columns : List Column) → Yields (buildColumnsSQL columns)
      (·.flatMap Sql.placeholders = walkColumns .text visitParameter columns)
  | [] => .some rfl
  | ⟨expression, _⟩ :: rest =>
    (buildExpressionSQL_placeholders expression).bind fun _ ofFirst =>
    (buildColumnsSQL_placeholders rest).bind fun _ ofRest =>
    .some (by simp [ofFirst, ofRest, walkColumns])

theorem buildSourceSQL_placeholders : (source : Source) → Yields (buildSourceSQL source)
      (·.placeholders = walkSource .text visitParameter source)
  | .table _ _ => .some (by simp [walkSource])
  | .subquery query _ =>
    (buildSelectSQL_placeholders query).bind fun _ ofQuery =>
    .some (by simp [ofQuery, walkSource])

theorem buildFromSQL_placeholders : (source : Option Source) → Yields (buildFromSQL source)
      (·.placeholders = walkFrom .text visitParameter source)
  | none => .none
  | some source =>
    (buildSourceSQL_placeholders source).bind fun _ ofSource =>
    .some (by simp [ofSource, walkFrom])

theorem buildJoinsSQL_placeholders : (joins : List Join) → Yields (buildJoinsSQL joins)
      (·.placeholders = walkJoins .text visitParameter joins)
  | [] => .some rfl
  | ⟨_, table, condition⟩ :: rest =>
    (buildSourceSQL_placeholders table).bind fun _ ofTable =>
    (buildClauseSQL_placeholders condition).bind fun _ ofCondition =>
    (buildJoinsSQL_placeholders rest).bind fun _ ofRest =>
    .some (by simp [ofTable, ofCondition, ofRest, walkJoins])

theorem buildOrdersSQL_placeholders : (orders : List OrderItem) → Yields (buildOrdersSQL orders)
      (·.flatMap Sql.placeholders = walkOrders .text visitParameter orders)
  | [] => .some rfl
  | ⟨expression, _⟩ :: rest =>
    (buildExpressionSQL_placeholders expression).bind fun _ ofFirst =>
    (buildOrdersSQL_placeholders rest).bind fun _ ofRest =>
    .some (by simp [ofFirst, ofRest, walkOrders])

theorem buildCtesSQL_placeholders : (ctes : List Cte) → Yields (buildCtesSQL ctes)
      (·.flatMap Sql.placeholders = walkCtes .text visitParameter ctes)
  | [] => .some rfl
  | ⟨_, query⟩ :: rest =>
    (buildSelectSQL_placeholders query).bind fun _ ofFirst =>
    (buildCtesSQL_placeholders rest).bind fun _ ofRest =>
    .some (by simp [ofFirst, ofRest, walkCtes])

theorem buildSetOperationSQL_placeholders : (operation : Option SetOperation) →
    Yields (buildSetOperationSQL operation)
      (·.placeholders = walkSetOperation .text visitParameter operation)
  | none => .some rfl
  | some ⟨_, right⟩ =>
    (buildSelectSQL_placeholders right).bind fun _ ofRight =>
    .some (by simp [ofRight, walkSetOperation])

theorem buildSelectSQL_placeholders : (select : Select) → Yields (buildSelectSQL select)
      (·.placeholders = walkSelect .text visitParameter select)
  | ⟨distinct, columns, source, joins, condition, groupBy, having, orderBy,
      limit, ctes, recursive, setOperation⟩ => by
      constructor
      intro _ rendered
      simp only [buildSelectSQL, rendered_some_iff, Option.pure_def] at rendered
      obtain ⟨columnParts, atColumns, _, atFrom, _, atJoins, _, atWhere, groups,
        atGroups, _, atHaving, orders, atOrders, _, atSet, definitions, atCtes,
        assembled⟩ := rendered
      simp only [walkSelect, visitParameter, Option.getD_none,
        ← (buildColumnsSQL_placeholders columns).of_some atColumns,
        ← (buildFromSQL_placeholders source).of_some atFrom,
        ← (buildJoinsSQL_placeholders joins).of_some atJoins,
        ← (buildClauseSQL_placeholders condition).of_some atWhere,
        ← (buildExpressionsSQL_placeholders groupBy).of_some atGroups,
        ← (buildClauseSQL_placeholders having).of_some atHaving,
        ← (buildOrdersSQL_placeholders orderBy).of_some atOrders,
        ← (buildCtesSQL_placeholders ctes).of_some atCtes,
        ← (buildSetOperationSQL_placeholders setOperation).of_some atSet]
      split at assembled
      next none =>
        obtain rfl := Option.some.inj assembled
        rw [List.isEmpty_iff.mp none]
        simp only [Sql.placeholders_append, placeholders_listClause]
        simp
      · obtain rfl := Option.some.inj assembled
        simp only [Sql.placeholders_append, Sql.placeholders_text, placeholders_listClause]
        simp
end

end LagrangeDb.Query
