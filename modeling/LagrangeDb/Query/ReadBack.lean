import LagrangeDb.Query.Lexemes
import LagrangeDb.Query.Parser

namespace LagrangeDb.Query

open Data

@[simp] theorem spell_nil : spell [] = "" := rfl

@[simp] theorem spell_cons (token : Lexeme) (rest : List Lexeme) :
    spell (token :: rest) = token.text ++ spell rest := rfl

@[simp] theorem spell_append (first second : List Lexeme) :
    spell (first ++ second) = spell first ++ spell second := by
  induction first with
  | nil => simp
  | cons token rest induction => simp [induction, String.append_assoc]

@[simp] theorem Sql.text_nil : Sql.text [] = "" := rfl

@[simp] theorem Sql.text_cons (value : String) (rest : Sql) :
    Sql.text (.text value :: rest) = value ++ Sql.text rest := rfl

@[simp] theorem Sql.text_append (first second : Sql) :
    Sql.text (first ++ second) = Sql.text first ++ Sql.text second := by
  induction first with
  | nil => simp
  | cons piece rest induction => cases piece <;> simp [Sql.text, induction, String.append_assoc]

theorem BinaryOperator.text_symbol (operator : BinaryOperator) :
    operator.symbol.text = operator.text := by
  cases operator <;> rfl

theorem UnaryOperator.text_symbol (operator : UnaryOperator) :
    operator.symbol.text = operator.text := by
  cases operator <;> rfl

theorem text_leaf (rendered : buildExpressionSQL expression = some sql) :
    spell (withBlanks (.leaf (.leaf expression))) = sql.text := by
  simp [withBlanks, Lexeme.text, rendered]

def argumentsText (first : Bool) : List Sql → String
  | [] => ""
  | sql :: rest => (if first then "" else ", ") ++ sql.text ++
      argumentsText false rest

theorem text_join (parts : List Sql) : (Sql.join ", " parts).text = argumentsText true parts := by
  have later : ∀ parts : List Sql, parts ≠ [] →
      argumentsText false parts = ", " ++ (Sql.join ", " parts).text := by
    intro parts
    induction parts with
    | nil => exact fun absent => absurd rfl absent
    | cons first rest induction =>
      intro _
      cases rest with
      | nil => simp [argumentsText, Sql.join]
      | cons second rest =>
        simp [argumentsText, Sql.join, String.append_assoc] at induction ⊢
        simpa using induction
  cases parts with
  | nil => rfl
  | cons first rest =>
    cases rest with
    | nil => simp [argumentsText, Sql.join]
    | cons second rest =>
      have more := later (second :: rest) nofun
      simp only [argumentsText, Sql.join, Sql.text_append, Sql.text_cons] at more ⊢
      simpa [String.append_assoc] using more.symm

theorem blankAfter_else
    (printed : printClause (some .elseWord) elseExpr (.done .caseClosing) = some inside) :
    blankAfter .caseOpening inside = [] := by
  cases elseExpr with
  | none =>
    obtain rfl := Option.some.inj printed
    rfl
  | some expression =>
    simp only [printClause, rendered_some_iff, returned_some_iff] at printed
    obtain ⟨_, -, rfl⟩ := printed
    rfl

theorem blankAfter_branches (printed : printBranches branches inside = some tree)
    (plain : blankAfter .caseOpening inside = []) : blankAfter .caseOpening tree = [] := by
  cases branches with
  | nil =>
    obtain rfl := Option.some.inj printed
    exact plain
  | cons branch rest =>
    cases branch
    simp only [printBranches, rendered_some_iff, returned_some_iff] at printed
    obtain ⟨_, -, _, -, _, -, rfl⟩ := printed
    rfl

mutual
theorem print_text : (expression : Expr) →
    Carries (buildExpressionSQL expression) (print expression)
      fun sql tree => spell (withBlanks tree) = sql.text
  | .star => .some rfl
  | .literal _ | .parameter _ | .columnRef _ _ => ⟨fun rendered => ⟨_, rfl, text_leaf rendered⟩⟩
  | .subquery query | .existsQuery query => by
    constructor
    intro _ rendered
    have atQuery := rendered
    simp only [buildExpressionSQL, rendered_some_iff] at atQuery
    obtain ⟨_, atQuery, -⟩ := atQuery
    exact ⟨_, by rw [print, atQuery]; rfl, text_leaf rendered⟩
  | .list _ | .inSubquery _ _ _ => .none
  | .binary operator left right =>
    (print_text left).bind fun _ _ ofLeft =>
    (print_text right).bind fun _ _ ofRight => .some (by
      apply String.toList_injective
      simp [withBlanks, ofLeft, ofRight, Lexeme.text, BinaryOperator.text_symbol])
  | .nullTest operand negated =>
    (print_text operand).bind fun _ _ ofOperand => .some (by
      apply String.toList_injective
      cases negated <;>
        simp [withBlanks, ofOperand, Lexeme.text, Symbol.text,
          buildExpressionSQL, buildLiteralExpressionSQL])
  | .unary operator operand =>
    (print_text operand).bind fun _ _ ofOperand => .some (by
      apply String.toList_injective
      simp [withBlanks, ofOperand, Lexeme.text, UnaryOperator.text_symbol])
  | .aggregate function argument distinct =>
    (print_text argument).bind fun _ _ ofArgument => .some (by
      apply String.toList_injective
      simp [withBlanks, blankAfter, Lexeme.spaced, ofArgument, Lexeme.text])
  | .inList expression values negated => by
    constructor
    intro _ rendered
    simp only [buildExpressionSQL, rendered_some_iff, returned_some_iff] at rendered
    obtain ⟨_, atValues, _, atLeft, rfl⟩ := rendered
    obtain ⟨tree, printed, text⟩ := (print_text expression).of_some atLeft
    obtain ⟨treeValues, printedValues, textValues⟩ :=
      (printArguments_text values true).of_some atValues
    refine ⟨_, by rw [print, printed, printedValues]; rfl, ?_⟩
    apply String.toList_injective
    cases negated <;>
      simp [withBlanks, text, textValues, Lexeme.text, text_join]
  | .between expression low high =>
    (print_text expression).bind fun _ _ ofLeft =>
    (print_text low).bind fun _ _ ofLow =>
    (print_text high).bind fun _ _ ofHigh => .some (by
      apply String.toList_injective
      simp [withBlanks, ofLeft, ofLow, ofHigh, Lexeme.text, Symbol.text])
  | .like expression pattern negated =>
    (print_text expression).bind fun _ _ ofLeft =>
    (print_text pattern).bind fun _ _ ofPattern => .some (by
      apply String.toList_injective
      cases negated <;>
        simp [withBlanks, ofLeft, ofPattern, Lexeme.text, Symbol.text])
  | .cast expression affinity =>
    (print_text expression).bind fun _ _ ofExpression => .some (by
      apply String.toList_injective
      simp [withBlanks, blankAfter, Lexeme.spaced, Lexeme.insideRole, ofExpression, Lexeme.text])
  | .case operand conditions elseExpr => by
    constructor
    intro _ rendered
    simp only [buildExpressionSQL, rendered_some_iff, returned_some_iff] at rendered
    obtain ⟨_, atOperand, _, atBranches, _, atElse, rfl⟩ := rendered
    obtain ⟨treeElse, printedElse, textElse⟩ := (printClause_text elseExpr).of_some atElse
    obtain ⟨treeBranches, printedBranches, textBranches⟩ :=
      (printBranches_text conditions treeElse).of_some atBranches
    cases operand with
    | none =>
      obtain rfl := Option.some.inj atOperand
      refine ⟨.bracket .caseOpening treeBranches, ?_, ?_⟩
      · rw [print, printedElse, Option.bind_eq_bind, Option.bind_some, printedBranches]
        rfl
      have plain : blankAfter .caseOpening treeBranches = [] :=
        blankAfter_branches printedBranches (blankAfter_else printedElse)
      apply String.toList_injective
      simp [withBlanks, plain, textBranches, textElse, Lexeme.text]
    | some operand =>
      simp only [buildClauseSQL, rendered_some_iff, returned_some_iff] at atOperand
      obtain ⟨_, atOperand, rfl⟩ := atOperand
      obtain ⟨tree, printed, text⟩ := (print_text operand).of_some atOperand
      refine ⟨.bracket .caseOpening (.part none tree treeBranches), ?_, ?_⟩
      · rw [print, printedElse, Option.bind_eq_bind, Option.bind_some,
          printedBranches, Option.bind_some, printClause, printed]
        rfl
      · apply String.toList_injective
        simp [withBlanks, blankAfter, text, textBranches, textElse, Lexeme.text]
  | .functionCall name args =>
    (printArguments_text args true).bind fun _ _ ofArgs => .some (by
      apply String.toList_injective
      simp [withBlanks, blankAfter, ofArgs, Lexeme.text, text_join])

theorem printArguments_text : (expressions : List Expr) → (first : Bool) →
    Carries (buildExpressionsSQL expressions) (printArguments first expressions) fun parts tree =>
        spell (withBlanks tree) = argumentsText first parts ++ ")"
  | [], _ => .some rfl
  | expression :: rest, first =>
    (print_text expression).bind fun _ _ ofFirst =>
    (printArguments_text rest false).bind fun _ _ ofRest => .some (by
      apply String.toList_injective
      cases first <;>
        simp [withBlanks, ofFirst, ofRest, argumentsText, argumentMark, Lexeme.spaced, Lexeme.text])

theorem printClause_text : (elseExpr : Option Expr) → Carries (buildClauseSQL " ELSE " elseExpr)
      (printClause (some .elseWord) elseExpr (.done .caseClosing))
      fun sql tree => spell (withBlanks tree) = sql.text ++ " END"
  | none => .some rfl
  | some expression =>
    (print_text expression).bind fun _ _ ofExpression => .some (by
      apply String.toList_injective
      simp [withBlanks, ofExpression, Lexeme.spaced, Lexeme.insideRole, Lexeme.text])

theorem printBranches_text : (branches : List Branch) → (inside : Reading Lexeme) →
    Carries (buildBranchesSQL branches) (printBranches branches inside) fun sql tree =>
        spell (withBlanks tree) = sql.text ++ spell (withBlanks inside)
  | [], _ => .some (by simp)
  | ⟨condition, result⟩ :: rest, inside =>
    (print_text condition).bind fun _ _ ofCondition =>
    (print_text result).bind fun _ _ ofResult =>
    (printBranches_text rest inside).bind fun _ _ ofRest => .some (by
      apply String.toList_injective
      simp [withBlanks, ofCondition, ofResult, ofRest, Lexeme.spaced,
        Lexeme.insideRole, Lexeme.text])
end

theorem BinaryOperator.readBinary_symbol (operator : BinaryOperator) (left right : Expr) :
    readBinary left operator.symbol right = some (.binary operator left right) := by
  cases operator <;> rfl

theorem UnaryOperator.unaryOperator_symbol (operator : UnaryOperator) :
    operator.symbol.unaryOperator = some operator := by
  cases operator <;> rfl

theorem interpret_case (plain : blankAfter .caseOpening inside = []) :
    interpret (.bracket .caseOpening inside) =
      (interpretBranches inside).map fun (conditions, elseExpr) =>
        .case none conditions elseExpr := by
  cases inside with
  | part mark content inside =>
    cases mark with
    | none => cases plain
    | some mark =>
      simp only [interpret]
      cases interpretBranches (.part (some mark) content inside) <;> rfl
  | _ =>
    simp only [interpret]
    cases interpretBranches _ <;> rfl

mutual
theorem interpret_print : (expression : Expr) →
    Yields (print expression) (interpret · = some expression)
  | .star | .literal _ | .parameter _ | .columnRef _ _ => .some rfl
  | .subquery query | .existsQuery query => by
    constructor
    intro _ printed
    simp only [print] at printed
    split at printed
    next rendered =>
      obtain rfl := Option.some.inj printed
      simp [interpret, Expr.isLeaf, rendered]
    · cases printed
  | .list _ | .inSubquery _ _ _ => .none
  | .binary operator left right =>
    (interpret_print left).bind fun _ ofLeft =>
    (interpret_print right).bind fun _ ofRight =>
    .some (by simp [interpret, ofLeft, ofRight,
      BinaryOperator.readBinary_symbol])
  | .nullTest operand negated =>
    (interpret_print operand).bind fun _ ofOperand =>
    .some (by simp [interpret, ofOperand, Expr.isLeaf, readBinary])
  | .unary operator operand =>
    (interpret_print operand).bind fun _ ofOperand =>
    .some (by simp [interpret, ofOperand, UnaryOperator.unaryOperator_symbol])
  | .aggregate _ operand _ | .cast operand _ =>
    (interpret_print operand).bind fun _ ofOperand =>
    .some (by simp [interpret, ofOperand])
  | .inList expression values negated =>
    (interpret_print expression).bind fun _ ofLeft =>
    (interpretArguments_print values true).bind fun _ ofValues =>
    .some (by simp [interpret, ofLeft, ofValues])
  | .between expression low high =>
    (interpret_print expression).bind fun _ ofLeft =>
    (interpret_print low).bind fun _ ofLow =>
    (interpret_print high).bind fun _ ofHigh =>
    .some (by simp [interpret, ofLeft, ofLow, ofHigh])
  | .like expression pattern negated =>
    (interpret_print expression).bind fun _ ofLeft =>
    (interpret_print pattern).bind fun _ ofPattern =>
    .some (by simp [interpret, ofLeft, ofPattern, readBinary])
  | .case operand conditions elseExpr => by
    constructor
    intro _ printed
    simp only [print, rendered_some_iff, returned_some_iff] at printed
    obtain ⟨_, atElse, _, atBranches, _, atOperand, rfl⟩ := printed
    have branches := (interpretBranches_print conditions
      ((interpretElse_print elseExpr).of_some atElse)).of_some atBranches
    cases operand with
    | none =>
      obtain rfl := Option.some.inj atOperand
      have plain := blankAfter_branches atBranches (blankAfter_else atElse)
      rw [interpret_case plain, branches]
      rfl
    | some operand =>
      simp only [printClause, rendered_some_iff, returned_some_iff] at atOperand
      obtain ⟨_, atOperand, rfl⟩ := atOperand
      simp [interpret, (interpret_print operand).of_some atOperand, branches]
  | .functionCall name args =>
    (interpretArguments_print args true).bind fun _ ofArgs =>
    .some (by simp [interpret, ofArgs])

theorem interpretArguments_print : (expressions : List Expr) → (first : Bool) →
    Yields (printArguments first expressions) (interpretArguments first · = some expressions)
  | [], _ => .some rfl
  | expression :: rest, first =>
    (interpret_print expression).bind fun _ ofFirst =>
    (interpretArguments_print rest false).bind fun _ ofRest =>
    .some (by simp [interpretArguments, ofFirst, ofRest])

theorem interpretElse_print : (elseExpr : Option Expr) →
    Yields (printClause (some .elseWord) elseExpr (.done .caseClosing))
      (interpretBranches · = some ([], elseExpr))
  | none => .some rfl
  | some expression =>
    (interpret_print expression).bind fun _ ofExpression =>
    .some (by simp [interpretBranches, ofExpression])

theorem interpretBranches_print {inside : Reading Lexeme}
    {elseExpr : Option Expr} : (branches : List Branch) →
    interpretBranches inside = some ([], elseExpr) → Yields (printBranches branches inside)
      (interpretBranches · = some (branches, elseExpr))
  | [], ofInside => .some ofInside
  | ⟨condition, result⟩ :: rest, ofInside =>
    (interpret_print condition).bind fun _ ofCondition =>
    (interpret_print result).bind fun _ ofResult =>
    (interpretBranches_print rest ofInside).bind fun _ ofRest =>
    .some (by simp [interpretBranches, ofCondition, ofResult, ofRest])
end

theorem symbol_of_binaryOperator {value : Symbol}
    (read : value.binaryOperator = some operator) : operator.symbol = value := by
  cases value <;> first | cases read; done | (cases read; rfl)

theorem symbol_of_unaryOperator {value : Symbol}
    (read : value.unaryOperator = some operator) : operator.symbol = value := by
  cases value <;> first | cases read; done | (cases read; rfl)

theorem print_leaf {expression : Expr} (leaf : expression.isLeaf = true) :
    print expression = some (.leaf (.leaf expression)) := by
  cases expression with
  | subquery query | existsQuery query =>
    simp only [Expr.isLeaf] at leaf
    rw [print, if_pos leaf]
  | literal _ | columnRef _ _ | parameter _ => rfl
  | _ => cases leaf

mutual
theorem bare_of_interpret (tree : Reading Lexeme) {expression : Expr}
    {printed : Reading Lexeme} (means : interpret tree = some expression)
    (prints : print expression = some printed) : tree.bare = printed.bare := by
  unfold interpret at means
  split at means <;> try simp only [rendered_some_iff, returned_some_iff] at means
  · split at means
    next leaf =>
      obtain rfl := Option.some.inj means
      rw [print_leaf leaf] at prints
      obtain rfl := Option.some.inj prints
      rfl
    · cases means
  · obtain rfl := Option.some.inj means
    obtain rfl := Option.some.inj prints
    rfl
  next operator operand =>
    obtain ⟨unary, atOperator, inner, atOperand, rfl⟩ := means
    simp only [print, rendered_some_iff, returned_some_iff] at prints
    obtain ⟨_, printsOperand, rfl⟩ := prints
    simp only [Reading.bare, symbol_of_unaryOperator atOperator,
      bare_of_interpret operand atOperand printsOperand]
  next left operator right =>
    obtain ⟨expressionLeft, atLeft, expressionRight, atRight, means⟩ := means
    unfold readBinary at means
    split at means
    next negated =>
      obtain rfl := Option.some.inj means
      simp only [print, rendered_some_iff, returned_some_iff] at prints
      obtain ⟨_, printsLeft, _, printsRight, rfl⟩ := prints
      simp only [Reading.bare, bare_of_interpret left atLeft printsLeft,
        bare_of_interpret right atRight printsRight]
    next negated =>
      split at means
      next null =>
        subst null
        obtain rfl := Option.some.inj means
        simp only [print, rendered_some_iff, returned_some_iff] at prints
        obtain ⟨_, printsLeft, rfl⟩ := prints
        simp only [Reading.bare, bare_of_interpret left atLeft printsLeft,
          bare_of_interpret right atRight (print_leaf rfl)]
      · cases means
    · obtain ⟨binary, atOperator, rfl⟩ := Option.map_eq_some_iff.mp means
      simp only [print, rendered_some_iff, returned_some_iff] at prints
      obtain ⟨_, printsLeft, _, printsRight, rfl⟩ := prints
      simp only [Reading.bare, symbol_of_binaryOperator atOperator,
        bare_of_interpret left atLeft printsLeft,
        bare_of_interpret right atRight printsRight]
  next left middle right =>
    obtain ⟨_, atLeft, _, atMiddle, _, atRight, rfl⟩ := means
    simp only [print, rendered_some_iff, returned_some_iff] at prints
    obtain ⟨_, printsLeft, _, printsMiddle, _, printsRight, rfl⟩ := prints
    simp only [Reading.bare, bare_of_interpret left atLeft printsLeft,
      bare_of_interpret middle atMiddle printsMiddle,
      bare_of_interpret right atRight printsRight]
  next content => exact bare_of_interpret content means prints
  next name inside =>
    obtain ⟨_, atInside, rfl⟩ := means
    simp only [print, rendered_some_iff, returned_some_iff] at prints
    obtain ⟨_, printsInside, rfl⟩ := prints
    simp only [Reading.bare, bare_of_arguments inside atInside printsInside]
  next function distinct argument =>
    obtain ⟨_, atArgument, rfl⟩ := means
    simp only [print, rendered_some_iff, returned_some_iff] at prints
    obtain ⟨_, printsArgument, rfl⟩ := prints
    simp only [Reading.bare, bare_of_interpret argument atArgument printsArgument]
  next content affinity =>
    obtain ⟨_, atContent, rfl⟩ := means
    simp only [print, rendered_some_iff, returned_some_iff] at prints
    obtain ⟨_, printsContent, rfl⟩ := prints
    simp only [Reading.bare, bare_of_interpret content atContent printsContent]
  next operand inside =>
    obtain ⟨_, atOperand, ⟨conditions, elseExpr⟩, atInside, rfl⟩ := means
    simp only [print, printClause, rendered_some_iff, returned_some_iff] at prints
    obtain ⟨_, printsElse, _, printsBranches, _, ⟨_, printsOperand, rfl⟩,
      rfl⟩ := prints
    simp only [Reading.bare, bare_of_interpret operand atOperand printsOperand,
      bare_of_branches inside atInside printsElse printsBranches]
  next inside _ =>
    obtain ⟨⟨conditions, elseExpr⟩, atInside, rfl⟩ := means
    simp only [print, printClause, rendered_some_iff, returned_some_iff] at prints
    obtain ⟨_, printsElse, _, printsBranches, _, ⟨⟩, rfl⟩ := prints
    simp only [Reading.bare, bare_of_branches inside atInside printsElse printsBranches]
  next left negated inside =>
    obtain ⟨_, atLeft, _, atInside, rfl⟩ := means
    simp only [print, rendered_some_iff, returned_some_iff] at prints
    obtain ⟨_, printsLeft, _, printsInside, rfl⟩ := prints
    simp only [Reading.bare, bare_of_interpret left atLeft printsLeft,
      bare_of_arguments inside atInside printsInside]
  · cases means
termination_by sizeOf tree

theorem bare_of_arguments (tree : Reading Lexeme)
    (means : interpretArguments first tree = some expressions)
    (prints : printArguments first expressions = some printed) : tree.bare = printed.bare := by
  unfold interpretArguments at means
  split at means
  · obtain rfl := Option.some.inj means
    obtain rfl := Option.some.inj prints
    rfl
  next mark content inside =>
    split at means
    next marked =>
      subst marked
      simp only [rendered_some_iff, returned_some_iff] at means
      obtain ⟨_, atContent, _, atInside, rfl⟩ := means
      simp only [printArguments, rendered_some_iff, returned_some_iff] at prints
      obtain ⟨_, printsContent, _, printsInside, rfl⟩ := prints
      simp only [Reading.bare, bare_of_interpret content atContent printsContent,
        bare_of_arguments inside atInside printsInside]
    · cases means
  · cases means
termination_by sizeOf tree

theorem bare_of_branches (tree : Reading Lexeme) {branches : List Branch} {elseExpr : Option Expr}
    {inside printed : Reading Lexeme} (means : interpretBranches tree = some (branches, elseExpr))
    (printsElse : printClause (some .elseWord) elseExpr (.done .caseClosing) = some inside)
    (prints : printBranches branches inside = some printed) :
    tree.bare = printed.bare := by
  unfold interpretBranches at means
  split at means
  · obtain ⟨rfl, rfl⟩ := Prod.mk.inj (Option.some.inj means)
    obtain rfl := Option.some.inj printsElse
    obtain rfl := Option.some.inj prints
    rfl
  next content =>
    simp only [rendered_some_iff, returned_some_iff, Prod.mk.injEq] at means
    obtain ⟨_, atContent, rfl, rfl⟩ := means
    obtain rfl := Option.some.inj prints
    simp only [printClause, rendered_some_iff, returned_some_iff] at printsElse
    obtain ⟨_, printsContent, rfl⟩ := printsElse
    simp only [Reading.bare, bare_of_interpret content atContent printsContent]
  next condition result rest =>
    simp only [rendered_some_iff, returned_some_iff, Prod.mk.injEq] at means
    obtain ⟨_, atCondition, _, atResult, ⟨conditions, _⟩, atRest, rfl, rfl⟩ := means
    simp only [printBranches, rendered_some_iff, returned_some_iff] at prints
    obtain ⟨_, printsCondition, _, printsResult, _, printsRest, rfl⟩ := prints
    simp only [Reading.bare, bare_of_interpret condition atCondition printsCondition,
      bare_of_interpret result atResult printsResult,
      bare_of_branches rest atRest printsElse printsRest]
  · cases means
termination_by sizeOf tree
end

end LagrangeDb.Query
