import LagrangeDb.Query.ReadBack

namespace LagrangeDb.Query

open Data

/-! Which expressions are read back as they were: only binary nodes are written in parentheses. -/

mutual
/-- Every node has a text and every operator is one SQLite has. -/
def known : Expr → Bool
  | .literal _ | .columnRef _ _ | .parameter _ | .star => true
  | .subquery query | .existsQuery query => (buildSelectSQL query).isSome
  | .binary operator left right => operator.symbol.level.isSome && (known left && known right)
  | .nullTest operand _ => known operand
  | .unary operator operand => operator.symbol.unaryLevel.isSome && known operand
  | .inList expression values _ => known expression && knownAll values
  | .between expression low high => known expression && (known low && known high)
  | .like expression pattern _ => known expression && known pattern
  | .aggregate _ argument _ => known argument
  | .cast expression _ => known expression
  | .case operand conditions elseExpr =>
    knownOption operand && (knownBranches conditions && knownOption elseExpr)
  | .functionCall _ args => knownAll args
  | .inSubquery _ _ _ | .list _ => false

def knownAll : List Expr → Bool
  | [] => true
  | expression :: rest => known expression && knownAll rest

def knownOption : Option Expr → Bool
  | none => true
  | some expression => known expression

def knownBranches : List Branch → Bool
  | [] => true
  | ⟨condition, result⟩ :: rest => known condition && (known result && knownBranches rest)
end

/-- Nothing open on the left binds less tightly than the level: IN, BETWEEN and
LIKE have level 4. -/
def leftAtLeast (least : Nat) : Expr → Bool
  | .inList expression _ _ | .between expression _ _ | .like expression _ _ =>
    decide (least ≤ 4) && leftAtLeast least expression
  | _ => true

/-- Nothing open on the right binds less tightly than the level: NOT has level
3. -/
def rightAtLeast (least : Nat) : Expr → Bool
  | .unary operator operand =>
    decide (least ≤ operator.symbol.unaryLevel.getD 0) && rightAtLeast least operand
  | .between _ _ high => decide (least ≤ 4) && rightAtLeast least high
  | .like _ pattern _ => decide (least ≤ 4) && rightAtLeast least pattern
  | _ => true

mutual
def fits : Expr → Bool
  | .binary operator left right =>
    rightAtLeast (operator.symbol.level.getD 0) left &&
      (leftAtLeast (operator.symbol.level.getD 0 + 1) right && (fits left && fits right))
  | .nullTest operand _ => rightAtLeast 4 operand && fits operand
  | .unary operator operand =>
    leftAtLeast (operator.symbol.unaryLevel.getD 0 + 1) operand && fits operand
  | .inList expression values _ => rightAtLeast 4 expression && (fits expression && fitsAll values)
  | .between expression low high =>
    rightAtLeast 4 expression && (leftAtLeast 5 high &&
      (fits expression && (fits low && fits high)))
  | .like expression pattern _ =>
    rightAtLeast 4 expression && (leftAtLeast 5 pattern && (fits expression && fits pattern))
  | .aggregate _ argument _ => fits argument
  | .cast expression _ => fits expression
  | .case operand conditions elseExpr =>
    fitsOption operand && (fitsBranches conditions && fitsOption elseExpr)
  | .functionCall _ args => fitsAll args
  | _ => true

def fitsAll : List Expr → Bool
  | [] => true
  | expression :: rest => fits expression && fitsAll rest

def fitsOption : Option Expr → Bool
  | none => true
  | some expression => fits expression

def fitsBranches : List Branch → Bool
  | [] => true
  | ⟨condition, result⟩ :: rest => fits condition && (fits result && fitsBranches rest)
end

variable {level : Nat}

theorem operand_symbol {operator : UnaryOperator} :
    sqlite.operand (.symbol operator.symbol) = .operator level ↔
      operator.symbol.unaryLevel = some level := by
  cases operator with
  | other value =>
    simp only [sqlite, Lexeme.operandRole, UnaryOperator.symbol]
    cases (Symbol.other value).unaryLevel <;> simp
  | _ => simp [sqlite, Lexeme.operandRole, UnaryOperator.symbol, Symbol.unaryLevel]

variable {value : Symbol}

theorem operator_symbol : sqlite.operator (.symbol value) = .binary level ↔
      value.level = some level := by
  simp only [sqlite, Lexeme.operatorRole]
  cases value.level <;> simp

theorem level_symbol (value : Symbol) : sqlite.level (.symbol value) = value.level.getD 0 := by
  cases role : value.level with
  | some level =>
    rw [Grammar.level, operator_symbol.mpr role]
    rfl
  | none =>
    have absent : sqlite.operator (.symbol value) = .absent := by
      simp only [sqlite, Lexeme.operatorRole, role]
    rw [Grammar.level, absent]
    rfl

theorem unaryLevel_symbol (operator : UnaryOperator) : sqlite.unaryLevel (.symbol operator.symbol) =
      operator.symbol.unaryLevel.getD 0 := by
  cases known : operator.symbol.unaryLevel with
  | some level =>
    rw [Grammar.unaryLevel, operand_symbol.mpr known]
    rfl
  | none =>
    unfold Grammar.unaryLevel
    split
    next level role => rw [operand_symbol.mp role] at known; cases known
    · rfl

variable {least : Nat}

theorem leftAtLeast_of_le (low : least ≤ 4) (expression : Expr) :
    leftAtLeast least expression = true := by
  unfold leftAtLeast
  split
  next inner _ _ => simp [low, leftAtLeast_of_le low inner]
  next inner _ _ => simp [low, leftAtLeast_of_le low inner]
  next inner _ _ => simp [low, leftAtLeast_of_le low inner]
  · rfl

theorem three_le_unaryLevel (role : value.unaryLevel = some level) : 3 ≤ level := by
  cases value <;> simp [Symbol.unaryLevel] at role <;> omega

theorem rightAtLeast_of_known (low : least ≤ 3) (expression : Expr)
    (all : known expression = true) : rightAtLeast least expression = true := by
  unfold rightAtLeast
  split
  next operator operand =>
    simp only [known, Bool.and_eq_true, Option.isSome_iff_exists] at all
    obtain ⟨⟨level, role⟩, atOperand⟩ := all
    have bound := three_le_unaryLevel role
    simp only [role, Option.getD_some, Bool.and_eq_true, decide_eq_true_eq]
    exact ⟨by omega, rightAtLeast_of_known low operand atOperand⟩
  next high =>
    simp only [known, Bool.and_eq_true] at all
    simp only [Bool.and_eq_true, decide_eq_true_eq]
    exact ⟨by omega, rightAtLeast_of_known low high all.2.2⟩
  next pattern _ =>
    simp only [known, Bool.and_eq_true] at all
    simp only [Bool.and_eq_true, decide_eq_true_eq]
    exact ⟨by omega, rightAtLeast_of_known low pattern all.2⟩
  · rfl

structure Describes (expression : Expr) (tree : Reading Lexeme) : Prop where
  shaped : known expression = true → sqlite.Shaped .expression tree
  knows : sqlite.Shaped .expression tree.bare → known expression = true
  left : ∀ least, sqlite.LeftAtLeast least tree ↔ leftAtLeast least expression = true
  right : ∀ least, sqlite.RightAtLeast least tree ↔ rightAtLeast least expression = true
  ordered : known expression = true → (sqlite.Ordered tree ↔ fits expression = true)

structure DescribesInside (atStart knownInside fitsInside : Bool)
    (tree : Reading Lexeme) : Prop where
  shaped : knownInside = true → sqlite.Shaped (.inside atStart) tree
  knows : sqlite.Shaped (.inside atStart) tree.bare → knownInside = true
  ordered : knownInside = true → (sqlite.Ordered tree ↔ fitsInside = true)

variable {expression : Expr}

theorem describes_leaf (leaf : expression.isLeaf = true) :
    Describes expression (.leaf (.leaf expression)) := by
  have role : sqlite.operand (.leaf expression) = .leaf := if_pos leaf
  have all : known expression = true := by
    cases expression <;> first | rfl | exact leaf | cases leaf
  refine ⟨fun _ => role, fun _ => all, ?_, ?_, ?_⟩
  · intro least
    cases expression <;> first | exact iff_of_true trivial rfl | cases leaf
  · intro least
    cases expression <;> first | exact iff_of_true trivial rfl | cases leaf
  · intro _
    cases expression <;> first | exact iff_of_true trivial rfl | cases leaf

theorem shaped_marked (role : sqlite.inside token = .mark)
    (shaped : sqlite.Shaped .expression content) (rest : sqlite.Shaped (.inside false) inside) :
    sqlite.Shaped (.inside atStart) (.part (some token) content inside) := by
  cases atStart <;> exact ⟨role, shaped, rest⟩

namespace DescribesInside

theorem done (role : sqlite.inside token = .closing) :
    DescribesInside atStart true true (.done token) :=
  ⟨fun _ => role, fun _ => rfl, fun _ => iff_of_true trivial rfl⟩

theorem first (content : Describes expression tree)
    (rest : DescribesInside false knownInside fitsInside inside) :
    DescribesInside true (known expression && knownInside)
      (fits expression && fitsInside) (.part none tree inside) := by
  refine ⟨?_, ?_, ?_⟩
  · intro all
    rw [Bool.and_eq_true] at all
    exact ⟨content.shaped all.1, rest.shaped all.2⟩
  · intro shaped
    rw [content.knows shaped.1, rest.knows shaped.2]
    rfl
  intro all
  rw [Bool.and_eq_true] at all
  rw [Bool.and_eq_true, ← content.ordered all.1, ← rest.ordered all.2]
  rfl

theorem marked (role : sqlite.inside token = .mark) (content : Describes expression tree)
    (rest : DescribesInside false knownInside fitsInside inside) :
    DescribesInside atStart (known expression && knownInside)
      (fits expression && fitsInside) (.part (some token) tree inside) := by
  refine ⟨?_, ?_, ?_⟩
  · intro all
    rw [Bool.and_eq_true] at all
    exact shaped_marked role (content.shaped all.1) (rest.shaped all.2)
  · intro shaped
    obtain ⟨-, -, shapedContent, shapedRest⟩ := Grammar.shaped_part shaped
    rw [content.knows shapedContent, rest.knows shapedRest]
    rfl
  · intro all
    rw [Bool.and_eq_true] at all
    rw [Bool.and_eq_true, ← content.ordered all.1, ← rest.ordered all.2]
    rfl

theorem only (content : Describes expression tree) (role : sqlite.inside token = .closing) :
    DescribesInside true (known expression) (fits expression) (.part none tree (.done token)) := by
  have inside := first content (done role)
  rwa [Bool.and_true, Bool.and_true] at inside

theorem last (isMark : sqlite.inside mark = .mark)
    (content : Describes expression tree) (role : sqlite.inside token = .closing) :
    DescribesInside atStart (known expression) (fits expression)
      (.part (some mark) tree (.done token)) := by
  have inside : DescribesInside atStart _ _ _ := marked isMark content (done role)
  rwa [Bool.and_true, Bool.and_true] at inside

end DescribesInside

theorem atLeast_iff (inner : reaches ↔ answer = true) :
    least ≤ level ∧ reaches ↔ (decide (least ≤ level) && answer) = true := by
  simp [inner]

theorem describes_bracket
    (described : DescribesInside true (known expression) (fits expression) inside)
    (shaped : sqlite.Shaped (.inside true) inside →
      sqlite.Shaped .expression (.bracket token inside))
    (left : ∀ least, leftAtLeast least expression = true)
    (right : ∀ least, rightAtLeast least expression = true) :
    Describes expression (.bracket token inside) := by
  refine ⟨fun all => shaped (described.shaped all), ?_,
    fun least => iff_of_true trivial (left least),
    fun least => iff_of_true trivial (right least), described.ordered⟩
  rintro ⟨-, -, shapedInside⟩
  exact described.knows shapedInside

mutual
theorem describes : (expression : Expr) → Yields (print expression) (Describes expression)
  | .literal _ | .columnRef _ _ | .parameter _ => .some (describes_leaf rfl)
  | .star => .some
      ⟨fun _ => rfl, fun _ => rfl, fun _ => iff_of_true trivial rfl,
        fun _ => iff_of_true trivial rfl, fun _ => iff_of_true trivial rfl⟩
  | .subquery query | .existsQuery query => by
    constructor
    intro _ printed
    simp only [print] at printed
    split at printed
    next rendered =>
      obtain rfl := Option.some.inj printed
      exact describes_leaf rendered
    · cases printed
  | .binary operator left right =>
    (describes left).bind fun _ ofLeft =>
    (describes right).bind fun _ ofRight => .some (by
      refine ⟨?_, ?_, fun _ => iff_of_true trivial rfl, fun _ => iff_of_true trivial rfl, ?_⟩
      · intro all
        simp only [known, Bool.and_eq_true, Option.isSome_iff_exists] at all
        obtain ⟨⟨level, role⟩, knownLeft, knownRight⟩ := all
        exact ⟨⟨level, operator_symbol.mpr role⟩, ofLeft.shaped knownLeft,
          ofRight.shaped knownRight⟩
      · rintro ⟨⟨level, role⟩, shapedLeft, shapedRight⟩
        simp [known, operator_symbol.mp role, ofLeft.knows shapedLeft, ofRight.knows shapedRight]
      intro all
      simp only [known, Bool.and_eq_true] at all
      simp only [Grammar.Ordered, fits, Bool.and_eq_true, level_symbol,
        ofLeft.right, ofRight.left, ofLeft.ordered all.2.1,
        ofRight.ordered all.2.2])
  | .nullTest operand negated =>
    (describes operand).bind fun _ ofOperand => .some (by
      refine ⟨fun all => ⟨⟨4, rfl⟩, ofOperand.shaped all, rfl⟩,
        fun shaped => ofOperand.knows shaped.2.1,
        fun _ => iff_of_true trivial rfl, fun _ => iff_of_true trivial rfl, ?_⟩
      intro all
      simp [Grammar.Ordered, Grammar.LeftAtLeast, fits, level_symbol,
        Symbol.level, ofOperand.right, ofOperand.ordered all])
  | .unary operator operand =>
    (describes operand).bind fun _ ofOperand => .some (by
      refine ⟨?_, ?_, fun _ => iff_of_true trivial rfl, ?_, ?_⟩
      · intro all
        simp only [known, Bool.and_eq_true, Option.isSome_iff_exists] at all
        obtain ⟨⟨level, role⟩, knownOperand⟩ := all
        exact ⟨⟨level, operand_symbol.mpr role⟩, ofOperand.shaped knownOperand⟩
      · rintro ⟨⟨level, role⟩, shapedOperand⟩
        simp [known, operand_symbol.mp role, ofOperand.knows shapedOperand]
      · intro least
        simp only [Grammar.RightAtLeast, rightAtLeast, Bool.and_eq_true,
          decide_eq_true_eq, unaryLevel_symbol, ofOperand.right]
      intro all
      simp only [known, Bool.and_eq_true] at all
      simp only [Grammar.Ordered, fits, Bool.and_eq_true, unaryLevel_symbol,
        ofOperand.left, ofOperand.ordered all.2])
  | .aggregate function argument distinct =>
    (describes argument).bind fun _ ofArgument => .some (by
      have inside : DescribesInside true _ _ (.part none _ (.done .closing)) := .only ofArgument rfl
      exact describes_bracket inside (⟨rfl, nofun, ·⟩) (fun _ => rfl) fun _ => rfl)
  | .inList expression values negated =>
    (describes expression).bind fun _ ofLeft =>
    (describesArguments values true).bind fun _ inside => .some (by
      refine ⟨?_, ?_, ?_, fun _ => iff_of_true trivial rfl, ?_⟩
      · intro all
        simp only [known, Bool.and_eq_true] at all
        exact ⟨⟨4, rfl⟩, ofLeft.shaped all.1, inside.shaped all.2⟩
      · rintro ⟨-, shapedLeft, shapedInside⟩
        simp [known, ofLeft.knows shapedLeft, inside.knows shapedInside]
      · exact fun least => atLeast_iff (ofLeft.left least)
      · intro all
        simp only [known, Bool.and_eq_true] at all
        simp only [Grammar.Ordered, fits, Bool.and_eq_true, ofLeft.right,
          ofLeft.ordered all.1, inside.ordered all.2]
        exact Iff.rfl)
  | .between expression low high =>
    (describes expression).bind fun _ ofLeft =>
    (describes low).bind fun _ ofLow =>
    (describes high).bind fun _ ofHigh => .some (by
      refine ⟨?_, ?_, ?_, ?_, ?_⟩
      · intro all
        simp only [known, Bool.and_eq_true] at all
        exact ⟨⟨4, 3, rfl⟩, ⟨2, rfl⟩, ofLeft.shaped all.1,
          ofLow.shaped all.2.1, ofHigh.shaped all.2.2⟩
      · rintro ⟨-, -, shapedLeft, shapedLow, shapedHigh⟩
        simp [known, ofLeft.knows shapedLeft, ofLow.knows shapedLow, ofHigh.knows shapedHigh]
      · exact fun least => atLeast_iff (ofLeft.left least)
      · exact fun least => atLeast_iff (ofHigh.right least)
      intro all
      simp only [known, Bool.and_eq_true] at all
      have inner : leftAtLeast (sqlite.innerLevel .between) low = true :=
        leftAtLeast_of_le (by decide) low
      have before : rightAtLeast (sqlite.level (.symbol .and)) low = true :=
        rightAtLeast_of_known (by decide) low all.2.1
      have below : sqlite.level (.symbol .and) < sqlite.innerLevel .between := by decide
      simp only [Grammar.Ordered, fits, Bool.and_eq_true, ofLeft.right,
        ofLow.left, ofLow.right, ofHigh.left, ofLeft.ordered all.1,
        ofLow.ordered all.2.1, ofHigh.ordered all.2.2, inner, before, below,
        true_and]
      exact Iff.rfl)
  | .like expression pattern negated =>
    (describes expression).bind fun _ ofLeft =>
    (describes pattern).bind fun _ ofPattern => .some (by
      refine ⟨?_, ?_, ?_, ?_, ?_⟩
      · intro all
        simp only [known, Bool.and_eq_true] at all
        exact ⟨⟨4, rfl⟩, ofLeft.shaped all.1, ofPattern.shaped all.2⟩
      · rintro ⟨-, shapedLeft, shapedPattern⟩
        simp [known, ofLeft.knows shapedLeft, ofPattern.knows shapedPattern]
      · exact fun least => atLeast_iff (ofLeft.left least)
      · exact fun least => atLeast_iff (ofPattern.right least)
      · intro all
        simp only [known, Bool.and_eq_true] at all
        simp only [Grammar.Ordered, fits, Bool.and_eq_true, ofLeft.right,
          ofPattern.left, ofLeft.ordered all.1, ofPattern.ordered all.2]
        exact Iff.rfl)
  | .cast expression affinity =>
    (describes expression).bind fun _ ofExpression => .some (by
      have inside : DescribesInside true _ _ (.part none _ (.done (.castClosing affinity))) :=
        .only ofExpression rfl
      exact describes_bracket inside (⟨rfl, nofun, ·⟩) (fun _ => rfl) fun _ => rfl)
  | .case operand conditions elseExpr =>
    (describesElse elseExpr).bind fun _ ofElse =>
    (describesBranches conditions ofElse).bind fun _ ofBranches =>
    (describesOperand operand ofBranches).bind fun _ inside => .some
      (describes_bracket inside (⟨rfl, nofun, ·⟩) (fun _ => rfl) fun _ => rfl)
  | .functionCall name args =>
    (describesArguments args true).bind fun _ inside => .some
      (describes_bracket inside (⟨rfl, nofun, ·⟩) (fun _ => rfl) fun _ => rfl)
  | .list _ | .inSubquery _ _ _ => .none

theorem describesArguments : (expressions : List Expr) → (first : Bool) →
    Yields (printArguments first expressions)
      (DescribesInside first (knownAll expressions) (fitsAll expressions))
  | [], _ => .some (.done rfl)
  | expression :: rest, first =>
    (describes expression).bind fun _ content =>
    (describesArguments rest false).bind fun _ inside => .some (by
      cases first with
      | true => exact .first content inside
      | false => exact .marked rfl content inside)

theorem describesOperand :
    (operand : Option Expr) → (∀ atStart, DescribesInside atStart knownInside fitsInside inside) →
    Yields (printClause none operand inside)
      (DescribesInside true (knownOption operand && knownInside) (fitsOption operand && fitsInside))
  | none, ofInside => .some (ofInside true)
  | some expression, ofInside =>
    (describes expression).bind fun _ ofExpression =>
    .some (.first ofExpression (ofInside false))

theorem describesElse : (elseExpr : Option Expr) →
    Yields (printClause (some .elseWord) elseExpr (.done .caseClosing)) fun tree => ∀ atStart,
        DescribesInside atStart (knownOption elseExpr) (fitsOption elseExpr) tree
  | none => .some fun _ => .done rfl
  | some expression =>
    (describes expression).bind fun _ ofExpression =>
    .some fun _ => .last rfl ofExpression rfl

theorem describesBranches : (branches : List Branch) →
    (∀ atStart, DescribesInside atStart knownInside fitsInside inside) →
    Yields (printBranches branches inside) fun tree => ∀ atStart,
      DescribesInside atStart (knownBranches branches && knownInside)
        (fitsBranches branches && fitsInside) tree
  | [], ofInside => .some ofInside
  | ⟨condition, result⟩ :: rest, ofInside =>
    (describes condition).bind fun _ ofCondition =>
    (describes result).bind fun _ ofResult =>
    (describesBranches rest ofInside).bind fun _ ofRest => .some (by
      intro atStart
      simp only [knownBranches, fitsBranches, Bool.and_assoc]
      exact .marked rfl ofCondition (.marked rfl ofResult (ofRest false)))
end

theorem renders_bind {value other : Type} {step : Option value} {next : value → Option other}
    (first : ∃ found, step = some found) (second : ∀ found, ∃ result, next found = some result) :
    ∃ result, (step >>= next) = some result := by
  obtain ⟨found, rfl⟩ := first
  exact second found

mutual
theorem renders_of_known : (expression : Expr) → known expression = true →
    ∃ sql, buildExpressionSQL expression = some sql
  | .literal _ | .parameter _ | .star | .columnRef none _
  | .columnRef (some _) _ => fun _ => ⟨_, rfl⟩
  | .subquery query | .existsQuery query => fun rendered =>
    renders_bind (Option.isSome_iff_exists.mp rendered) fun _ => ⟨_, rfl⟩
  | .binary operator left right => by
    intro all
    simp only [known, Bool.and_eq_true] at all
    exact renders_bind (renders_of_known left all.2.1) fun _ =>
      renders_bind (renders_of_known right all.2.2) fun _ => ⟨_, rfl⟩
  | .nullTest operand _ | .aggregate _ operand _ | .cast operand _ => fun all =>
    renders_bind (renders_of_known operand all) fun _ => ⟨_, rfl⟩
  | .unary operator operand => by
    intro all
    simp only [known, Bool.and_eq_true] at all
    exact renders_bind (renders_of_known operand all.2) fun _ => ⟨_, rfl⟩
  | .inList expression values _ => by
    intro all
    simp only [known, Bool.and_eq_true] at all
    exact renders_bind (renders_of_knownAll values all.2) fun _ =>
      renders_bind (renders_of_known expression all.1) fun _ => ⟨_, rfl⟩
  | .between expression low high => by
    intro all
    simp only [known, Bool.and_eq_true] at all
    exact renders_bind (renders_of_known expression all.1) fun _ =>
      renders_bind (renders_of_known low all.2.1) fun _ =>
      renders_bind (renders_of_known high all.2.2) fun _ => ⟨_, rfl⟩
  | .like expression pattern _ => by
    intro all
    simp only [known, Bool.and_eq_true] at all
    exact renders_bind (renders_of_known expression all.1) fun _ =>
      renders_bind (renders_of_known pattern all.2) fun _ => ⟨_, rfl⟩
  | .case operand conditions elseExpr => by
    intro all
    simp only [known, Bool.and_eq_true] at all
    exact renders_bind (renders_of_knownOption operand all.1) fun _ =>
      renders_bind (renders_of_knownBranches conditions all.2.1) fun _ =>
      renders_bind (renders_of_knownOption elseExpr all.2.2) fun _ => ⟨_, rfl⟩
  | .functionCall _ args => fun all => renders_bind (renders_of_knownAll args all) fun _ => ⟨_, rfl⟩
  | .list _ | .inSubquery _ _ _ => nofun

theorem renders_of_knownAll : (expressions : List Expr) → knownAll expressions = true →
      ∃ parts, buildExpressionsSQL expressions = some parts
  | [] => fun _ => ⟨_, rfl⟩
  | expression :: rest => by
    intro all
    simp only [knownAll, Bool.and_eq_true] at all
    exact renders_bind (renders_of_known expression all.1) fun _ =>
      renders_bind (renders_of_knownAll rest all.2) fun _ => ⟨_, rfl⟩

theorem renders_of_knownOption : (expression : Option Expr) →
    knownOption expression = true → ∃ sql, buildClauseSQL word expression = some sql
  | none => fun _ => ⟨_, rfl⟩
  | some expression => fun all => renders_bind (renders_of_known expression all) fun _ => ⟨_, rfl⟩

theorem renders_of_knownBranches : (branches : List Branch) →
    knownBranches branches = true → ∃ sql, buildBranchesSQL branches = some sql
  | [] => fun _ => ⟨_, rfl⟩
  | ⟨condition, result⟩ :: rest => by
    intro all
    simp only [knownBranches, Bool.and_eq_true] at all
    exact renders_bind (renders_of_known condition all.1) fun _ =>
      renders_bind (renders_of_known result all.2.1) fun _ =>
      renders_bind (renders_of_knownBranches rest all.2.2) fun _ => ⟨_, rfl⟩
end

/-- The tokens can be read as the expression under SQLite's precedence. -/
def ReadsAs (tokens : List Lexeme) (expression : Expr) : Prop :=
  ∃ tree, sqlite.Shaped .expression tree ∧ sqlite.Ordered tree ∧
    sqlite.yield tree = tokens ∧ interpret tree = some expression

theorem ReadsAs.unique (reads : ReadsAs tokens expression) (reads' : ReadsAs tokens expression') :
    expression = expression' := by
  obtain ⟨tree, shaped, ordered, yields, means⟩ := reads
  obtain ⟨tree', shaped', ordered', yields', means'⟩ := reads'
  have same := Grammar.eq_of_yield shaped ordered shaped' ordered' (yields.trans yields'.symm)
  rw [same, means'] at means
  exact (Option.some.inj means).symm

/-- The keywords SQLite never takes for a name, and the words it takes for a literal. -/
def reservedWords : List String :=
  ["ADD", "ALL", "ALTER", "AND", "AS", "AUTOINCREMENT", "BETWEEN", "CASE", "CHECK", "COLLATE",
    "COMMIT", "CONSTRAINT", "CREATE", "CURRENT_DATE", "CURRENT_TIME", "CURRENT_TIMESTAMP",
    "DEFAULT", "DEFERRABLE", "DELETE", "DISTINCT", "DROP", "ELSE", "ESCAPE", "EXCEPT", "EXISTS",
    "FALSE", "FOREIGN", "FROM", "GROUP", "HAVING", "IN", "INDEX", "INSERT", "INTERSECT", "INTO",
    "IS", "ISNULL", "JOIN", "LIMIT", "NOT", "NOTHING", "NOTNULL", "NULL", "ON", "OR", "ORDER",
    "PRIMARY", "REFERENCES", "RETURNING", "SELECT", "SET", "TABLE", "THEN", "TO", "TRANSACTION",
    "TRUE", "UNION", "UNIQUE", "UPDATE", "USING", "VALUES", "WHEN", "WHERE"]

/-- Every character beyond ASCII belongs to a word. -/
def startsWord (character : Char) : Bool :=
  character.isAlpha || character = '_' || 128 ≤ character.toNat

/-- The text is one word of SQLite's, read as a name. -/
def isName (text : String) : Bool :=
  text.toList.head?.any startsWord &&
    text.toList.all (fun character => startsWord character || character.isDigit || character = '$') &&
    !(reservedWords.map String.toList).contains (text.toList.map Char.toUpper)

/-- SQLite reads a literal's text as its value: an integer of 64 bits by its
digits, any other number as the double next to it, a string up to its end. -/
def readsLiteral : Js.Value → Bool
  | .undefined | .number .nan | .number (.infinite _) => false
  | .null | .boolean _ => true
  | .number (.finite value) => value.den ≠ 1 || 2 ^ 63 ≤ value.num.natAbs ||
      (Js.Number.finite value).toText = toString value.num
  | .string value => !value.toList.contains (Char.ofNat 0)

/-- The text of the token, by itself, is read as this token. A subquery is one
token; its statement is not read again. -/
def Lexeme.readable : Lexeme → Bool
  | .leaf (.literal value) => readsLiteral value
  | .leaf (.columnRef table column) => table.all isName && isName column
  | .call name | .aggregate (.other name) _ | .castClosing name => isName name
  | _ => true

/-- No name and no literal of the expression is spelled as something else. -/
def Spelled (expression : Expr) : Prop :=
  ∀ tree, print expression = some tree → ∀ token ∈ sqlite.yield tree, token.readable = true

/-- The expression has a text; each token the text is spelled with is read as that
token, and the tokens are read as the expression. -/
def ReadsBack (expression : Expr) : Prop :=
  ∃ sql tree, buildExpressionSQL expression = some sql ∧
    print expression = some tree ∧ spell (withBlanks tree) = sql.text ∧
    (∀ token ∈ sqlite.yield tree, token.readable = true) ∧
    ∀ expression', ReadsAs (sqlite.yield tree) expression' ↔ expression' = expression

/-- active = (name LIKE ?), as the source's parser is given it. -/
def likeCompared : ExternalExpr :=
  .binary .equals (.columnRef none "active") (.like (.columnRef none "name") (.placeholder 0) false)

example : ["FOR UPDATE", "a - b", "select", "1st", "naïve"].map isName =
    [false, false, false, false, true] := by decide

end LagrangeDb.Query
