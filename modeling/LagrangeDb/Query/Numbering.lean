import LagrangeDb.Query.FanoutPlan
import LagrangeDb.Query.Parser

namespace LagrangeDb.Query

mutual
def written : ExternalExpr → List Nat
  | .placeholder position => [position]
  | .binary _ left right => written left ++ written right
  | .inList left values _ => written left ++ writtenAll values
  | .inQuery left ast _ => written left ++ writtenSelect ast
  | .between left low high => written left ++ written low ++ written high
  | .like left right _ => written left ++ written right
  | .is left right _ => written left ++ written right
  | .unary _ operand => written operand
  | .aggregate _ argument _ => writtenOption argument
  | .exprList value => writtenAll value
  | .subquery ast => writtenSelect ast
  | .case operand branches otherwise =>
    writtenOption operand ++ (writtenBranches branches ++ writtenOption otherwise)
  | .cast expression _ => written expression
  | .function _ args => writtenAll args
  | _ => []

def writtenAll : List ExternalExpr → List Nat
  | [] => []
  | expression :: rest => written expression ++ writtenAll rest

def writtenOption : Option ExternalExpr → List Nat
  | none => []
  | some expression => written expression

def writtenBranches : List ExternalBranch → List Nat
  | [] => []
  | ⟨cond, result⟩ :: rest => written cond ++ written result ++ writtenBranches rest

def writtenColumns : List ExternalColumn → List Nat
  | [] => []
  | ⟨expr, _⟩ :: rest => written expr ++ writtenColumns rest

def writtenTable : ExternalTable → List Nat
  | .name _ => []
  | .subquery ast => writtenSelect ast

def writtenTables : List ExternalFrom → List Nat
  | [] => []
  | ⟨table, _, _, on⟩ :: rest => writtenTable table ++ writtenOption on ++ writtenTables rest

def writtenOrders : List ExternalOrder → List Nat
  | [] => []
  | ⟨expr, _⟩ :: rest => written expr ++ writtenOrders rest

def writtenCtes : List ExternalCte → List Nat
  | [] => []
  | ⟨_, stmt, _⟩ :: rest => writtenSelect stmt ++ writtenCtes rest

def writtenNext : Option ExternalNext → List Nat
  | none => []
  | some ⟨_, ast⟩ => writtenSelect ast

def writtenSelect : ExternalSelect → List Nat
  | ⟨ctes, _, columns, tables, condition, groupby, having, orderby, limit, _,
      next⟩ =>
      writtenCtes ctes ++
        ((writtenColumns columns ++ writtenTables tables ++
          writtenOption condition ++ writtenAll groupby ++
          writtenOption having ++ writtenOrders orderby ++
          writtenAll limit) ++
        writtenNext next)
end

mutual
def ordered : ExternalExpr → Bool
  | .binary _ left right => ordered left && ordered right
  | .inList left values _ =>
    ((written left).isEmpty || (writtenAll values).isEmpty) && (ordered left && orderedAll values)
  | .inQuery left ast _ => ordered left && orderedSelect ast
  | .between left low high => ordered left && ordered low && ordered high
  | .like left right _ => ordered left && ordered right
  | .is left right _ =>
    ((written left).isEmpty || (written right).isEmpty) && (ordered left && ordered right)
  | .unary _ operand => ordered operand
  | .aggregate _ argument _ => orderedOption argument
  | .exprList value => orderedAll value
  | .subquery ast => orderedSelect ast
  | .case operand branches otherwise =>
    ((writtenOption operand).isEmpty ||
      (writtenBranches branches ++ writtenOption otherwise).isEmpty) &&
    (orderedOption operand && (orderedBranches branches && orderedOption otherwise))
  | .cast expression _ => ordered expression
  | .function name args =>
    match functionKind name with
    | .existsQuery => orderedFirstQuery args
    | .extract | .dateTrunc => orderedSecond args
    | .nullary _ => (writtenAll args).isEmpty
    | .concat | .passThrough _ => orderedAll args
  | _ => true

def orderedAll : List ExternalExpr → Bool
  | [] => true
  | expression :: rest => ordered expression && orderedAll rest

def orderedOption : Option ExternalExpr → Bool
  | none => true
  | some expression => ordered expression

def orderedBranches : List ExternalBranch → Bool
  | [] => true
  | ⟨cond, result⟩ :: rest => ordered cond && ordered result && orderedBranches rest

def orderedFirstQuery : List ExternalExpr → Bool
  | .subquery ast :: rest => orderedSelect ast && (writtenAll rest).isEmpty
  | _ => true

def orderedSecond : List ExternalExpr → Bool
  | first :: source :: rest =>
    (written first).isEmpty && (ordered source && (writtenAll rest).isEmpty)
  | _ => true

def orderedColumns : List ExternalColumn → Bool
  | [] => true
  | ⟨expr, _⟩ :: rest => ordered expr && orderedColumns rest

def orderedTable : ExternalTable → Bool
  | .name _ => true
  | .subquery ast => orderedSelect ast

/-- A table without a join has no placeholder, for it is left out. -/
def orderedJoins : List ExternalFrom → Bool
  | [] => true
  | ⟨table, _, none, on⟩ :: rest =>
    (writtenTable table ++ writtenOption on).isEmpty && orderedJoins rest
  | ⟨table, _, some _, on⟩ :: rest => orderedTable table && orderedOption on && orderedJoins rest

def orderedTables : List ExternalFrom → Bool
  | [] => true
  | ⟨table, _, _, on⟩ :: rest =>
    orderedTable table && (writtenOption on).isEmpty && orderedJoins rest

def orderedOrders : List ExternalOrder → Bool
  | [] => true
  | ⟨expr, _⟩ :: rest => ordered expr && orderedOrders rest

def orderedCtes : List ExternalCte → Bool
  | [] => true
  | ⟨_, stmt, _⟩ :: rest => orderedSelect stmt && orderedCtes rest

def orderedNext : Option ExternalNext → Bool
  | none => true
  | some ⟨_, ast⟩ => orderedSelect ast

def orderedSelect : ExternalSelect → Bool
  | ⟨ctes, _, columns, tables, condition, groupby, having, orderby, limit, _,
      next⟩ =>
      orderedCtes ctes &&
        (((writtenColumns columns ++ writtenTables tables ++
            writtenOption condition ++ writtenAll groupby ++
            writtenOption having ++ writtenOrders orderby ++
            writtenAll limit).isEmpty || (writtenNext next).isEmpty) &&
          ((orderedColumns columns && orderedTables tables &&
            orderedOption condition && orderedAll groupby &&
            orderedOption having && orderedOrders orderby &&
            (writtenAll limit).isEmpty) &&
          orderedNext next))
end

structure Numbers (new text : List Nat) (exact : Bool) : Prop where
  subperm : new.Subperm text
  iff : text.Nodup → (new = text ↔ exact = true)

namespace Numbers

variable {new new' text text' : List Nat} {exact exact' : Bool}

theorem nil : Numbers [] [] true := ⟨List.Subperm.refl _, by simp⟩

theorem single (position : Nat) : Numbers [position] [position] true :=
  ⟨List.Subperm.refl _, by simp⟩

theorem dropped (text : List Nat) : Numbers [] text text.isEmpty := by
  refine ⟨List.nil_subperm, ?_⟩
  intro nodup
  rw [List.isEmpty_iff]
  exact eq_comm

theorem append (first : Numbers new text exact) (second : Numbers new' text' exact') :
    Numbers (new ++ new') (text ++ text') (exact && exact') := by
  refine ⟨first.subperm.append second.subperm, ?_⟩
  intro nodup
  rw [List.nodup_append] at nodup
  rw [Bool.and_eq_true, ← first.iff nodup.1, ← second.iff nodup.2.1]
  constructor
  · intro same
    have lengths := congrArg List.length same
    rw [List.length_append, List.length_append] at lengths
    have bound := first.subperm.length_le
    have bound' := second.subperm.length_le
    exact List.append_inj same (by omega)
  · rintro ⟨rfl, rfl⟩
    rfl

theorem swap (first : Numbers new text exact)
    (second : Numbers new' text' exact') : Numbers (new' ++ new) (text ++ text')
      ((text.isEmpty || text'.isEmpty) && (exact && exact')) := by
  constructor
  · exact List.perm_append_comm.subperm.trans (first.subperm.append second.subperm)
  intro nodup
  rw [List.nodup_append] at nodup
  rw [Bool.and_eq_true, Bool.and_eq_true, Bool.or_eq_true, List.isEmpty_iff,
    List.isEmpty_iff, ← first.iff nodup.1, ← second.iff nodup.2.1]
  have bound := first.subperm.length_le
  have bound' := second.subperm.length_le
  constructor
  · intro same
    have lengths := congrArg List.length same
    rw [List.length_append, List.length_append] at lengths
    cases text with
    | nil =>
      have empty : new = [] := by simpa using bound
      subst empty
      simpa using same
    | cons position rest =>
      cases new' with
      | nil =>
        have empty : text' = [] := by
          apply List.eq_nil_of_length_eq_zero
          simp only [List.length_cons, List.length_nil] at *
          omega
        subst empty
        simpa using same
      | cons position' rest' =>
        -- The first numbered position is one of the second part's.
        have member := second.subperm.subset List.mem_cons_self
        simp only [List.cons_append, List.cons.injEq] at same
        exact absurd same.1.symm (nodup.2.2 position List.mem_cons_self position' member)
  · rintro ⟨rfl | rfl, rfl, rfl⟩ <;> simp

end Numbers

/-- From one state of the converter to another a text is read. Where it is
ordered, its parameters have the next indices. -/
def Advances (before after text : List Nat) (exact : Bool) (parameters : List Nat) : Prop :=
  ∃ new, after = before ++ new ∧ Numbers new text exact ∧
    (exact = true → parameters = List.range' before.length new.length)

namespace Advances

variable {before middle after text text' parameters parameters' : List Nat}
  {exact exact' : Bool}

theorem stay : Advances before before [] true [] := ⟨[], by simp, Numbers.nil, by simp⟩

theorem dropped (text : List Nat) : Advances before before text text.isEmpty [] :=
  ⟨[], by simp, Numbers.dropped text, by simp⟩

theorem append (first : Advances before middle text exact parameters)
    (second : Advances middle after text' exact' parameters') :
    Advances before after (text ++ text') (exact && exact') (parameters ++ parameters') := by
  obtain ⟨new, rfl, numbers, indices⟩ := first
  obtain ⟨new', rfl, numbers', indices'⟩ := second
  refine ⟨new ++ new', List.append_assoc _ _ _, numbers.append numbers', ?_⟩
  intro both
  rw [Bool.and_eq_true] at both
  rw [indices both.1, indices' both.2, List.length_append, List.length_append,
    ← List.range'_append_1]

theorem swap (second : Advances before middle text' exact' parameters')
    (first : Advances middle after text exact parameters) : Advances before after (text ++ text')
      ((text.isEmpty || text'.isEmpty) && (exact && exact')) (parameters ++ parameters') := by
  obtain ⟨new', rfl, numbers', indices'⟩ := second
  obtain ⟨new, rfl, numbers, indices⟩ := first
  refine ⟨new' ++ new, List.append_assoc _ _ _, numbers.swap numbers', ?_⟩
  intro all
  simp only [Bool.and_eq_true, Bool.or_eq_true, List.isEmpty_iff] at all
  obtain ⟨empty, both⟩ := all
  rw [indices both.1, indices' both.2]
  rcases empty with rfl | rfl
  · have none := List.subperm_nil.mp numbers.subperm
    simp [none]
  · have none := List.subperm_nil.mp numbers'.subperm
    simp [none]

end Advances

section

variable {value other : Type} {before after : List Nat}

theorem bind_some_iff {step : Converting value}
    {next : value → Converting other} {result : other × List Nat} :
    (step >>= next) before = some result ↔ ∃ found middle, step before = some (found, middle) ∧
        next found middle = some result := by
  change (step before).bind _ = some result ↔ _
  simp [Option.bind_eq_some_iff]

theorem pure_some_iff :
    (pure found : Converting value) before = some (result, after) ↔
      found = result ∧ before = after := by
  change some (found, before) = some (result, after) ↔ _
  simp

theorem lift_some_iff :
    (liftM found : Converting value) before = some (result, after) ↔
      found = some result ∧ before = after := by
  change (found.bind fun found => some (found, before)) = some (result, after) ↔ _
  simp [Option.bind_eq_some_iff]

theorem failure_ne_some :
    ¬(failure : Converting value) before = some result := by
  change ¬none = some result
  simp

end

theorem isNullOperand_iff (value : Expr) : isNullOperand value = true ↔ value = .literal .null := by
  constructor
  · intro null
    unfold isNullOperand at null
    split at null
    · rfl
    · cases null
  · rintro rfl
    rfl

abbrev textParameters (expression : Expr) : List Nat := walk .text visitParameter expression

theorem foldl_concatenate_parameters (rest : List Expr) (first : Expr) :
    textParameters (rest.foldl (.binary (.other "||")) first) =
      textParameters first ++ walkAll .text visitParameter rest := by
  induction rest generalizing first with
  | nil => exact (List.append_nil _).symm
  | cons second rest induction =>
    rw [List.foldl_cons, induction]
    exact List.append_assoc _ _ _

theorem concatenate_parameters (concatenated : concatenate values = some joined) :
    textParameters joined = walkAll .text visitParameter values := by
  cases values with
  | nil => cases concatenated
  | cons first rest =>
    obtain rfl := Option.some.inj concatenated
    exact foldl_concatenate_parameters rest first

theorem strftime_parameters (format : String) (source : Expr) :
    textParameters (strftime format source) = textParameters source :=
  List.append_nil _

theorem isStarColumn_written (star : isStarColumn expr = true) :
    written expr = [] ∧ ordered expr = true := by
  unfold isStarColumn at star
  split at star
  · exact ⟨rfl, rfl⟩
  · exact ⟨rfl, rfl⟩
  · cases star

structure Converts {value : Type} (step : Converting value) (text : List Nat)
    (exact : Bool) (parameters : value → List Nat) : Prop where
  advances : ∀ {before after found}, step before = some (found, after) →
    Advances before after text exact (parameters found)

namespace Converts

variable {first second third result : Type} {step : Converting first}
  {step' : Converting second}
  {text text' text'' : List Nat} {exact exact' exact'' : Bool}
  {parameters : first → List Nat} {parameters' : second → List Nat}
  {all : result → List Nat} {found : result}

theorem dropped (none : all found = []) : Converts (Pure.pure found) text text.isEmpty all := by
  constructor
  intro before after value converted
  obtain ⟨rfl, rfl⟩ := pure_some_iff.mp converted
  rw [none]
  exact Advances.dropped text

theorem pure (none : all found = []) : Converts (Pure.pure found) [] true all := .dropped none

theorem failure : Converts failure text exact all :=
  ⟨fun converted => absurd converted failure_ne_some⟩

variable (ofStep : Converts step text exact parameters)
  (ofStep' : Converts step' text' exact' parameters')

include ofStep

theorem map {make : first → result} (same : ∀ found, all (make found) = parameters found) :
    Converts (do return make (← step)) text exact all := by
  constructor
  intro before after value converted
  simp only [bind_some_iff, pure_some_iff] at converted
  obtain ⟨_, _, converted, rfl, rfl⟩ := converted
  rw [same]
  exact ofStep.advances converted

include ofStep'

variable {make : first → second → result}

theorem pair
    (same : ∀ found found', all (make found found') = parameters found ++ parameters' found') :
    Converts (do let found ← step; return make found (← step')) (text ++ text')
      (exact && exact') all := by
  constructor
  intro before after value converted
  simp only [bind_some_iff, pure_some_iff] at converted
  obtain ⟨_, _, converted, _, _, converted', rfl, rfl⟩ := converted
  rw [same]
  exact (ofStep.advances converted).append (ofStep'.advances converted')

/-- The second step reads what is written first. -/
theorem swapped
    (same : ∀ found found', all (make found found') = parameters' found' ++ parameters found) :
    Converts (do let found ← step; return make found (← step')) (text' ++ text)
      ((text'.isEmpty || text.isEmpty) && (exact' && exact)) all := by
  constructor
  intro before after value converted
  simp only [bind_some_iff, pure_some_iff] at converted
  obtain ⟨_, _, converted, _, _, converted', rfl, rfl⟩ := converted
  rw [same]
  exact (ofStep.advances converted).swap (ofStep'.advances converted')

theorem triple (ofStep'' : Converts step'' text'' exact'' parameters'')
    {make : first → second → third → result}
    (same : ∀ found found' found'', all (make found found' found'') =
      parameters found ++ parameters' found' ++ parameters'' found'') :
    Converts (do
        let found ← step let found' ← step'
        return make found found' (← step'')) (text ++ text' ++ text'')
      (exact && exact' && exact'') all := by
  constructor
  intro before after value converted
  simp only [bind_some_iff, pure_some_iff] at converted
  obtain ⟨_, _, converted, _, _, converted', _, _, converted'', rfl, rfl⟩ := converted
  rw [same]
  exact ((ofStep.advances converted).append (ofStep'.advances converted')).append
    (ofStep''.advances converted'')

end Converts

mutual
theorem convertExpression_advances : (expression : ExternalExpr) →
    Converts (convertExpression expression) (written expression) (ordered expression) textParameters
  | .literal _ | .origin _ | .columnRef _ _ | .star => .pure rfl
  | .placeholder position => by
    constructor
    intro before after value converted
    simp only [convertExpression, createParameterNode] at converted
    obtain ⟨rfl, rfl⟩ := Prod.mk.inj (Option.some.inj converted)
    exact ⟨[position], rfl, Numbers.single position, fun _ => rfl⟩
  | .binary _ left right | .like left right _ =>
    (convertExpression_advances left).pair (convertExpression_advances right) fun _ _ => rfl
  | .inList left values _ =>
    (convertExpressions_advances values).swapped (convertExpression_advances left) fun _ _ => rfl
  | .inQuery left ast _ =>
    (convertExpression_advances left).pair (convertSelect_advances ast) fun _ _ => rfl
  | .between left low high =>
    (convertExpression_advances left).triple (convertExpression_advances low)
      (convertExpression_advances high) fun _ _ _ => rfl
  | .is left right _ => by
    constructor
    intro before after value converted
    simp only [convertExpression, bind_some_iff] at converted
    obtain ⟨operand, middle, first, second⟩ := converted
    split at second
    next null =>
      obtain rfl := (isNullOperand_iff operand).mp null
      simp only [bind_some_iff, pure_some_iff] at second
      obtain ⟨_, _, second, rfl, rfl⟩ := second
      have advances := ((convertExpression_advances right).advances first).swap
        ((convertExpression_advances left).advances second)
      rw [show textParameters (.literal .null) = [] from rfl, List.append_nil] at advances
      exact advances
    · exact absurd second failure_ne_some
  | .unary _ operand | .cast operand _ => (convertExpression_advances operand).map fun _ => rfl
  | .aggregate _ argument _ =>
    (convertOption_advances argument).map fun found => by cases found <;> rfl
  | .exprList value => (convertExpressions_advances value).map fun _ => rfl
  | .subquery ast => (convertSelect_advances ast).map fun _ => rfl
  | .case operand branches otherwise => by
    constructor
    intro before after value converted
    simp only [convertExpression, bind_some_iff, pure_some_iff] at converted
    obtain ⟨_, _, first, _, _, second, _, _, third, rfl, rfl⟩ := converted
    exact (((convertBranches_advances branches).advances first).append
      ((convertOption_advances otherwise).advances second)).swap
      ((convertOption_advances operand).advances third)
  | .function name args => by
    rw [convertExpression, written, ordered]
    cases functionKind name with
    | existsQuery => exact (convertFirstQuery_advances args).map fun _ => rfl
    | concat =>
      constructor
      intro before after value converted
      simp only [bind_some_iff, lift_some_iff] at converted
      obtain ⟨values, _, first, joined, rfl⟩ := converted
      rw [concatenate_parameters joined]
      exact (convertExpressions_advances args).advances first
    | extract | dateTrunc =>
      constructor
      intro before after value converted
      simp only [bind_some_iff, lift_some_iff, pure_some_iff] at converted
      obtain ⟨_, _, ⟨-, rfl⟩, _, _, first, rfl, rfl⟩ := converted
      have advances := (convertSecond_advances args).advances first
      rwa [← strftime_parameters] at advances
    | nullary _ => exact .dropped rfl
    | passThrough _ => exact (convertExpressions_advances args).map fun _ => rfl
  | .unknown _ => .failure

theorem convertExpressions_advances : (expressions : List ExternalExpr) →
    Converts (convertExpressions expressions) (writtenAll expressions)
      (orderedAll expressions) (walkAll .text visitParameter)
  | [] => .pure rfl
  | expression :: rest =>
    (convertExpression_advances expression).pair (convertExpressions_advances rest) fun _ _ => rfl

theorem convertOption_advances : (expression : Option ExternalExpr) →
    Converts (convertOption expression) (writtenOption expression)
      (orderedOption expression) (walkOption .text visitParameter)
  | none => .pure rfl
  | some expression => (convertExpression_advances expression).map fun _ => rfl

theorem convertBranches_advances : (branches : List ExternalBranch) →
    Converts (convertBranches branches) (writtenBranches branches)
      (orderedBranches branches) (walkBranches .text visitParameter)
  | [] => .pure rfl
  | ⟨cond, result⟩ :: rest =>
    (convertExpression_advances cond).triple (convertExpression_advances result)
      (convertBranches_advances rest) fun _ _ _ => rfl

theorem convertFirstQuery_advances : (args : List ExternalExpr) →
    Converts (convertFirstQuery args) (writtenAll args) (orderedFirstQuery args)
      (walkSelect .text visitParameter)
  | [] => .failure
  | first :: rest => by
    constructor
    intro before after value converted
    cases first with
    | subquery ast =>
      have advances := ((convertSelect_advances ast).advances converted).append
        (Advances.dropped (writtenAll rest))
      rwa [List.append_nil] at advances
    | _ => exact absurd converted failure_ne_some

theorem convertSecond_advances : (args : List ExternalExpr) →
    Converts (convertSecond args) (writtenAll args) (orderedSecond args) textParameters
  | [] | [_] => .failure
  | first :: source :: rest => by
    constructor
    intro before after value converted
    have advances := (Advances.dropped (written first)).append
      (((convertExpression_advances source).advances converted).append
        (Advances.dropped (writtenAll rest)))
    rwa [List.append_nil] at advances

theorem convertColumns_advances : (columns : List ExternalColumn) →
    Converts (convertColumns columns) (writtenColumns columns)
      (orderedColumns columns) (walkColumns .text visitParameter)
  | [] => .pure rfl
  | ⟨expr, asName⟩ :: rest => by
    rw [convertColumns]
    split
    next star =>
      rw [writtenColumns, orderedColumns, (isStarColumn_written star).1,
        (isStarColumn_written star).2]
      exact (convertColumns_advances rest).map fun _ => rfl
    · exact (convertExpression_advances expr).pair (convertColumns_advances rest) fun _ _ => rfl

theorem convertTable_advances (asName : Option String) :
    (table : ExternalTable) → Converts (convertTable asName table)
      (writtenTable table) (orderedTable table) (walkSource .text visitParameter)
  | .name _ => .pure rfl
  | .subquery ast => (convertSelect_advances ast).map fun _ => rfl

theorem convertJoins_advances : (tables : List ExternalFrom) →
    Converts (convertJoins tables) (writtenTables tables) (orderedJoins tables)
      (walkJoins .text visitParameter)
  | [] => .pure rfl
  | ⟨table, _, none, on⟩ :: rest => ⟨fun converted =>
    (Advances.dropped (writtenTable table ++ writtenOption on)).append
      ((convertJoins_advances rest).advances converted)⟩
  | ⟨table, asName, some _, on⟩ :: rest =>
    (convertTable_advances asName table).triple (convertOption_advances on)
      (convertJoins_advances rest) fun _ _ _ => rfl

theorem convertTables_advances : (tables : List ExternalFrom) →
    ∀ {before middle after source joins}, convertFrom tables before = some (source, middle) →
      convertJoinsAfterFirst tables middle = some (joins, after) →
        Advances before after (writtenTables tables) (orderedTables tables)
          (walkFrom .text visitParameter source ++ walkJoins .text visitParameter joins)
  | [] => by
    intro first second
    simp only [convertFrom, pure_some_iff] at first
    simp only [convertJoinsAfterFirst, pure_some_iff] at second
    obtain ⟨rfl, rfl⟩ := first
    obtain ⟨rfl, rfl⟩ := second
    exact Advances.stay
  | ⟨table, asName, _, on⟩ :: rest => by
    intro first second
    simp only [convertFrom, bind_some_iff, pure_some_iff] at first
    obtain ⟨_, _, first, rfl, rfl⟩ := first
    have advances := (((convertTable_advances asName table).advances first).append
      (Advances.dropped (writtenOption on))).append
      ((convertJoins_advances rest).advances second)
    rwa [List.append_nil] at advances

theorem convertOrders_advances : (orders : List ExternalOrder) →
    Converts (convertOrders orders) (writtenOrders orders) (orderedOrders orders)
      (walkOrders .text visitParameter)
  | [] => .pure rfl
  | ⟨expr, _⟩ :: rest =>
    (convertExpression_advances expr).pair (convertOrders_advances rest) fun _ _ => rfl

theorem convertCtes_advances : (ctes : List ExternalCte) →
    Converts (convertCtes ctes) (writtenCtes ctes) (orderedCtes ctes)
      (walkCtes .text visitParameter)
  | [] => .pure rfl
  | ⟨_, stmt, _⟩ :: rest =>
    (convertSelect_advances stmt).pair (convertCtes_advances rest) fun _ _ => rfl

theorem convertSetOperation_advances : (next : Option ExternalNext) →
    Converts (convertSetOperation next) (writtenNext next) (orderedNext next)
      (walkSetOperation .text visitParameter)
  | none => .pure rfl
  | some ⟨_, ast⟩ => (convertSelect_advances ast).map fun _ => rfl

theorem convertSelect_advances : (ast : ExternalSelect) →
    Converts (convertSelect ast) (writtenSelect ast) (orderedSelect ast)
      (walkSelect .text visitParameter)
  | ⟨ctes, distinct, columns, tables, condition, groupby, having, orderby,
      limit, offsetSeparator, next⟩ => by
      constructor
      intro before after value converted
      simp only [convertSelect, bind_some_iff, lift_some_iff, pure_some_iff]
        at converted
      obtain ⟨_, _, atCtes, _, _, atNext, _, _, atColumns, _, _, atFrom, _, _,
        atJoins, _, _, atWhere, _, _, atGroup, _, _, atHaving, _, _, atOrder,
        _, _, ⟨-, rfl⟩, rfl, rfl⟩ := converted
      have own := (((((((convertColumns_advances columns).advances atColumns).append
        (convertTables_advances tables atFrom atJoins)).append
        ((convertOption_advances condition).advances atWhere)).append
        ((convertExpressions_advances groupby).advances atGroup)).append
        ((convertOption_advances having).advances atHaving)).append
        ((convertOrders_advances orderby).advances atOrder)).append
        (Advances.dropped (writtenAll limit))
      have advances := ((convertCtes_advances ctes).advances atCtes).append
        (((convertSetOperation_advances next).advances atNext).swap own)
      simpa only [writtenSelect, orderedSelect, walkSelect, visitParameter,
        Option.getD_none, List.append_assoc, List.nil_append] using advances
end

end LagrangeDb.Query
