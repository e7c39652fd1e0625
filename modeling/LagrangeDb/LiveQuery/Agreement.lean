import Mathlib
import LagrangeDb.LiveQuery.Predicate
import LagrangeDb.LiveQuery.Sqlite

namespace LagrangeDb.LiveQuery

open Query

/-! Conditions on which the compiled predicate and SQLite agree. The predicate has two truth values
and no affinities. -/

inductive Kind where
  | stored
  | number
  | text
  | basic
  | plain
deriving DecidableEq

/-- No character takes two code units. -/
def isBasic (value : String) : Bool := (codePoints value).all fun code => code ≤ 65535

def isPlain (code : Nat) : Bool := code < 128 && !isLineTerminator code

namespace Kind

def admits : Kind → Js.Value → Bool
  | stored, .number value => value ≠ .nan
  | stored, .string _ => true
  | number, .number value => value ≠ .nan
  | text, .string _ => true
  | basic, .string value => isBasic value
  | plain, .string value => (codePoints value).all isPlain
  | _, _ => false

/-- A column of the affinity keeps the values of the kind as they are, and so does
a comparison with it. -/
def suits : Kind → Affinity → Bool
  | stored, _ => false
  | number, affinity => affinity ≠ .text
  | text, affinity | basic, affinity | plain, affinity => affinity ≠ .numeric

/-- The language has the values of the kind in the order that SQLite has them in. -/
def isOrdered : Kind → Bool
  | number | basic => true
  | _ => false

end Kind

structure Domain where
  kind : Kind
  nullable : Bool
deriving DecidableEq

def Domain.admits (domain : Domain) (value : Js.Value) : Bool :=
  (domain.nullable && value = .null) || domain.kind.admits value

structure Shape where
  columns : List TableColumn
  domain : String → Domain
  named : ∀ column ∈ columns, column.name.isEmpty = false
  distinct : ∀ column ∈ columns, ∀ other ∈ columns,
    column.name.toLower = other.name.toLower → column = other

namespace Shape

variable (shape : Shape)

/-- The row stands for a full row of the table: it has its columns, and no name
that is not visible. -/
structure Reads (visible : List String) (row full : Row) : Prop where
  same : ∀ column ∈ shape.columns, row.get column.name = full.get column.name
  admitted : ∀ column ∈ shape.columns,
    (shape.domain column.name).admits (full.get column.name) = true
  hidden : ∀ name, name ∉ visible → row.get name = .undefined

inductive Operand (visible : List String) (domain : Domain) : Expr → Prop where
  | literal (value : Js.Value) : domain.kind.admits value = true →
      Operand visible domain (.literal value)
  | column (qualifier : Option String) (column : TableColumn) :
      column ∈ shape.columns →
      (∀ value, (shape.domain column.name).admits value = true → domain.admits value = true) →
      (domain.kind = .stored ∨ domain.kind.suits column.affinity = true) →
      (∀ table, qualifier = some table → table ∉ visible) →
      Operand visible domain (.columnRef qualifier column.name)

/-- What the language answers where a null, which counts as zero, is compared with a
bound. -/
def NullAnswers : BinaryOperator → Js.Number → Bool
  | .less, bound => Js.Number.less (.finite 0) bound
  | .lessOrEqual, bound => Js.Number.lessOrEqual (.finite 0) bound
  | .greater, bound => bound.less (.finite 0)
  | .greaterOrEqual, bound => bound.lessOrEqual (.finite 0)
  | _, _ => false

/-- Conditions on which the predicate agrees; those that are certain are never
unknown. A parameter is never such a condition: it is read from the place of the
parameter before it. -/
inductive Agreeable (visible : List String) : Bool → Expr → Prop where
  | equals (kind : Kind) (first second : Bool) :
      kind ≠ .stored → (first && second) = false →
      shape.Operand visible ⟨kind, first⟩ left →
      shape.Operand visible ⟨kind, second⟩ right →
      Agreeable visible (!(first || second)) (.binary .equals left right)
  | notEquals (kind : Kind) : kind ≠ .stored →
      shape.Operand visible ⟨kind, false⟩ left →
      shape.Operand visible ⟨kind, false⟩ right →
      Agreeable visible true (.binary .notEquals left right)
  | ordered (operator : BinaryOperator) (kind : Kind) :
      operator ∈ [.less, .lessOrEqual, .greater, .greaterOrEqual] → kind.isOrdered = true →
      shape.Operand visible ⟨kind, false⟩ left →
      shape.Operand visible ⟨kind, false⟩ right →
      Agreeable visible true (.binary operator left right)
  | orderedNull (operator : BinaryOperator) (kind : Kind) (bound : Js.Value) :
      operator ∈ [.less, .lessOrEqual, .greater, .greaterOrEqual] → kind.isOrdered = true →
      shape.Operand visible ⟨kind, true⟩ left → kind.admits bound = true →
      NullAnswers operator bound.toNumber = false →
      Agreeable visible false (.binary operator left (.literal bound))
  | nullTest (negated : Bool) :
      shape.Operand visible ⟨.stored, true⟩ operand →
      Agreeable visible true (.nullTest operand negated)
  | inList (domain : Domain) :
      domain.kind ≠ .stored → shape.Operand visible domain expression →
      (∀ value ∈ values, shape.Operand visible domain value) →
      Agreeable visible (!domain.nullable) (.inList expression values false)
  | between (nullable : Bool) (kind : Kind) : kind.isOrdered = true →
      shape.Operand visible ⟨kind, nullable⟩ expression →
      shape.Operand visible ⟨kind, nullable⟩ low →
      shape.Operand visible ⟨kind, nullable⟩ high →
      Agreeable visible (!nullable) (.between expression low high)
  | like (nullable : Bool) :
      shape.Operand visible ⟨.plain, nullable⟩ expression →
      shape.Operand visible ⟨.plain, nullable⟩ pattern →
      Agreeable visible (!nullable) (.like expression pattern false)
  | and :
      Agreeable visible first left → Agreeable visible second right →
      Agreeable visible (first && second) (.binary .and left right)
  | or :
      Agreeable visible first left → Agreeable visible second right →
      Agreeable visible (first && second) (.binary .or left right)
  | not : Agreeable visible true operand →
      Agreeable visible true (.unary .not operand)

end Shape

/-- The documented case folding of a regular expression, on ASCII. -/
def RegExpEngine.FoldsAscii (regExp : RegExpEngine) : Prop :=
  ∀ code, code < 128 → regExp.canonicalize code = asciiUpper code

variable {left right : Js.Number}

theorem less_irrefl_of_eq (same : left = right) : left.less right = false := by
  subst same
  cases left with
  | nan => rfl
  | infinite negative => cases negative <;> rfl
  | finite value => simp [Js.Number.less]

theorem less_asymm (less : left.less right = true) : right.less left = false := by
  cases left <;> cases right <;>
    simp_all [Js.Number.less, le_of_lt]

theorem eq_of_not_less (known : left ≠ .nan) (other : right ≠ .nan)
    (below : left.less right = false) (above : right.less left = false) : left = right := by
  cases left with
  | nan => exact absurd rfl known
  | infinite first => cases right with
    | nan => exact absurd rfl other
    | infinite second => cases first <;> cases second <;> simp_all [Js.Number.less]
    | finite value => cases first <;> simp_all [Js.Number.less]
  | finite value => cases right with
    | nan => exact absurd rfl other
    | infinite second => cases second <;> simp_all [Js.Number.less]
    | finite second =>
      simp only [Js.Number.less, decide_eq_false_iff_not, not_lt] at below above
      rw [le_antisymm above below]

theorem order_numbers (known : left ≠ .nan) (other : right ≠ .nan) : ∃ ordering,
      Sqlite.order (.number left) (.number right) = some ordering ∧
        ordering.isEq = left.equals right ∧ ordering.isEq = right.equals left ∧
        ordering.isLT = left.less right ∧ ordering.isGT = right.less left := by
  have equal : ∀ {one two : Js.Number}, one ≠ .nan →
      one.equals two = decide (one = two) := by
    intro one two known
    cases one <;> simp_all [Js.Number.equals]
  refine ⟨_, rfl, ?_⟩
  rw [equal known, equal other]
  cases below : left.less right with
  | true =>
    have differ : left ≠ right := by
      intro same
      rw [less_irrefl_of_eq same] at below
      exact absurd below Bool.false_ne_true
    simp [less_asymm below, differ, differ.symm]
  | false =>
    cases above : right.less left with
    | true =>
      have differ : left ≠ right := by
        intro same
        rw [less_irrefl_of_eq same.symm] at above
        exact absurd above Bool.false_ne_true
      simp [differ, differ.symm]
    | false => simp [eq_of_not_less known other below above]

variable {operator : BinaryOperator}

theorem holds_numbers (known : left ≠ .nan) (other : right ≠ .nan)
    (compares : operator ∈ [BinaryOperator.equals, .notEquals] ++
      [.less, .lessOrEqual, .greater, .greaterOrEqual]) :
    (Sqlite.order (.number left) (.number right)).bind (Sqlite.holds operator) =
      some (compareWith operator (.number left) (.number right)) := by
  obtain ⟨ordering, found, equal, equal', below, above⟩ := order_numbers known other
  rw [found, Option.bind_some]
  cases operator <;>
    simp only [compareWith, Js.Value.strictEquals, Js.Value.less,
      Js.Value.lessOrEqual, Js.Value.toNumber, Js.Number.lessOrEqual, ← below,
      ← above, ← equal, ← equal', Sqlite.holds] <;>
    cases ordering <;> first | rfl | simp at compares

theorem holds_texts {left right : String}
    (compares : operator ∈ [BinaryOperator.equals, .notEquals]) :
    (Sqlite.order (.string left) (.string right)).bind (Sqlite.holds operator) =
      some (compareWith operator (.string left) (.string right)) := by
  have same : (compareOfLessAndEq left right).isEq = decide (left = right) := by
    unfold compareOfLessAndEq
    split
    next below =>
      have differ : left ≠ right := by
        rintro rfl
        exact String.lt_irrefl left below
      simp [differ]
    · split <;> simp_all
  simp only [List.mem_cons, List.not_mem_nil, or_false] at compares
  rcases compares with rfl | rfl
  · simp [Sqlite.order, Sqlite.holds, compareWith, Js.Value.strictEquals, same]
  have negated : ∀ ordering : Ordering, ordering.isNe = !ordering.isEq := by
    intro ordering
    cases ordering <;> rfl
  simp [Sqlite.order, Sqlite.holds, compareWith, Js.Value.strictEquals, negated, same]

theorem utf16_basic {value : String} (basic : isBasic value = true) :
    Js.utf16 value = codePoints value := by
  rw [isBasic, codePoints] at basic
  rw [Js.utf16, codePoints]
  generalize value.toList = characters at basic
  induction characters with
  | nil => rfl
  | cons character rest induction =>
    simp only [List.map_cons, List.all_cons, Bool.and_eq_true, decide_eq_true_eq] at basic
    rw [List.flatMap_cons, induction basic.2, Js.codeUnits, if_pos basic.1,
      List.map_cons, List.singleton_append]

theorem codePoints_lt_iff (left right : String) :
    codePoints left < codePoints right ↔ left < right := by
  rw [codePoints, codePoints, String.lt_iff_toList_lt]
  generalize left.toList = lefts
  generalize right.toList = rights
  induction lefts generalizing rights with
  | nil => cases rights <;> simp
  | cons left lefts induction =>
    cases rights with
    | nil => simp
    | cons right rights =>
      simp only [List.map_cons, List.cons_lt_cons_iff, induction, Char.toNat_inj]
      rfl

theorem less_basic {left right : String} (basic : isBasic left = true) (basicRight : isBasic right = true) :
    Js.Value.less (.string left) (.string right) = decide (left < right) := by
  rw [Js.Value.less, utf16_basic basic, utf16_basic basicRight]
  exact decide_eq_decide.mpr (codePoints_lt_iff left right)

theorem lessOrEqual_basic {left right : String} (basic : isBasic left = true) (basicRight : isBasic right = true) :
    Js.Value.lessOrEqual (.string left) (.string right) = decide (left ≤ right) := by
  rw [Js.Value.lessOrEqual, utf16_basic basic, utf16_basic basicRight]
  refine decide_eq_decide.mpr ?_
  rw [← not_lt, ← not_lt, codePoints_lt_iff]

theorem holds_basic {left right : String}
    (compares : operator ∈ [BinaryOperator.equals, .notEquals] ++
      [.less, .lessOrEqual, .greater, .greaterOrEqual])
    (basic : isBasic left = true) (basicRight : isBasic right = true) :
    (Sqlite.order (.string left) (.string right)).bind (Sqlite.holds operator) =
      some (compareWith operator (.string left) (.string right)) := by
  have ordering : compareOfLessAndEq left right = cmp left right := by
    unfold compareOfLessAndEq cmp cmpUsing
    rcases lt_trichotomy left right with below | rfl | above
    · simp [below]
    · simp
    · simp [above, above.not_gt, above.ne']
  rw [Sqlite.order, ordering, Option.bind_some]
  have order := cmp_compares left right
  cases operator with
  | equals | notEquals =>
    cases found : cmp left right <;> rw [found] at order <;>
      simp_all [Sqlite.holds, compareWith, Js.Value.strictEquals, Ordering.Compares,
        ne_of_lt, ne_of_gt]
  | less | lessOrEqual | greater | greaterOrEqual =>
    simp only [compareWith, less_basic basic basicRight, less_basic basicRight basic,
      lessOrEqual_basic basic basicRight, lessOrEqual_basic basicRight basic]
    cases found : cmp left right <;> rw [found] at order <;>
      simp_all [Sqlite.holds, Ordering.Compares, le_of_lt, not_lt_of_gt, not_le_of_gt]
  | _ => simp at compares

theorem utf16_plain {value : String} (plain : (codePoints value).all isPlain) :
    Js.utf16 value = codePoints value := by
  refine utf16_basic (List.all_eq_true.mpr fun code member => ?_)
  have := List.all_eq_true.mp plain code member
  simp only [isPlain, Bool.and_eq_true, decide_eq_true_eq] at this ⊢
  omega

theorem isLineTerminator_asciiUpper (plain : isPlain code = true) :
    isLineTerminator (asciiUpper code) = false := by
  simp only [isPlain, isLineTerminator, Bool.and_eq_true, decide_eq_true_eq,
    Bool.not_eq_true', Bool.or_eq_false_iff, decide_eq_false_iff_not] at plain ⊢
  simp only [asciiUpper, Bool.and_eq_true, decide_eq_true_eq]
  split <;> omega

variable {text : List Nat}

theorem afterRuns_of_plain (plain : ∀ code ∈ text, isPlain code = true) :
    afterRuns (text.map asciiUpper) = text.tails.map (List.map asciiUpper) := by
  induction text with
  | nil => rfl
  | cons code rest induction =>
    rw [List.map_cons, afterRuns, isLineTerminator_asciiUpper (plain code List.mem_cons_self),
      List.tails_cons, List.map_cons, List.map_cons,
      ← induction fun other member => plain other (List.mem_cons_of_mem _ member)]
    rfl

theorem asciiUpper_wildcard (either : wildcard = 37 ∨ wildcard = 95) :
    asciiUpper code = wildcard ↔ code = wildcard := by
  simp only [asciiUpper, Bool.and_eq_true, decide_eq_true_eq]
  split <;> omega

theorem likeMatches_eq {pattern : List Nat} (plain : ∀ code ∈ text, isPlain code = true) :
    likeMatches (pattern.map asciiUpper) (text.map asciiUpper) =
      Sqlite.likeMatches pattern text := by
  induction pattern generalizing text with
  | nil => simp [likeMatches, Sqlite.likeMatches]
  | cons code pattern induction =>
    rw [List.map_cons]
    by_cases percent : code = 37
    · subst percent
      rw [show asciiUpper 37 = 37 from rfl, likeMatches, Sqlite.likeMatches,
        afterRuns_of_plain plain, List.any_map, Bool.eq_iff_iff,
        List.any_eq_true, List.any_eq_true]
      refine exists_congr fun rest => and_congr_right fun member => ?_
      rw [Function.comp_apply, induction fun other among =>
        plain other ((List.mem_tails _ _ |>.mp member).mem among)]
    · by_cases underscore : code = 95
      · subst underscore
        rw [show asciiUpper 95 = 95 from rfl]
        cases text with
        | nil => rfl
        | cons unit rest =>
          rw [List.map_cons, likeMatches, Sqlite.likeMatches,
            isLineTerminator_asciiUpper (plain unit List.mem_cons_self),
            induction fun other among => plain other (List.mem_cons_of_mem _ among)]
          rfl
      · have notPercent : asciiUpper code ≠ 37 := by
          rw [Ne, asciiUpper_wildcard (.inl rfl)]
          exact percent
        have notUnderscore : asciiUpper code ≠ 95 := by
          rw [Ne, asciiUpper_wildcard (.inr rfl)]
          exact underscore
        cases text with
        | nil => rw [List.map_nil, likeMatches, Sqlite.likeMatches] <;> assumption
        | cons unit rest =>
          rw [List.map_cons, likeMatches, Sqlite.likeMatches,
            induction fun other among => plain other (List.mem_cons_of_mem _ among)] <;> assumption

variable {regExp : RegExpEngine}

theorem likeTest_eq (folds : regExp.FoldsAscii) {pattern value : String}
    (first : (codePoints pattern).all isPlain)
    (second : (codePoints value).all isPlain) : likeTest regExp pattern value =
      Sqlite.likeMatches (codePoints pattern) (codePoints value) := by
  have folded : ∀ codes : List Nat, codes.all isPlain →
      codes.map regExp.canonicalize = codes.map asciiUpper := by
    intro codes plain
    apply List.map_congr_left
    intro code member
    apply folds
    have := List.all_eq_true.mp plain code member
    simp only [isPlain, Bool.and_eq_true, decide_eq_true_eq] at this
    exact this.1
  rw [likeTest, utf16_plain first, utf16_plain second, folded _ first, folded _ second]
  exact likeMatches_eq (List.all_eq_true.mp second)

variable {domain : Domain}

theorem Domain.admits_iff {value : Js.Value} : domain.admits value = true ↔
      (domain.nullable = true ∧ value = .null) ∨ domain.kind.admits value = true := by
  simp [admits]

theorem Domain.nullable_of_null (admitted : domain.admits .null = true) :
    domain.nullable = true := by
  obtain ⟨kind, nullable⟩ := domain
  cases kind <;> simpa [admits, Kind.admits] using admitted

variable {kind : Kind}

theorem Kind.not_null {value : Js.Value} (admitted : kind.admits value = true) :
    value.isNullish = false := by
  cases value <;> cases kind <;> simp_all [Kind.admits, Js.Value.isNullish]

theorem Sqlite.bound_of_admits {value : Js.Value}
    (admitted : kind.admits value = true) : Sqlite.bound value = value := by
  cases value <;> cases kind <;> simp_all [Kind.admits, Sqlite.bound]

section

variable {sqlite : Sqlite} {kind : Kind}

theorem underAffinity_eq {value : Js.Value} (suits : kind.suits affinity = true)
    (admitted : value = .null ∨ kind.admits value = true) :
    sqlite.underAffinity affinity value = value := by
  rcases admitted with rfl | admitted
  · cases affinity <;> rfl
  · cases kind <;> cases affinity <;> cases value <;>
      simp_all [Kind.suits, Kind.admits, Sqlite.underAffinity]

variable {left right : Affinity} (first : kind.suits left = true)
  (second : kind.suits right = true) {one other : Js.Value}

include first second

theorem comparands_eq (admitted : one = .null ∨ kind.admits one = true)
    (admittedOther : other = .null ∨ kind.admits other = true) :
    sqlite.comparands left right one other = (one, other) := by
  cases left <;> cases right <;>
    simp [Sqlite.comparands, underAffinity_eq first, underAffinity_eq second,
      admitted, admittedOther]

theorem compare_null (operator : BinaryOperator) (admitted : one = .null ∨ kind.admits one = true)
    (admittedOther : other = .null ∨ kind.admits other = true)
    (null : one = .null ∨ other = .null) : sqlite.compare operator left right one other = none := by
  rw [Sqlite.compare, comparands_eq first second admitted admittedOther]
  rcases null with rfl | rfl
  · rfl
  · cases one <;> rfl

theorem compare_known (known : operator ∈ [.equals, .notEquals] ∨ kind.isOrdered = true ∧ operator ∈
      [.less, .lessOrEqual, .greater, .greaterOrEqual]) (admitted : kind.admits one = true)
    (admittedOther : kind.admits other = true) : sqlite.compare operator left right one other =
      some (compareWith operator one other) := by
  rw [Sqlite.compare, comparands_eq first second (.inr admitted) (.inr admittedOther)]
  cases one with
  | undefined | null | boolean => cases kind <;> simp [Kind.admits] at admitted
  | number one => cases other with
    | undefined | null | boolean => cases kind <;> simp [Kind.admits] at admittedOther
    | string other => cases kind <;> simp_all [Kind.admits, Kind.suits]
    | number other =>
      have some₁ : one ≠ .nan := by
        rintro rfl
        cases kind <;> simp [Kind.admits] at admitted
      have some₂ : other ≠ .nan := by
        rintro rfl
        cases kind <;> simp [Kind.admits] at admittedOther
      apply holds_numbers some₁ some₂
      rcases known with known | known
      · exact List.mem_append_left _ known
      · exact List.mem_append_right [.equals, .notEquals] known.2
  | string one => cases other with
    | undefined | null | boolean => cases kind <;> simp [Kind.admits] at admittedOther
    | number other => cases kind <;> simp_all [Kind.admits, Kind.suits]
    | string other =>
      rcases known with known | ⟨ordered, known⟩
      · exact holds_texts known
      · cases kind with
        | basic => exact holds_basic (List.mem_append_right _ known) admitted admittedOther
        | number => simp [Kind.admits] at admitted
        | _ => cases ordered

end

namespace Shape

variable {shape : Shape} {visible : List String}

theorem columnNamed_eq {column : TableColumn} (member : column ∈ shape.columns) :
    Sqlite.columnNamed shape.columns column.name = some column := by
  rw [Sqlite.columnNamed]
  cases found : shape.columns.find? fun other =>
      other.name.toLower = column.name.toLower with
  | none =>
    have := List.find?_eq_none.mp found column member
    simp at this
  | some other =>
    have among := List.mem_of_find?_eq_some found
    have named := List.find?_some found
    rw [shape.distinct other among column member (by simpa using named)]

variable {domain : Domain}

theorem Operand.suits (operand : shape.Operand visible domain expression)
    (compared : domain.kind ≠ .stored) :
    domain.kind.suits (Sqlite.affinityOf shape.columns expression) = true := by
  cases operand with
  | literal value admitted =>
    obtain ⟨kind, nullable⟩ := domain
    cases kind <;> first | rfl | exact absurd rfl compared
  | column qualifier column member within suits unseen =>
    rw [Sqlite.affinityOf, columnNamed_eq member]
    exact suits.resolve_left compared

theorem Operand.value (operand : shape.Operand visible domain expression)
    (reads : shape.Reads visible row full) (sqlite : Sqlite)
    (regExp : RegExpEngine) (params : List Js.Value) : ∃ value,
      evaluateExpression regExp row params expression = value ∧
        sqlite.evaluate shape.columns params full expression = value ∧
        domain.admits value = true := by
  cases operand with
  | literal value admitted =>
    refine ⟨value, by rw [evaluateExpression], ?_,
      Domain.admits_iff.mpr (.inr admitted)⟩
    rw [Sqlite.evaluate, Sqlite.bound_of_admits admitted]
  | column qualifier column member within suits unseen =>
    refine ⟨full.get column.name, ?_, ?_, within _ (reads.admitted column member)⟩
    · rw [evaluateExpression, ← reads.same column member]
      cases qualifier with
      | none => simp [getColumnValue, shape.named column member]
      | some table =>
        simp [getColumnValue, shape.named column member,
          reads.hidden table (unseen table rfl), Js.Value.truthy]
    · rw [Sqlite.evaluate, columnNamed_eq member]
      rfl

end Shape

/-- The predicate answers true where the condition is true, and the condition is
known if it is certain. -/
def Agrees (answer : Bool) (condition : Option Bool) (certain : Bool) : Prop :=
  (answer = true ↔ condition = some true) ∧ (certain = true → condition ≠ none)

namespace Agrees

variable {left right : Bool} {first second : Option Bool} {one other : Bool}

theorem of_known (answer certain : Bool) : Agrees answer (some answer) certain := by simp [Agrees]

theorem of_unknown : Agrees false none false := by simp [Agrees]

theorem known (agrees : Agrees left first one) (also : Agrees right second other)
    (certain : (one && other) = true) :
    ∃ found found', first = some found ∧ second = some found' := by
  rw [Bool.and_eq_true] at certain
  obtain ⟨found, isFound⟩ := Option.ne_none_iff_exists'.mp (agrees.2 certain.1)
  obtain ⟨found', isFound'⟩ := Option.ne_none_iff_exists'.mp (also.2 certain.2)
  exact ⟨found, found', isFound, isFound'⟩

theorem and (agrees : Agrees left first one) (also : Agrees right second other) :
    Agrees (left && right) (Truth.and first second) (one && other) := by
  refine ⟨?_, fun certain => ?_⟩
  · rw [Bool.and_eq_true, Truth.and_eq_true, agrees.1, also.1]
  obtain ⟨found, found', rfl, rfl⟩ := agrees.known also certain
  cases found <;> cases found' <;> simp [Truth.and]

theorem or (agrees : Agrees left first one) (also : Agrees right second other) :
    Agrees (left || right) (Truth.or first second) (one && other) := by
  refine ⟨?_, fun certain => ?_⟩
  · rw [Bool.or_eq_true, Truth.or_eq_true, agrees.1, also.1]
  obtain ⟨found, found', rfl, rfl⟩ := agrees.known also certain
  cases found <;> cases found' <;> simp [Truth.or]

theorem not (agrees : Agrees left first true) : Agrees (!left) (Truth.not first) true := by
  have known := agrees.2 rfl
  cases first with
  | none => exact absurd rfl known
  | some first =>
    have same : left = first := by rw [Bool.eq_iff_iff, agrees.1, Option.some.injEq]
    subst same
    exact of_known (!left) true

end Agrees

section

variable {sqlite : Sqlite} {kind : Kind} {left right : Affinity}
  (first : kind.suits left = true) (second : kind.suits right = true)
  {nullable nullableOther : Bool} {one other : Js.Value}
  (admitted : (Domain.mk kind nullable).admits one = true)
  (admittedOther : (Domain.mk kind nullableOther).admits other = true)

include first second admitted admittedOther

theorem compare_agrees
    (known : operator ∈ [.equals, .notEquals] ∨ kind.isOrdered = true ∧ operator ∈
      [.less, .lessOrEqual, .greater, .greaterOrEqual])
    (rejects : one = .null ∨ other = .null → answer = false)
    (answers : kind.admits one = true → kind.admits other = true →
      answer = compareWith operator one other) :
    Agrees answer (sqlite.compare operator left right one other)
      (!(nullable || nullableOther)) := by
  rcases Domain.admits_iff.mp admitted with ⟨null, rfl⟩ | valued
  · rw [compare_null first second operator (.inl rfl)
      ((Domain.admits_iff.mp admittedOther).imp_left And.right) (.inl rfl),
      rejects (.inl rfl), show nullable = true from null]
    exact Agrees.of_unknown
  rcases Domain.admits_iff.mp admittedOther with ⟨null, rfl⟩ | valuedOther
  · rw [compare_null first second operator (.inr valued) (.inl rfl) (.inr rfl),
      rejects (.inr rfl), show nullableOther = true from null, Bool.or_true]
    exact Agrees.of_unknown
  · rw [compare_known first second known valued valuedOther, answers valued valuedOther]
    exact Agrees.of_known _ _

end

theorem strictEquals_null {value : Js.Value} (present : value ≠ .null) :
    Js.Value.null.strictEquals value = false ∧ value.strictEquals .null = false := by
  cases value with
  | null => exact absurd rfl present
  | _ => exact ⟨rfl, rfl⟩

theorem strictEquals_eq {left right : Js.Value} (admitted : kind.admits left = true) :
    left.strictEquals right = decide (left = right) := by
  cases left with
  | number left =>
    have known : left ≠ .nan := by
      rintro rfl
      cases kind <;> simp [Kind.admits] at admitted
    cases right with
    | number right => cases left <;> simp_all [Js.Value.strictEquals, Js.Number.equals]
    | _ => simp [Js.Value.strictEquals]
  | _ => simp [Js.Value.strictEquals]

variable {sqlite : Sqlite}

theorem isIn_agrees {value : Js.Value} (compared : domain.kind ≠ .stored)
    (suits : domain.kind.suits affinity = true) (admitted : domain.admits value = true)
    (allAdmitted : ∀ member ∈ members, domain.admits member = true) :
    Agrees (evaluateInExpression value members)
      (sqlite.isIn affinity value members) (!domain.nullable) := by
  have plain : domain.kind.suits .blob = true := by
    cases kind : domain.kind with
    | stored => exact absurd kind compared
    | _ => rfl
  induction members with
  | nil =>
    rw [evaluateInExpression, List.any_nil, Bool.and_false]
    exact Agrees.of_known false _
  | cons member rest induction =>
    have head : Agrees (!value.isNullish && member.sameValueZero value)
        (sqlite.compare .equals affinity .blob value member)
        (!(domain.nullable || domain.nullable)) := by
      apply compare_agrees suits plain admitted
        (allAdmitted member List.mem_cons_self) (.inl List.mem_cons_self)
      · rintro (rfl | rfl)
        · rfl
        · cases value <;> simp [Js.Value.isNullish, Js.Value.sameValueZero]
      intro valued valuedMember
      rw [Kind.not_null valued, compareWith, strictEquals_eq valued,
        Js.Value.sameValueZero, Bool.not_false, Bool.true_and]
      exact decide_eq_decide.mpr eq_comm
    have both := head.or (induction fun other among =>
      allAdmitted other (List.mem_cons_of_mem _ among))
    rw [Bool.or_self, Bool.and_self] at both
    rw [evaluateInExpression, List.any_cons, Bool.and_or_distrib_left]
    exact both

variable {nullable : Bool}

theorem between_agrees (isOrdered : kind.isOrdered = true)
    (suits : kind.suits affinity = true) (suitsLow : kind.suits lowAffinity = true)
    (suitsHigh : kind.suits highAffinity = true) {value low high : Js.Value}
    (admitted : (Domain.mk kind nullable).admits value = true)
    (admittedLow : (Domain.mk kind nullable).admits low = true)
    (admittedHigh : (Domain.mk kind nullable).admits high = true) :
    Agrees (evaluateBetweenExpression value low high) (Truth.and
        (sqlite.compare .greaterOrEqual affinity lowAffinity value low)
        (sqlite.compare .lessOrEqual affinity highAffinity value high)) (!nullable) := by
  have side : ∀ {bound : Js.Value} {boundAffinity : Affinity} (operator),
      operator ∈ [.less, .lessOrEqual, .greater, .greaterOrEqual] →
      kind.suits boundAffinity = true →
      (Domain.mk kind nullable).admits bound = true →
      Agrees (!value.isNullish && bound ≠ .null && compareWith operator value bound)
        (sqlite.compare operator affinity boundAffinity value bound)
        (!(nullable || nullable)) := by
    intro bound boundAffinity operator orders suitsBound admittedBound
    apply compare_agrees suits suitsBound admitted admittedBound (.inr ⟨isOrdered, orders⟩)
    · rintro (rfl | rfl) <;> simp [Js.Value.isNullish]
    intro valued valuedBound
    have present : bound ≠ .null := by
      rintro rfl
      cases Kind.not_null valuedBound
    simp [Kind.not_null valued, present]
  have above := side .greaterOrEqual (by decide) suitsLow admittedLow
  have below := side .lessOrEqual (by decide) suitsHigh admittedHigh
  have both := above.and below
  rw [Bool.or_self, Bool.and_self] at both
  have same : evaluateBetweenExpression value low high =
      ((!value.isNullish && low ≠ .null && compareWith .greaterOrEqual value low) &&
        (!value.isNullish && high ≠ .null && compareWith .lessOrEqual value high)) := by
    simp only [evaluateBetweenExpression, compareWith]
    cases value.isNullish <;> cases decide (low ≠ .null) <;>
      cases decide (high ≠ .null) <;> simp
  rwa [same]

theorem like_agrees (folds : regExp.FoldsAscii) {value pattern : Js.Value}
    (admitted : (Domain.mk .plain nullable).admits value = true)
    (admittedPattern : (Domain.mk .plain nullable).admits pattern = true) :
    Agrees (evaluateLikeExpression regExp value pattern)
      (sqlite.isLike value pattern) (!nullable) := by
  rcases Domain.admits_iff.mp admitted with ⟨null, rfl⟩ | valued
  · rw [show nullable = true from null]
    exact Agrees.of_unknown
  cases value with
  | string value =>
    rcases Domain.admits_iff.mp admittedPattern with ⟨null, rfl⟩ | valuedPattern
    · rw [show nullable = true from null]
      exact Agrees.of_unknown
    cases pattern with
    | string pattern =>
      rw [evaluateLikeExpression, likeTest_eq folds valuedPattern valued]
      exact Agrees.of_known _ _
    | _ => simp [Kind.admits] at valuedPattern
  | _ => simp [Kind.admits] at valued

namespace Shape

variable {shape : Shape} {visible : List String}

theorem Operand.compare_agrees {nullableOther : Bool} {left right : Expr}
    (one : shape.Operand visible ⟨kind, nullable⟩ left)
    (other : shape.Operand visible ⟨kind, nullableOther⟩ right)
    (compared : kind ≠ .stored) (reads : shape.Reads visible row full)
    (sqlite : Sqlite) (regExp : RegExpEngine) (params : List Js.Value)
    (known : operator ∈ [.equals, .notEquals] ∨ kind.isOrdered = true ∧ operator ∈
      [.less, .lessOrEqual, .greater, .greaterOrEqual])
    (rejects : nullable || nullableOther → operator = .equals ∧
      (nullable && nullableOther) = false) : Agrees
      (evaluateExpression regExp row params (.binary operator left right)).truthy
      (sqlite.condition shape.columns params full (.binary operator left right))
      (!(nullable || nullableOther)) := by
  obtain ⟨value, js, sql, admitted⟩ := one.value reads sqlite regExp params
  obtain ⟨value', js', sql', admitted'⟩ := other.value reads sqlite regExp params
  have simple : operator ≠ .and ∧ operator ≠ .or := by constructor <;> rintro rfl <;> simp at known
  rw [evaluateExpression, Sqlite.condition, Sqlite.evaluate, Sqlite.truth_toValue,
    js, js', sql, sql']
  · refine LiveQuery.compare_agrees (one.suits compared) (other.suits compared)
      admitted admitted' known ?_ fun _ _ => rfl
    -- Only an equation meets a null, and only on one side.
    intro null
    have first : value = .null → nullable = true := by
      rintro rfl
      exact Domain.nullable_of_null admitted
    have second : value' = .null → nullableOther = true := by
      rintro rfl
      exact Domain.nullable_of_null admitted'
    obtain ⟨rfl, one_side⟩ := rejects (Bool.or_eq_true _ _ ▸ null.imp first second)
    have differ : value ≠ value' := by
      rintro rfl
      rw [or_self] at null
      simp [first null, second null] at one_side
    rcases null with rfl | rfl
    · exact (strictEquals_null differ.symm).1
    · exact (strictEquals_null differ).2
  all_goals first | exact simple.1 | exact simple.2

theorem compareWith_null {bound : Js.Value}
    (compares : operator ∈ [.less, .lessOrEqual, .greater, .greaterOrEqual]) :
    compareWith operator .null bound = NullAnswers operator bound.toNumber := by
  simp only [List.mem_cons, List.not_mem_nil, or_false] at compares
  rcases compares with rfl | rfl | rfl | rfl <;> cases bound <;> rfl

theorem Operand.orderedNull_agrees {bound : Js.Value} {left : Expr}
    (operand : shape.Operand visible ⟨kind, true⟩ left)
    (compares : operator ∈ [.less, .lessOrEqual, .greater, .greaterOrEqual])
    (isOrdered : kind.isOrdered = true) (admitted : kind.admits bound = true)
    (rejects : NullAnswers operator bound.toNumber = false) (reads : shape.Reads visible row full)
    (sqlite : Sqlite) (regExp : RegExpEngine) (params : List Js.Value) : Agrees
      (evaluateExpression regExp row params (.binary operator left (.literal bound))).truthy
      (sqlite.condition shape.columns params full (.binary operator left (.literal bound)))
      false := by
  have compared : kind ≠ .stored := by
    rintro rfl
    cases isOrdered
  obtain ⟨value, js, sql, isValue⟩ := operand.value reads sqlite regExp params
  have literal : shape.Operand visible ⟨kind, false⟩ (.literal bound) := .literal bound admitted
  have simple : operator ≠ .and ∧ operator ≠ .or := by
    constructor <;> rintro rfl <;> simp at compares
  rw [evaluateExpression, Sqlite.condition, Sqlite.evaluate, Sqlite.truth_toValue, js, sql,
    evaluateExpression, Sqlite.evaluate, Sqlite.bound_of_admits admitted]
  · refine LiveQuery.compare_agrees (operand.suits compared) (literal.suits compared) isValue
      (Domain.admits_iff.mpr (.inr admitted) : (Domain.mk kind false).admits bound = true)
      (.inr ⟨isOrdered, compares⟩) ?_ fun _ _ => rfl
    rintro (rfl | rfl)
    · exact (compareWith_null compares).trans rejects
    · cases Kind.not_null admitted
  all_goals first | exact simple.1 | exact simple.2

theorem Agreeable.sound {certain : Bool} {expression : Expr}
    (agreeable : shape.Agreeable visible certain expression) (reads : shape.Reads visible row full)
    (sqlite : Sqlite) (folds : regExp.FoldsAscii) (params : List Js.Value) :
    Agrees (evaluateExpression regExp row params expression).truthy
      (sqlite.condition shape.columns params full expression) certain := by
  induction agreeable with
  | equals kind first second compared either one other =>
    exact one.compare_agrees other compared reads sqlite regExp params
      (.inl List.mem_cons_self) fun _ => ⟨rfl, either⟩
  | notEquals kind compared one other =>
    exact one.compare_agrees other compared reads sqlite regExp params
      (.inl (List.mem_cons_of_mem _ List.mem_cons_self))
      fun null => absurd null Bool.false_ne_true
  | ordered operator kind compares isOrdered one other =>
    exact one.compare_agrees other (by rintro rfl; cases isOrdered) reads sqlite regExp params
      (.inr ⟨isOrdered, compares⟩) fun null => absurd null Bool.false_ne_true
  | orderedNull operator kind bound compares isOrdered operand admitted rejects =>
    exact operand.orderedNull_agrees compares isOrdered admitted rejects reads sqlite regExp params
  | nullTest negated operand =>
    obtain ⟨value, js, sql, admitted⟩ := operand.value reads sqlite regExp params
    rw [evaluateExpression, Sqlite.condition, Sqlite.evaluate, Sqlite.truth_toValue, js, sql]
    have nullish : (value == .null) = value.isNullish := by
      cases value <;>
        simp_all [Domain.admits, Kind.admits, Js.Value.isNullish]
    rw [nullish]
    exact Agrees.of_known _ _
  | @inList expression values domain compared operand members =>
    obtain ⟨value, js, sql, admitted⟩ := operand.value reads sqlite regExp params
    have same : values.map (sqlite.evaluate shape.columns params full) =
        values.map (evaluateExpression regExp row params) := by
      apply List.map_congr_left
      intro member among
      obtain ⟨value, js, sql, -⟩ := (members member among).value reads sqlite regExp params
      rw [js, sql]
    rw [evaluateExpression, Sqlite.condition, Sqlite.evaluate,
      Sqlite.truth_toValue, js, sql, evaluateExpressions_eq_map,
      Sqlite.evaluateAll_eq_map, same]
    apply isIn_agrees compared (operand.suits compared) admitted
    intro member among
    obtain ⟨source, present, rfl⟩ := List.mem_map.mp among
    obtain ⟨value, js, -, admitted⟩ := (members source present).value reads sqlite regExp params
    rwa [js]
  | between nullable kind isOrdered operand low high =>
    obtain ⟨value, js, sql, admitted⟩ := operand.value reads sqlite regExp params
    obtain ⟨lowValue, jsLow, sqlLow, admittedLow⟩ := low.value reads sqlite regExp params
    obtain ⟨highValue, jsHigh, sqlHigh, admittedHigh⟩ := high.value reads sqlite regExp params
    rw [evaluateExpression, Sqlite.condition, Sqlite.evaluate,
      Sqlite.truth_toValue, js, jsLow, jsHigh, sql, sqlLow, sqlHigh]
    have compared : kind ≠ .stored := by
      rintro rfl
      cases isOrdered
    exact between_agrees isOrdered (operand.suits compared) (low.suits compared)
      (high.suits compared) admitted admittedLow admittedHigh
  | like nullable operand pattern =>
    obtain ⟨value, js, sql, admitted⟩ := operand.value reads sqlite regExp params
    obtain ⟨patternValue, jsPattern, sqlPattern, admittedPattern⟩ :=
      pattern.value reads sqlite regExp params
    rw [evaluateExpression, Sqlite.condition, Sqlite.evaluate,
      Sqlite.truth_toValue, js, jsPattern, sql, sqlPattern]
    exact like_agrees folds admitted admittedPattern
  | and _ _ one other =>
    rw [evaluateExpression, Sqlite.condition, Sqlite.evaluate, Sqlite.truth_toValue]
    exact one.and other
  | or _ _ one other =>
    rw [evaluateExpression, Sqlite.condition, Sqlite.evaluate, Sqlite.truth_toValue]
    exact one.or other
  | not _ operand =>
    rw [evaluateExpression, Sqlite.condition, Sqlite.evaluate, Sqlite.truth_toValue]
    exact operand.not

end Shape

end LagrangeDb.LiveQuery
