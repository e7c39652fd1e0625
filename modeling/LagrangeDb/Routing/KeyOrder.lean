import LagrangeDb.Data.TupleOrder
import LagrangeDb.Js.Rounding
import LagrangeDb.Routing.KeyConditions

namespace LagrangeDb.Routing

open Data LagrangeDb.Partition

/-! Routing keys of integers and texts, and the values SQLite has for them. -/

/-- An integer is given as a number of the language or as a big integer. -/
inductive Scalar where
  | number (value : Int) (representable : Js.Number.Representable value)
  | bigint (value : Int)
  | text (value : String)

inductive Stored where
  | integer (value : Int)
  | text (value : String)
deriving DecidableEq

namespace Scalar

def value : Scalar → KeyValue
  | number value _ => .primitive (.number (.finite value))
  | bigint value => .bigint value
  | text value => .primitive (.string value)

def stored : Scalar → Stored
  | number value _ | bigint value => .integer value
  | text value => .text value

end Scalar

inductive Key where
  | scalar (element : Scalar)
  | tuple (elements : List Scalar)

namespace Key

def value : Key → KeyValue
  | scalar element => element.value
  | tuple elements => .tuple (elements.map Scalar.value)

def SameValue : Key → Key → Prop
  | scalar left, scalar right => left.stored = right.stored
  | tuple lefts, tuple rights => lefts.map Scalar.stored = rights.map Scalar.stored
  | _, _ => False

/-- None where the comparison throws. -/
def compare (left right : Key) : Option Ordering := compareRoutingKeys left.value right.value

end Key

def Key.over (elements : Set Scalar) : Set Key
  | scalar element => element ∈ elements
  | tuple list => ∀ element ∈ list, element ∈ elements

/-- The comparison is a total preorder on the keys it accepts, and keys are equal
just when SQLite has one value for them. -/
structure OrdersKeys (keys : Set Key) : Prop where
  antisymmetric : ∀ left ∈ keys, ∀ right ∈ keys, ∀ order,
    left.compare right = some order → right.compare left = some order.swap
  transitive : ∀ first ∈ keys, ∀ second ∈ keys, ∀ third ∈ keys,
    ∀ early late whole, first.compare second = some early →
      second.compare third = some late → first.compare third = some whole →
      early.isLE → late.isLE → whole.isLE
  equal : ∀ left ∈ keys, ∀ right ∈ keys, ∀ order,
    left.compare right = some order → (order = .eq ↔ left.SameValue right)

/-- No big integer is rounded to a number that is another integer. -/
def Separated (elements : Set Scalar) : Prop :=
  ∀ big, Scalar.bigint big ∈ elements → ∀ value representable,
    Scalar.number value representable ∈ elements →
    Js.Number.ofInt big = .finite value → big = value

theorem utf8Bytes_append (equal : utf8Bytes left ++ lefts = utf8Bytes right ++ rights) :
    left = right ∧ lefts = rights := by
  rw [← Char.toNat_inj]
  unfold utf8Bytes at equal
  generalize left.toNat = leftCode at *
  generalize right.toNat = rightCode at *
  simp only at equal
  -- The first byte tells how many there are.
  grind

theorem utf8_injective {left right : List Char}
    (equal : left.flatMap utf8Bytes = right.flatMap utf8Bytes) : left = right := by
  have nonempty : ∀ character, utf8Bytes character ≠ [] := by
    intro character
    unfold utf8Bytes
    grind
  induction left generalizing right with
  | nil =>
    cases right with
    | nil => rfl
    | cons character rest => simp [nonempty] at equal
  | cons character rest induction =>
    cases right with
    | nil => simp [nonempty] at equal
    | cons other others =>
      obtain ⟨rfl, behind⟩ := utf8Bytes_append equal
      rw [induction behind]

/-- Integers come before texts, but the two are never compared. -/
def Stored.rank : Stored → Int ⊕ₗ List Nat
  | integer value => toLex (.inl value)
  | text value => toLex (.inr (value.toList.flatMap utf8Bytes))

theorem Stored.rank_injective : Function.Injective Stored.rank := by
  intro left right equal
  cases left with
  | integer left =>
    cases right with
    | integer right =>
      obtain rfl := Sum.inl.inj (toLex.injective equal)
      rfl
    | text right => cases toLex.injective equal
  | text left =>
    cases right with
    | integer right => cases toLex.injective equal
    | text right =>
      have bytes := Sum.inr.inj (toLex.injective equal)
      rw [String.toList_inj.mp (utf8_injective bytes)]

namespace Scalar

def rank (scalar : Scalar) : Int ⊕ₗ List Nat := scalar.stored.rank

def isText : Scalar → Bool
  | text _ => true
  | _ => false

/-- A big integer that is rounded to the other one's number is the same. -/
def Apart : Scalar → Scalar → Prop
  | bigint big, number value _ | number value _, bigint big =>
    Js.Number.ofInt big = .finite value → big = value
  | _, _ => True

end Scalar

theorem cmp_intCast (left right : Int) : cmp (left : ℚ) right = cmp left right := by
  simp [cmp, cmpUsing]

theorem cmp_inl (left right : Int) :
    cmp (toLex (.inl left) : Int ⊕ₗ List Nat) (toLex (.inl right)) = cmp left right := by
  simp [cmp, cmpUsing]

theorem cmp_inr (left right : List Nat) :
    cmp (toLex (.inr left) : Int ⊕ₗ List Nat) (toLex (.inr right)) = cmp left right := by
  simp [cmp, cmpUsing]

theorem rounded_within {bound : ℚ} (large : bound ≤ |Js.Number.rounded big|) (small : |value| < bound) :
    (Js.Number.rounded big < 0 → Js.Number.rounded big < value) ∧
      (0 ≤ Js.Number.rounded big → value < Js.Number.rounded big) := by
  rw [abs_lt] at small
  constructor
  · intro negative
    rw [abs_of_neg negative] at large
    linarith
  · intro positive
    rw [abs_of_nonneg positive] at large
    linarith

open Js Js.Number in
theorem compareBigIntWithNumber_exact {big : Int} {value : ℚ} (representable : Representable value)
    (apart : ofInt big = .finite value → (big : ℚ) = value) :
    compareBigIntWithNumber big value = cmp (big : ℚ) value := by
  unfold compareBigIntWithNumber
  split
  next safe =>
    have whole : value.den = 1 := by
      simp only [isSafeInteger, Bool.and_eq_true, decide_eq_true_eq] at safe
      exact safe.1
    rw [compareBigInts_eq, ← cmp_intCast, Rat.coe_int_num_of_den_eq_one whole]
  obtain ⟨same, bound⟩ := representable.rounded
  have above : rounded big < value → (big : ℚ) < value := by
    intro below
    by_contra order
    have := rounded_mono (not_lt.mp order)
    linarith
  have below : value < rounded big → value < (big : ℚ) := by
    intro above
    by_contra order
    have := rounded_mono (not_lt.mp order)
    linarith
  have number : ofInt big = Js.Number.round big := rfl
  rw [round_eq] at number
  split at number
  next large =>
    obtain ⟨farBelow, farAbove⟩ := rounded_within large bound
    simp only [number]
    split
    next negative => exact ((cmp_eq_lt_iff ..).mpr (above (farBelow (of_decide_eq_true negative)))).symm
    next positive =>
      exact ((cmp_eq_gt_iff ..).mpr (below (farAbove (by simpa using positive)))).symm
  · simp only [number, compareNumbers]
    split
    next order => exact ((cmp_eq_lt_iff ..).mpr (above order)).symm
    split
    next order => exact ((cmp_eq_gt_iff ..).mpr (below order)).symm
    next notBelow notAbove =>
    have equal : rounded big = value := le_antisymm (not_lt.mp notAbove) (not_lt.mp notBelow)
    rw [equal] at number
    rw [apart number, cmp_self_eq_eq]

/-! Any two values of one class are compared by their ranks. -/

inductive KeyClass where
  | numeric
  | text
  | blob
deriving DecidableEq

def keyClass : KeyValue → Option KeyClass
  | .primitive (.number (.finite _)) => some .numeric
  | .bigint _ => some .numeric
  | .primitive (.string _) => some .text
  | .buffer _ => some .blob
  | _ => none

abbrev Rank := ℚ ×ₗ List ℕ

def rank : KeyValue → Rank
  | .primitive (.number (.finite value)) => toLex (value, [])
  | .bigint value => toLex ((value : ℚ), [])
  | .primitive (.string value) => toLex (0, value.toList.flatMap utf8Bytes)
  | .buffer bytes => toLex (0, bytes)
  | _ => toLex (0, [])

/-- A big integer that is rounded to the other one's number is the same. -/
def Exact : KeyValue → KeyValue → Prop
  | .bigint big, .primitive (.number (.finite value))
  | .primitive (.number (.finite value)), .bigint big =>
    Js.Number.Representable value ∧ (Js.Number.ofInt big = .finite value → (big : ℚ) = value)
  | _, _ => True

def Comparable (left right : KeyValue) : Prop :=
  (keyClass left).isSome ∧ keyClass left = keyClass right ∧ Exact left right

theorem cmp_toLex (left right : ℚ) (lefts rights : List ℕ) :
    cmp (toLex (left, lefts)) (toLex (right, rights)) =
      (cmp left right).then (cmp lefts rights) := by
  rcases lt_trichotomy left right with below | rfl | above
  · simp [cmp, cmpUsing, Prod.Lex.toLex_lt_toLex, below]
  · simp [cmp, cmpUsing, Prod.Lex.toLex_lt_toLex]
  · simp [cmp, cmpUsing, Prod.Lex.toLex_lt_toLex, above, above.not_gt, above.ne']

theorem cmp_toLex_left (left right : ℚ) :
    cmp (toLex (left, ([] : List ℕ))) (toLex (right, [])) = cmp left right := by
  rw [cmp_toLex]
  cases cmp left right <;> rfl

theorem compareScalars_eq (comparable : Comparable left right) :
    compareScalars left right = some (cmp (rank left) (rank right)) := by
  obtain ⟨known, same, exact_⟩ := comparable
  match left, right, known, same, exact_ with
  | .primitive (.number (.finite left)), .primitive (.number (.finite right)), _, _, _ =>
    simp [compareScalars, rank, cmp_toLex_left, compareNumbers_eq]
  | .primitive (.string left), .primitive (.string right), _, _, _ =>
    simp [compareScalars, rank, cmp_toLex, compareUtf8Strings, compareBytes_eq]
  | .bigint left, .bigint right, _, _, _ =>
    simp [compareScalars, rank, cmp_toLex_left, compareBigInts_eq, cmp_intCast]
  | .buffer left, .buffer right, _, _, _ => simp [compareScalars, rank, cmp_toLex, compareBytes_eq]
  | .bigint left, .primitive (.number (.finite right)), _, _, apart =>
    simp [compareScalars, rank, cmp_toLex_left, compareBigIntWithNumber_exact apart.1 apart.2]
  | .primitive (.number (.finite left)), .bigint right, _, _, apart =>
    simp [compareScalars, rank, cmp_toLex_left, compareBigIntWithNumber_exact apart.1 apart.2,
      cmp_swap]

variable {left right : Scalar}

theorem Scalar.comparable (apart : left.Apart right) (kinds : left.isText = right.isText) :
    Comparable left.value right.value := by
  cases left <;> cases right <;> simp only [Scalar.isText, reduceCtorEq] at kinds
  case number.bigint value representable big | bigint.number big value representable =>
    exact ⟨rfl, rfl, representable, fun rounded => by rw [apart rounded]⟩
  all_goals exact ⟨rfl, rfl, trivial⟩

theorem Scalar.cmp_rank (kinds : left.isText = right.isText) :
    cmp (Routing.rank left.value) (Routing.rank right.value) = cmp left.rank right.rank := by
  cases left <;> cases right <;> simp only [Scalar.isText, reduceCtorEq] at kinds
  case text.text left right =>
    simp [Scalar.value, Routing.rank, Scalar.rank, Scalar.stored, Stored.rank, cmp_inr, cmp_toLex]
  all_goals
    simp [Scalar.value, Routing.rank, Scalar.rank, Scalar.stored, Stored.rank, cmp_inl,
      cmp_toLex_left, cmp_intCast]

theorem Scalar.compareScalars_eq (apart : left.Apart right) :
    compareScalars left.value right.value =
      if left.isText = right.isText then some (cmp left.rank right.rank) else none := by
  split
  next kinds => rw [Routing.compareScalars_eq (Scalar.comparable apart kinds), Scalar.cmp_rank kinds]
  next kinds => cases left <;> cases right <;> first | rfl | exact absurd rfl kinds

theorem Scalar.Apart.symm (apart : left.Apart right) : right.Apart left := by
  cases left <;> cases right <;> exact apart

theorem Scalar.compareTuples_eq {lefts rights : List Scalar}
    (apart : ∀ left ∈ lefts, ∀ right ∈ rights, left.Apart right) {order : Ordering}
    (compared : compareTuples (lefts.map Scalar.value) (rights.map Scalar.value) = some order) :
    order = tupleCompare (lefts.map Scalar.rank) (rights.map Scalar.rank) ∧
      compareTuples (rights.map Scalar.value) (lefts.map Scalar.value) = some order.swap := by
  induction lefts generalizing rights with
  | nil =>
    cases rights with
    | nil | cons =>
      obtain rfl := Option.some.inj compared
      exact ⟨rfl, rfl⟩
  | cons left lefts induction =>
    cases rights with
    | nil =>
      obtain rfl := Option.some.inj compared
      exact ⟨rfl, rfl⟩
    | cons right rights =>
      have first := apart left List.mem_cons_self right List.mem_cons_self
      have rest := induction fun left leftMember right rightMember =>
        apart left (List.mem_cons_of_mem _ leftMember) right (List.mem_cons_of_mem _ rightMember)
      simp only [List.map_cons, compareTuples, Scalar.compareScalars_eq first,
        Scalar.compareScalars_eq first.symm, tupleCompare_cons] at compared ⊢
      by_cases kinds : left.isText = right.isText
      · simp only [kinds, if_true, Option.bind_eq_bind, Option.bind_some]
          at compared ⊢
        rw [← cmp_swap left.rank]
        cases decided : cmp left.rank right.rank with
        | eq =>
          simp only [decided] at compared
          exact rest compared
        | lt | gt =>
          simp only [decided] at compared
          obtain rfl := Option.some.inj compared
          exact ⟨rfl, rfl⟩
      · simp [kinds] at compared

namespace Key

def order : Key → Key → Ordering
  | scalar left, scalar right => cmp left.rank right.rank
  | tuple lefts, tuple rights => tupleCompare (lefts.map Scalar.rank) (rights.map Scalar.rank)
  | _, _ => .eq

def Alike : Key → Key → Prop
  | scalar _, scalar _ | tuple _, tuple _ => True
  | _, _ => False

theorem compare_scalar (left right : Scalar) :
    (scalar left).compare (scalar right) = compareScalars left.value right.value := by
  cases left <;> cases right <;> rfl

theorem compare_tuple (leftsFull : lefts ≠ [])
    (rightsFull : rights ≠ []) : (tuple lefts).compare (tuple rights) =
      compareTuples (lefts.map Scalar.value) (rights.map Scalar.value) := by
  have supported : ∀ elements : List Scalar, elements ≠ [] →
      KeyValue.routingKeySupported (.tuple (elements.map Scalar.value)) = true := by
    intro elements full
    rw [KeyValue.routingKeySupported, Bool.and_eq_true, List.all_map, List.all_eq_true]
    refine ⟨by simpa using full, fun element _ => ?_⟩
    cases element <;> rfl
  rw [compare, value, value, compareRoutingKeys, supported lefts leftsFull,
    supported rights rightsFull]
  rfl

theorem compare_nil (key : Key) : (tuple []).compare key = none ∧
    key.compare (tuple []) = none := by
  constructor
  · rfl
  cases key with
  | scalar element => cases element <;> rfl
  | tuple elements => simp [compare, value, compareRoutingKeys, KeyValue.isAbsent,
      KeyValue.routingKeySupported]

theorem compare_mixed (element : Scalar) (elements : List Scalar) :
    (scalar element).compare (tuple elements) = none ∧
      (tuple elements).compare (scalar element) = none := by
  cases element <;>
    simp [compare, value, Scalar.value, compareRoutingKeys, compareScalars,
      KeyValue.isAbsent, Js.Value.isNullish]

end Key

theorem Separated.apart (separated : Separated elements)
    (leftMember : left ∈ elements) (rightMember : right ∈ elements) : left.Apart right := by
  cases left with
  | number left leftNumber =>
    cases right with
    | bigint right => exact separated right rightMember left leftNumber leftMember
    | _ => trivial
  | bigint left =>
    cases right with
    | number right rightNumber => exact separated left leftMember right rightNumber rightMember
    | _ => trivial
  | text left => cases right <;> trivial

theorem Key.compare_eq {elements : Set Scalar} (separated : Separated elements)
    {left right : Key} (leftMember : left ∈ Key.over elements)
    (rightMember : right ∈ Key.over elements) {order : Ordering}
    (compared : left.compare right = some order) : left.Alike right ∧ order = left.order right ∧
      right.compare left = some order.swap := by
  match left, right with
  | .scalar left, .scalar right =>
    have apart := separated.apart leftMember rightMember
    rw [Key.compare_scalar, Scalar.compareScalars_eq apart] at compared
    rw [Key.compare_scalar, Scalar.compareScalars_eq apart.symm]
    obtain ⟨kinds, compared⟩ := Option.ite_none_right_eq_some.mp compared
    obtain rfl := Option.some.inj compared
    rw [if_pos kinds.symm, cmp_swap]
    exact ⟨trivial, rfl, rfl⟩
  | .tuple lefts, .tuple rights =>
    have leftsFull : lefts ≠ [] := by
      rintro rfl
      rw [(Key.compare_nil _).1] at compared
      cases compared
    have rightsFull : rights ≠ [] := by
      rintro rfl
      rw [(Key.compare_nil _).2] at compared
      cases compared
    have apart : ∀ left ∈ lefts, ∀ right ∈ rights, left.Apart right :=
      fun left leftIn right rightIn =>
        separated.apart (leftMember left leftIn) (rightMember right rightIn)
    rw [Key.compare_tuple leftsFull rightsFull] at compared
    rw [Key.compare_tuple rightsFull leftsFull]
    exact ⟨trivial, Scalar.compareTuples_eq apart compared⟩
  | .scalar left, .tuple rights =>
    rw [(Key.compare_mixed left rights).1] at compared
    cases compared
  | .tuple lefts, .scalar right =>
    rw [(Key.compare_mixed right lefts).2] at compared
    cases compared

theorem Key.order_eq_eq_iff {left right : Key} (alike : left.Alike right) :
    left.order right = .eq ↔ left.SameValue right := by
  match left, right with
  | .scalar left, .scalar right => exact (cmp_eq_eq_iff ..).trans Stored.rank_injective.eq_iff
  | .tuple lefts, .tuple rights =>
    have ranks : ∀ elements : List Scalar, elements.map Scalar.rank =
        (elements.map Scalar.stored).map Stored.rank := fun elements =>
      List.map_map.symm
    rw [Key.order, tupleCompare_eq_eq_iff, ranks, ranks]
    exact (List.map_injective_iff.mpr Stored.rank_injective).eq_iff

theorem Key.order_isLE_trans {first second third : Key} (early : first.Alike second)
    (late : second.Alike third) (below : (first.order second).isLE)
    (above : (second.order third).isLE) : (first.order third).isLE := by
  match first, second, third with
  | .scalar _, .scalar _, .scalar _ =>
    exact isLE_cmp.mpr ((isLE_cmp.mp below).trans (isLE_cmp.mp above))
  | .tuple _, .tuple _, .tuple _ => exact tupleCompare_isLE_trans below above

theorem eq_of_ofInt_eq_safe {big value : Int} (safe : value.natAbs < 2 ^ 53)
    (equal : Js.Number.ofInt big = .finite value) : big = value := by
  have rounded : Js.Number.rounded big = value := by
    have number : Js.Number.ofInt big = Js.Number.round big := rfl
    rw [equal, Js.Number.round_eq] at number
    split at number
    · cases number
    · exact (Js.Number.finite.inj number).symm
  by_contra different
  rcases lt_or_gt_of_ne different with below | above
  · have order := Js.Number.rounded_mono
      (show (big : ℚ) ≤ (value - 1 : Int) by exact_mod_cast Int.le_sub_one_of_lt below)
    rw [rounded, Js.Number.rounded_intCast (by omega)] at order
    have order : value ≤ value - 1 := by exact_mod_cast order
    omega
  · have order := Js.Number.rounded_mono
      (show ((value + 1 : Int) : ℚ) ≤ big by exact_mod_cast above)
    rw [rounded, Js.Number.rounded_intCast (by omega)] at order
    have order : value + 1 ≤ value := by exact_mod_cast order
    omega

/-- Routing keys are ordered just when no big integer among their elements is
rounded to a number that is another integer. -/
theorem ordersKeys_iff_separated (elements : Set Scalar) :
    OrdersKeys (Key.over elements) ↔ Separated elements := by
  constructor
  · intro ordered big bigMember value representable valueMember rounded
    by_cases safe : value.natAbs < 2 ^ 53
    · exact eq_of_ofInt_eq_safe safe rounded
    -- The two compare equal as numbers, so they are one value.
    have compared : (Key.scalar (.bigint big)).compare
        (.scalar (.number value representable)) = some .eq := by
      have large : Js.Number.isSafeInteger (.finite (value : ℚ)) = false := by
        rw [Js.Number.isSafeInteger, Bool.and_eq_false_iff, Rat.num_intCast]
        exact .inr (decide_eq_false (by omega))
      rw [Key.compare_scalar]
      simp [compareScalars, Scalar.value, compareBigIntWithNumber, large, rounded, compareNumbers]
    have same := (ordered.equal (.scalar (.bigint big)) bigMember
      (.scalar (.number value representable)) valueMember .eq compared).mp rfl
    exact Stored.integer.inj same
  · intro separated
    refine ⟨?_, ?_, ?_⟩
    · intro left leftMember right rightMember order compared
      exact (Key.compare_eq separated leftMember rightMember compared).2.2
    · intro first firstMember second secondMember third thirdMember early late whole
        comparedEarly comparedLate comparedWhole below above
      obtain ⟨alikeEarly, rfl, -⟩ := Key.compare_eq separated firstMember secondMember comparedEarly
      obtain ⟨alikeLate, rfl, -⟩ := Key.compare_eq separated secondMember thirdMember comparedLate
      obtain ⟨-, rfl, -⟩ := Key.compare_eq separated firstMember thirdMember comparedWhole
      exact Key.order_isLE_trans alikeEarly alikeLate below above
    · intro left leftMember right rightMember order compared
      obtain ⟨alike, rfl, -⟩ := Key.compare_eq separated leftMember rightMember compared
      exact Key.order_eq_eq_iff alike

/-- The integers above the safe ones, as they are given here. -/
def Sample.largeNumber : Scalar := .number (2 ^ 53) (Js.Number.round_intCast (by decide))

/-- Two to the 53rd and the next integer both equal the number two to the 53rd. -/
theorem rounded_keys_intransitive :
    (Key.scalar (.bigint (2 ^ 53 + 1))).compare (.scalar Sample.largeNumber) = some .eq ∧
    (Key.scalar Sample.largeNumber).compare (.scalar (.bigint (2 ^ 53))) = some .eq ∧
    (Key.scalar (.bigint (2 ^ 53 + 1))).compare (.scalar (.bigint (2 ^ 53))) =
      some .gt ∧ ¬OrdersKeys Set.univ := by
  have first : (Key.scalar (.bigint (2 ^ 53 + 1))).compare (.scalar Sample.largeNumber) =
      some .eq := by
    decide +kernel
  have second : (Key.scalar Sample.largeNumber).compare (.scalar (.bigint (2 ^ 53))) =
      some .eq := by
    decide +kernel
  have third : (Key.scalar (.bigint (2 ^ 53 + 1))).compare
      (.scalar (.bigint (2 ^ 53))) = some .gt := by
    decide +kernel
  refine ⟨first, second, third, fun ordered => ?_⟩
  have below := ordered.transitive _ trivial _ trivial _ trivial _ _ _ first second third rfl rfl
  cases below

end LagrangeDb.Routing
