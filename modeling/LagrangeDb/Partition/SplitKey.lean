import Mathlib
import LagrangeDb.Js.Value

namespace LagrangeDb.Partition

/-! The order of partition keys. Keys of one type are compared within it, any
other pair is rejected. -/

/-- A value a statement may carry: a primitive value, or one of the kinds that
only keys have. -/
inductive KeyValue where
  | primitive (value : Js.Value)
  | bigint (value : Int)
  | buffer (bytes : List Nat)
  | tuple (elements : List KeyValue)

inductive SplitKeyType where
  | number
  | bigint
  | string
  | buffer
  | tuple
deriving DecidableEq

namespace KeyValue

def isAbsent : KeyValue → Bool
  | primitive value => value.isNullish
  | _ => false

/-- NaN, the infinities, booleans and absent values have no type. -/
def resolveSplitKeyType : KeyValue → Option SplitKeyType
  | primitive (.number (.finite _)) => some .number
  | primitive (.string _) => some .string
  | primitive _ => none
  | bigint _ => some .bigint
  | buffer _ => some .buffer
  | tuple _ => some .tuple

/-- The elements of a tuple are present and no tuples themselves. -/
def routingKeySupported : KeyValue → Bool
  | tuple elements => !elements.isEmpty && elements.all fun element =>
    match element.resolveSplitKeyType with
    | none | some .tuple => false
    | some _ => true
  | value => value.resolveSplitKeyType.isSome

end KeyValue

def utf8Bytes (character : Char) : List Nat :=
  let code := character.toNat
  if code < 128 then [code]
  else if code < 2048 then [192 + code / 64, 128 + code % 64]
  else if code < 65536 then [224 + code / 4096, 128 + code / 64 % 64, 128 + code % 64]
  else
    [240 + code / 262144, 128 + code / 4096 % 64, 128 + code / 64 % 64, 128 + code % 64]

def compareBytes : List Nat → List Nat → Ordering
  | [], [] => .eq
  | [], _ :: _ => .lt
  | _ :: _, [] => .gt
  | left :: lefts, right :: rights =>
    if left < right then .lt
    else if right < left then .gt
    else compareBytes lefts rights

def compareUtf8Strings (left right : String) : Ordering :=
  compareBytes (left.toList.flatMap utf8Bytes) (right.toList.flatMap utf8Bytes)

def compareNumbers (left right : ℚ) : Ordering :=
  if left < right then .lt else if right < left then .gt else .eq

def compareBigInts (left right : Int) : Ordering :=
  if left < right then .lt else if right < left then .gt else .eq

theorem compareBytes_eq (left right : List Nat) : compareBytes left right = cmp left right := by
  induction left generalizing right with
  | nil => cases right <;> rfl
  | cons head tail induction =>
    cases right with
    | nil => rfl
    | cons other others =>
      rw [compareBytes, induction]
      simp only [cmp, cmpUsing, List.cons_lt_cons_iff]
      grind

theorem compareNumbers_eq (left right : ℚ) : compareNumbers left right = cmp left right := rfl

theorem compareBigInts_eq (left right : Int) : compareBigInts left right = cmp left right := rfl

/-- Exact where the number is a safe integer, otherwise as numbers. -/
def compareBigIntWithNumber (left : Int) (right : ℚ) : Ordering :=
  if Js.Number.isSafeInteger (.finite right) then compareBigInts left right.num
  else
    match Js.Number.ofInt left with
    | .finite value => compareNumbers value right
    | .infinite negative => if negative then .lt else .gt
    | .nan => .eq

/-- Two keys that are no tuples; none where the comparison throws. -/
def compareScalars (left right : KeyValue) : Option Ordering :=
  match left, right with
  | .primitive (.number (.finite left)), .primitive (.number (.finite right)) =>
    some (compareNumbers left right)
  | .primitive (.string left), .primitive (.string right) => some (compareUtf8Strings left right)
  | .bigint left, .bigint right => some (compareBigInts left right)
  | .buffer left, .buffer right => some (compareBytes left right)
  | .bigint left, .primitive (.number (.finite right)) => some (compareBigIntWithNumber left right)
  | .primitive (.number (.finite left)), .bigint right =>
    some (compareBigIntWithNumber right left).swap
  | _, _ => none

def compareTuples : List KeyValue → List KeyValue → Option Ordering
  | [], [] => some .eq
  | [], _ :: _ => some .lt
  | _ :: _, [] => some .gt
  | left :: lefts, right :: rights => do
    match ← compareScalars left right with
    | .eq => compareTuples lefts rights
    | decided => return decided

def compareSplitKey (value splitKey : KeyValue) : Option Ordering :=
  if splitKey.routingKeySupported && value.routingKeySupported then
    match value, splitKey with
    | .tuple left, .tuple right => compareTuples left right
    | value, splitKey => compareScalars value splitKey
  else none

inductive Side where
  | left
  | right
deriving DecidableEq

/-- The child a key belongs to: a row without a key goes right. -/
def resolveSplitTargetPartitionId (value splitKey : KeyValue) : Option Side :=
  if value.isAbsent then some .right
  else (compareSplitKey value splitKey).map fun
    | .lt => .left
    | _ => .right

end LagrangeDb.Partition
