import Mathlib.Data.List.Lex
import LagrangeDb.Js.Number

namespace LagrangeDb.Js

/-! Primitive values of the language, their conversions and comparisons. -/

inductive Value where
  | undefined
  | null
  | boolean (value : Bool)
  | number (value : Number)
  | string (value : String)
deriving DecidableEq

def codeUnits (character : Char) : List Nat :=
  if character.toNat ≤ 65535 then [character.toNat]
  else
    let rest := character.toNat - 65536
    [55296 + rest / 1024, 56320 + rest % 1024]

def utf16 (value : String) : List Nat := value.toList.flatMap codeUnits

def isWhitespace (character : Char) : Bool :=
  let code := character.toNat
  (9 ≤ code && code ≤ 13) || code = 32 || code = 160 || code = 5760 ||
    (8192 ≤ code && code ≤ 8202) || code = 8232 || code = 8233 ||
    code = 8239 || code = 8287 || code = 12288 || code = 65279

def trim (characters : List Char) : List Char :=
  ((characters.dropWhile isWhitespace).reverse.dropWhile isWhitespace).reverse

def digitValue (character : Char) : Option Nat :=
  if '0' ≤ character && character ≤ '9' then some (character.toNat - 48)
  else if 'a' ≤ character && character ≤ 'z' then some (character.toNat - 87)
  else if 'A' ≤ character && character ≤ 'Z' then some (character.toNat - 55)
  else none

def digitsValue (radix : Nat) : Nat → List Char → Option Nat
  | value, [] => some value
  | value, character :: rest =>
    match digitValue character with
    | none => none
    | some digit =>
      if digit < radix then digitsValue radix (value * radix + digit) rest
      else none

def radixLiteral (radix : Nat) (digits : List Char) : Number :=
  match digitsValue radix 0 digits with
  | some value => if digits.isEmpty then .nan else .round value
  | none => .nan

def decimalExponent : List Char → Option Int
  | [] => some 0
  | mark :: rest =>
    if mark = 'e' || mark = 'E' then
      match rest with
      | '-' :: digits =>
        if digits.isEmpty then none
        else (digitsValue 10 0 digits).map fun value => -value
      | '+' :: digits =>
        if digits.isEmpty then none
        else (digitsValue 10 0 digits).map fun value => value
      | digits =>
        if digits.isEmpty then none
        else (digitsValue 10 0 digits).map fun value => value
    else none

def decimalLiteral (characters : List Char) : Number :=
  let (whole, afterWhole) := characters.span Char.isDigit
  let (fraction, afterFraction) := match afterWhole with
    | '.' :: rest => rest.span Char.isDigit
    | _ => ([], afterWhole)
  if whole.isEmpty && fraction.isEmpty then .nan
  else
    match digitsValue 10 0 (whole ++ fraction),
        decimalExponent afterFraction with
    | some digits, some exponent => .round (digits * (10 : ℚ) ^ (exponent - fraction.length))
    | _, _ => .nan

def unsignedLiteral (characters : List Char) : Number :=
  if characters = "Infinity".toList then .infinite false
  else decimalLiteral characters

def numberOfString (value : String) : Number :=
  match trim value.toList with
  | [] => .finite 0
  | '0' :: 'x' :: digits => radixLiteral 16 digits
  | '0' :: 'X' :: digits => radixLiteral 16 digits
  | '0' :: 'o' :: digits => radixLiteral 8 digits
  | '0' :: 'O' :: digits => radixLiteral 8 digits
  | '0' :: 'b' :: digits => radixLiteral 2 digits
  | '0' :: 'B' :: digits => radixLiteral 2 digits
  | '-' :: rest => (unsignedLiteral rest).negate
  | '+' :: rest => unsignedLiteral rest
  | characters => unsignedLiteral characters

namespace Number

/-- The place `n` of the leading digit: the value is below `10 ^ n`. -/
def decimalPlace (value : ℚ) : Int :=
  if 1 ≤ value then (Nat.toDigits 10 value.floor.natAbs).length
  else
    match (List.range 400).find? fun shift => 1 ≤ value * 10 ^ shift with
    | some shift => 1 - shift
    | none => 0

def shortestDigits (value : ℚ) : Nat × Nat × Int :=
  let place := decimalPlace value
  let digitsOf := fun count : Nat =>
    ((value * (10 : ℚ) ^ ((count : Int) - place)) + 1 / 2).floor.natAbs
  let count := match (List.range 17).find? fun count =>
      round (digitsOf (count + 1) * (10 : ℚ) ^ (place - (count + 1 : Nat))) = .finite value with
    | some count => count + 1
    | none => 17
  if digitsOf count = 10 ^ count then (1, 1, place + 1)
  else (digitsOf count, count, place)

def positiveText (value : ℚ) : String :=
  let (digits, count, place) := shortestDigits value
  let text := toString digits
  let zeros := fun length : Nat => String.ofList (List.replicate length '0')
  if (count : Int) ≤ place && place ≤ 21 then text ++ zeros (place - count).toNat
  else if 0 < place && place ≤ 21 then
    String.ofList (text.toList.take place.toNat) ++ "." ++
      String.ofList (text.toList.drop place.toNat)
  else if -6 < place && place ≤ 0 then "0." ++ zeros (-place).toNat ++ text
  else
    let exponent := place - 1
    let sign := if exponent < 0 then "-" else "+"
    let mantissa := if count = 1 then text
      else String.ofList (text.toList.take 1) ++ "." ++
        String.ofList (text.toList.drop 1)
    mantissa ++ "e" ++ sign ++ toString exponent.natAbs

def isSafeInteger : Number → Bool
  | finite value => value.den = 1 && value.num.natAbs ≤ 2 ^ 53 - 1
  | _ => false

def toText : Number → String
  | nan => "NaN"
  | infinite negative => if negative then "-Infinity" else "Infinity"
  | finite value =>
    if isSafeInteger (.finite value) then toString value.num
    else if value < 0 then "-" ++ positiveText (-value)
    else positiveText value

end Number

namespace Value

def truthy : Value → Bool
  | undefined => false
  | null => false
  | boolean value => value
  | number value => value ≠ .nan && value ≠ .finite 0
  | string value => value ≠ ""

def toNumber : Value → Number
  | undefined => .nan
  | null => .finite 0
  | boolean value => .finite (if value then 1 else 0)
  | number value => value
  | string value => numberOfString value

def toText : Value → String
  | undefined => "undefined"
  | null => "null"
  | boolean value => if value then "true" else "false"
  | number value => value.toText
  | string value => value

def isNullish : Value → Bool
  | undefined => true
  | null => true
  | _ => false

/-- Addition: with a string it joins the texts. -/
def plus : Value → Value → Value
  | string left, right => string (left ++ right.toText)
  | left, string right => string (left.toText ++ right)
  | left, right => number (left.toNumber.add right.toNumber)

def strictEquals : Value → Value → Bool
  | number left, number right => left.equals right
  | left, right => left = right

def sameValueZero (left right : Value) : Bool := left = right

def less : Value → Value → Bool
  | string left, string right => utf16 left < utf16 right
  | left, right => left.toNumber.less right.toNumber

def lessOrEqual : Value → Value → Bool
  | string left, string right => utf16 left ≤ utf16 right
  | left, right => left.toNumber.lessOrEqual right.toNumber

end Value

end LagrangeDb.Js
