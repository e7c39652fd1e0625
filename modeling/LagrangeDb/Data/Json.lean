import Mathlib

namespace LagrangeDb.Data

/-! JSON texts as `JSON.stringify` writes them, and the length of a string in
UTF-16 code units. -/

inductive Json where
  | null
  | boolean (value : Bool)
  | integer (value : Int)
  | text (value : String)
  | array (elements : List Json)
  | object (fields : List (String × Json))

namespace Json

def hexDigit (value : Nat) : Char := Char.ofNat (if value < 10 then 48 + value else 87 + value)

def escape (character : Char) : List Char :=
  if character = '"' then ['\\', '"']
  else if character = '\\' then ['\\', '\\']
  else if character = '\n' then ['\\', 'n']
  else if character = '\r' then ['\\', 'r']
  else if character = '\t' then ['\\', 't']
  else if character.toNat = 8 then ['\\', 'b']
  else if character.toNat = 12 then ['\\', 'f']
  else if character.toNat < 32 then
    ['\\', 'u', '0', '0', hexDigit (character.toNat / 16), hexDigit (character.toNat % 16)]
  else [character]

def quote (value : String) : List Char := '"' :: value.toList.flatMap escape ++ ['"']

mutual
def render : Json → List Char
  | null => "null".toList
  | boolean value => (if value then "true" else "false").toList
  | integer value => (toString value).toList
  | text value => quote value
  | array elements => '[' :: renderElements elements ++ [']']
  | object fields => '\x7b' :: renderFields fields ++ ['\x7d']

def renderElements : List Json → List Char
  | [] => []
  | [element] => render element
  | element :: rest => render element ++ ',' :: renderElements rest

def renderFields : List (String × Json) → List Char
  | [] => []
  | [(name, value)] => quote name ++ ':' :: render value
  | (name, value) :: rest => quote name ++ ':' :: render value ++ ',' :: renderFields rest
end

def stringify (json : Json) : String := String.ofList json.render

end Json

def utf16Length (value : String) : Nat :=
  (value.toList.map fun character => if character.toNat ≤ 65535 then 1 else 2).sum

end LagrangeDb.Data
