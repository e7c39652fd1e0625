import Mathlib.Data.List.Basic

namespace LagrangeDb.Data

/-! Regular expressions with captures, matched from left to right, the first match first. -/

inductive Pattern where
  | one (member : Char → Bool)
  | many (member : Char → Bool) (least : Nat)
  | few (member : Char → Bool) (least : Nat)
  | seq (first second : Pattern)
  | alt (first second : Pattern)
  | optional (pattern : Pattern)
  | capture (pattern : Pattern)
  | boundary
  | start
  | finish

/-- A place in a text: the character before it, the text after it and what has
been captured on the way. -/
structure Cursor where
  before : Option Char
  rest : List Char
  captures : List (List Char)
deriving DecidableEq

def isWord (character : Char) : Bool := character.isAlphanum || character = '_'

def lower (character : Char) : Char := character.toLower

namespace Cursor

def advance (cursor : Cursor) (character : Char) (rest : List Char) : Cursor :=
  { cursor with before := some character, rest }

/-- The places a repetition may stop at, the longest first. -/
def greedy (member : Char → Bool) : Nat → Cursor → List Char → List Cursor
  | least, cursor, character :: rest =>
    (if member character then greedy member (least - 1) (cursor.advance character rest) rest
    else []) ++ if least = 0 then [cursor] else []
  | least, cursor, [] => if least = 0 then [cursor] else []

def reluctant (member : Char → Bool) : Nat → Cursor → List Char → List Cursor
  | least, cursor, character :: rest =>
    (if least = 0 then [cursor] else []) ++
      if member character then reluctant member (least - 1) (cursor.advance character rest) rest
      else []
  | least, cursor, [] => if least = 0 then [cursor] else []

def atBoundary (cursor : Cursor) : Bool := cursor.before.any isWord != cursor.rest.head?.any isWord

end Cursor

namespace Pattern

def run : Pattern → Cursor → List Cursor
  | one member, cursor =>
    match cursor.rest with
    | character :: rest => if member character then [cursor.advance character rest] else []
    | [] => []
  | many member least, cursor => cursor.greedy member least cursor.rest
  | few member least, cursor => cursor.reluctant member least cursor.rest
  | seq first second, cursor => (run first cursor).flatMap (run second)
  | alt first second, cursor => run first cursor ++ run second cursor
  | optional pattern, cursor => run pattern cursor ++ [cursor]
  | capture pattern, cursor =>
    (run pattern cursor).map fun reached =>
      { reached with
        captures := reached.captures ++
          [cursor.rest.take (cursor.rest.length - reached.rest.length)] }
  | boundary, cursor => if cursor.atBoundary then [cursor] else []
  | start, cursor => if cursor.before.isNone then [cursor] else []
  | finish, cursor => if cursor.rest.isEmpty then [cursor] else []

def searchFrom (pattern : Pattern) : Option Char → List Char → Option Cursor
  | before, [] => (pattern.run ⟨before, [], []⟩).head?
  | before, character :: rest =>
    match (pattern.run ⟨before, character :: rest, []⟩).head? with
    | some reached => some reached
    | none => searchFrom pattern (some character) rest

def search (pattern : Pattern) (text : List Char) : Option (List (List Char)) :=
  (pattern.searchFrom none text).map Cursor.captures

/-- The parts of a text between the matches. A match of nothing does not
part. -/
def splitFrom (pattern : Pattern) : Nat → Option Char → List Char → List Char → List (List Char)
  | 0, _, part, text => [part ++ text]
  | _, _, part, [] => [part]
  | fuel + 1, before, part, character :: rest =>
    match (pattern.run ⟨before, character :: rest, []⟩).head? with
    | some reached =>
      if reached.rest.length < (character :: rest).length then
        part :: splitFrom pattern fuel reached.before [] reached.rest
      else splitFrom pattern fuel (some character) (part ++ [character]) rest
    | none => splitFrom pattern fuel (some character) (part ++ [character]) rest

def split (pattern : Pattern) (text : List Char) : List (List Char) :=
  pattern.splitFrom (text.length + 1) none [] text

def sequence : List Pattern → Pattern
  | [] => optional (one fun _ => false)
  | [pattern] => pattern
  | pattern :: rest => seq pattern (sequence rest)

def character (value : Char) : Pattern := one fun other => other = value

def keyword (word : String) : Pattern :=
  sequence (word.toList.map fun letter => one fun other => lower other = lower letter)

end Pattern

end LagrangeDb.Data
