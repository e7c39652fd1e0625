import Mathlib
import LagrangeDb.Pgwire.Session

namespace LagrangeDb.Pgwire

/-! Frontend messages as bytes: what a client writes, and what the server reads
of a payload. -/

abbrev Bytes := List UInt8

/-- The text encoding of Node's buffers. Bytes that encode no text decode to
something. -/
structure Codec where
  encode : String → Bytes
  decode : Bytes → String
  decode_encode : ∀ text, decode (encode text) = text
  encode_nul : ∀ text, '\x00' ∉ text.toList → (0 : UInt8) ∉ encode text

structure CText where
  value : String
  nul_free : '\x00' ∉ value.toList

def bigEndian (bytes : Bytes) : Nat := bytes.foldl (fun value byte => value * 256 + byte.toNat) 0

def signed (bits value : Nat) : Int :=
  if value < 2 ^ (bits - 1) then value else (value : Int) - 2 ^ bits

def int16 (value : Nat) : Bytes := [UInt8.ofNat (value / 256), UInt8.ofNat value]

def int32 (value : Nat) : Bytes :=
  [UInt8.ofNat (value / 256 ^ 3), UInt8.ofNat (value / 256 ^ 2),
    UInt8.ofNat (value / 256), UInt8.ofNat value]

def readBytes (payload : Bytes) (offset : Int) (count : Nat) : Option Bytes :=
  if 0 ≤ offset ∧ offset + count ≤ payload.length then some ((payload.drop offset.toNat).take count)
  else none

def readInt16BE (payload : Bytes) (offset : Int) : Option Int :=
  (readBytes payload offset 2).map fun bytes => signed 16 (bigEndian bytes)

def readInt32BE (payload : Bytes) (offset : Int) : Option Int :=
  (readBytes payload offset 4).map fun bytes => signed 32 (bigEndian bytes)

/-- The bytes from one offset to another, both moved into the payload. -/
def slice (payload : Bytes) (first last : Int) : Bytes :=
  (payload.drop first.toNat).take (last.toNat - first.toNat)

section

variable (codec : Codec)

/-- Without a terminator the text is empty and reading goes on at the end. -/
def readCString (payload : Bytes) (offset : Nat) : String × Nat :=
  match (payload.drop offset).findIdx? (· = 0) with
  | none => ("", payload.length)
  | some index => (codec.decode ((payload.drop offset).take index), offset + index + 1)

structure ParseMessage where
  (name query : String)
  paramTypes : List Int

def readTypes (payload : Bytes) : Nat → Int → Option (List Int)
  | 0, _ => some []
  | count + 1, offset => do
    let type ← readInt32BE payload offset
    return type :: (← readTypes payload count (offset + 4))

def parseParseMessage (payload : Bytes) : Option ParseMessage := do
  let (name, offset) := readCString codec payload 0
  let (query, offset) := readCString codec payload offset
  let numParams ← readInt16BE payload offset
  let paramTypes ← readTypes payload numParams.toNat (offset + 2)
  return { name, query, paramTypes }

def readParams (payload : Bytes) : Nat → Int → Option (List (Option String))
  | 0, _ => some []
  | count + 1, offset => do
    let length ← readInt32BE payload offset
    if length = -1 then return none :: (← readParams payload count (offset + 4))
    else
      let value := codec.decode (slice payload (offset + 4) (offset + 4 + length))
      return some value :: (← readParams payload count (offset + 4 + length))

structure BindMessage where
  (portal statement : String)
  params : List (Option String)

def parseBindMessage (payload : Bytes) : Option BindMessage := do
  let (portal, offset) := readCString codec payload 0
  let (statement, offset) := readCString codec payload offset
  let numFormats ← readInt16BE payload offset
  let offset : Int := offset + 2 + numFormats * 2
  let numParams ← readInt16BE payload offset
  let params ← readParams codec payload numParams.toNat (offset + 2)
  return { portal, statement, params }

inductive Target where
  | statement
  | portal
  | unknown
deriving DecidableEq

def targetOf : Option UInt8 → Target
  | some 0x53 => .statement
  | some 0x50 => .portal
  | _ => .unknown

def parseTargetMessage (payload : Bytes) : Option UInt8 × String :=
  (payload.head?, (readCString codec payload 1).1)

def parseExecuteMessage (payload : Bytes) : Option String := do
  let (portal, offset) := readCString codec payload 0
  let _ ← readInt32BE payload offset
  return portal

end

/-- A Bind as the protocol has it: its counts fit their fields. -/
structure Bind where
  (portal statement : CText)
  formats : List Nat
  params : List (Option Bytes)
  resultFormats : List Nat
  formats_fit : formats.length < 2 ^ 15
  params_fit : params.length < 2 ^ 15
  values_fit : ∀ value, some value ∈ params → value.length < 2 ^ 31

inductive Message where
  | parse (name query : CText) (paramTypes : List Nat)
      (fits : paramTypes.length < 2 ^ 15)
  | bind (bind : Bind)
  | describe (target : Target) (name : CText)
  | execute (portal : CText) (maxRows : Nat)
  | close (target : Target) (name : CText)
  | sync

inductive FrontendType where
  | parse
  | bind
  | describe
  | execute
  | close
  | sync
deriving DecidableEq

def Target.byte : Target → UInt8
  | statement => 0x53
  | portal => 0x50
  | unknown => 0

section

variable (codec : Codec)

def cString (text : CText) : Bytes := codec.encode text.value ++ [0]

def paramBytes : Option Bytes → Bytes
  | none => int32 (2 ^ 32 - 1)
  | some value => int32 value.length ++ value

def Message.payload : Message → Bytes
  | parse name query paramTypes _ =>
    cString codec name ++ cString codec query ++ int16 paramTypes.length ++ paramTypes.flatMap int32
  | bind message =>
    cString codec message.portal ++ cString codec message.statement ++
      int16 message.formats.length ++ message.formats.flatMap int16 ++
      int16 message.params.length ++ message.params.flatMap paramBytes ++
      int16 message.resultFormats.length ++ message.resultFormats.flatMap int16
  | describe target name | close target name => target.byte :: cString codec name
  | execute portal maxRows => cString codec portal ++ int32 maxRows
  | sync => []

end

def Message.type : Message → FrontendType
  | parse .. => .parse
  | bind _ => .bind
  | describe .. => .describe
  | execute .. => .execute
  | close .. => .close
  | sync => .sync

theorem readBytes_field (front field back : Bytes) :
    readBytes (front ++ (field ++ back)) front.length field.length = some field := by
  rw [readBytes, if_pos]
  · simp
  · simp only [List.length_append]
    omega

variable {value : Nat}

theorem bigEndian_int16 (small : value < 2 ^ 16) : bigEndian (int16 value) = value := by
  simp only [bigEndian, int16, List.foldl_cons, List.foldl_nil, UInt8.toNat_ofNat']
  omega

theorem bigEndian_int32 (small : value < 2 ^ 32) : bigEndian (int32 value) = value := by
  simp only [bigEndian, int32, List.foldl_cons, List.foldl_nil, UInt8.toNat_ofNat']
  omega

theorem readInt16BE_field (front back : Bytes) (small : value < 2 ^ 15) :
    readInt16BE (front ++ (int16 value ++ back)) front.length = some (value : Int) := by
  have field := readBytes_field front (int16 value) back
  rw [readInt16BE, show (2 : Nat) = (int16 value).length from rfl, field,
    Option.map_some, bigEndian_int16 (by omega), signed, if_pos (by omega)]

theorem readInt32BE_field (front back : Bytes) (small : value < 2 ^ 31) :
    readInt32BE (front ++ (int32 value ++ back)) front.length = some (value : Int) := by
  have field := readBytes_field front (int32 value) back
  rw [readInt32BE, show (4 : Nat) = (int32 value).length from rfl, field,
    Option.map_some, bigEndian_int32 (by omega), signed, if_pos (by omega)]

theorem readInt32BE_null (front back : Bytes) :
    readInt32BE (front ++ (int32 (2 ^ 32 - 1) ++ back)) front.length = some (-1) := by
  have field := readBytes_field front (int32 (2 ^ 32 - 1)) back
  rw [readInt32BE, show (4 : Nat) = (int32 (2 ^ 32 - 1)).length from rfl, field,
    Option.map_some, bigEndian_int32 (by omega)]
  rfl

theorem readInt32BE_some (front back : Bytes) (value : Nat) :
    ∃ read, readInt32BE (front ++ (int32 value ++ back)) front.length = some read := by
  have field := readBytes_field front (int32 value) back
  rw [readInt32BE, show (4 : Nat) = (int32 value).length from rfl, field]
  exact ⟨_, rfl⟩

section

variable (codec : Codec)

theorem readCString_field (front back : Bytes) (text : CText) :
    readCString codec (front ++ (cString codec text ++ back)) front.length =
      (text.value, (front ++ cString codec text).length) := by
  have found : (codec.encode text.value ++ [0] ++ back).findIdx? (· = 0) =
      some (codec.encode text.value).length := by
    have free := codec.encode_nul text.value text.nul_free
    have absent : (codec.encode text.value).findIdx? (· = 0) = none := by
      rw [List.findIdx?_eq_none_iff]
      intro byte member
      rw [decide_eq_false_iff_not]
      rintro rfl
      exact free member
    rw [List.append_assoc, List.findIdx?_append, absent]
    simp [List.findIdx?_cons]
  rw [readCString, List.drop_left, cString, found]
  simp only [List.append_assoc, List.take_left, codec.decode_encode,
    List.length_append, List.length_singleton]
  rfl

theorem slice_field (front field back : Bytes) : slice (front ++ (field ++ back)) front.length
      (front.length + field.length) = field := by
  simp only [slice, Int.toNat_natCast]
  rw [show ((front.length : Int) + field.length).toNat = front.length + field.length by omega]
  simp

theorem readParams_field (front back : Bytes) (params : List (Option Bytes))
    (fit : ∀ value, some value ∈ params → value.length < 2 ^ 31) :
    readParams codec (front ++ (params.flatMap paramBytes ++ back))
      params.length front.length = some (params.map (Option.map codec.decode)) := by
  induction params generalizing front with
  | nil => rfl
  | cons param rest induction =>
    have fitRest : ∀ value, some value ∈ rest → value.length < 2 ^ 31 :=
      fun value member => fit value (List.mem_cons_of_mem _ member)
    cases param with
    | none =>
      have again := induction (front ++ int32 (2 ^ 32 - 1)) fitRest
      simp only [List.append_assoc] at again
      simp only [List.length_cons, readParams, List.flatMap_cons, paramBytes, List.append_assoc]
      rw [readInt32BE_null, Option.bind_eq_bind, Option.bind_some, if_pos rfl,
        show ((front.length : Int) + 4) =
          ((front ++ int32 (2 ^ 32 - 1)).length : Int) by simp [int32], again]
      rfl
    | some value =>
      have small := fit value List.mem_cons_self
      have again := induction (front ++ int32 value.length ++ value) fitRest
      have cut := slice_field (front ++ int32 value.length) value (rest.flatMap paramBytes ++ back)
      simp only [List.append_assoc] at again cut
      simp only [List.length_cons, readParams, List.flatMap_cons, paramBytes, List.append_assoc]
      have start : ((front.length : Int) + 4) =
          ((front ++ int32 value.length).length : Int) := by
        simp [int32]
      have next : ((front.length : Int) + 4 + value.length) =
          ((front ++ (int32 value.length ++ value)).length : Int) := by
        simp [int32]
        omega
      rw [readInt32BE_field _ _ small, Option.bind_eq_bind, Option.bind_some,
        if_neg (by omega), next, again, start]
      have same : ((front ++ (int32 value.length ++ value)).length : Int) =
          (front ++ int32 value.length).length + value.length := by
        simp
        omega
      rw [same, cut]
      rfl

theorem length_flatMap_int16 (values : List Nat) :
    (values.flatMap int16).length = values.length * 2 := by
  induction values with
  | nil => rfl
  | cons value rest induction =>
    simp only [List.flatMap_cons, List.length_append, induction, List.length_cons, int16]
    simp
    omega

theorem parseBindMessage_payload (message : Bind) :
    parseBindMessage codec (Message.payload codec (.bind message)) = some {
        portal := message.portal.value
        statement := message.statement.value
        params := message.params.map (Option.map codec.decode) } := by
  obtain ⟨portal, statement, formats, params, resultFormats, formatsFit,
    paramsFit, valuesFit⟩ := message
  simp only [Message.payload, List.append_assoc]
  generalize int16 resultFormats.length ++ resultFormats.flatMap int16 = back
  have first := readCString_field codec []
    (cString codec statement ++ (int16 formats.length ++
      (formats.flatMap int16 ++ (int16 params.length ++
        (params.flatMap paramBytes ++ back))))) portal
  have second := readCString_field codec (cString codec portal)
    (int16 formats.length ++ (formats.flatMap int16 ++ (int16 params.length ++
      (params.flatMap paramBytes ++ back)))) statement
  have third := readInt16BE_field (cString codec portal ++ cString codec statement)
    (formats.flatMap int16 ++ (int16 params.length ++
      (params.flatMap paramBytes ++ back))) formatsFit
  have fourth := readInt16BE_field (cString codec portal ++
    cString codec statement ++ int16 formats.length ++ formats.flatMap int16)
    (params.flatMap paramBytes ++ back) paramsFit
  have fifth := readParams_field codec (cString codec portal ++
    cString codec statement ++ int16 formats.length ++ formats.flatMap int16 ++
    int16 params.length) back params valuesFit
  simp only [List.append_assoc, List.nil_append, List.length_nil]
    at first second third fourth fifth
  have afterFormats : ((cString codec portal ++ cString codec statement).length :
      Int) + 2 + (formats.length : Int) * 2 =
        (cString codec portal ++ (cString codec statement ++
          (int16 formats.length ++ formats.flatMap int16))).length := by
    simp only [List.length_append, length_flatMap_int16]
    simp [int16]
    omega
  have afterCount : ((cString codec portal ++ (cString codec statement ++
      (int16 formats.length ++ formats.flatMap int16))).length : Int) + 2 =
        (cString codec portal ++ (cString codec statement ++
          (int16 formats.length ++ (formats.flatMap int16 ++ int16 params.length)))).length := by
    simp only [List.length_append]
    simp [int16]
    omega
  simp only [parseBindMessage, first, second, third, Option.bind_eq_bind,
    Option.bind_some, afterFormats, fourth, afterCount, Int.toNat_natCast, fifth]
  rfl

theorem readTypes_field (front : Bytes) (types : List Nat) :
    ∃ read, readTypes (front ++ types.flatMap int32) types.length front.length = some read := by
  induction types generalizing front with
  | nil => exact ⟨[], rfl⟩
  | cons type rest induction =>
    obtain ⟨first, isFirst⟩ := readInt32BE_some front (rest.flatMap int32) type
    obtain ⟨others, areOthers⟩ := induction (front ++ int32 type)
    rw [List.append_assoc] at areOthers
    have next : ((front.length : Int) + 4) =
        ((front ++ int32 type).length : Int) := by
      simp [int32]
    refine ⟨first :: others, ?_⟩
    simp only [List.length_cons, readTypes, List.flatMap_cons, isFirst,
      Option.bind_eq_bind, Option.bind_some, next, areOthers]
    rfl

theorem parseParseMessage_payload (name query : CText) (paramTypes : List Nat)
    (fits : paramTypes.length < 2 ^ 15) : ∃ types, parseParseMessage codec
      (Message.payload codec (.parse name query paramTypes fits)) =
        some ⟨name.value, query.value, types⟩ := by
  simp only [Message.payload, List.append_assoc]
  have first := readCString_field codec [] (cString codec query ++
    (int16 paramTypes.length ++ paramTypes.flatMap int32)) name
  have second := readCString_field codec (cString codec name)
    (int16 paramTypes.length ++ paramTypes.flatMap int32) query
  have third := readInt16BE_field (cString codec name ++ cString codec query)
    (paramTypes.flatMap int32) fits
  obtain ⟨types, fourth⟩ := readTypes_field (cString codec name ++
    cString codec query ++ int16 paramTypes.length) paramTypes
  simp only [List.append_assoc, List.nil_append, List.length_nil]
    at first second third fourth
  have afterCount : ((cString codec name ++ cString codec query).length : Int) +
      2 = (cString codec name ++ (cString codec query ++ int16 paramTypes.length)).length := by
    simp only [List.length_append]
    simp [int16]
    omega
  refine ⟨types, ?_⟩
  simp only [parseParseMessage, first, second, third, Option.bind_eq_bind,
    Option.bind_some, afterCount, Int.toNat_natCast, fourth]
  rfl

theorem targetOf_byte (target : Target) : targetOf (some target.byte) = target := by
  cases target <;> rfl

theorem parseTargetMessage_payload (target : Target) (name : CText) :
    parseTargetMessage codec (target.byte :: cString codec name) =
      (some target.byte, name.value) := by
  have read := readCString_field codec [target.byte] [] name
  simp only [List.append_nil, List.singleton_append, List.length_singleton]
    at read
  rw [parseTargetMessage, read, List.head?_cons]

theorem parseExecuteMessage_payload (portal : CText) (maxRows : Nat) : parseExecuteMessage codec
      (Message.payload codec (.execute portal maxRows)) = some portal.value := by
  have first := readCString_field codec [] (int32 maxRows) portal
  obtain ⟨rows, second⟩ := readInt32BE_some (cString codec portal) [] maxRows
  simp only [List.nil_append, List.length_nil] at first
  rw [List.append_nil] at second
  simp only [parseExecuteMessage, Message.payload, first, second,
    Option.bind_eq_bind, Option.bind_some]
  rfl

end

end LagrangeDb.Pgwire
