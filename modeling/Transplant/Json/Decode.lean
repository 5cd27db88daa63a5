import Transplant.Json.Document
import Transplant.NameSet
import Transplant.Text.Escaped

/-!
From JSON documents to values of other types. A decoder walks over a document from left to right and
stops at the first thing it cannot take, be it a fault of the document or a value of the wrong type.

Records are read from objects, whose members may come in any order and with others between them, and
from arrays, which hold the values of the fields in the order of the fields.
-/

namespace Transplant.Json

/-- What was found in place of a value that was wanted. -/
inductive Found where
  | null
  | bool (b : Bool)
  | number (n : Number)
  | string (t : Text)
  | array
  | object
deriving DecidableEq, Repr

/-- Why a document cannot be decoded. -/
inductive DecodeError where
  /-- The text is no well-formed document, or an array holds more than a record has fields. -/
  | malformed
  | wrongType (found : Found) (wanted : String)
  | missingField (name : String)
  | duplicateField (name : String)
  | tooFewElements (count : Nat) (wanted : String)
deriving DecidableEq, Repr

/-- How a value is called in messages. -/
def Found.text : Found → String
  | .null => "null"
  | .bool b => "boolean `" ++ (if b then "true" else "false") ++ "`"
  | .number (.natural n) => "integer `" ++ toString n ++ "`"
  | .number (.negative n) => "integer `-" ++ toString n ++ "`"
  | .number (.float negative x) =>
    "floating point `" ++ (if negative then "-" else "") ++ String.ofList (floatStyle.write x) ++ "`"
  | .string t => "string " ++ String.ofList t.quoted
  | .array => "sequence"
  | .object => "map"

/-- The wording of an error. -/
def DecodeError.message : DecodeError → String
  | .malformed => "malformed document"
  | .wrongType found wanted => "invalid type: " ++ found.text ++ ", expected " ++ wanted
  | .missingField name => "missing field `" ++ name ++ "`"
  | .duplicateField name => "duplicate field `" ++ name ++ "`"
  | .tooFewElements count wanted =>
    "invalid length " ++ toString count ++ ", expected " ++ wanted

/-- What a value is, if it is one: a container is known by its first character, anything else must
be read to its end. -/
def Value.found? : Value → Option Found
  | .null => some .null
  | .bool b => some (.bool b)
  | .number n => n.value?.map .number
  | .string items => (stringText? items).map .string
  | .array _ _ => some .array
  | .object _ _ => some .object
  | .fault => none

/-- A way of reading a value of type `α`. -/
abbrev Decoder (α : Type) := Value → Except DecodeError α

/-- The error for a value in whose place another was wanted. -/
def mismatch (wanted : String) (v : Value) : DecodeError :=
  match v.found? with
  | some found => .wrongType found wanted
  | none => .malformed

namespace Decoder
variable {α σ : Type}

/-- Succeeds on what was read to its end. -/
def ensure (whole : Bool) : Except DecodeError Unit :=
  if whole then .ok () else .error .malformed

/-- A text. -/
def text : Decoder Text
  | .string items =>
    match stringText? items with
    | some t => .ok t
    | none => .error .malformed
  | v => .error (mismatch "a string" v)

/-- A truth value. -/
def bool : Decoder Bool
  | .bool b => .ok b
  | v => .error (mismatch "a boolean" v)

/-- A set of names, as an array in any order and with repetitions. -/
def names : Decoder NameSet
  | .array elements whole => do
    let names ← elements.mapM text
    ensure whole
    return .ofList names
  | v => .error (mismatch "a sequence" v)

/-- A value or `null`. -/
def optional (d : Decoder α) : Decoder (Option α)
  | .null => .ok none
  | v => (d v).map some

/-- A field of a record that is put together in a `σ`. -/
structure Field (σ : Type) where
  name : String
  put : σ → Value → Except DecodeError σ

/-- A field that `d` reads and `set` puts into the record. -/
def field (name : String) (d : Decoder α) (set : σ → α → σ) : Field σ where
  name := name
  put s v := (d v).map (set s)

/-- How a record is read: what it is called, its fields in order, how it is begun and finished, and
whether an array may hold the values of the first fields only. -/
structure Record (σ α : Type) where
  wanted : String
  fields : List (Field σ)
  start : σ
  finish : σ → Except DecodeError α
  mayStopEarly : Bool

/-- Reads the members of an object, given the names of the fields that were read before. A key is
looked at before its value. -/
def members (fields : List (Field σ)) (seen : List String) (s : σ) :
    List Member → Except DecodeError σ
  | [] => .ok s
  | (key, v) :: rest =>
    match stringText? key with
    | none => .error .malformed
    | some key =>
      match fields.find? fun f => f.name.toList == key with
      | none => do
        ensure v.isWhole
        members fields seen s rest
      | some f => do
        if f.name ∈ seen then throw (.duplicateField f.name)
        members fields (f.name :: seen) (← f.put s v) rest

/-- Reads the elements of an array as the values of fields, of which `count` were read before. Gives
the number of all that were read. -/
def elements (count : Nat) (s : σ) : List (Field σ) → List Value → Except DecodeError (Nat × σ)
  | _, [] => .ok (count, s)
  | [], _ :: _ => .error .malformed
  | f :: fields, v :: rest => do elements (count + 1) (← f.put s v) fields rest

/-- Reads a record. -/
def record (r : Record σ α) : Decoder α
  | .object ms whole => do
    let s ← members r.fields [] r.start ms
    ensure whole
    r.finish s
  | .array vs whole => do
    let (count, s) ← elements 0 r.start r.fields vs
    ensure whole
    if count < r.fields.length ∧ !r.mayStopEarly then
      throw (.tooFewElements count
        (r.wanted ++ " with " ++ toString r.fields.length ++ " elements"))
    r.finish s
  | v => .error (mismatch r.wanted v)

/-- Reads a text that holds nothing but the value. -/
def document (d : Decoder α) (t : Text) : Except DecodeError α := do
  let document := Document.ofText t
  let a ← d document.root
  ensure document.wellFormed
  return a

end Decoder

end Transplant.Json
