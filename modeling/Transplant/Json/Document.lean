import Transplant.Json.Token

/-!
JSON documents as trees. A document need not be well-formed: its tree then goes as far as the text
can be read, and shows where it breaks off. So whoever walks over a tree from left to right meets
what the document says before its first fault, and then the fault.
-/

namespace Transplant.Json

/-- A value as far as it was read. A container that is not `whole` breaks off after what it holds,
or inside the last thing it holds. -/
inductive Value where
  | null
  | bool (b : Bool)
  | number (n : Numeral)
  | string (items : List StringItem)
  | array (elements : List Value) (whole : Bool)
  | object (members : List (List StringItem × Value)) (whole : Bool)
  /-- There is no value here. -/
  | fault
deriving Inhabited

/-- A member of an object: its key and its value. -/
abbrev Member := List StringItem × Value

/-- Whether a value was read to its end. -/
def Value.isWhole : Value → Bool
  | .array _ whole => whole
  | .object _ whole => whole
  | .fault => false
  | _ => true

/-- What a text says as a document, and whether it is well-formed to its end. -/
structure Document where
  root : Value
  wellFormed : Bool

/-- A container that is still open, with what it holds so far, the last first. -/
inductive Frame where
  | array (elements : List Value)
  | object (members : List Member)
  /-- An object in which the value of a key is being read. -/
  | member (members : List Member) (key : List StringItem)

/-- What is to come next. -/
inductive Expected where
  | value
  /-- A value, or the end of the array that was just opened. -/
  | element
  | key
  /-- A key, or the end of the object that was just opened. -/
  | member
  | colon (key : List StringItem)
  /-- What follows the value that was just read. -/
  | next (v : Value)

/-- A point between two tokens: what is to come, and the open containers, the innermost first. -/
structure Cursor where
  expected : Expected
  frames : List Frame

namespace Cursor

/-- Begins a value. -/
def begin? (frames : List Frame) : Token → Option Cursor
  | .openBracket => some ⟨.element, .array [] :: frames⟩
  | .openBrace => some ⟨.member, .object [] :: frames⟩
  | .null => some ⟨.next .null, frames⟩
  | .bool b => some ⟨.next (.bool b), frames⟩
  | .number n => some ⟨.next (.number n), frames⟩
  | .string items => some ⟨.next (.string items), frames⟩
  | _ => none

/-- Reads one token, if it may stand here. -/
def step? : Cursor → Token → Option Cursor
  | ⟨.value, frames⟩, token => begin? frames token
  | ⟨.element, .array elements :: frames⟩, .closeBracket =>
    some ⟨.next (.array elements.reverse true), frames⟩
  | ⟨.element, frames⟩, token => begin? frames token
  | ⟨.member, .object members :: frames⟩, .closeBrace =>
    some ⟨.next (.object members.reverse true), frames⟩
  | ⟨.member, frames⟩, .string key => some ⟨.colon key, frames⟩
  | ⟨.key, frames⟩, .string key => some ⟨.colon key, frames⟩
  | ⟨.colon key, .object members :: frames⟩, .colon =>
    some ⟨.value, .member members key :: frames⟩
  | ⟨.next v, .array elements :: frames⟩, .comma => some ⟨.value, .array (v :: elements) :: frames⟩
  | ⟨.next v, .array elements :: frames⟩, .closeBracket =>
    some ⟨.next (.array (v :: elements).reverse true), frames⟩
  | ⟨.next v, .member members key :: frames⟩, .comma =>
    some ⟨.key, .object ((key, v) :: members) :: frames⟩
  | ⟨.next v, .member members key :: frames⟩, .closeBrace =>
    some ⟨.next (.object ((key, v) :: members).reverse true), frames⟩
  | _, _ => none

/-- A container that breaks off inside `v`, or, where no value was begun, before the next key. -/
def breakOff (v : Value) : Frame → Value
  | .array elements => .array (v :: elements).reverse false
  | .object members => .object members.reverse false
  | .member members key => .object ((key, v) :: members).reverse false

/-- The document that breaks off at this point. -/
def broken : Cursor → Value
  | ⟨.next v, frames⟩ => frames.foldl breakOff v
  | ⟨.colon key, .object members :: frames⟩ =>
    frames.foldl breakOff (.object ((key, .fault) :: members).reverse false)
  | ⟨_, frames⟩ => frames.foldl breakOff .fault

/-- Whether a whole document has been read. -/
def isDone : Cursor → Bool
  | ⟨.next _, []⟩ => true
  | _ => false

/-- Reads tokens to the end, or up to one that may not stand where it does. -/
def run (c : Cursor) : List Token → Document
  | [] => ⟨c.broken, c.isDone⟩
  | token :: rest =>
    match c.step? token with
    | some c => c.run rest
    | none => ⟨c.broken, false⟩

end Cursor

/-- Reads a text as a document. -/
def Document.ofText (t : Text) : Document := Cursor.run ⟨.value, []⟩ (tokens t)

end Transplant.Json
