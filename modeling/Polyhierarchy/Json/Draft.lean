import Polyhierarchy.Json.Token
import Polyhierarchy.Json.Value
/-!
# JSON texts that may break off

A JSON text is read as far as it goes. What is read is a draft: a value in which some container may
not have been closed, and in which a value may be missing because the text breaks off there. A
reader that walks a draft from left to right meets the break at the same place as a reader of the
text, so it can tell which comes first, a break or a value of the wrong kind.

## Main definitions

* `Json.Draft` — a value, as far as it could be read.
* `Json.Draft.read` — the draft of a text. Text after the first value is ignored.
* `Json.Draft.isWhole` — whether nothing in it is missing.
* `Json.Draft.toJson?` — the value of a draft that is whole and holds no fractions.

## Design

The structure is found by a machine that takes one token at a time and keeps the stack of the
containers that are open. When no token fits, the open containers are closed as broken.
-/

namespace Polyhierarchy.Json

/-- A JSON value as far as it could be read. A member of an object whose name is no text has the
name `none`. -/
inductive Draft where
  | missing
  | null
  | bool (value : Bool)
  | int (value : Int)
  | decimal
  | string (value : String)
  | valueless
  | array (items : List Draft) (isClosed : Bool)
  | object (members : List (Option String × Draft)) (isClosed : Bool)
  deriving Inhabited

namespace Draft

/-! ### Reading -/

/-- A container that is open, with what it holds so far, the last first. For an object it says
which name waits for its value. -/
inductive Frame
  | array (items : List Draft)
  | object (members : List (Option String × Draft)) (name : Option (Option String))

/-- Which tokens may come next. -/
inductive Expecting
  | value
  | valueOrClose
  | separatorOrClose
  | name
  | nameOrClose
  | colon

/-- What the machine has done so far: it is inside containers, the innermost first, or it has
finished a value. -/
inductive Progress
  | inside (stack : List Frame) (expecting : Expecting)
  | finished (value : Draft)
  | broken (stack : List Frame)

/-- Hands a finished value to the innermost open container. -/
def Progress.accept (v : Draft) : List Frame → Progress
  | [] => .finished v
  | .array items :: stack => .inside (.array (v :: items) :: stack) .separatorOrClose
  | .object members name :: stack =>
    .inside (.object ((name.getD none, v) :: members) none :: stack) .separatorOrClose

/-- The scalar that a token stands for. -/
def scalar? : Token → Option Draft
  | .null => some .null
  | .bool b => some (.bool b)
  | .int i => some (.int i)
  | .decimal => some .decimal
  | .string s => some (.string s)
  | .valueless _ => some .valueless
  | _ => none

/-- Takes a token that begins a value. -/
def Progress.beginValue (stack : List Frame) (t : Token) : Progress :=
  match t with
  | .openArray => .inside (.array [] :: stack) .valueOrClose
  | .openObject => .inside (.object [] none :: stack) .nameOrClose
  | _ => match scalar? t with
    | some v => Progress.accept v stack
    | none => .broken stack

/-- Takes a token that is the name of a member. -/
def Progress.beginMember (stack : List Frame) (t : Token) : Progress :=
  match stack, t with
  | .object members _ :: rest, .string s => .inside (.object members (some (some s)) :: rest) .colon
  | .object members _ :: rest, .valueless true =>
    .inside (.object members (some none) :: rest) .colon
  | _, _ => .broken stack

/-- Closes the innermost container, if the token fits it. -/
def Progress.close (stack : List Frame) (t : Token) : Progress :=
  match stack, t with
  | .array items :: rest, .closeArray => Progress.accept (.array items.reverse true) rest
  | .object members _ :: rest, .closeObject => Progress.accept (.object members.reverse true) rest
  | _, _ => .broken stack

/-- Takes one token. -/
def Progress.step (p : Progress) (t : Token) : Progress :=
  match p with
  | .inside stack expecting =>
    match expecting, t with
    | .value, t => Progress.beginValue stack t
    | .valueOrClose, .closeArray => Progress.close stack t
    | .valueOrClose, t => Progress.beginValue stack t
    | .separatorOrClose, .comma =>
      match stack with
      | .array _ :: _ => .inside stack .value
      | .object _ _ :: _ => .inside stack .name
      | [] => .broken stack
    | .separatorOrClose, t => Progress.close stack t
    | .name, t => Progress.beginMember stack t
    | .nameOrClose, .closeObject => Progress.close stack t
    | .nameOrClose, t => Progress.beginMember stack t
    | .colon, .colon => .inside stack .value
    | .colon, _ => .broken stack
  | p => p

/-- The draft of a container that breaks off, with a value inside it that breaks off too, if the
break is inside that value. -/
def Frame.breakOff (inner : Option Draft) : Frame → Draft
  | .array items => .array (inner.toList ++ items).reverse false
  | .object members name =>
    match inner, name with
    | some v, _ => .object ((name.getD none, v) :: members).reverse false
    | none, some n => .object ((n, .missing) :: members).reverse false
    | none, none => .object members.reverse false

/-- The draft that is left when no further token fits. -/
def breakOff (stack : List Frame) : Draft :=
  (stack.foldl (fun inner frame => some (frame.breakOff inner)) none).getD .missing

/-- The draft that the machine ends with. -/
def Progress.result : Progress → Draft
  | .finished v => v
  | .inside stack _ => breakOff stack
  | .broken stack => breakOff stack

/-- Takes the tokens of a text until a value is finished or no token fits. Every token takes at
least one character, so the length of the text bounds their number. -/
def Progress.run : Nat → Progress → List Char → Progress
  | 0, p, _ => p
  | bound + 1, .inside stack expecting, s =>
    match nextToken (s.dropWhile isBlank) with
    | some (t, rest) => (Progress.step (.inside stack expecting) t).run bound rest
    | none => .broken stack
  | _, p, _ => p

/-- The draft of a text. What follows the first value is ignored. -/
def read (s : String) : Draft :=
  ((Progress.inside [] .value).run s.length s.toList).result

/-! ### Views -/

mutual

/-- Whether nothing is missing. -/
def isWhole : Draft → Bool
  | .missing => false
  | .array items isClosed => isClosed && areWhole items
  | .object members isClosed => isClosed && membersAreWhole members
  | _ => true

/-- Whether nothing is missing in any of the items. -/
def areWhole : List Draft → Bool
  | [] => true
  | v :: rest => isWhole v && areWhole rest

/-- Whether nothing is missing in any of the members. -/
def membersAreWhole : List (Option String × Draft) → Bool
  | [] => true
  | (_, v) :: rest => isWhole v && membersAreWhole rest

end

mutual

/-- The value of a draft that is whole and holds no fractions. -/
def toJson? : Draft → Option Json
  | .null => some .null
  | .bool b => some (.bool b)
  | .int i => some (.int i)
  | .string s => some (.string s)
  | .array items isClosed => if isClosed then (itemsToJson? items).map .array else none
  | .object members isClosed => if isClosed then (membersToJson? members).map .object else none
  | _ => none

/-- The values of items that are all whole. -/
def itemsToJson? : List Draft → Option (List Json)
  | [] => some []
  | v :: rest => do return (← toJson? v) :: (← itemsToJson? rest)

/-- The values of members that are all whole and have names. -/
def membersToJson? : List (Option String × Draft) → Option (List (String × Json))
  | [] => some []
  | (k, v) :: rest => do return (← k, ← toJson? v) :: (← membersToJson? rest)

end

end Draft

end Polyhierarchy.Json
