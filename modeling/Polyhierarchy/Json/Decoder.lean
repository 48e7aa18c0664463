import Polyhierarchy.Json.Draft
/-!
# Decoding JSON texts

A decoder walks a draft from left to right and gives a value, or the first fault that it meets: the
text breaks off or is malformed, or it is well-formed but not of the expected shape.

## Main definitions

* `Json.Fault` — the two kinds of fault.
* `Json.Decoder` — a decoder, with what an absent field means to it.
* `Json.Record` — a decoder of an object with named fields, or of an array of their values in the
  order of the fields.

## Design

Fields that a record does not know are skipped, so only their form matters. A field that comes a
second time is a fault of shape as soon as its name is seen. A missing field is a fault at the end
of the object, unless its decoder says what its absence means.
-/

namespace Polyhierarchy.Json

/-- Why a text does not decode. -/
inductive Fault
  | malformed
  | shape
  deriving DecidableEq

/-- A decoder of values of a type. -/
structure Decoder (α : Type) where
  /-- Decodes a draft. -/
  decode : Draft → Except Fault α
  /-- The value of a field that an object does not have. -/
  absent : Option α := none
  /-- The value of a field that an array of field values is too short for. -/
  omitted : Option α := none

namespace Decoder

variable {α β : Type}

/-- Decodes the draft of a text. -/
def decodeText (d : Decoder α) (s : String) : Except Fault α := d.decode (Draft.read s)

/-- Decodes to a value of another type. -/
def map (f : α → β) (d : Decoder α) : Decoder β :=
  ⟨fun v => (d.decode v).map f, d.absent.map f, d.omitted.map f⟩

/-- What is read where a value of another kind is expected: a break or a scalar without value is
malformed, all else is of the wrong shape. -/
def unexpected : Draft → Fault
  | .missing => .malformed
  | .valueless => .malformed
  | _ => .shape

/-- A text. -/
def string : Decoder String where
  decode
    | .string s => .ok s
    | v => .error (unexpected v)

/-- A truth value. -/
def bool : Decoder Bool where
  decode
    | .bool b => .ok b
    | v => .error (unexpected v)

/-- An integer without sign that fits into 64 bits. -/
def count : Decoder Nat where
  decode
    | .int i => if 0 ≤ i ∧ i.toNat < UInt64.size then .ok i.toNat else .error .shape
    | v => .error (unexpected v)

/-- A text that another reader understands. -/
def parsed (parse? : String → Option α) : Decoder α where
  decode v := do
    match parse? (← string.decode v) with
    | some a => return a
    | none => .error .shape

/-- Decodes the items of an array one by one. -/
def items (d : Decoder α) : List Draft → Except Fault (List α)
  | [] => .ok []
  | v :: rest => do
    let a ← d.decode v
    return a :: (← items d rest)

/-- A list. -/
def list (d : Decoder α) : Decoder (List α) where
  decode
    | .array vs isClosed => do
      let as ← items d vs
      if isClosed then return as else .error .malformed
    | v => .error (unexpected v)

/-- An optional value: `null` and an absent field are nothing. -/
def optional (d : Decoder α) : Decoder (Option α) where
  decode
    | .null => .ok none
    | v => (d.decode v).map some
  absent := some none

/-- A value with a default that stands in for a missing field. -/
def withDefault (a : α) (d : Decoder α) : Decoder α := ⟨d.decode, some a, some a⟩

/-- One of several named values: its name, or an object with the name as its only member and
`null` as the value. A value of another kind is malformed, since no choice begins like it. -/
def choice (options : List (String × α)) : Decoder α where
  decode
    | .string s => named s
    | .object ((name, v) :: rest) isClosed => do
      match name with
      | none => .error .malformed
      | some s =>
        let a ← named s
        match v with
        | .null => if rest.isEmpty && isClosed then return a else .error .malformed
        | v => .error (unexpected v)
    | _ => .error .malformed
where
  /-- The value of a name. -/
  named (s : String) : Except Fault α :=
    match options.lookup s with
    | some a => .ok a
    | none => .error .shape

end Decoder

/-- A decoder of the fields of an object. -/
structure Record (α : Type) where
  /-- The names of the fields in order, each with a check of its value. -/
  fields : List (String × (Draft → Except Fault Unit))
  /-- Builds the value from the fields of an object. -/
  build : List (String × Draft) → Except Fault α
  /-- Builds the value from the first items of an array, given whether the array is closed. -/
  fromItems : Bool → List Draft → Except Fault (α × List Draft)

namespace Record

variable {α β : Type}

/-- A record without fields. -/
protected def pure (a : α) : Record α :=
  ⟨[], fun _ => .ok a, fun _ vs => .ok (a, vs)⟩

/-- The fields of one record before those of another. -/
protected def seq (f : Record (α → β)) (r : Record α) : Record β where
  fields := f.fields ++ r.fields
  build members := do return (← f.build members) (← r.build members)
  fromItems isClosed vs := do
    let (g, vs) ← f.fromItems isClosed vs
    let (a, vs) ← r.fromItems isClosed vs
    return (g a, vs)

instance : Applicative Record where
  pure := Record.pure
  seq f r := Record.seq f (r ())

/-- A record with a single field. -/
def field (name : String) (d : Decoder α) : Record α where
  fields := [(name, fun v => (d.decode v).map fun _ => ())]
  build members :=
    match members.lookup name with
    | some v => d.decode v
    | none => match d.absent with
      | some a => .ok a
      | none => .error .shape
  fromItems isClosed
    | v :: rest => (d.decode v).map fun a => (a, rest)
    | [] =>
      if isClosed then
        match d.omitted with
        | some a => .ok (a, [])
        | none => .error .shape
      else .error .malformed

/-- Walks the members of an object and collects the known fields. -/
def collect (fields : List (String × (Draft → Except Fault Unit))) (isClosed : Bool) :
    List (Option String × Draft) → List (String × Draft) → Except Fault (List (String × Draft))
  | [], found => if isClosed then .ok found else .error .malformed
  | (none, _) :: _, _ => .error .malformed
  | (some name, v) :: rest, found =>
    match fields.lookup name with
    | some check =>
      if (found.lookup name).isSome then .error .shape
      else do
        check v
        collect fields isClosed rest ((name, v) :: found)
    | none => if v.isWhole then collect fields isClosed rest found else .error .malformed

/-- The decoder of objects with the fields of the record, or of arrays of their values. -/
def decoder (r : Record α) : Decoder α where
  decode
    | .object members isClosed => do r.build (← collect r.fields isClosed members [])
    | .array vs isClosed => do
      let (a, rest) ← r.fromItems isClosed vs
      if rest.isEmpty && isClosed then return a else .error .malformed
    | v => .error (Decoder.unexpected v)

end Record

end Polyhierarchy.Json
