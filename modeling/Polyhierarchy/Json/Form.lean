import Polyhierarchy.Json.Decoder
/-!
# JSON forms

A form says how the values of a type are written as JSON, and how they are read back.

## Main definitions

* `Json.Form` — a writer and a decoder of one type.
* `Json.Form.ofText` — the form of values that have a written form.
* `Json.Form.ofNames` — the form of a choice among named values.
* `Json.Form.restate` — reads a value and writes it again.
-/

namespace Polyhierarchy.Json

/-- How the values of a type are written as JSON and read back. -/
structure Form (α : Type) where
  /-- Writes a value. -/
  write : α → Json
  /-- Reads a value. -/
  decoder : Decoder α

namespace Form

variable {α : Type}

/-- Texts stand for themselves. -/
def string : Form String := ⟨.string, .string⟩

/-- Numbers stand for themselves. -/
def count : Form Nat := ⟨fun n => .int n, .count⟩

/-- Values that have a written form, as texts. -/
def ofText (toText : α → String) (parse? : String → Option α) : Form α :=
  ⟨fun a => .string (toText a), .parsed parse?⟩

/-- Values that have names, as texts. -/
def ofNames (name : α → String) (named : List (String × α)) : Form α :=
  ⟨fun a => .string (name a), .choice named⟩

/-- Lists as arrays. -/
def list (f : Form α) : Form (List α) := ⟨ofList f.write, .list f.decoder⟩

/-- Optional values; `null` is none. -/
def optional (f : Form α) : Form (Option α) := ⟨ofOption f.write, .optional f.decoder⟩

/-- Reads a value and writes it again. -/
def restate (f : Form α) (v : Draft) : Except Fault Json := (f.decoder.decode v).map f.write

end Form

end Polyhierarchy.Json
