/-!
# JSON values

The values that answers are made of. Objects keep their members in the order in which they were
given. Numbers are integers: no answer holds a fraction.

## Main definitions

* `Json` — a value.
* `Json.render` — the written form, without blanks.
* `Json.ofOption` — `null` for what is absent.
-/

namespace Polyhierarchy

/-- A JSON value. -/
inductive Json where
  | null
  | bool (value : Bool)
  | int (value : Int)
  | string (value : String)
  | array (items : List Json)
  | object (members : List (String × Json))
  deriving Inhabited

namespace Json

/-- The value of an optional field: `null` if there is none. -/
def ofOption {α : Type} (f : α → Json) : Option α → Json
  | some a => f a
  | none => .null

/-- An array of the values of a list. -/
def ofList {α : Type} (f : α → Json) (l : List α) : Json := .array (l.map f)

/-- A text value for anything that has a written form. -/
def text {α : Type} [ToString α] (a : α) : Json := .string (toString a)

/-- How a character is written inside a string. -/
def escapeChar (c : Char) : String :=
  if c = '"' then "\\\""
  else if c = '\\' then "\\\\"
  else if c.toNat < 0x20 then
    "\\u00" ++ String.ofList [hexDigit (c.toNat / 16), hexDigit (c.toNat % 16)]
  else c.toString
where
  /-- The digit of a number below sixteen. -/
  hexDigit (n : Nat) : Char := (Nat.toDigits 16 n).headD '0'

/-- The written form of a string. -/
def renderString (s : String) : String :=
  s.foldl (fun acc c => acc ++ escapeChar c) "\"" ++ "\""

mutual

/-- The written form of a value, without blanks. -/
def render : Json → String
  | .null => "null"
  | .bool b => if b then "true" else "false"
  | .int i => toString i
  | .string s => renderString s
  | .array items => "[" ++ renderItems items ++ "]"
  | .object members => "\x7b" ++ renderMembers members ++ "\x7d"

/-- The items of an array with commas between them. -/
def renderItems : List Json → String
  | [] => ""
  | [v] => render v
  | v :: rest => render v ++ "," ++ renderItems rest

/-- The members of an object with commas between them. -/
def renderMembers : List (String × Json) → String
  | [] => ""
  | [(k, v)] => renderString k ++ ":" ++ render v
  | (k, v) :: rest => renderString k ++ ":" ++ render v ++ "," ++ renderMembers rest

end

/-- The object without the members of the given names. -/
def without (names : List String) : Json → Json
  | .object members => .object (members.filter fun m => !names.contains m.1)
  | v => v

end Json

end Polyhierarchy
