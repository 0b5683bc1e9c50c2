import Toolflow.Wire.Fault

/-!
Decoders of JSON values and their parts. A record is read from an object by its field names or from
an array by position.
-/

namespace Toolflow.Wire

open Json

abbrev Decoder (α : Type) := Value → Except Fault α

def boolean : Decoder Bool
  | .bool b => .ok b
  | v => .error (.invalidType v .boolean)

def string : Decoder String
  | .string s => .ok s
  | v => .error (.invalidType v .string)

def anything : Decoder Value := .ok

def map : Decoder Members
  | .object members => .ok members
  | v => .error (.invalidType v .map)

def sequence {α : Type} (item : Decoder α) : Decoder (List α)
  | .array items => items.mapM item
  | v => .error (.invalidType v .sequence)

/-- A nonnegative integer below `limit`; floats are of another type. -/
def natural (expected : Expected) (limit : Nat) : Decoder Nat
  | .number (.int n h) =>
    if 0 ≤ n ∧ n < limit then .ok n.toNat else .error (.invalidValue (.number (.int n h)) expected)
  | v => .error (.invalidType v expected)

def count : Decoder UInt64 := fun v =>
  UInt64.ofNat <$> natural .count UInt64.size v

/-- Null stands for absence. -/
def nullable {α : Type} (decode : Decoder α) : Decoder (Option α)
  | .null => .ok none
  | v => some <$> decode v

/-- The member of an object, decoded, if there is one. -/
def field? {α : Type} (decode : Decoder α) (members : Members) (name : String) :
    Except Fault (Option α) :=
  match Members.get? members name with
  | some v => some <$> decode v
  | none => .ok none

/-- A member that may be absent or null. -/
def optional {α : Type} (decode : Decoder α) (members : Members) (name : String) :
    Except Fault (Option α) :=
  Option.join <$> field? (nullable decode) members name

def require {α : Type} (name : String) : Option α → Except Fault α
  | some x => .ok x
  | none => .error (.missingField name)

/-- Elements still to be read. -/
abbrev Positional := StateT (List Value) (Except Fault)

/-- The element at a position that must be filled. -/
def element {α : Type} (decode : Decoder α) (position : Nat) (expected : Expected) :
    Positional α := fun
  | [] => .error (.invalidLength position expected)
  | v :: rest => (·, rest) <$> decode v

/-- An element that may be null, or absent at the end. -/
def optionalElement {α : Type} (decode : Decoder α) : Positional (Option α) := fun
  | [] => .ok (none, [])
  | v :: rest => (·, rest) <$> nullable decode v

def record {α : Type} (name : String) (ofMembers : Members → Except Fault α)
    (ofElements : Positional α) : Decoder α
  | .object members => ofMembers members
  | .array items =>
    match ofElements items with
    | .error fault => .error fault
    | .ok (x, []) => .ok x
    | .ok (_, _ :: _) => .error (.invalidLength items.length .fewerElements)
  | v => .error (.invalidType v (.record name))

/-- A member in an encoded record; absent ones leave no trace. -/
def member? (name : String) (v : Option Value) : Members :=
  v.toList.map (name, ·)

end Toolflow.Wire
