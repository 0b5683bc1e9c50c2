import Toolflow.Json.Number

/-!
JSON values. The members of an object are kept as a list in ascending order of their keys;
`Members.insert` keeps that order.
-/

namespace Toolflow.Json

inductive Value where
  | null
  | bool (b : Bool)
  | number (n : Number)
  | string (s : String)
  | array (items : List Value)
  | object (members : List (String × Value))

abbrev Members := List (String × Value)

inductive Kind where
  | null | boolean | number | string | array | object
deriving DecidableEq

def Kind.name : Kind → String
  | .null => "null"
  | .boolean => "boolean"
  | .number => "number"
  | .string => "string"
  | .array => "array"
  | .object => "object"

namespace Members

def get? (members : Members) (key : String) : Option Value :=
  members.lookup key

def keys (members : Members) : List String :=
  members.map Prod.fst

def erase (members : Members) (key : String) : Members :=
  members.filter fun m => m.1 ≠ key

/-- Puts a member in its place, over any member of the same key. -/
def insert (key : String) (value : Value) : Members → Members
  | [] => [(key, value)]
  | m :: rest =>
    if key < m.1 then (key, value) :: m :: rest
    else if key = m.1 then (key, value) :: rest
    else m :: insert key value rest

def ofList (members : List (String × Value)) : Members :=
  members.foldl (fun acc m => insert m.1 m.2 acc) []

end Members

namespace Value

def kind : Value → Kind
  | .null => .null
  | .bool _ => .boolean
  | .number _ => .number
  | .string _ => .string
  | .array _ => .array
  | .object _ => .object

def ofCount (n : Nat) : Value :=
  .number (.ofCount n)

def isNull : Value → Bool
  | .null => true
  | _ => false

@[simp]
theorem isNull_iff {v : Value} : v.isNull = true ↔ v = .null := by
  cases v <;> simp [isNull]

def isTrue : Value → Bool
  | .bool true => true
  | _ => false

def string? : Value → Option String
  | .string s => some s
  | _ => none

def array? : Value → Option (List Value)
  | .array items => some items
  | _ => none

@[simp]
theorem string?_string (text : String) : (string text).string? = some text := rfl

@[simp]
theorem string?_eq_some_iff {v : Value} {text : String} :
    v.string? = some text ↔ v = .string text := by
  cases v <;> simp [string?]

@[simp]
theorem array?_eq_some_iff {v : Value} {items : List Value} :
    v.array? = some items ↔ v = .array items := by
  cases v <;> simp [array?]

/-- The member of an object; other values have none. -/
def member? (v : Value) (key : String) : Option Value :=
  match v with
  | .object members => Members.get? members key
  | _ => none

mutual

/-- Equality of JSON values: numbers as `Number.equal`, all else by structure. -/
def equal : Value → Value → Bool
  | .null, .null => true
  | .bool a, .bool b => a == b
  | .number a, .number b => a.equal b
  | .string a, .string b => a == b
  | .array as, .array bs => equalItems as bs
  | .object as, .object bs => equalMembers as bs
  | _, _ => false

def equalItems : List Value → List Value → Bool
  | [], [] => true
  | a :: as, b :: bs => equal a b && equalItems as bs
  | _, _ => false

def equalMembers : List (String × Value) → List (String × Value) → Bool
  | [], [] => true
  | (j, a) :: as, (k, b) :: bs => j == k && equal a b && equalMembers as bs
  | _, _ => false

end

end Value

end Toolflow.Json
