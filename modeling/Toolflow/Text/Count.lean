/-!
Reading counts: ASCII digits with an optional plus sign, below 2⁶⁴.
-/

namespace Toolflow.Text

inductive CountFault where
  | empty
  | invalidDigit
  | tooLarge
deriving DecidableEq

def CountFault.message : CountFault → String
  | .empty => "cannot parse integer from empty string"
  | .invalidDigit => "invalid digit found in string"
  | .tooLarge => "number too large to fit in target type"

def digitValue (c : Char) : Nat :=
  c.toNat - '0'.toNat

/-- The number written by a list of ASCII digits. -/
def ofDigits (cs : List Char) : Nat :=
  cs.foldl (fun n c => n * 10 + digitValue c) 0

/-- Extends `n` by the digits of `cs`; the first fault from the left is reported. -/
def extendCount (n : Nat) : List Char → Except CountFault Nat
  | [] => .ok n
  | c :: cs =>
    if !c.isDigit then .error .invalidDigit
    else if n * 10 + digitValue c < UInt64.size then extendCount (n * 10 + digitValue c) cs
    else .error .tooLarge

def readCount : List Char → Except CountFault Nat
  | [] => .error .empty
  | ['+'] => .error .invalidDigit
  | '+' :: cs => extendCount 0 cs
  | cs => extendCount 0 cs

def readCount? (cs : List Char) : Option Nat :=
  (readCount cs).toOption

end Toolflow.Text
