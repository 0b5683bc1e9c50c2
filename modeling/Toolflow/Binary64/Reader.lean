import Toolflow.Binary64.Basic
import Toolflow.Text.Count

/-!
Reading decimal text as the nearest value: an optional sign, digits with an optional point and
exponent, or one of the words `inf`, `infinity` and `nan` in any case.
-/

namespace Toolflow.Binary64

open Toolflow.Text

/-- An optional sign in front of the rest. -/
def readSign : List Char → Bool × List Char
  | '-' :: cs => (true, cs)
  | '+' :: cs => (false, cs)
  | cs => (false, cs)

def readDigits? (cs : List Char) : Option Nat :=
  if cs ≠ [] ∧ cs.all Char.isDigit then some (ofDigits cs) else none

/-- What follows the digits: nothing, or `e` and a signed integer. -/
def readExponent? : List Char → Option Int
  | [] => some 0
  | c :: cs =>
    if c = 'e' ∨ c = 'E' then (readDigits? (readSign cs).2).map (signed (readSign cs).1) else none

def readWord? (negative : Bool) (cs : List Char) : Option Binary64 :=
  let word := String.ofList (cs.map Char.toLower)
  if word = "inf" ∨ word = "infinity" then some (.infinite negative)
  else if word = "nan" then some .nan
  else none

def readDecimal? (negative : Bool) (cs : List Char) : Option Binary64 :=
  let (whole, rest) := cs.span Char.isDigit
  let (fraction, rest) := match rest with
    | '.' :: rest => rest.span Char.isDigit
    | rest => ([], rest)
  if whole ++ fraction = [] then none
  else (readExponent? rest).map fun exponent =>
    ofMagnitude? negative
      (Magnitude.ofDecimal? (ofDigits (whole ++ fraction)) (exponent - fraction.length))

def read? (cs : List Char) : Option Binary64 :=
  let (negative, rest) := readSign cs
  (readWord? negative rest).or (readDecimal? negative rest)

end Toolflow.Binary64
