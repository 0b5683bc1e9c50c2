import Toolflow.Json.Value
import Toolflow.Text.Count

/-!
Reading JSON text. A reader takes characters from the front and returns what it read with the rest.
Containers nest at most `maxDepth` deep. A number with a point, an exponent or too many digits is a
float, computed from a 64-bit significand and powers of ten in binary64 arithmetic, so its last bits
may differ from the nearest value.
-/

namespace Toolflow.Json

open Toolflow.Text

def maxDepth : Nat := 127

abbrev Reader (α : Type) := List Char → Option (α × List Char)

def isSpace (c : Char) : Bool :=
  c == ' ' || c == '\t' || c == '\n' || c == '\r'

def skipSpaces (cs : List Char) : List Char :=
  cs.dropWhile isSpace

/-- Extends a significand by digits as long as it stays below 2⁶⁴; returns it with the digits left
over. -/
def absorbDigits (significand : Nat) : List Char → Nat × List Char
  | [] => (significand, [])
  | c :: cs =>
    if significand * 10 + digitValue c < UInt64.size then
      absorbDigits (significand * 10 + digitValue c) cs
    else (significand, c :: cs)

/-- `significand · 10^exponent` by one multiplication or division; below 10⁻³⁰⁸ by two divisions,
which leave nothing below 10⁻⁶¹⁶. -/
def scaleByTen? (significand : Nat) (exponent : Int) : Option Magnitude := do
  let m ← Magnitude.ofNat? significand
  if 0 ≤ exponent then
    if exponent ≤ 308 then m.mul? (← Magnitude.ofNat? (Nat.pow 10 exponent.toNat))
    else if significand = 0 then some .zero else none
  else if -308 ≤ exponent then m.div? (← Magnitude.ofNat? (Nat.pow 10 (-exponent).toNat))
  else if -616 ≤ exponent then
    (← m.div? (← Magnitude.ofNat? (Nat.pow 10 308))).div?
      (← Magnitude.ofNat? (Nat.pow 10 (-exponent - 308).toNat))
  else some .zero

/-- Digits of a number as written: before the point, after it, and the exponent if there is one. -/
structure Numeral where
  negative : Bool
  whole : List Char
  fraction : Option (List Char)
  exponent : Option Int

/-- Digits that do not fit the significand only move the exponent, and those after the point are
dropped. -/
def Numeral.toNumber? (n : Numeral) : Option Number :=
  let (significand, excess) := absorbDigits 0 n.whole
  if n.fraction.isNone && n.exponent.isNone && excess.isEmpty then
    if !n.negative then Number.ofInt? significand
    else
      if significand = 0 ∨ 0x8000000000000000 < significand then
      (Magnitude.ofNat? significand).map (.float true)
    else Number.ofInt? (-significand)
  else
    let fraction := n.fraction.getD []
    let (significand, dropped) := absorbDigits significand fraction
    let shift : Int := excess.length - (fraction.length - dropped.length : Nat)
    (scaleByTen? significand (shift + n.exponent.getD 0)).map (.float n.negative)

def readDigits : Reader (List Char) := fun cs =>
  match cs.span Char.isDigit with
  | ([], _) => none
  | (digits, rest) => some (digits, rest)

/-- A leading zero stands alone. -/
def readWhole : Reader (List Char) := fun cs => do
  let (digits, rest) ← readDigits cs
  if digits.head? = some '0' ∧ digits ≠ ['0'] then none else some (digits, rest)

def readFraction : Reader (Option (List Char)) := fun cs =>
  match cs with
  | '.' :: rest => (readDigits rest).map fun (digits, rest) => (some digits, rest)
  | _ => some (none, cs)

def readExponent : Reader (Option Int) := fun cs =>
  match cs with
  | c :: rest =>
    if c = 'e' ∨ c = 'E' then
      let (negative, rest) := match rest with
        | '-' :: rest => (true, rest)
        | '+' :: rest => (false, rest)
        | _ => (false, rest)
      (readDigits rest).map fun (digits, rest) =>
        (some (Binary64.signed negative (ofDigits digits)), rest)
    else some (none, cs)
  | [] => some (none, cs)

def readNumber : Reader Number := fun cs => do
  let (negative, rest) := match cs with
    | '-' :: rest => (true, rest)
    | _ => (false, cs)
  let (whole, rest) ← readWhole rest
  let (fraction, rest) ← readFraction rest
  let (exponent, rest) ← readExponent rest
  let number ← Numeral.toNumber? ⟨negative, whole, fraction, exponent⟩
  return (number, rest)

def hexValue? (c : Char) : Option Nat :=
  if c.isDigit then some (c.toNat - '0'.toNat)
  else if 'a' ≤ c ∧ c ≤ 'f' then some (c.toNat - 'a'.toNat + 10)
  else if 'A' ≤ c ∧ c ≤ 'F' then some (c.toNat - 'A'.toNat + 10)
  else none

def hexUnit? (a b c d : Char) : Option Nat := do
  return (((← hexValue? a) * 16 + (← hexValue? b)) * 16 + (← hexValue? c)) * 16 + (← hexValue? d)

/-- The character after a backslash names the character meant. -/
def unescape? (c : Char) : Option Char :=
  match c with
  | '"' => some '"'
  | '\\' => some '\\'
  | '/' => some '/'
  | 'b' => some '\x08'
  | 'f' => some '\x0c'
  | 'n' => some '\x0a'
  | 'r' => some '\x0d'
  | 't' => some '\x09'
  | _ => none

def consChar (c : Char) (read : Option (List Char × List Char)) : Option (List Char × List Char) :=
  read.map fun (cs, rest) => (c :: cs, rest)

/-- The inside of a string up to its closing quote. Units of a surrogate pair come together or not
at all. -/
def readQuoted : Reader (List Char)
  | [] => none
  | '"' :: rest => some ([], rest)
  | '\\' :: 'u' :: a :: b :: c :: d :: rest =>
    match hexUnit? a b c d with
    | none => none
    | some unit =>
      if unit < 0xD800 ∨ 0xE000 ≤ unit then consChar (Char.ofNat unit) (readQuoted rest)
      else if 0xDC00 ≤ unit then none
      else match rest with
        | '\\' :: 'u' :: e :: f :: g :: h :: rest =>
          match hexUnit? e f g h with
          | none => none
          | some low =>
            if 0xDC00 ≤ low ∧ low < 0xE000 then
              consChar (Char.ofNat (0x10000 + (unit - 0xD800) * 0x400 + (low - 0xDC00)))
                (readQuoted rest)
            else none
        | _ => none
  | '\\' :: c :: rest =>
    match unescape? c with
    | some c => consChar c (readQuoted rest)
    | none => none
  | c :: rest => if c.toNat < 0x20 then none else consChar c (readQuoted rest)

def readString : Reader String := fun cs =>
  match cs with
  | '"' :: rest => (readQuoted rest).map fun (cs, rest) => (String.ofList cs, rest)
  | _ => none

/-- Items between commas up to the closing character; `fuel` bounds their number. -/
def readSeries {α : Type} (close : Char) (readItem : Reader α) : Nat → Reader (List α)
  | 0, _ => none
  | fuel + 1, cs => do
    let (item, rest) ← readItem cs
    match skipSpaces rest with
    | ',' :: rest => return ((← readSeries close readItem fuel rest).map (item :: ·) id)
    | c :: rest => if c = close then some ([item], rest) else none
    | [] => none

/-- A series may be empty. Every item takes a character, so their number is bounded by the
characters left. -/
def readItems {α : Type} (close : Char) (readItem : Reader α) : Reader (List α) := fun cs =>
  match skipSpaces cs with
  | c :: rest => if c = close then some ([], rest) else readSeries close readItem cs.length cs
  | [] => none

def readMember (readValue : Reader Value) : Reader (String × Value) := fun cs => do
  let (key, rest) ← readString (skipSpaces cs)
  match skipSpaces rest with
  | ':' :: rest => return ((← readValue rest).map (key, ·) id)
  | _ => none

/-- A value whose containers nest at most `depth` deep. -/
def readValue (depth : Nat) : Reader Value := fun cs =>
  match skipSpaces cs with
  | 'n' :: 'u' :: 'l' :: 'l' :: rest => some (.null, rest)
  | 't' :: 'r' :: 'u' :: 'e' :: rest => some (.bool true, rest)
  | 'f' :: 'a' :: 'l' :: 's' :: 'e' :: rest => some (.bool false, rest)
  | '"' :: rest => (readString ('"' :: rest)).map (Prod.map .string id)
  | '[' :: rest =>
    match depth with
    | 0 => none
    | depth + 1 => (readItems ']' (readValue depth) rest).map (Prod.map .array id)
  | '\x7b' :: rest =>
    match depth with
    | 0 => none
    | depth + 1 =>
      (readItems '\x7d' (readMember (readValue depth)) rest).map
        (Prod.map (.object ∘ Members.ofList) id)
  | rest => (readNumber rest).map (Prod.map .number id)

/-- The value of a whole text, blanks around it allowed. -/
def read? (cs : List Char) : Option Value :=
  match readValue maxDepth cs with
  | some (v, rest) => if skipSpaces rest = [] then some v else none
  | none => none

end Toolflow.Json
