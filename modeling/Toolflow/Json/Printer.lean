import Toolflow.Binary64.Shortest
import Toolflow.Json.Value

/-!
JSON text of a value, without blanks. Integers are written in decimal and floats with the fewest
digits that read back.
-/

namespace Toolflow.Json

/-- Floats whose leading digit stands at one of these decimal places are written without an
exponent. -/
def isPlainExponent (e : Int) : Bool :=
  decide (-5 ≤ e ∧ e < 16)

/-- Significant digits with the decimal exponent of the first of them. -/
structure Scientific where
  digits : List Char
  exponent : Int

/-- Trailing zeros are not significant. -/
def Scientific.ofDecimal (d : Decimal) : Scientific where
  digits := ((Nat.toDigits 10 d.digits).reverse.dropWhile (· == '0')).reverse
  exponent := d.exponent + (Nat.toDigits 10 d.digits).length - 1

/-- Digits with a point; there is at least one digit on either side of it. -/
def Scientific.plainChars (s : Scientific) : List Char :=
  if s.exponent < 0 then
    '0' :: '.' :: List.replicate (-s.exponent - 1).toNat '0' ++ s.digits
  else
    let whole := s.exponent.toNat + 1
    s.digits.take whole ++ List.replicate (whole - s.digits.length) '0' ++ '.' ::
      (if s.digits.length ≤ whole then ['0'] else s.digits.drop whole)

def Scientific.exponentChars (s : Scientific) : List Char :=
  s.digits.take 1 ++ (if s.digits.length ≤ 1 then [] else '.' :: s.digits.drop 1) ++
    ['e', if s.exponent < 0 then '-' else '+'] ++ Nat.toDigits 10 s.exponent.natAbs

def Scientific.chars (s : Scientific) : List Char :=
  if isPlainExponent s.exponent then s.plainChars else s.exponentChars

def Number.chars : Number → List Char
  | .int n _ => (toString n).toList
  | .float negative m =>
    (if negative then ['-'] else []) ++
      (if m.units = 0 then ['0', '.', '0'] else (Scientific.ofDecimal m.shortest).chars)

/-- The character escaped by a backslash and one letter, where there is such a letter. -/
def shortEscape? (c : Char) : Option Char :=
  match c with
  | '"' => some '"'
  | '\\' => some '\\'
  | '\x08' => some 'b'
  | '\x09' => some 't'
  | '\x0a' => some 'n'
  | '\x0c' => some 'f'
  | '\x0d' => some 'r'
  | _ => none

/-- Only quotes, backslashes and the first 32 code points are escaped. -/
def escapedChars (c : Char) : List Char :=
  match shortEscape? c with
  | some letter => ['\\', letter]
  | none =>
    if c.toNat < 0x20 then ['\\', 'u', '0', '0', Nat.digitChar (c.toNat / 16),
      Nat.digitChar (c.toNat % 16)] else [c]

def stringChars (s : String) : List Char :=
  '"' :: s.toList.flatMap escapedChars ++ ['"']

namespace Value

mutual

def chars : Value → List Char
  | .null => ['n', 'u', 'l', 'l']
  | .bool true => ['t', 'r', 'u', 'e']
  | .bool false => ['f', 'a', 'l', 's', 'e']
  | .number n => n.chars
  | .string s => stringChars s
  | .array items => '[' :: itemChars items ++ [']']
  | .object members => '\x7b' :: memberChars members ++ ['\x7d']

def itemChars : List Value → List Char
  | [] => []
  | [v] => v.chars
  | v :: w :: rest => v.chars ++ ',' :: itemChars (w :: rest)

def memberChars : List (String × Value) → List Char
  | [] => []
  | [(k, v)] => stringChars k ++ ':' :: v.chars
  | (k, v) :: m :: rest => stringChars k ++ ':' :: v.chars ++ ',' :: memberChars (m :: rest)

end

def text (v : Value) : String :=
  String.ofList v.chars

end Value

end Toolflow.Json
