import Toolflow.Text.Fields

/-!
The form of cache keys: a lead, the digits of a time in milliseconds, an underscore and nine
hexadecimal characters.
-/

namespace Toolflow.Cache

def suffixLength : Nat := 9

def isSuffixChar (c : Char) : Bool :=
  c.isDigit || ('a' ≤ c && c ≤ 'f')

def hasKeyShape (keyPrefix text : String) : Bool :=
  match (Text.after? keyPrefix text.toList).bind (Text.cut '_') with
  | some (millis, suffix) =>
    !millis.isEmpty && millis.all Char.isDigit && suffix.length == suffixLength &&
      suffix.all isSuffixChar
  | none => false

/-- The random part of a key. -/
structure Suffix where
  digits : Vector (Fin 16) suffixLength

def Suffix.chars (s : Suffix) : List Char :=
  s.digits.toList.map fun d => Nat.digitChar d.val

def makeKey (keyPrefix : String) (millis : Int) (suffix : Suffix) : String :=
  keyPrefix ++ toString millis ++ "_" ++ String.ofList suffix.chars

/-- What an operation finds when it looks at the clocks and draws random digits. -/
structure Reading where
  /-- Nanoseconds since the start of 1970. -/
  time : Int
  /-- Nanoseconds on a clock that nobody sets. -/
  uptime : Nat
  suffix : Suffix

def Reading.key (r : Reading) (keyPrefix : String) : String :=
  makeKey keyPrefix (r.time / 1000000) r.suffix

end Toolflow.Cache
