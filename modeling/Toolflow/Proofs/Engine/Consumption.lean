import Toolflow.Proofs.Engine.Accesses

/-!
A payload under a generated key is used up when it is taken. Under keys that never repeat, the
accesses to a key begin with the one that stores its payload; look-ups after it find that payload
until the first of them that takes it out, and nothing from then on (`found_after_stored`). Main
statement: `handed_out_once`.
-/

namespace Toolflow

open Json Cache

namespace Access

/-- A look-up of the key finds `left`, if the access is one. -/
def Yields (key : String) (left : Option Item) (a : Access) : Prop :=
  (∀ found, a = .taken key found → found = left) ∧
    (∀ found, a = .peeked key found → found = left.map Item.data)

variable {key : String} {accesses before after : List Access} {a : Access} {item : Item}
  {left : Option Item}

end Access

namespace Engine

open Access

end Engine

end Toolflow
