import Toolflow.Payload.Identifier

/-!
The trades that a payload carries, whatever its shape: their number, their records and their
identifiers.
-/

namespace Toolflow.Payload

open Json

/-- A count is a nonnegative number, truncated. -/
def countOf? : Value → Option Nat
  | .number n =>
    match n.toBinary64.compare? (.ofInt 0) with
    | some .lt => none
    | some _ => some n.toBinary64.toCount
    | none => none
  | _ => none

/-- The length of an array, else of the array under `trades`, else the number under `count`. -/
def recordCount? : Value → Option Nat
  | .array items => some items.length
  | .object members =>
    match Members.get? members "trades" with
    | some (.array trades) => some trades.length
    | _ => (Members.get? members "count").bind countOf?
  | _ => none

mutual

/-- An array, the array under `trades`, the records of `data`, or a single object with an
identifier. -/
def records? : Value → Option (List Value)
  | .array items => some items
  | .object members =>
    match Members.get? members "trades" with
    | some (.array trades) => some trades
    | _ =>
      (dataRecords? members).or ((identifier? (.object members)).map fun _ => [.object members])
  | _ => none

/-- The records of the member `data`. -/
def dataRecords? : List (String × Value) → Option (List Value)
  | [] => none
  | (key, v) :: rest => if key = "data" then records? v else dataRecords? rest

end

mutual

/-- The identifiers in the array under `tradeIds`, else those of `data`, else those of the
records. -/
def ids? : Value → Option (List Value)
  | .object members =>
    match Members.get? members "tradeIds" with
    | some (.array ids) => some (ids.filterMap identifier?)
    | _ => (dataIds? members).or ((records? (.object members)).map (List.filterMap identifier?))
  | v => (records? v).map (List.filterMap identifier?)

/-- The identifiers of the member `data`. -/
def dataIds? : List (String × Value) → Option (List Value)
  | [] => none
  | (key, v) :: rest => if key = "data" then ids? v else dataIds? rest

end

/-- What a walk along the members finds is what it finds in the member `data`. -/
theorem eq_bind_get?_data {reader : Value → Option (List Value)}
    {walk : Members → Option (List Value)} (hnil : walk [] = none)
    (hcons : ∀ key v rest, walk ((key, v) :: rest) = if key = "data" then reader v else walk rest)
    (members : Members) :
    walk members = (Members.get? members "data").bind reader := by
  induction members with
  | nil => exact hnil
  | cons m rest ih =>
    obtain ⟨key, v⟩ := m
    rw [hcons]
    by_cases h : key = "data"
    · simp [Members.get?, h]
    · have hk : ("data" == key) = false := by simpa using Ne.symm h
      simp only [h, if_false, ih, Members.get?, List.lookup_cons, hk]

theorem dataRecords?_eq (members : Members) :
    dataRecords? members = (Members.get? members "data").bind records? :=
  eq_bind_get?_data rfl (fun _ _ _ => rfl) members

theorem dataIds?_eq (members : Members) :
    dataIds? members = (Members.get? members "data").bind ids? :=
  eq_bind_get?_data rfl (fun _ _ _ => rfl) members

/-- The two lists that are read off payloads. -/
inductive Listing where
  | ids | records

def Listing.read : Listing → Value → Option (List Value)
  | .ids => ids?
  | .records => records?

def Listing.noun : Listing → String
  | .ids => "trade ids"
  | .records => "trades"

end Toolflow.Payload
