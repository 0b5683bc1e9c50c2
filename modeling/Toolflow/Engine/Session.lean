import Toolflow.Cache.Store
import Toolflow.Config.Basic
import Toolflow.Tool.Registry

/-!
An engine and the state that its operations pass on. Every operation on the store takes one reading.
-/

namespace Toolflow

open Json Cache

structure Engine where
  config : Config
  registry : Registry
  /-- What the operations find, in the order in which they look. -/
  reading : Nat → Reading

/-- What an operation did in the store, with what it found there. -/
inductive Access where
  | stored (item : Item)
  | peeked (key : String) (found : Option Value)
  | taken (key : String) (found : Option Item)
  | deleted (key : String)
  | cleared

structure Session where
  store : Store
  /-- The calls that tools have received. -/
  calls : List Call := []
  /-- Number of readings taken. -/
  readings : Nat := 0
  /-- Generated keys under which something was put. -/
  keys : List String := []
  /-- The accesses to the store so far, in order. -/
  accesses : List Access := []

def Session.start (config : Config) : Session where
  store := { lifespan := config.lifespan.toNanos }

/-- The session after one more reading, with another store. -/
def Session.after (s : Session) (store : Store) : Session :=
  { s with store, readings := s.readings + 1 }

def Session.note (s : Session) (a : Access) : Session :=
  { s with accesses := s.accesses ++ [a] }

def Session.clear (s : Session) : Session :=
  (s.after s.store.clear).note .cleared

namespace Engine

variable (e : Engine)

def now (s : Session) : Reading :=
  e.reading s.readings

def isCacheKey (text : String) : Bool :=
  hasKeyShape e.config.keyPrefix text

def nextKey (s : Session) : String :=
  (e.now s).key e.config.keyPrefix

/-- A fresh key under which nothing is put. -/
def generate (s : Session) : String × Session :=
  (e.nextKey s, s.after s.store)

/-- An item that is made now. -/
def itemNow (s : Session) (key : String) (data : Value) (producer : ToolName) : Item where
  key
  data
  producer
  stamp := (e.now s).time
  putAt := (e.now s).uptime

/-- Puts an item whose time of making is given; it counts as put now. -/
def put (item : Item) (s : Session) : Session :=
  let item := { item with putAt := (e.now s).uptime }
  (s.after (s.store.put item)).note (.stored item)

/-- Keeps data under a fresh key. -/
def keep (producer : ToolName) (data : Value) (s : Session) : String × Session :=
  let key := e.nextKey s
  let item := e.itemNow s key data producer
  (key, { (s.after (s.store.put item)).note (.stored item) with keys := s.keys ++ [key] })

/-- Data under a key, which stays where it is. -/
def peek (key : String) (s : Session) : Option Value × Session :=
  let r := s.store.get (e.now s) key
  let found := r.1.map Item.data
  (found, (s.after r.2).note (.peeked key found))

/-- Takes what is under a key; it cannot be had again. -/
def take (key : String) (s : Session) : Option Item × Session :=
  let r := s.store.take (e.now s) key
  (r.1, (s.after r.2).note (.taken key r.1))

def delete (key : String) (s : Session) : Bool × Session :=
  let r := s.store.delete (e.now s) key
  (r.1, (s.after r.2).note (.deleted key))

def deleteAll (keys : List String) (s : Session) : Session :=
  keys.foldl (fun s key => (e.delete key s).2) s

def purge (s : Session) : Nat × Session :=
  let r := s.store.purge (e.now s)
  (r.1, s.after r.2)

end Engine

end Toolflow
