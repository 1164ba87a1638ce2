import GardenAdmin.Events.Event
import GardenAdmin.SortedMap

/-!
# Callbacks

Callbacks are kept under names, one under each. A registration first draws a generation and then
stores its callback, so two registrations can overlap; the one that stores last stays. A handle names
one registration: it takes that one away and no other, whatever was stored under the name since.
-/

namespace GardenAdmin

/-- What a callback does besides taking note of the event. -/
inductive Reaction where
  | nothing
  /-- It does not return. -/
  | panic
  /-- It hands the event to the panel. -/
  | feedPanel
  /-- Once the event is delivered, a plain callback is registered under that name and tag. -/
  | register (name : String)
  /-- Once the event is delivered, the callback of that name is removed. -/
  | remove (name : String)
  deriving DecidableEq, Repr

structure Callback where
  /-- What its notes are signed with. -/
  tag : String
  reaction : Reaction := .nothing
  deriving DecidableEq, Repr

structure Registration where
  generation : Nat
  callback : Callback
  deriving DecidableEq, Repr

/-- What a subscriber holds: the name and generation of a registration. -/
structure Handle where
  name : String
  generation : Nat
  deriving DecidableEq, Repr

structure Callbacks where
  stored : SortedMap Registration := .empty
  /-- Registrations that drew their generation and have not stored their callback yet. -/
  drawn : List (Handle × Callback) := []
  nextGeneration : Nat := 0
  deriving DecidableEq, Repr

namespace Callbacks

def size (c : Callbacks) : Nat := c.stored.size

/-- Starts a registration: the handle it will be known by. -/
def draw (c : Callbacks) (name : String) (callback : Callback) : Handle × Callbacks :=
  let handle := ⟨name, c.nextGeneration⟩
  (handle, { c with
    drawn := c.drawn ++ [(handle, callback)]
    nextGeneration := c.nextGeneration + 1 })

/-- Ends a registration that was started: its callback replaces the one under its name. -/
def store? (c : Callbacks) (handle : Handle) : Option Callbacks := do
  let (_, callback) ← c.drawn.find? (·.1 = handle)
  return { c with
    stored := c.stored.insert handle.name ⟨handle.generation, callback⟩
    drawn := c.drawn.filter (·.1 ≠ handle) }

/-- Registers a callback at one go. -/
def register (c : Callbacks) (name : String) (callback : Callback) : Handle × Callbacks :=
  let (handle, d) := c.draw name callback
  (handle, (d.store? handle).getD d)

/-- Removes what is stored under a name and tells whether there was anything. -/
def remove (c : Callbacks) (name : String) : Bool × Callbacks :=
  (c.stored.contains name, { c with stored := c.stored.erase name })

/-- Whether a handle's own registration is the one stored. -/
def isCurrent (c : Callbacks) (handle : Handle) : Bool :=
  (c.stored.get? handle.name).any (·.generation = handle.generation)

/-- Removes the registration of a handle and tells whether it was still stored. -/
def unsubscribe (c : Callbacks) (handle : Handle) : Bool × Callbacks :=
  if c.isCurrent handle then (true, { c with stored := c.stored.erase handle.name })
  else (false, c)

end Callbacks

/-- How the call of a callback ended. -/
inductive CallOutcome where
  | returned
  | panicked
  deriving DecidableEq, Repr

def Callback.outcome (c : Callback) : CallOutcome :=
  if c.reaction = .panic then .panicked else .returned

/-- An event that was handed to the callbacks: all that were stored at that moment, in name order. A
panic ends the call of one callback only. -/
structure Delivery where
  event : Event
  calls : List (String × Registration × CallOutcome)
  deriving DecidableEq, Repr

/-- Calls every stored callback. -/
def Callbacks.deliver (c : Callbacks) (e : Event) : Delivery :=
  ⟨e, c.stored.entries.map fun (name, r) => (name, r, r.callback.outcome)⟩

end GardenAdmin
