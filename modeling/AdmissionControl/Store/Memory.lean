import AdmissionControl.Event

namespace AdmissionControl

/-- Ask a store to record one event for `key` if fewer than `threshold` lie within the window. A
request without a moment leaves it to the store's own clock. -/
structure WindowRequest where
  key : String
  window : Nat
  threshold : Nat
  now : Option Nat := none
  deriving DecidableEq, Repr, Inhabited

/-- A store's answer: whether the event was recorded, or what went wrong. -/
abbrev StoreAnswer := Except StoreError Bool

/-- The events of one key, oldest first, and the window of its latest request. -/
structure KeyEvents where
  key : String
  window : Nat := 0
  events : List Nat := []
  deriving DecidableEq, Repr, Inhabited

namespace KeyEvents

def left (window now event : Nat) : Bool := addMillis event window ≤ now

/-- Drops events from the front as long as they have left the window. -/
def prune (entry : KeyEvents) (now : Nat) : KeyEvents :=
  { entry with events := entry.events.dropWhile (left entry.window now) }

/-- The newest event has left the window, or there is none. -/
def expired (entry : KeyEvents) (now : Nat) : Bool :=
  match entry.events.getLast? with
  | some newest => left entry.window now newest
  | none => true

end KeyEvents

structure MemoryStore where
  keys : List KeyEvents := []
  lastSweep : Option Nat := none
  deriving DecidableEq, Repr, Inhabited

namespace MemoryStore

def size (store : MemoryStore) : Nat := store.keys.length

def find? (store : MemoryStore) (key : String) : Option KeyEvents :=
  store.keys.find? (·.key == key)

/-- How many events are kept for a key, those included that have left the window since. -/
def recorded (store : MemoryStore) (key : String) : Nat :=
  match store.find? key with
  | some entry => entry.events.length
  | none => 0

def sweep (store : MemoryStore) (now : Nat) : MemoryStore where
  keys := store.keys.filter fun entry => !entry.expired now
  lastSweep := some now

/-- Sweeps if a window has passed since the last sweep. The first request only starts the count. -/
def sweepIfDue (store : MemoryStore) (now window : Nat) : MemoryStore × List Event :=
  let last := store.lastSweep.getD now
  if window ≤ now - last then
    let swept := store.sweep now
    let dropped := store.size - swept.size
    (swept, if 0 < dropped then [.keysEvicted dropped swept.size] else [])
  else ({ store with lastSweep := some last }, [])

/-- Puts a key's events in the place of those it had, or behind all others. -/
def put (entries : List KeyEvents) (entry : KeyEvents) : List KeyEvents :=
  match entries with
  | [] => [entry]
  | first :: rest => if first.key = entry.key then entry :: rest else first :: put rest entry

/-- Prunes the key's events, and records the moment if fewer than the threshold are left. -/
def recordIfBelow (store : MemoryStore) (request : WindowRequest) (now : Nat) :
    Bool × MemoryStore × List Event :=
  let (store, report) := store.sweepIfDue now request.window
  let entry := (store.find? request.key).getD { key := request.key }
  let entry := { entry with window := request.window }.prune now
  if entry.events.length < request.threshold then
    let entry := { entry with events := entry.events ++ [now] }
    (true, { store with keys := put store.keys entry }, report)
  else (false, { store with keys := put store.keys entry }, report)

def purge (store : MemoryStore) (now : Nat) : Nat × MemoryStore :=
  let swept := store.sweep now
  (store.size - swept.size, swept)

end MemoryStore

end AdmissionControl
