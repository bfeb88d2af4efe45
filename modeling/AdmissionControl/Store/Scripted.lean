import AdmissionControl.Store.Memory
/-!
A window store that answers from a list, whatever it is asked, and remembers what it was asked. It
stands for any store at all: each answer may be a failure and may take its time.
-/

namespace AdmissionControl

/-- An answer that takes `delay` milliseconds to arrive. -/
structure Reply where
  delay : Nat := 0
  answer : StoreAnswer

instance : Inhabited Reply := ⟨{ answer := .ok true }⟩

/-- The answers still to come, and the requests received since the last time they were read. -/
structure ScriptedStore where
  replies : List Reply := []
  received : List WindowRequest := []
  deriving Inhabited

namespace ScriptedStore

/-- The next answer of the list. A store at the end of its list records every event at once. -/
def reply (store : ScriptedStore) (request : WindowRequest) : Reply × ScriptedStore :=
  let received := store.received ++ [request]
  match store.replies with
  | [] => (default, { store with received })
  | reply :: replies => (reply, { replies, received })

def takeReceived (store : ScriptedStore) : List WindowRequest × ScriptedStore :=
  (store.received, { store with received := [] })

end ScriptedStore

end AdmissionControl
