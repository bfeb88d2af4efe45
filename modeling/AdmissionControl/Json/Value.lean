import AdmissionControl.Number.Shortest
/-!
The tree of a JSON text. Reading never fails: where a text is no longer JSON the tree ends, and says
how. Everything before that place can still be interpreted, and what is found wrong there first is
what counts.
-/

namespace AdmissionControl

/-- How a text stops being JSON: something stands where it must not, or the text ends. -/
inductive Break where
  | malformed
  | ended
  deriving DecidableEq, Repr, Inhabited

/-- How an array or an object ends: with its bracket, or where the text breaks behind one of its
elements, with or without a comma between. -/
inductive Ending where
  | closed
  | cut (afterComma : Bool) (how : Break)
  deriving DecidableEq, Repr, Inhabited

inductive Json where
  | null
  | bool (value : Bool)
  | integer (value : Int)
  | decimal (value : Binary64)
  | string (value : String)
  | array (items : List Json) (ending : Ending)
  | object (members : List (String × Json)) (ending : Ending)
  | broken (how : Break)
  deriving Inhabited

namespace Ending

def break? : Ending → Option Break
  | closed => none
  | cut _ how => some how

end Ending

namespace Json

mutual

/-- The first place inside a tree at which the text breaks. -/
def break? : Json → Option Break
  | .broken how => some how
  | .array items ending => (itemsBreak? items).orElse fun _ => ending.break?
  | .object members ending => (membersBreak? members).orElse fun _ => ending.break?
  | _ => none

def itemsBreak? : List Json → Option Break
  | [] => none
  | item :: rest => item.break?.orElse fun _ => itemsBreak? rest

def membersBreak? : List (String × Json) → Option Break
  | [] => none
  | (_, value) :: rest => value.break?.orElse fun _ => membersBreak? rest

end

end Json

end AdmissionControl
