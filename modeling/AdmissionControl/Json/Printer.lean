import AdmissionControl.Json.Value

namespace AdmissionControl

namespace Json

/-- The characters that are written as a backslash and a letter, each with its letter. -/
def escapeLetters : List (Char × Char) :=
  [('"', '"'), ('\\', '\\'), ('\x08', 'b'), ('\x0c', 'f'), ('\n', 'n'), ('\r', 'r'), ('\t', 't')]

def escaped (c : Char) : List Char :=
  match escapeLetters.lookup c with
  | some letter => ['\\', letter]
  | none =>
    if ' ' ≤ c then [c]
    else ['\\', 'u', '0', '0', Nat.digitChar (c.toNat / 16), Nat.digitChar (c.toNat % 16)]

def quoted (text : String) : List Char := '"' :: text.toList.flatMap escaped ++ ['"']

mutual

/-- The compact text of a tree. A tree that is cut short has the text of what there is. -/
def write : Json → List Char
  | .null => ['n', 'u', 'l', 'l']
  | .bool true => ['t', 'r', 'u', 'e']
  | .bool false => ['f', 'a', 'l', 's', 'e']
  | .integer value => (toString value).toList
  | .decimal value => value.text.toList
  | .string value => quoted value
  | .array items _ => '[' :: writeItems items ++ [']']
  | .object members _ => '{' :: writeMembers members ++ ['}']
  | .broken _ => []

def writeItems : List Json → List Char
  | [] => []
  | [item] => write item
  | item :: rest => write item ++ ',' :: writeItems rest

def writeMembers : List (String × Json) → List Char
  | [] => []
  | [(name, value)] => quoted name ++ ':' :: write value
  | (name, value) :: rest => quoted name ++ ':' :: write value ++ ',' :: writeMembers rest

end

def text (json : Json) : String := String.ofList json.write

end Json

end AdmissionControl
