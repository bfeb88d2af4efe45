import AdmissionControl.Json.Value
import AdmissionControl.Text.Pictureless

namespace AdmissionControl

namespace Text

def quotedLetters : List (Char × Char) :=
  [('"', '"'), ('\\', '\\'), ('\n', 'n'), ('\r', 'r'), ('\t', 't'), ('\x00', '0')]

/-- A character between the quotes. One that cannot be shown is written as its number. -/
def shown (c : Char) : List Char :=
  match quotedLetters.lookup c with
  | some letter => ['\\', letter]
  | none =>
    if isPictureless c then "\\u\x7b".toList ++ Nat.toDigits 16 c.toNat ++ ['\x7d'] else [c]

def quoted (text : String) : String :=
  String.ofList ('"' :: text.toList.flatMap shown ++ ['"'])

end Text

inductive Mismatch where
  | unknownField (name : String) (expected : List String)
  | unknownVariant (name : String) (expected : List String)
  | missingField (name : String)
  | duplicateField (name : String)
  | invalidType (seen : Json) (expected : String)
  | invalidValue (seen : Json) (expected : String)
  | invalidLength (length : Nat) (expected : String)

/-- The first problem of a text: it is not JSON, or it says something else than a description. -/
inductive ConfigProblem where
  | text (how : Break)
  | data (mismatch : Mismatch)

def Json.seen : Json → String
  | .null => "null"
  | .bool value => s!"boolean `{value}`"
  | .integer value => s!"integer `{value}`"
  | .decimal value => s!"floating point `{value.text}`"
  | .string value => "string " ++ Text.quoted value
  | .array .. => "sequence"
  | .object .. => "map"
  | .broken _ => ""

namespace Mismatch

def oneOf : List String → String
  | [name] => s!"`{name}`"
  | [name, other] => s!"`{name}` or `{other}`"
  | names => "one of " ++ ", ".intercalate (names.map fun name => s!"`{name}`")

def message : Mismatch → String
  | unknownField name expected => s!"unknown field `{name}`, expected {oneOf expected}"
  | unknownVariant name expected => s!"unknown variant `{name}`, expected {oneOf expected}"
  | missingField name => s!"missing field `{name}`"
  | duplicateField name => s!"duplicate field `{name}`"
  | invalidType seen expected => s!"invalid type: {seen.seen}, expected {expected}"
  | invalidValue seen expected => s!"invalid value: {seen.seen}, expected {expected}"
  | invalidLength length expected => s!"invalid length {length}, expected {expected}"

end Mismatch

abbrev Parsed (α : Type) := Except ConfigProblem α

namespace Json

def breaks {α : Type} (how : Break) : Parsed α := .error (.text how)

def mismatch {α : Type} (what : Mismatch) : Parsed α := .error (.data what)

/-- A value of the wrong type. One that is broken has no type: the text breaks there. -/
def wrongType {α : Type} (json : Json) (expected : String) : Parsed α :=
  match json with
  | .broken how => breaks how
  | json => mismatch (.invalidType json expected)

end Json

end AdmissionControl
