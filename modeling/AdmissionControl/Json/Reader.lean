import AdmissionControl.Json.Printer

namespace AdmissionControl

namespace Json

def isBlank (c : Char) : Bool := c == ' ' || c == '\n' || c == '\t' || c == '\r'

def skipBlanks (text : List Char) : List Char := text.dropWhile isBlank

/-- The character that a letter stands for behind a backslash. A slash may be escaped, though it is
never written so. -/
def unescape? (letter : Char) : Option Char :=
  (('/', '/') :: escapeLetters.map Prod.swap).lookup letter

theorem unescape?_of_mem {c letter : Char} (listed : (c, letter) ∈ escapeLetters) :
    unescape? letter = some c := by
  simp only [escapeLetters, List.mem_cons, List.not_mem_nil, or_false, Prod.mk.injEq] at listed
  rcases listed with ⟨rfl, rfl⟩ | ⟨rfl, rfl⟩ | ⟨rfl, rfl⟩ | ⟨rfl, rfl⟩ | ⟨rfl, rfl⟩ | ⟨rfl, rfl⟩ |
    ⟨rfl, rfl⟩ <;> rfl

def hexDigit? (c : Char) : Option Nat :=
  if '0' ≤ c ∧ c ≤ '9' then some (c.toNat - '0'.toNat)
  else if 'a' ≤ c ∧ c ≤ 'f' then some (c.toNat - 'a'.toNat + 10)
  else if 'A' ≤ c ∧ c ≤ 'F' then some (c.toNat - 'A'.toNat + 10)
  else none

def hexUnit? (a b c d : Char) : Option Nat := do
  let a ← hexDigit? a
  let b ← hexDigit? b
  let c ← hexDigit? c
  let d ← hexDigit? d
  some (a * 4096 + b * 256 + c * 16 + d)

/-- How a text breaks that has no four characters left for an escape. Four bytes are taken for the
escape before it is looked at, so a text that has them does not count as ended. -/
def shortEscape (rest : List Char) : Break :=
  if (String.ofList rest).utf8ByteSize < 4 then .ended else .malformed

def isLeading (unit : Nat) : Bool := 0xD800 ≤ unit && unit ≤ 0xDBFF

def isTrailing (unit : Nat) : Bool := 0xDC00 ≤ unit && unit ≤ 0xDFFF

def ofSurrogates (leading trailing : Nat) : Char :=
  Char.ofNat (0x10000 + (leading - 0xD800) * 1024 + (trailing - 0xDC00))

/-- Reads a string up to the quote that closes it. `read` holds what was read, the last first. -/
def readString (read : List Char) : List Char → Except Break (String × List Char)
  | [] => .error .ended
  | '"' :: rest => .ok (String.ofList read.reverse, rest)
  | '\\' :: [] => .error .ended
  | '\\' :: 'u' :: a :: b :: c :: d :: rest =>
    match hexUnit? a b c d with
    | none => .error .malformed
    | some unit =>
      if isTrailing unit then .error .malformed
      else if isLeading unit then
        match rest with
        | '\\' :: 'u' :: a :: b :: c :: d :: rest =>
          match hexUnit? a b c d with
          | none => .error .malformed
          | some trailing =>
            if isTrailing trailing then readString (ofSurrogates unit trailing :: read) rest
            else .error .malformed
        | '\\' :: 'u' :: rest => .error (shortEscape rest)
        | [] | ['\\'] => .error .ended
        | _ => .error .malformed
      else readString (Char.ofNat unit :: read) rest
  | '\\' :: 'u' :: rest => .error (shortEscape rest)
  | '\\' :: c :: rest =>
    match unescape? c with
    | some plain => readString (plain :: read) rest
    | none => .error .malformed
  | c :: rest => if c < ' ' then .error .malformed else readString (c :: read) rest

/-- The largest integer that is kept as one. -/
def maxInteger : Nat := UInt64.size - 1

def digitValue (c : Char) : Nat := c.toNat - '0'.toNat

/-- Takes digits into a significand as long as it fits into a word, and counts those left over. -/
def significand (start : Nat) (digits : List Char) : Nat × Nat :=
  digits.foldl
    (fun (value, left) digit =>
      let next := value * 10 + digitValue digit
      if left = 0 ∧ next ≤ maxInteger then (next, 0) else (value, left + 1))
    (start, 0)

def ofDecimal (negative : Bool) (significand : Nat) (exponent : Int) (rest : List Char) :
    Except Break (Json × List Char) :=
  match Binary64.ofDecimal? negative significand exponent with
  | some value => .ok (.decimal value, rest)
  | none => .error .malformed

/-- The largest exponent that is looked at. Beyond it a number is zero or too large. -/
def maxExponent : Nat := 2147483647

def readExponent (negative : Bool) (significand : Nat) (exponent : Int) (text : List Char) :
    Except Break (Json × List Char) :=
  let (down, text) : Bool × List Char := match text with
    | '+' :: rest => (false, rest)
    | '-' :: rest => (true, rest)
    | text => (false, text)
  let digits := text.takeWhile Char.isDigit
  let rest := text.dropWhile Char.isDigit
  match digits, rest with
  | [], [] => .error .ended
  | [], _ => .error .malformed
  | digits, rest =>
    let power := digits.foldl (fun value digit => value * 10 + digitValue digit) 0
    if maxExponent < power then
      if significand ≠ 0 ∧ !down then .error .malformed
      else .ok (.decimal { Binary64.zero with negative }, rest)
    else ofDecimal negative significand (if down then exponent - power else exponent + power) rest

def readFraction (negative : Bool) (whole : Nat) (exponent : Int) (text : List Char) :
    Except Break (Json × List Char) :=
  match text with
  | '.' :: text =>
    let digits := text.takeWhile Char.isDigit
    let rest := text.dropWhile Char.isDigit
    match digits, rest with
    | [], [] => .error .ended
    | [], _ => .error .malformed
    | digits, rest =>
      let (value, left) := significand whole digits
      let exponent := exponent - (digits.length - left : Nat)
      match rest with
      | 'e' :: rest | 'E' :: rest => readExponent negative value exponent rest
      | rest => ofDecimal negative value exponent rest
  | 'e' :: rest | 'E' :: rest => readExponent negative whole exponent rest
  | rest => ofDecimal negative whole exponent rest

/-- An integer as it is kept: within 64 bits, and the negative ones within 63. A negative zero is
no integer. -/
def ofInteger (negative : Bool) (value : Nat) (rest : List Char) :
    Except Break (Json × List Char) :=
  if !negative then .ok (.integer value, rest)
  else if 0 < value ∧ value ≤ UInt64.size / 2 then .ok (.integer (-value), rest)
  else ofDecimal true value 0 rest

def readNumber (negative : Bool) (text : List Char) : Except Break (Json × List Char) :=
  let digits := text.takeWhile Char.isDigit
  let rest := text.dropWhile Char.isDigit
  match digits, rest with
  | [], [] => .error .ended
  | [], _ => .error .malformed
  | '0' :: _ :: _, _ => .error .malformed
  | digits, rest =>
    let (value, left) := significand 0 digits
    match left, rest with
    | 0, '.' :: _ | 0, 'e' :: _ | 0, 'E' :: _ => readFraction negative value 0 rest
    | 0, rest => ofInteger negative value rest
    | left, rest => readFraction negative value left rest

def readWord (value : Json) : List Char → List Char → Except Break (Json × List Char)
  | [], rest => .ok (value, rest)
  | _ :: _, [] => .error .ended
  | expected :: word, c :: rest =>
    if c = expected then readWord value word rest else .error .malformed

/-- A tree, and the text behind it unless it broke. -/
abbrev Reading := Json × Option (List Char)

def Reading.ofExcept : Except Break (Json × List Char) → Reading
  | .ok (json, rest) => (json, some rest)
  | .error how => (.broken how, none)

/-- Reads the items of an array. Each takes a character at least, so that there are no more items
than characters. -/
def readItems (readItem : List Char → Reading) :
    Nat → Bool → List Char → List Json × Ending × Option (List Char)
  | 0, _, _ => ([], .cut false .ended, none)
  | fuel + 1, first, text =>
    let item (text : List Char) : List Json × Ending × Option (List Char) :=
      match readItem text with
      | (json, none) => ([json], .cut false .malformed, none)
      | (json, some rest) =>
        let (items, ending, rest) := readItems readItem fuel false rest
        (json :: items, ending, rest)
    match skipBlanks text with
    | [] => ([], .cut false .ended, none)
    | ']' :: rest => ([], .closed, some rest)
    | c :: rest =>
      if first then item (c :: rest)
      else if c = ',' then
        match skipBlanks rest with
        | [] => ([], .cut true .ended, none)
        | ']' :: _ => ([], .cut true .malformed, none)
        | rest => item rest
      else ([], .cut false .malformed, none)

/-- Reads the members of an object. A member whose colon is missing has a broken value: its name is
there to be looked at. -/
def readMembers (readValue : List Char → Reading) :
    Nat → Bool → List Char → List (String × Json) × Ending × Option (List Char)
  | 0, _, _ => ([], .cut false .ended, none)
  | fuel + 1, first, text =>
    let member (afterComma : Bool) (text : List Char) :
        List (String × Json) × Ending × Option (List Char) :=
      match readString [] text with
      | .error how => ([], .cut afterComma how, none)
      | .ok (name, rest) =>
        match skipBlanks rest with
        | [] => ([(name, .broken .ended)], .cut false .ended, none)
        | ':' :: rest =>
          match readValue rest with
          | (json, none) => ([(name, json)], .cut false .malformed, none)
          | (json, some rest) =>
            let (members, ending, rest) := readMembers readValue fuel false rest
            ((name, json) :: members, ending, rest)
        | _ => ([(name, .broken .malformed)], .cut false .malformed, none)
    match skipBlanks text with
    | [] => ([], .cut false .ended, none)
    | '}' :: rest => ([], .closed, some rest)
    | c :: rest =>
      if first then if c = '"' then member false rest else ([], .cut false .malformed, none)
      else if c = ',' then
        match skipBlanks rest with
        | [] => ([], .cut true .ended, none)
        | '"' :: rest => member true rest
        | _ => ([], .cut true .malformed, none)
      else ([], .cut false .malformed, none)

/-- Reads a value in which arrays and objects are no more than `depth` deep. -/
def readValue : Nat → List Char → Reading
  | depth, text =>
    match skipBlanks text with
    | [] => (.broken .ended, none)
    | 'n' :: rest => .ofExcept (readWord .null ['u', 'l', 'l'] rest)
    | 't' :: rest => .ofExcept (readWord (.bool true) ['r', 'u', 'e'] rest)
    | 'f' :: rest => .ofExcept (readWord (.bool false) ['a', 'l', 's', 'e'] rest)
    | '-' :: rest => .ofExcept (readNumber true rest)
    | '"' :: rest =>
      .ofExcept ((readString [] rest).map fun (value, rest) => (.string value, rest))
    | '[' :: rest =>
      match depth with
      | 0 => (.broken .malformed, none)
      | depth + 1 =>
        let (items, ending, rest) := readItems (readValue depth) (rest.length + 1) true rest
        (.array items ending, rest)
    | '{' :: rest =>
      match depth with
      | 0 => (.broken .malformed, none)
      | depth + 1 =>
        let (members, ending, rest) := readMembers (readValue depth) (rest.length + 1) true rest
        (.object members ending, rest)
    | c :: rest =>
      if c.isDigit then .ofExcept (readNumber false (c :: rest)) else (.broken .malformed, none)

def maxDepth : Nat := 127

/-- The tree of a text, and whether something else than blanks stands behind it. -/
def ofText (text : String) : Json × Bool :=
  match readValue maxDepth text.toList with
  | (json, some rest) => (json, !(skipBlanks rest).isEmpty)
  | (json, none) => (json, false)

end Json

end AdmissionControl
