import AdmissionControl.Config.Problem
import AdmissionControl.Config.Spec
import AdmissionControl.Json.Reader
/-!
Reading descriptions of pipelines.

A text is read from left to right, and the first thing wrong with it counts. Objects name their
members in any order and each at most once; arrays give them in the order of declaration, and may
stop early. What a limiter's members mean depends on its kind, so all of them are read before any
but the kind is looked at.
-/

namespace AdmissionControl

namespace Json

/-- How a description takes a member: what it becomes with the member's value, if it has a member
of that name. -/
abbrev Setter (σ : Type) := σ → String → Json → Option (Parsed σ)

/-- Takes the members of an object in turn. One that is not known is `unknown`'s to judge, and one
that was taken before is refused. -/
def takeMembers {σ : Type} (set : Setter σ) (unknown : String → Parsed Unit) (start : σ) :
    List String → List (String × Json) → Parsed σ
  | _, [] => .ok start
  | taken, (name, value) :: rest =>
    match set start name value with
    | none => do
      unknown name
      takeMembers set unknown start taken rest
    | some next =>
      if name ∈ taken then mismatch (.duplicateField name)
      else do takeMembers set unknown (← next) (name :: taken) rest

/-- Takes the items of an array as the members with the given names. What is left over of the
names or of the items is returned with the result. -/
def takeItems {σ : Type} (set : Setter σ) (start : σ) :
    List String → List Json → Parsed (σ × List String × List Json)
  | [], items => .ok (start, [], items)
  | names, [] => .ok (start, names, [])
  | name :: names, item :: items =>
    match set start name item with
    | none => .ok (start, name :: names, item :: items)
    | some next => do takeItems set (← next) names items

def finish {σ : Type} (result : σ) : Ending → Parsed σ
  | .closed => .ok result
  | .cut _ how => breaks how

/-- Reads a description that is an object, or an array of its members' values. -/
def toRecord {σ : Type} (set : Setter σ) (fields : List String) (expected : String) (start : σ) :
    Json → Parsed σ
  | .object members ending => do
    let unknown (name : String) : Parsed Unit := mismatch (.unknownField name fields)
    finish (← takeMembers set unknown start [] members) ending
  | .array items ending => do
    match ← takeItems set start fields items with
    | (result, _ :: _, _) => finish result ending
    | (_, [], _ :: _) => breaks .malformed
    | (result, [], []) =>
      match ending with
      | .cut true _ => breaks .malformed
      | ending => finish result ending
  | json => json.wrongType expected

def toInt64 : Json → Parsed Int64
  | .integer value =>
    if Int64.minValue.toInt ≤ value ∧ value ≤ Int64.maxValue.toInt then .ok (Int64.ofInt value)
    else mismatch (.invalidValue (.integer value) "i64")
  | json => json.wrongType "i64"

def toText : Json → Parsed String
  | .string value => .ok value
  | json => json.wrongType "a string"

/-- Null is the value of a member that may be missing. -/
def toOption {α : Type} (read : Json → Parsed α) : Json → Parsed (Option α)
  | .null => .ok none
  | json => do return some (← read json)

end Json

open Json (mismatch breaks)

def FailurePolicy.ofName (name : String) : Parsed FailurePolicy :=
  if name = FailurePolicy.failOpen.name then .ok .failOpen
  else if name = FailurePolicy.failClosed.name then .ok .failClosed
  else mismatch (.unknownVariant name [FailurePolicy.failOpen.name, FailurePolicy.failClosed.name])

/-- A policy is named by a string, or by an object whose one member has no value. -/
def FailurePolicy.ofJson : Json → Parsed FailurePolicy
  | .string name => ofName name
  | .object [(name, value)] _ => do
    let policy ← ofName name
    match value with
    | .null | .object [] _ => .ok policy
    | value => value.wrongType "unit"
  | .object members ending =>
    mismatch (.invalidValue (.object members ending) "map with a single key")
  | json => json.wrongType "string or map"

def Kind.ofJson : Json → Parsed Kind
  | .string name =>
    match Kind.all.find? (·.name == name) with
    | some kind => .ok kind
    | none => mismatch (.unknownVariant name (Kind.all.map Kind.name))
  | json => json.wrongType "variant identifier"

namespace LimiterSpec

def set : Json.Setter LimiterSpec
  | concurrency _, "threshold", json => some do
    return concurrency (← json.toInt64)
  | fixedWindow _ window, "threshold", json => some do
    return fixedWindow (← json.toInt64) window
  | fixedWindow threshold _, "window_ms", json => some do
    return fixedWindow threshold (← json.toInt64)
  | slidingWindow _ window policy timeout keyPrefix, "threshold", json => some do
    return slidingWindow (← json.toInt64) window policy timeout keyPrefix
  | slidingWindow threshold _ policy timeout keyPrefix, "window_ms", json => some do
    return slidingWindow threshold (← json.toInt64) policy timeout keyPrefix
  | slidingWindow threshold window _ timeout keyPrefix, "failure_policy", json => some do
    return slidingWindow threshold window (← FailurePolicy.ofJson json) timeout keyPrefix
  | slidingWindow threshold window policy _ keyPrefix, "timeout_ms", json => some do
    return slidingWindow threshold window policy (← json.toInt64) keyPrefix
  | slidingWindow threshold window policy timeout _, "key_prefix", json => some do
    return slidingWindow threshold window policy timeout (← json.toOption Json.toText)
  | tokenBucket _ interval initial, "capacity", json => some do
    return tokenBucket (← json.toInt64) interval initial
  | tokenBucket capacity _ initial, "interval_ms", json => some do
    return tokenBucket capacity (← json.toInt64) initial
  | tokenBucket capacity interval _, "initial_tokens", json => some do
    return tokenBucket capacity interval (← json.toInt64)
  | leakyBucket _ rate initial, "capacity", json => some do
    return leakyBucket (← json.toInt64) rate initial
  | leakyBucket capacity _ initial, "rate_ms", json => some do
    return leakyBucket capacity (← json.toInt64) initial
  | leakyBucket capacity rate _, "initial_level", json => some do
    return leakyBucket capacity rate (← json.toOption Json.toInt64)
  | _, _, _ => none

/-- Splits the members of a limiter into its kind and the others, which have to be whole. -/
def splitMembers (kind : Option Kind) : List (String × Json) →
    Parsed (Option Kind × List (String × Json))
  | [] => .ok (kind, [])
  | (name, value) :: rest =>
    if name = tag then
      if kind.isSome then mismatch (.duplicateField tag)
      else do splitMembers (some (← Kind.ofJson value)) rest
    else
      match value.break? with
      | some how => breaks how
      | none => do
        let (kind, others) ← splitMembers kind rest
        return (kind, (name, value) :: others)

def itemCount (count : Nat) : String :=
  if count = 1 then "1 element in sequence" else s!"{count} elements in sequence"

/-- A limiter is an object with a member for its kind, or an array that begins with its kind.
Members that its kind does not have are let pass. -/
def ofJson : Json → Parsed LimiterSpec
  | .object members ending => do
    let (kind, others) ← splitMembers none members
    match ending.break?, kind with
    | some how, _ => breaks how
    | none, none => mismatch (.missingField tag)
    | none, some kind => Json.takeMembers set (fun _ => .ok ()) (ofKind kind) [] others
  | .array [] ending => do
    Json.finish () ending
    mismatch (.missingField tag)
  | .array (first :: items) ending => do
    let kind ← Kind.ofJson first
    match Json.break? (.array items ending) with
    | some how => breaks how
    | none =>
      let (spec, _, left) ← Json.takeItems set (ofKind kind) (fields kind) items
      if left.isEmpty then return spec
      else mismatch (.invalidLength items.length (itemCount (fields kind).length))
  | json => json.wrongType "internally tagged enum LimiterSpec"

end LimiterSpec

namespace BreakerSpec

def set : Json.Setter BreakerSpec
  | spec, "failure_threshold", json => some do
    return { spec with failureThreshold := ← json.toInt64 }
  | spec, "recovery_timeout_ms", json => some do
    return { spec with recoveryTimeout := ← json.toInt64 }
  | spec, "half_open_max_calls", json => some do
    return { spec with halfOpenMaxCalls := ← json.toInt64 }
  | _, _, _ => none

def ofJson : Json → Parsed BreakerSpec := Json.toRecord set fields "struct BreakerSpec" {}

end BreakerSpec

namespace AdmissionConfig

def limitersOfJson : Json → Parsed (List LimiterSpec)
  | .array items ending => do Json.finish (← items.mapM LimiterSpec.ofJson) ending
  | json => json.wrongType "a sequence"

def set : Json.Setter AdmissionConfig
  | config, "limiters", json => some do
    return { config with limiters := ← limitersOfJson json }
  | config, "circuit_breaker", json => some do
    return { config with circuitBreaker := ← json.toOption BreakerSpec.ofJson }
  | _, _, _ => none

def ofJson : Json → Parsed AdmissionConfig :=
  Json.toRecord set fields "struct AdmissionConfig" {}

end AdmissionConfig

def Json.parseText {α : Type} (read : Json → Parsed α) (text : String) : Parsed α := do
  let (json, more) := ofText text
  let result ← read json
  if more then breaks .malformed else return result

def LimiterSpec.parse : String → Parsed LimiterSpec := Json.parseText ofJson

def BreakerSpec.parse : String → Parsed BreakerSpec := Json.parseText ofJson

def AdmissionConfig.parse : String → Parsed AdmissionConfig := Json.parseText ofJson

end AdmissionControl
