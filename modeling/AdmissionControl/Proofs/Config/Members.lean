import AdmissionControl.Config.Reader
import AdmissionControl.Proofs.Json.RoundTrip

namespace AdmissionControl

namespace Json

/-- The value of a member that is kept, or else its default. -/
def retained {α : Type} (keep : String × Json → Bool) (name : String) (write : α → Json)
    (value default : α) : α :=
  if keep (name, write value) then value else default

section Values

variable {α : Type} {depth : Nat} {json : Json}

private theorem Plain.whole (plain : Plain 0 json) : json.break? = none := by
  cases plain <;> rfl

private theorem Plain.deeper (plain : Plain 0 json) (depth : Nat) : Plain depth json := by
  cases plain with
  | null => exact .null
  | bool value => exact .bool value
  | integer kept => exact .integer kept
  | string value => exact .string value

@[simp] theorem plain_ofInt64 (value : Int64) : Plain depth (ofInt64 value) := by
  have low := value.minValue_le_toInt
  have high := value.toInt_lt
  have lowest : Int64.minValue.toInt = -(UInt64.size / 2 : Nat) := rfl
  have highest : (2 : Int) ^ 63 ≤ maxInteger := by decide
  exact .integer ⟨by omega, by omega⟩

@[simp] theorem plain_ofOption {write : α → Json} (plain : ∀ value, Plain depth (write value))
    (value : Option α) : Plain depth (ofOption write value) := by
  cases value with
  | none => exact .null
  | some value => exact plain value

@[simp] theorem toInt64_ofInt64 (value : Int64) : (ofInt64 value).toInt64 = .ok value := by
  have within : Int64.minValue.toInt ≤ value.toInt ∧ value.toInt ≤ Int64.maxValue.toInt :=
    ⟨value.minValue_le_toInt, value.toInt_le⟩
  simp only [ofInt64, toInt64, within, and_self, if_true, Int64.ofInt_toInt]

theorem toOption_of_ne_null {read : Json → Parsed α} {value : α} (present : json ≠ .null)
    (reads : read json = .ok value) : json.toOption read = .ok (some value) := by
  rw [toOption]
  · rw [reads]
    rfl
  · exact present

theorem toOption_ofOption (write : α → Json) (read : Json → Parsed α)
    (reads : ∀ value, read (write value) = .ok value) (present : ∀ value, write value ≠ .null)
    (value : Option α) : (ofOption write value).toOption read = .ok value := by
  cases value with
  | none => rfl
  | some value => exact toOption_of_ne_null (present value) (reads value)

end Values

section Members

variable {σ α : Type} {set : Setter σ} {unknown : String → Parsed Unit}
  {keep : String × Json → Bool} {taken : List String} {start : σ}
  {members rest : List (String × Json)}

def takeMember (set : Setter σ) (unknown : String → Parsed Unit) (state : σ)
    (member : String × Json) : Parsed σ :=
  match set state member.1 member.2 with
  | none => do
    unknown member.1
    return state
  | some next => next

/-- Members with names of their own are taken one by one. -/
theorem takeMembers_eq_foldlM (distinct : (members.map Prod.fst).Nodup)
    (fresh : ∀ member ∈ members, member.1 ∉ taken) :
    takeMembers set unknown start taken members =
      members.foldlM (takeMember set unknown) start := by
  induction members generalizing start taken with
  | nil => rfl
  | cons member members ih =>
    obtain ⟨alone, distinct⟩ := List.nodup_cons.mp distinct
    rw [List.forall_mem_cons] at fresh
    rw [takeMembers, List.foldlM_cons, takeMember]
    cases set start member.1 member.2 with
    | none =>
      cases unknown member.1 with
      | error problem => rfl
      | ok _ => exact ih distinct fresh.2
    | some next =>
      simp only [fresh.1, if_false]
      cases next with
      | error problem => rfl
      | ok next =>
        refine ih distinct fun other inside => ?_
        rw [List.mem_cons, not_or]
        refine ⟨?_, fresh.2 other inside⟩
        rintro same
        exact alone (same ▸ List.mem_map_of_mem inside)

/-- A member that may have been left out is taken if it is there, and else leaves the default. -/
theorem foldlM_retain (make : α → σ) (write : α → Json) (read : Json → Parsed α)
    {given default : α} {name : String} (reads : read (write given) = .ok given)
    (sets : set (make default) name (write given) = some (do return make (← read (write given)))) :
    (((name, write given) :: rest).filter keep).foldlM (takeMember set unknown) (make default) =
      (rest.filter keep).foldlM (takeMember set unknown)
        (make (retained keep name write given default)) := by
  rw [reads] at sets
  by_cases kept : keep (name, write given) = true
  · rw [List.filter_cons_of_pos kept, List.foldlM_cons, takeMember, sets, retained, if_pos kept]
    rfl
  · rw [List.filter_cons_of_neg kept, retained, if_neg kept]

private theorem foldlM_number (make : Int64 → σ) {given : Int64} {name : String}
    (sets : set (make 0) name (ofInt64 given) = some (do return make (← (ofInt64 given).toInt64))) :
    (((name, ofInt64 given) :: rest).filter keep).foldlM (takeMember set unknown) (make 0) =
      (rest.filter keep).foldlM (takeMember set unknown)
        (make (retained keep name ofInt64 given 0)) :=
  foldlM_retain make ofInt64 toInt64 (toInt64_ofInt64 given) sets

end Members

end Json

open Json (Plain retained)

@[simp] theorem FailurePolicy.ofJson_name (policy : FailurePolicy) :
    FailurePolicy.ofJson (.string policy.name) = .ok policy := by
  cases policy <;> rfl

@[simp] theorem Kind.ofJson_name (kind : Kind) : Kind.ofJson (.string kind.name) = .ok kind := by
  cases kind <;> rfl

namespace LimiterSpec

def retain (keep : String × Json → Bool) : LimiterSpec → LimiterSpec
  | concurrency threshold => concurrency (retained keep "threshold" .ofInt64 threshold 0)
  | fixedWindow threshold window =>
    fixedWindow (retained keep "threshold" .ofInt64 threshold 0)
      (retained keep "window_ms" .ofInt64 window 0)
  | slidingWindow threshold window policy timeout keyPrefix =>
    slidingWindow (retained keep "threshold" .ofInt64 threshold 0)
      (retained keep "window_ms" .ofInt64 window 0)
      (retained keep "failure_policy" (.string ·.name) policy .failClosed)
      (retained keep "timeout_ms" .ofInt64 timeout 0)
      (retained keep "key_prefix" (.ofOption .string) keyPrefix none)
  | tokenBucket capacity interval initial =>
    tokenBucket (retained keep "capacity" .ofInt64 capacity 0)
      (retained keep "interval_ms" .ofInt64 interval 0)
      (retained keep "initial_tokens" .ofInt64 initial 0)
  | leakyBucket capacity rate initial =>
    leakyBucket (retained keep "capacity" .ofInt64 capacity 0)
      (retained keep "rate_ms" .ofInt64 rate 0)
      (retained keep "initial_level" (.ofOption .ofInt64) initial none)

def members (spec : LimiterSpec) : List (String × Json) := (fields spec.kind).zip spec.values

private theorem plain_values (spec : LimiterSpec) : ∀ value ∈ spec.values, Plain 0 value := by
  cases spec <;> simp [values, Plain.string]

private theorem members_whole (spec : LimiterSpec) :
    ∀ member ∈ spec.members, member.1 ≠ tag ∧ Plain 0 member.2 := by
  have untagged : ∀ kind, tag ∉ fields kind := by
    intro kind
    cases kind <;> decide
  intro member inside
  obtain ⟨named, valued⟩ := List.of_mem_zip inside
  exact ⟨fun same => untagged spec.kind (same ▸ named), spec.plain_values _ valued⟩

private theorem splitMembers_others {members : List (String × Json)} (kind : Option Kind)
    (whole : ∀ member ∈ members, member.1 ≠ tag ∧ Plain 0 member.2) :
    splitMembers kind members = .ok (kind, members) := by
  induction members with
  | nil => rfl
  | cons member members ih =>
    rw [List.forall_mem_cons] at whole
    rw [splitMembers, if_neg whole.1.1, whole.1.2.whole, ih whole.2]
    rfl

private theorem members_distinct (spec : LimiterSpec) : (spec.members.map Prod.fst).Nodup := by
  cases spec <;> simp [members, fields, kind, values]

private theorem takeMembers_members (keep : String × Json → Bool) (spec : LimiterSpec) :
    Json.takeMembers set (fun _ => .ok ()) (ofKind spec.kind) [] (spec.members.filter keep) =
      .ok (spec.retain keep) := by
  rw [Json.takeMembers_eq_foldlM (spec.members_distinct.sublist (List.filter_sublist.map _))
    fun _ _ => List.not_mem_nil]
  cases spec with
  | concurrency threshold =>
    exact Json.foldlM_number (concurrency ·) rfl
  | fixedWindow threshold window =>
    rw [retain]
    refine (Json.foldlM_number (fixedWindow · 0) rfl).trans ?_
    generalize retained keep "threshold" _ threshold 0 = threshold
    exact Json.foldlM_number (fixedWindow threshold ·) rfl
  | slidingWindow threshold window policy timeout keyPrefix =>
    rw [retain]
    refine (Json.foldlM_number (slidingWindow · 0 .failClosed 0 none) rfl).trans ?_
    generalize retained keep "threshold" _ threshold 0 = threshold
    refine (Json.foldlM_number (slidingWindow threshold · .failClosed 0 none) rfl).trans ?_
    generalize retained keep "window_ms" _ window 0 = window
    refine (Json.foldlM_retain (slidingWindow threshold window · 0 none) (.string ·.name)
      FailurePolicy.ofJson (by simp) rfl).trans ?_
    generalize retained keep "failure_policy" _ policy .failClosed = policy
    refine (Json.foldlM_number (slidingWindow threshold window policy · none) rfl).trans ?_
    generalize retained keep "timeout_ms" _ timeout 0 = timeout
    exact Json.foldlM_retain (slidingWindow threshold window policy timeout ·)
      (.ofOption Json.string) (Json.toOption Json.toText)
      (Json.toOption_ofOption .string Json.toText (fun _ => rfl) (fun _ => nofun) keyPrefix) rfl
  | tokenBucket capacity interval initial =>
    rw [retain]
    refine (Json.foldlM_number (tokenBucket · 0 0) rfl).trans ?_
    generalize retained keep "capacity" _ capacity 0 = capacity
    refine (Json.foldlM_number (tokenBucket capacity · 0) rfl).trans ?_
    generalize retained keep "interval_ms" _ interval 0 = interval
    exact Json.foldlM_number (tokenBucket capacity interval ·) rfl
  | leakyBucket capacity rate initial =>
    rw [retain]
    refine (Json.foldlM_number (leakyBucket · 0 none) rfl).trans ?_
    generalize retained keep "capacity" _ capacity 0 = capacity
    refine (Json.foldlM_number (leakyBucket capacity · none) rfl).trans ?_
    generalize retained keep "rate_ms" _ rate 0 = rate
    exact Json.foldlM_retain (leakyBucket capacity rate ·) (.ofOption Json.ofInt64)
      (Json.toOption Json.toInt64)
      (Json.toOption_ofOption .ofInt64 Json.toInt64 Json.toInt64_ofInt64 (fun _ => nofun) initial)
      rfl

def toJsonOf (keep : String × Json → Bool) (spec : LimiterSpec) : Json :=
  .ofMembers ((tag, .string spec.kind.name) :: spec.members.filter keep)

@[simp] theorem toJsonOf_all (spec : LimiterSpec) :
    spec.toJsonOf (fun _ => true) = spec.toJson := by
  rw [toJsonOf, List.filter_eq_self.mpr fun _ _ => rfl]
  rfl

@[simp] theorem retain_all (spec : LimiterSpec) : spec.retain (fun _ => true) = spec := by
  cases spec <;> rfl

theorem plain_toJsonOf (keep : String × Json → Bool) (depth : Nat) (spec : LimiterSpec) :
    Plain (depth + 1) (spec.toJsonOf keep) := by
  refine .object fun member inside => ?_
  cases inside with
  | head => exact .string _
  | tail _ inside => exact (spec.members_whole member (List.mem_filter.mp inside).1).2.deeper depth

/-- A limiter of which some members were left out is read with their defaults. -/
theorem ofJson_toJsonOf (keep : String × Json → Bool) (spec : LimiterSpec) :
    ofJson (spec.toJsonOf keep) = .ok (spec.retain keep) := by
  have whole : ∀ member ∈ spec.members.filter keep, member.1 ≠ tag ∧ Plain 0 member.2 :=
    fun member inside => spec.members_whole member (List.mem_filter.mp inside).1
  have tagged : splitMembers none ((tag, .string spec.kind.name) :: spec.members.filter keep) =
      .ok (some spec.kind, spec.members.filter keep) := by
    rw [splitMembers, if_pos rfl, Kind.ofJson_name]
    exact splitMembers_others (some spec.kind) whole
  rw [toJsonOf, Json.ofMembers, ofJson, tagged]
  exact takeMembers_members keep spec

end LimiterSpec

namespace BreakerSpec

def members (spec : BreakerSpec) : List (String × Json) :=
  fields.zip
    [.ofInt64 spec.failureThreshold, .ofInt64 spec.recoveryTimeout, .ofInt64 spec.halfOpenMaxCalls]

def retain (keep : String × Json → Bool) (spec : BreakerSpec) : BreakerSpec where
  failureThreshold := retained keep "failure_threshold" .ofInt64 spec.failureThreshold 0
  recoveryTimeout := retained keep "recovery_timeout_ms" .ofInt64 spec.recoveryTimeout 0
  halfOpenMaxCalls := retained keep "half_open_max_calls" .ofInt64 spec.halfOpenMaxCalls 0

private theorem members_distinct (spec : BreakerSpec) : (spec.members.map Prod.fst).Nodup := by
  simp [members, fields]

def toJsonOf (keep : String × Json → Bool) (spec : BreakerSpec) : Json :=
  .ofMembers (spec.members.filter keep)

@[simp] theorem toJsonOf_all (spec : BreakerSpec) :
    spec.toJsonOf (fun _ => true) = spec.toJson := by
  rw [toJsonOf, List.filter_eq_self.mpr fun _ _ => rfl]
  rfl

@[simp] theorem retain_all (spec : BreakerSpec) : spec.retain (fun _ => true) = spec := rfl

private theorem plain_members (spec : BreakerSpec) : ∀ member ∈ spec.members, Plain 0 member.2 := by
  simp [members, fields]

theorem plain_toJsonOf (keep : String × Json → Bool) (depth : Nat) (spec : BreakerSpec) :
    Plain (depth + 1) (spec.toJsonOf keep) :=
  .object fun member inside =>
    (spec.plain_members member (List.mem_filter.mp inside).1).deeper depth

theorem ofJson_toJsonOf (keep : String × Json → Bool) (spec : BreakerSpec) :
    ofJson (spec.toJsonOf keep) = .ok (spec.retain keep) := by
  have taken : Json.takeMembers set
      (fun name => Json.mismatch (.unknownField name fields)) {} [] (spec.members.filter keep) =
        .ok (spec.retain keep) := by
    rw [Json.takeMembers_eq_foldlM (spec.members_distinct.sublist (List.filter_sublist.map _))
      fun _ _ => List.not_mem_nil]
    obtain ⟨threshold, timeout, calls⟩ := spec
    rw [retain]
    refine (Json.foldlM_number (fun threshold => (⟨threshold, 0, 0⟩ : BreakerSpec)) rfl).trans ?_
    generalize retained keep "failure_threshold" _ threshold 0 = threshold
    refine (Json.foldlM_number (fun timeout => (⟨threshold, timeout, 0⟩ : BreakerSpec))
      rfl).trans ?_
    generalize retained keep "recovery_timeout_ms" _ timeout 0 = timeout
    exact Json.foldlM_number (fun calls => (⟨threshold, timeout, calls⟩ : BreakerSpec)) rfl
  rw [toJsonOf, Json.ofMembers, ofJson, Json.toRecord, taken]
  rfl

end BreakerSpec

end AdmissionControl
