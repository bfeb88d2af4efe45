import AdmissionControl.Proofs.Config.Order
import AdmissionControl.Proofs.Config.RoundTrip
import Mathlib.Logic.Relation
/-!
Changes of a text that do not change what it describes. Members may stand in any order, those that
have their defaults may be left out, and a limiter may have members that its kind does not know. A
breaker and the pipeline itself know all of their members, and refuse others by name.
-/

namespace AdmissionControl

open Json (Rearranges)

namespace Json

variable {σ : Type} {set : Setter σ} {names : List String} {expected name : String}
  {start result : σ} {one : Json} {members before after : List (String × Json)} {ending : Ending}

private theorem toRecord_error {problem : ConfigProblem}
    (refused : takeMembers set (fun name => mismatch (.unknownField name names)) start [] members =
      .error problem) :
    toRecord set names expected start (.object members ending) = .error problem := by
  rw [toRecord, refused]
  rfl

private theorem toRecord_foreign (foreign : ∀ state, set state name one = none)
    (reads : toRecord set names expected start (.object (before ++ after) ending) = .ok result) :
    toRecord set names expected start (.object (before ++ (name, one) :: after) ending) =
      .error (.data (.unknownField name names)) := by
  refine toRecord_error (takeMembers_refused (toRecord_object.mp reads).1 fun _ => ?_)
  rw [takeMembers, foreign]
  rfl

end Json

/-! ### Limiters -/

namespace LimiterSpec

/-- A value that says what is meant by a limiter without the member. -/
def IsDefault (name : String) (value : Json) : Prop :=
  match name with
  | "failure_policy" => FailurePolicy.ofJson value = .ok .failClosed
  | "key_prefix" | "initial_level" => value = .null
  | _ => value = .integer 0

/-- Leaves out a member that has its default, or adds one that the kind does not know. -/
inductive Edits : Json → Json → Prop where
  | omits {before after : List (String × Json)} {ending : Ending} {kind : Kind} {name : String}
      {value : Json} (tagged : tagOf kind ∈ before ++ after) (known : name ∈ fields kind)
      (default : IsDefault name value) :
      Edits (.object (before ++ (name, value) :: after) ending) (.object (before ++ after) ending)
  | adds {before after : List (String × Json)} {ending : Ending} {kind : Kind} {name : String}
      {value : Json} (tagged : tagOf kind ∈ before ++ after) (untagged : name ≠ tag)
      (foreign : name ∉ fields kind) (whole : value.break? = none) :
      Edits (.object (before ++ after) ending) (.object (before ++ (name, value) :: after) ending)

variable {kind : Kind} {spec : LimiterSpec} {json other value : Json} {name : String}
  {members : List (String × Json)}

private theorem tag_not_mem_fields (kind : Kind) : tag ∉ fields kind := by
  cases kind <;> decide

@[simp] theorem kind_ofKind (kind : Kind) : (ofKind kind).kind = kind := by
  cases kind <;> rfl

private theorem kind_eq {found : Kind} (tagged : tagOf kind ∈ members)
    (single : members.filter (·.1 = tag) = [tagOf found]) : found = kind := by
  have inside : tagOf kind ∈ members.filter (·.1 = tag) :=
    List.mem_filter.mpr ⟨tagged, decide_eq_true rfl⟩
  rw [single, List.mem_singleton, tagOf_inj] at inside
  exact inside.symm

private theorem set_default (known : name ∈ fields kind) (default : IsDefault name value) :
    set (ofKind kind) name value = some (.ok (ofKind kind)) := by
  cases kind <;> simp only [fields, List.mem_cons, List.not_mem_nil, or_false] at known <;>
    rcases known with rfl | rfl | rfl | rfl | rfl <;>
    first
    | obtain rfl : value = .integer 0 := default
      rfl
    | obtain rfl : value = .null := default
      rfl
    | have read : FailurePolicy.ofJson value = .ok .failClosed := default
      exact Json.made_iff.mpr ⟨.failClosed, read, rfl⟩

/-- An edited limiter is read as it was before. -/
theorem Edits.ofJson_eq (edits : Edits json other) (reads : ofJson json = .ok spec) :
    ofJson other = .ok spec := by
  cases edits with
  | @omits before after ending kind name value tagged known default =>
    have untagged : name ≠ tag := fun same => tag_not_mem_fields kind (same ▸ known)
    obtain ⟨found, single, whole, taken⟩ := (ofJson_around untagged).mp reads
    obtain rfl := kind_eq tagged single
    refine ofJson_object.mpr ⟨found, single, whole.2, ?_⟩
    rw [List.filter_append]
    exact Json.takeMembers_remove orderly_set (set_default known default) taken
  | @adds before after ending kind name value tagged untagged foreign whole =>
    obtain ⟨found, single, unbroken, taken⟩ := ofJson_object.mp reads
    obtain rfl := kind_eq tagged single
    refine (ofJson_around untagged).mpr ⟨found, single, ⟨whole, unbroken⟩, ?_⟩
    rw [List.filter_append] at taken
    refine Json.takeMembers_add orderly_set (set_eq_none_iff.mpr ?_) rfl taken
    rwa [kind_ofKind]

end LimiterSpec

/-! ### Breakers -/

namespace BreakerSpec

inductive Edits : Json → Json → Prop where
  | omits {before after : List (String × Json)} {ending : Ending} {name : String}
      (known : name ∈ fields) :
      Edits (.object (before ++ (name, .integer 0) :: after) ending)
        (.object (before ++ after) ending)

private theorem set_default {name : String} (known : name ∈ fields) :
    set {} name (.integer 0) = some (.ok {}) := by
  simp only [fields, List.mem_cons, List.not_mem_nil, or_false] at known
  rcases known with rfl | rfl | rfl <;> rfl

private theorem Edits.ofJson_eq {spec : BreakerSpec} {json other : Json} (edits : Edits json other)
    (reads : ofJson json = .ok spec) : ofJson other = .ok spec := by
  cases edits with
  | omits known =>
    obtain ⟨taken, closed⟩ := Json.toRecord_object.mp reads
    refine Json.toRecord_object.mpr ⟨?_, closed⟩
    exact Json.takeMembers_remove orderly_set (set_default known) taken

end BreakerSpec

/-! ### Pipelines -/

namespace AdmissionConfig

def IsDefault (name : String) (value : Json) : Prop :=
  match name with
  | "limiters" => value = .array [] .closed
  | "circuit_breaker" => value = .null
  | _ => False

/-- Changes the order of the members of some object, leaves out a member that has its default, or
edits one of the limiters or the breaker. -/
inductive Edits : Json → Json → Prop where
  | rearranges {json other : Json} (moved : json.Rearranges other) : Edits json other
  | omits {before after : List (String × Json)} {ending : Ending} {name : String} {value : Json}
      (default : IsDefault name value) :
      Edits (.object (before ++ (name, value) :: after) ending) (.object (before ++ after) ending)
  | limiter {before after : List (String × Json)} {front back : List Json} {ending inner : Ending}
      {one other : Json} (edits : LimiterSpec.Edits one other) :
      Edits (.object (before ++ ("limiters", .array (front ++ one :: back) inner) :: after) ending)
        (.object (before ++ ("limiters", .array (front ++ other :: back) inner) :: after) ending)
  | breaker {before after : List (String × Json)} {ending : Ending} {one other : Json}
      (edits : BreakerSpec.Edits one other) :
      Edits (.object (before ++ ("circuit_breaker", one) :: after) ending)
        (.object (before ++ ("circuit_breaker", other) :: after) ending)

/-- Adds a member of the given name to the pipeline or to its breaker, which knows the given
members only. -/
inductive Spoils (name : String) : List String → Json → Json → Prop where
  | pipeline {before after : List (String × Json)} {ending : Ending} {value : Json}
      (foreign : name ∉ fields) :
      Spoils name fields (.object (before ++ after) ending)
        (.object (before ++ (name, value) :: after) ending)
  | breaker {before after front back : List (String × Json)} {ending inner : Ending} {value : Json}
      (foreign : name ∉ BreakerSpec.fields) :
      Spoils name BreakerSpec.fields
        (.object (before ++ ("circuit_breaker", .object (front ++ back) inner) :: after) ending)
        (.object (before ++
          ("circuit_breaker", .object (front ++ (name, value) :: back) inner) :: after) ending)

variable {config : AdmissionConfig} {json other : Json}

private theorem set_default {name : String} {value : Json} (default : IsDefault name value) :
    set {} name value = some (.ok {}) := by
  unfold IsDefault at default
  split at default
  · subst default
    rfl
  · subst default
    rfl
  · cases default

private theorem Edits.ofJson_eq (edits : Edits json other) (reads : ofJson json = .ok config) :
    ofJson other = .ok config := by
  cases edits with
  | rearranges moved => exact orderless_ofJson moved reads
  | omits default =>
    obtain ⟨taken, closed⟩ := Json.toRecord_object.mp reads
    refine Json.toRecord_object.mpr ⟨?_, closed⟩
    exact Json.takeMembers_remove orderly_set (set_default default) taken
  | @limiter before after front back ending inner one other edits =>
    obtain ⟨taken, closed⟩ := Json.toRecord_object.mp reads
    refine Json.toRecord_object.mpr ⟨Json.takeMembers_replace orderly_set ?_ taken, closed⟩
    intro state next known
    obtain ⟨specs, read, made⟩ := Json.made_iff.mp known
    obtain ⟨each, finished⟩ := limitersOfJson_array.mp read
    have again := limitersOfJson_array.mpr ⟨mapM_replace edits.ofJson_eq each, finished⟩
    exact Json.made_iff.mpr ⟨specs, again, made⟩
  | @breaker before after ending one other edits =>
    obtain ⟨taken, closed⟩ := Json.toRecord_object.mp reads
    refine Json.toRecord_object.mpr ⟨Json.takeMembers_replace orderly_set ?_ taken, closed⟩
    intro state next known
    obtain ⟨spec?, read, made⟩ := Json.made_iff.mp known
    refine Json.made_iff.mpr ⟨spec?, ?_, made⟩
    have again {spec : BreakerSpec} (inner : BreakerSpec.ofJson one = .ok spec) :=
      edits.ofJson_eq inner
    cases edits with
    | omits _ =>
      obtain ⟨spec, inner, ⟨⟩⟩ := Json.bind_ok.mp read
      exact Json.bind_ok.mpr ⟨spec, again inner, rfl⟩

/-- A member that nobody knows is named, and nothing is read. -/
theorem Spoils.ofJson_eq {name : String} {expected : List String}
    (spoils : Spoils name expected json other) (reads : ofJson json = .ok config) :
    ofJson other = .error (.data (.unknownField name expected)) := by
  cases spoils with
  | pipeline foreign => exact Json.toRecord_foreign (fun _ => set_eq_none_iff.mpr foreign) reads
  | @breaker before after front back ending inner value foreign =>
    obtain ⟨taken, -⟩ := Json.toRecord_object.mp reads
    refine Json.toRecord_error (Json.takeMembers_refused taken fun {state seen} rest => ?_)
    obtain ⟨next, all, takes, -⟩ := Json.takeMembers_cons.mp rest
    cases takes with
    | passed unset _ => cases unset
    | sets fresh known =>
      obtain ⟨spec?, read, -⟩ := Json.made_iff.mp known
      obtain ⟨spec, read, -⟩ := Json.bind_ok.mp read
      have unset state : BreakerSpec.set state name value = none :=
        BreakerSpec.set_eq_none_iff.mpr foreign
      have inner : BreakerSpec.ofJson (.object (front ++ (name, value) :: back) inner) =
          .error (.data (.unknownField name BreakerSpec.fields)) :=
        Json.toRecord_foreign unset read
      simp only [Json.takeMembers, set, Json.toOption, inner, fresh, if_false]
      rfl

private theorem ofJson_of_parse {source : String} (accepted : parse source = .ok config) :
    ofJson (Json.ofText source).1 = .ok config := by
  rw [parse, Json.parseText] at accepted
  rcases text : Json.ofText source with ⟨json, more⟩
  rw [text] at accepted
  obtain ⟨config', read, finished⟩ := Json.bind_ok.mp accepted
  cases more with
  | true => cases finished
  | false => rwa [← Except.ok.inj finished]

/-- What an accepted text describes is not a matter of the order of members, of defaults that are
spelled out, or of members that a limiter does not know: every text that is edited in these respects
only is read alike. A member that the pipeline or its breaker does not know is an error that names
it. -/
theorem parse_edited {source edited : String} {config : AdmissionConfig} {json : Json}
    (accepted : parse source = .ok config)
    (edits : Relation.ReflTransGen Edits (Json.ofText source).1 json) :
    (Json.ofText edited = (json, false) → parse edited = .ok config) ∧
      ∀ {name expected other more}, Spoils name expected json other →
        Json.ofText edited = (other, more) →
          parse edited = .error (.data (.unknownField name expected)) := by
  have read : ofJson json = .ok config := by
    induction edits with
    | refl => exact ofJson_of_parse accepted
    | tail _ edit ih => exact edit.ofJson_eq ih
  constructor
  · intro text
    rw [parse, Json.parseText, text]
    exact Json.bind_ok.mpr ⟨config, read, rfl⟩
  · intro name expected other more spoils text
    rw [parse, Json.parseText, text]
    simp only [spoils.ofJson_eq read]
    rfl

/-- A window without its default but with a note, and a note in the wrong place. -/
theorem parse_edited_window :
    let limiter := Json.ofMembers
      [("window_ms", .ofInt64 5), ("note", .bool true), LimiterSpec.tagOf .fixedWindow]
    parse (text { limiters := [.fixedWindow 0 5] }) = .ok { limiters := [.fixedWindow 0 5] } ∧
      parse (Json.text (.ofMembers [("limiters", .array [limiter] .closed)])) =
        .ok { limiters := [.fixedWindow 0 5] } ∧
      parse (Json.text (.ofMembers
        [("limiters", .array [limiter] .closed), ("note", .bool true)])) =
        .error (.data (.unknownField "note" fields)) := by
  intro limiter
  let pipeline (members : List (String × Json)) : Json :=
    .ofMembers [("limiters", .array [.ofMembers members] .closed)]
  have accepted : parse (text { limiters := [.fixedWindow 0 5] }) =
      .ok { limiters := [.fixedWindow 0 5] } :=
    parse_text_of_plain (plain_toJson _) (ofJson_toJson _)
  have source : (Json.ofText (text { limiters := [.fixedWindow 0 5] })).1 =
      toJson { limiters := [.fixedWindow 0 5] } :=
    congrArg Prod.fst (Json.ofText_text (plain_toJson _))
  have unbroken : Edits (toJson { limiters := [.fixedWindow 0 5] }) (pipeline
      [LimiterSpec.tagOf .fixedWindow, ("threshold", .ofInt64 0), ("window_ms", .ofInt64 5)]) :=
    @Edits.omits [("limiters", _)] [] _ _ _ rfl
  have unlimited : Edits (pipeline
      [LimiterSpec.tagOf .fixedWindow, ("threshold", .ofInt64 0), ("window_ms", .ofInt64 5)])
      (pipeline [LimiterSpec.tagOf .fixedWindow, ("window_ms", .ofInt64 5)]) :=
    @Edits.limiter [] [] [] [] _ _ _ _
      (@LimiterSpec.Edits.omits [_] [_] _ .fixedWindow _ _ (.head _) (.head _) rfl)
  have noted : Edits (pipeline [LimiterSpec.tagOf .fixedWindow, ("window_ms", .ofInt64 5)])
      (pipeline
        [LimiterSpec.tagOf .fixedWindow, ("window_ms", .ofInt64 5), ("note", .bool true)]) :=
    @Edits.limiter [] [] [] [] _ _ _ _
      (@LimiterSpec.Edits.adds [_, _] [] _ .fixedWindow _ _ (.head _) (by decide) (by decide) rfl)
  have moved : Edits
      (pipeline [LimiterSpec.tagOf .fixedWindow, ("window_ms", .ofInt64 5), ("note", .bool true)])
      (pipeline
        [("window_ms", .ofInt64 5), ("note", .bool true), LimiterSpec.tagOf .fixedWindow]) :=
    .rearranges (@Rearranges.member [] [] _ _ _ _ (@Rearranges.item [] [] _ _ _
      (.here (@List.perm_append_comm _ [_] [_, _]))))
  have edits : Relation.ReflTransGen Edits
      (Json.ofText (text { limiters := [.fixedWindow 0 5] })).1
      (.ofMembers [("limiters", .array [limiter] .closed)]) :=
    source ▸ (((Relation.ReflTransGen.single unbroken).tail unlimited).tail noted).tail moved
  have plain : Json.Plain 126 (.array [limiter] .closed) := by
    simp only [limiter, LimiterSpec.tagOf]
    refine .array (List.forall_mem_singleton.mpr (.object ?_))
    simp [Json.Plain.bool, Json.Plain.string]
  have edited : Json.Plain Json.maxDepth (.ofMembers [("limiters", .array [limiter] .closed)]) :=
    .object (List.forall_mem_singleton.mpr plain)
  have spoiled : Json.Plain Json.maxDepth
      (.ofMembers [("limiters", .array [limiter] .closed), ("note", .bool true)]) :=
    .object (List.forall_mem_cons.mpr ⟨plain, List.forall_mem_singleton.mpr (.bool true)⟩)
  have spoils : Spoils "note" fields (.ofMembers [("limiters", .array [limiter] .closed)])
      (.ofMembers [("limiters", .array [limiter] .closed), ("note", .bool true)]) :=
    @Spoils.pipeline _ [_] [] _ _ (by decide)
  exact ⟨accepted, (parse_edited accepted edits).1 (Json.ofText_text edited),
    (parse_edited accepted edits).2 spoils (Json.ofText_text spoiled)⟩

end AdmissionConfig

end AdmissionControl
