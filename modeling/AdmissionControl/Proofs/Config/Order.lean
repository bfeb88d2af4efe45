import AdmissionControl.Proofs.Config.Members
import Mathlib.Data.List.Pairwise
/-!
Reading objects whose members stand in another order. A member is known or not by its name alone,
two members with names of their own set different parts of a description, and no name is taken
twice: so what is read from an object depends on which members it has, and not on their order.
-/

namespace AdmissionControl

namespace Json

/-- The same tree but for the order of the members of one of its objects. -/
inductive Rearranges : Json → Json → Prop where
  | here {members others : List (String × Json)} {ending : Ending}
      (shuffled : members.Perm others) : Rearranges (.object members ending) (.object others ending)
  | item {before after : List Json} {one other : Json} {ending : Ending}
      (inside : Rearranges one other) :
      Rearranges (.array (before ++ one :: after) ending) (.array (before ++ other :: after) ending)
  | member {before after : List (String × Json)} {name : String} {one other : Json}
      {ending : Ending} (inside : Rearranges one other) :
      Rearranges (.object (before ++ (name, one) :: after) ending)
        (.object (before ++ (name, other) :: after) ending)

/-- What is read stays what it is when members are rearranged. -/
def Orderless {α : Type} (read : Json → Parsed α) : Prop :=
  ∀ ⦃json other value⦄, Rearranges json other → read json = .ok value → read other = .ok value

/-! ### Breaks -/

private theorem itemsBreak?_eq_none {items : List Json} :
    itemsBreak? items = none ↔ ∀ item ∈ items, item.break? = none := by
  induction items with
  | nil => simp [itemsBreak?]
  | cons item rest ih =>
    rw [itemsBreak?, List.forall_mem_cons, ← ih]
    cases item.break? <;> simp

private theorem membersBreak?_eq_none {members : List (String × Json)} :
    membersBreak? members = none ↔ ∀ member ∈ members, member.2.break? = none := by
  induction members with
  | nil => simp [membersBreak?]
  | cons member rest ih =>
    rw [membersBreak?, List.forall_mem_cons, ← ih]
    cases member.2.break? <;> simp

private theorem break?_array_eq_none {items : List Json} {ending : Ending} :
    break? (.array items ending) = none ↔
      (∀ item ∈ items, item.break? = none) ∧ ending.break? = none := by
  rw [break?, ← itemsBreak?_eq_none]
  cases itemsBreak? items <;> simp

private theorem break?_object_eq_none {members : List (String × Json)} {ending : Ending} :
    break? (.object members ending) = none ↔
      (∀ member ∈ members, member.2.break? = none) ∧ ending.break? = none := by
  rw [break?, ← membersBreak?_eq_none]
  cases membersBreak? members <;> simp

private theorem Rearranges.whole {json other : Json} (moved : Rearranges json other)
    (whole : json.break? = none) : other.break? = none := by
  induction moved with
  | here shuffled =>
    rw [break?_object_eq_none] at whole ⊢
    exact ⟨fun member inside => whole.1 member (shuffled.mem_iff.mpr inside), whole.2⟩
  | item _ ih =>
    rw [break?_array_eq_none, List.forall_mem_append, List.forall_mem_cons] at whole ⊢
    obtain ⟨⟨before, one, after⟩, ending⟩ := whole
    exact ⟨⟨before, ih one, after⟩, ending⟩
  | member _ ih =>
    rw [break?_object_eq_none, List.forall_mem_append, List.forall_mem_cons] at whole ⊢
    obtain ⟨⟨before, one, after⟩, ending⟩ := whole
    exact ⟨⟨before, ih one, after⟩, ending⟩

private theorem Rearranges.empty {ending : Ending} {other : Json}
    (moved : Rearranges (.object [] ending) other) : other = .object [] ending := by
  generalize same : Json.object [] ending = json at moved
  cases moved with
  | item inside => cases same
  | here shuffled =>
    cases same
    rw [List.nil_perm.mp shuffled]
  | member inside => simp at same

/-! ### Values -/

theorem bind_ok {α β : Type} {parsed : Parsed α} {next : α → Parsed β} {result : β} :
    (do next (← parsed)) = .ok result ↔ ∃ value, parsed = .ok value ∧ next value = .ok result := by
  cases parsed with
  | error problem => exact ⟨nofun, nofun⟩
  | ok value => exact ⟨fun whole => ⟨value, rfl, whole⟩, fun ⟨_, rfl, whole⟩ => whole⟩

theorem made_iff {α σ : Type} {parsed : Parsed α} {make : α → σ} {next : σ} :
    some (do return make (← parsed) : Parsed σ) = some (.ok next) ↔
      ∃ value, parsed = .ok value ∧ make value = next := by
  rw [Option.some_inj]
  refine bind_ok.trans (exists_congr fun value => and_congr_right fun _ => ?_)
  exact ⟨Except.ok.inj, congrArg Except.ok⟩

private theorem Orderless.sets {α σ : Type} {read : Json → Parsed α} (orderless : Orderless read)
    {make : α → σ} {json other : Json} {next : σ} (moved : Rearranges json other)
    (known : some (do return make (← read json) : Parsed σ) = some (.ok next)) :
    some (do return make (← read other) : Parsed σ) = some (.ok next) := by
  obtain ⟨value, within, made⟩ := made_iff.mp known
  exact made_iff.mpr ⟨value, orderless moved within, made⟩

private theorem orderless_toInt64 : Orderless toInt64 := by
  intro json other value moved reads
  cases moved <;> cases reads

private theorem orderless_toText : Orderless toText := by
  intro json other value moved reads
  cases moved <;> cases reads

private theorem orderless_toOption {α : Type} {read : Json → Parsed α}
    (orderless : Orderless read) :
    Orderless (toOption read) := by
  intro json other value moved reads
  have present : json ≠ .null ∧ other ≠ .null := by
    cases moved <;> exact ⟨Json.noConfusion, Json.noConfusion⟩
  rw [toOption] at reads
  · obtain ⟨inner, within, ⟨⟩⟩ := bind_ok.mp reads
    exact toOption_of_ne_null present.2 (orderless moved within)
  · exact present.1

/-! ### Members -/

section Members

variable {σ : Type} {set : Setter σ} {unknown : String → Parsed Unit} {state result : σ}
  {fields : σ → List String} {taken fewer : List String} {name : String} {one other : Json}
  {members others before after : List (String × Json)}

/-- A description whose members are known by their names and set apart from each other. -/
structure Setter.Orderly (set : Setter σ) (fields : σ → List String) : Prop where
  unknown : ∀ {state name one}, set state name one = none ↔ name ∉ fields state
  /-- To set a member makes no other known or unknown. -/
  steady : ∀ {state name one next}, set state name one = some (.ok next) →
    fields next = fields state
  /-- Two members may be set in either order. -/
  swaps : ∀ {state name one middle second other last}, name ≠ second →
    set state name one = some (.ok middle) → set middle second other = some (.ok last) →
    ∃ between, set state second other = some (.ok between) ∧ set between name one = some (.ok last)
  /-- Values are read whatever the order inside them. -/
  inside : ∀ {one other state name next}, Rearranges one other →
    set state name one = some (.ok next) → set state name other = some (.ok next)

private theorem Setter.Orderly.foreign_iff (orderly : set.Orderly fields) {next : σ}
    {second : String} (known : set state second other = some (.ok next)) :
    set next name one = none ↔ set state name one = none := by
  rw [orderly.unknown, orderly.unknown, orderly.steady known]

private theorem Setter.mem_of_set {names : List String} {parsed : Parsed σ}
    (unset : set state name one = none ↔ name ∉ names)
    (known : set state name one = some parsed) : name ∈ names := by
  by_cases inside : name ∈ names
  · exact inside
  · rw [unset.mpr inside] at known
    cases known

/-- Members of two names set parts of a description that lie apart: whichever comes first, each is
set to what its own value is read as. -/
inductive Setter.Commutes (set : Setter σ) (state : σ) (name second : String) : Prop where
  | apart {α β : Type} {read : Json → Parsed α} {read' : Json → Parsed β} {put : α → σ}
      {put' : β → σ} {both : α → β → σ}
      (sets : ∀ one, set state name one = some (do return put (← read one)))
      (onward : ∀ value other,
        set (put value) second other = some (do return both value (← read' other)))
      (sets' : ∀ other, set state second other = some (do return put' (← read' other)))
      (onward' : ∀ value one,
        set (put' value) name one = some (do return both (← read one) value)) :
      Commutes set state name second

instance : Std.Symm (set.Commutes state) where
  symm _ _ := fun ⟨sets, onward, sets', onward'⟩ => .apart sets' onward' sets onward

private theorem Setter.Commutes.swap {second : String} {middle last : σ}
    (commutes : set.Commutes state name second) (first : set state name one = some (.ok middle))
    (next : set middle second other = some (.ok last)) :
    ∃ between, set state second other = some (.ok between) ∧
      set between name one = some (.ok last) := by
  obtain ⟨sets, onward, sets', onward'⟩ := commutes
  rw [sets] at first
  obtain ⟨value, reads, rfl⟩ := made_iff.mp first
  rw [onward] at next
  obtain ⟨value', reads', rfl⟩ := made_iff.mp next
  exact ⟨_, (sets' other).trans (made_iff.mpr ⟨value', reads', rfl⟩),
    (onward' value' one).trans (made_iff.mpr ⟨value, reads, rfl⟩)⟩

/-- It is enough that the members of any two names commute. -/
theorem Setter.Orderly.of_pairs
    (unknown : ∀ {state name one}, set state name one = none ↔ name ∉ fields state)
    (steady : ∀ {state name one next}, set state name one = some (.ok next) →
      fields next = fields state)
    (pairs : ∀ state, (fields state).Pairwise (set.Commutes state))
    (inside : ∀ {one other state name next}, Rearranges one other →
      set state name one = some (.ok next) → set state name other = some (.ok next)) :
    set.Orderly fields where
  unknown := unknown
  steady := steady
  inside := inside
  swaps {state name one middle second other last} apart first next := by
    have here := mem_of_set unknown first
    have there := steady first ▸ mem_of_set unknown next
    exact ((pairs state).forall here there apart).swap first next

private theorem Setter.Orderly.blind (orderly : set.Orderly fields)
    (foreign : set state name one = none) (other : Json) : set state name other = none :=
  orderly.unknown.mpr (orderly.unknown.mp foreign)

/-- Takes a member that is unknown and let pass, or known and not taken before. -/
inductive Takes (set : Setter σ) (unknown : String → Parsed Unit) (state : σ) (taken : List String)
    (member : String × Json) : σ → List String → Prop where
  | passed (foreign : set state member.1 member.2 = none) (passes : unknown member.1 = .ok ()) :
      Takes set unknown state taken member state taken
  | sets {next : σ} (fresh : member.1 ∉ taken)
      (known : set state member.1 member.2 = some (.ok next)) :
      Takes set unknown state taken member next (member.1 :: taken)

theorem takeMembers_cons {member : String × Json} :
    takeMembers set unknown state taken (member :: members) = .ok result ↔
      ∃ next seen, Takes set unknown state taken member next seen ∧
        takeMembers set unknown next seen members = .ok result := by
  constructor
  · rintro reads
    rw [takeMembers] at reads
    split at reads
    · next foreign =>
      obtain ⟨⟨⟩, passes, rest⟩ := bind_ok.mp reads
      exact ⟨state, taken, .passed foreign passes, rest⟩
    · next parsed known =>
      split at reads
      · cases reads
      · next fresh =>
        obtain ⟨next, rfl, rest⟩ := bind_ok.mp reads
        exact ⟨next, member.1 :: taken, .sets fresh known, rest⟩
  · rintro ⟨next, seen, takes, rest⟩
    rw [takeMembers]
    cases takes with
    | passed foreign passes =>
      simp only [foreign, passes]
      exact rest
    | sets fresh known =>
      simp only [known, fresh, if_false]
      exact rest

private theorem takeMembers_of_fewer (subset : fewer ⊆ taken)
    (reads : takeMembers set unknown state taken members = .ok result) :
    takeMembers set unknown state fewer members = .ok result := by
  induction members generalizing state taken fewer with
  | nil => exact reads
  | cons member members ih =>
    obtain ⟨next, seen, takes, rest⟩ := takeMembers_cons.mp reads
    apply takeMembers_cons.mpr
    cases takes with
    | passed foreign passes => exact ⟨state, fewer, .passed foreign passes, ih subset rest⟩
    | sets fresh known =>
      refine ⟨next, member.1 :: fewer, .sets (fun inside => fresh (subset inside)) known, ?_⟩
      exact ih (List.cons_subset_cons member.1 subset) rest

/-- Two members next to each other may be taken in either order. -/
theorem takeMembers_swap (orderly : set.Orderly fields) {first second : String × Json}
    (reads : takeMembers set unknown state taken (first :: second :: members) = .ok result) :
    takeMembers set unknown state taken (second :: first :: members) = .ok result := by
  obtain ⟨middle, seen, takesFirst, reads⟩ := takeMembers_cons.mp reads
  obtain ⟨last, all, takesSecond, rest⟩ := takeMembers_cons.mp reads
  apply takeMembers_cons.mpr
  cases takesFirst with
  | passed foreign passes =>
    cases takesSecond with
    | passed foreign' passes' =>
      refine ⟨state, taken, .passed foreign' passes', ?_⟩
      exact takeMembers_cons.mpr ⟨state, taken, .passed foreign passes, rest⟩
    | sets fresh known =>
      have still := (orderly.foreign_iff known).mpr foreign
      refine ⟨last, second.1 :: taken, .sets fresh known, ?_⟩
      exact takeMembers_cons.mpr ⟨last, second.1 :: taken, .passed still passes, rest⟩
  | sets fresh known =>
    cases takesSecond with
    | passed foreign passes =>
      have still := (orderly.foreign_iff known).mp foreign
      refine ⟨state, taken, .passed still passes, ?_⟩
      exact takeMembers_cons.mpr ⟨middle, first.1 :: taken, .sets fresh known, rest⟩
    | sets fresh' known' =>
      rw [List.mem_cons, not_or] at fresh'
      obtain ⟨between, knownSecond, knownFirst⟩ :=
        orderly.swaps (Ne.symm fresh'.1) known known'
      refine ⟨between, second.1 :: taken, .sets fresh'.2 knownSecond, takeMembers_cons.mpr ?_⟩
      refine ⟨last, first.1 :: second.1 :: taken, .sets ?_ knownFirst, ?_⟩
      · rw [List.mem_cons, not_or]
        exact ⟨Ne.symm fresh'.1, fresh⟩
      · exact takeMembers_of_fewer (List.Perm.swap second.1 first.1 taken).subset rest

private theorem takeMembers_perm (orderly : set.Orderly fields) (shuffled : members.Perm others)
    (reads : takeMembers set unknown state taken members = .ok result) :
    takeMembers set unknown state taken others = .ok result := by
  induction shuffled generalizing state taken with
  | nil => exact reads
  | cons member _ ih =>
    obtain ⟨next, seen, takes, rest⟩ := takeMembers_cons.mp reads
    exact takeMembers_cons.mpr ⟨next, seen, takes, ih rest⟩
  | swap second first _ => exact takeMembers_swap orderly reads
  | trans _ _ ih ih' => exact ih' (ih reads)

theorem takeMembers_replace (orderly : set.Orderly fields)
    (alike : ∀ {state next}, set state name one = some (.ok next) →
      set state name other = some (.ok next))
    (reads : takeMembers set unknown state taken (before ++ (name, one) :: after) = .ok result) :
    takeMembers set unknown state taken (before ++ (name, other) :: after) = .ok result := by
  induction before generalizing state taken with
  | nil =>
    obtain ⟨next, seen, takes, rest⟩ := takeMembers_cons.mp reads
    apply takeMembers_cons.mpr
    cases takes with
    | passed foreign passes =>
      exact ⟨state, taken, .passed (orderly.blind foreign other) passes, rest⟩
    | sets fresh known => exact ⟨next, name :: taken, .sets fresh (alike known), rest⟩
  | cons member before ih =>
    obtain ⟨next, seen, takes, rest⟩ := takeMembers_cons.mp reads
    exact takeMembers_cons.mpr ⟨next, seen, takes, ih rest⟩

theorem takeMembers_remove (orderly : set.Orderly fields)
    (idle : set state name one = some (.ok state))
    (reads : takeMembers set unknown state taken (before ++ (name, one) :: after) = .ok result) :
    takeMembers set unknown state taken (before ++ after) = .ok result := by
  have front := takeMembers_perm orderly List.perm_middle reads
  obtain ⟨next, seen, takes, rest⟩ := takeMembers_cons.mp front
  cases takes with
  | passed foreign passes => exact rest
  | sets fresh known =>
    obtain rfl : state = next := Except.ok.inj (Option.some.inj (idle.symm.trans known))
    exact takeMembers_of_fewer (List.subset_cons_self name taken) rest

theorem takeMembers_add (orderly : set.Orderly fields) (foreign : set state name one = none)
    (passes : unknown name = .ok ())
    (reads : takeMembers set unknown state taken (before ++ after) = .ok result) :
    takeMembers set unknown state taken (before ++ (name, one) :: after) = .ok result := by
  apply takeMembers_perm orderly List.perm_middle.symm
  exact takeMembers_cons.mpr ⟨state, taken, .passed foreign passes, reads⟩

/-- What is read first of an object counts: a member that is refused in the place of others has
the whole object refused. -/
theorem takeMembers_refused {problem : ConfigProblem}
    (reads : takeMembers set unknown state taken (before ++ others) = .ok result)
    (refused : ∀ {next seen}, takeMembers set unknown next seen others = .ok result →
      takeMembers set unknown next seen members = .error problem) :
    takeMembers set unknown state taken (before ++ members) = .error problem := by
  induction before generalizing state taken with
  | nil => exact refused reads
  | cons member before ih =>
    obtain ⟨next, seen, takes, rest⟩ := takeMembers_cons.mp reads
    rw [List.cons_append, takeMembers]
    cases takes with
    | passed foreign passes =>
      simp only [foreign, passes]
      exact ih rest
    | sets fresh known =>
      simp only [known, fresh, if_false]
      exact ih rest

/-! ### Records -/

/-- Arrays name their members by where they stand, and the order inside a value does not count
there either. What is left over is left over still. -/
theorem takeItems_replace (orderly : set.Orderly fields) (moved : Rearranges one other)
    {front rest : List Json} {names left : List String} {spare : List Json}
    (reads : takeItems set state names (front ++ one :: rest) = .ok (result, left, spare)) :
    ∃ spare', takeItems set state names (front ++ other :: rest) = .ok (result, left, spare') ∧
      (spare' = [] ↔ spare = []) := by
  induction names generalizing state front with
  | nil =>
    cases reads
    refine ⟨front ++ other :: rest, rfl, ?_⟩
    simp only [List.append_eq_nil_iff, reduceCtorEq, and_false]
  | cons name names ih =>
    cases front with
    | nil =>
      rw [List.nil_append, takeItems] at reads ⊢
      cases known : set state name one with
      | none =>
        rw [orderly.blind known other]
        rw [known] at reads
        cases reads
        exact ⟨other :: rest, rfl, by simp only [reduceCtorEq]⟩
      | some parsed =>
        rw [known] at reads
        obtain ⟨next, rfl, reads⟩ := bind_ok.mp reads
        rw [orderly.inside moved known]
        exact ⟨spare, reads, Iff.rfl⟩
    | cons item front =>
      rw [List.cons_append, takeItems] at reads ⊢
      cases known : set state name item with
      | none =>
        rw [known] at reads
        cases reads
        exact ⟨item :: (front ++ other :: rest), rfl, by simp only [reduceCtorEq]⟩
      | some parsed =>
        rw [known] at reads
        obtain ⟨next, rfl, reads⟩ := bind_ok.mp reads
        exact ih reads

theorem toRecord_object {names : List String} {expected : String} {ending : Ending} :
    toRecord set names expected state (.object members ending) = .ok result ↔
      takeMembers set (fun name => mismatch (.unknownField name names)) state [] members =
        .ok result ∧ ending = .closed := by
  rw [toRecord, bind_ok]
  constructor
  · rintro ⟨value, reads, finished⟩
    cases ending with
    | closed =>
      cases finished
      exact ⟨reads, rfl⟩
    | cut afterComma how => cases finished
  · rintro ⟨reads, rfl⟩
    exact ⟨result, reads, rfl⟩

private theorem orderless_toRecord (orderly : set.Orderly fields) (names : List String)
    (expected : String) (start : σ) : Orderless (toRecord set names expected start) := by
  intro json other value moved reads
  cases moved with
  | here shuffled =>
    rw [toRecord_object] at reads ⊢
    exact ⟨takeMembers_perm orderly shuffled reads.1, reads.2⟩
  | member inside =>
    rw [toRecord_object] at reads ⊢
    exact ⟨takeMembers_replace orderly (orderly.inside inside) reads.1, reads.2⟩
  | item inside =>
    rw [toRecord, bind_ok] at reads ⊢
    obtain ⟨⟨result, left, spare⟩, taken, finished⟩ := reads
    obtain ⟨spare', taken', same⟩ := takeItems_replace orderly inside taken
    refine ⟨(result, left, spare'), taken', ?_⟩
    cases left with
    | cons name left => exact finished
    | nil =>
      cases spare with
      | nil => rwa [same.mpr rfl]
      | cons item spare => cases finished

end Members

end Json

/-- A policy in an object is the name of its one member, in which nothing can be rearranged. -/
theorem FailurePolicy.ofJson_object {members : List (String × Json)} {ending : Ending}
    {policy : FailurePolicy} (reads : ofJson (.object members ending) = .ok policy) :
    ∃ name value, members = [(name, value)] ∧ ∀ other, value.Rearranges other → other = value := by
  match members, reads with
  | [], reads => cases reads
  | _ :: _ :: _, reads => cases reads
  | [(name, value)], reads =>
    refine ⟨name, value, rfl, fun other moved => ?_⟩
    obtain ⟨policy, -, unit⟩ := Json.bind_ok.mp reads
    match value, moved, unit with
    | .object [] ending, moved, _ => exact moved.empty

private theorem FailurePolicy.orderless_ofJson : Json.Orderless FailurePolicy.ofJson := by
  intro json other value moved reads
  cases moved with
  | item inside => cases reads
  | here shuffled =>
    obtain ⟨name, value, rfl, -⟩ := ofJson_object reads
    rwa [List.perm_singleton.mp shuffled.symm]
  | member inside =>
    obtain ⟨name, value, single, still⟩ := ofJson_object reads
    obtain ⟨rfl, same⟩ | ⟨rfl, same⟩ := List.append_eq_singleton_iff.mp single
    · cases same
      rwa [still _ inside]
    · cases same

private theorem Kind.ofJson_ok {json : Json} {kind : Kind} :
    Kind.ofJson json = .ok kind ↔ json = .string kind.name := by
  constructor
  · intro reads
    cases json with
    | string name =>
      rw [Kind.ofJson] at reads
      split at reads
      · next found known =>
        cases reads
        have same := List.find?_some known
        rw [← eq_of_beq same]
      · cases reads
    | _ => cases reads
  · rintro rfl
    exact Kind.ofJson_name kind

namespace LimiterSpec

variable {state middle : LimiterSpec} {name : String} {one other : Json}

theorem set_eq_none_iff : set state name one = none ↔ name ∉ fields state.kind := by
  cases state <;> unfold set <;> split <;> simp_all [fields, kind]

private theorem kind_set (known : set state name one = some (.ok middle)) :
    middle.kind = state.kind := by
  revert known
  fun_cases set state name one
  case case15 => exact nofun
  all_goals
    intro known
    obtain ⟨value, -, rfl⟩ := Json.made_iff.mp known
    rfl

private theorem set_rearranged (moved : one.Rearranges other)
    (known : set state name one = some (.ok middle)) :
    set state name other = some (.ok middle) := by
  revert known
  fun_cases set state name one
  case case6 =>
    intro known
    exact FailurePolicy.orderless_ofJson.sets moved known
  case case8 =>
    intro known
    have orderless := Json.orderless_toOption Json.orderless_toText
    exact orderless.sets moved known
  case case14 =>
    intro known
    have orderless := Json.orderless_toOption Json.orderless_toInt64
    exact orderless.sets moved known
  case case15 => exact nofun
  all_goals
    intro known
    exact Json.orderless_toInt64.sets moved known

private theorem set_pairs (state : LimiterSpec) :
    (fields state.kind).Pairwise (set.Commutes state) := by
  cases state <;> simp only [fields, kind, List.pairwise_cons, List.forall_mem_cons,
    List.not_mem_nil, List.Pairwise.nil, and_true, false_imp_iff, implies_true]
  all_goals and_intros
  all_goals exact .apart (fun _ => rfl) (fun _ _ => rfl) (fun _ => rfl) (fun _ _ => rfl)

theorem orderly_set : set.Orderly (fields ·.kind) :=
  .of_pairs set_eq_none_iff (fun known => congrArg fields (kind_set known)) set_pairs
    set_rearranged

def tagOf (kind : Kind) : String × Json := (tag, .string kind.name)

theorem tagOf_inj {kind other : Kind} : tagOf kind = tagOf other ↔ kind = other := by
  constructor
  · intro same
    have names : Json.string kind.name = .string other.name := congrArg Prod.snd same
    have reads := Kind.ofJson_name kind
    rw [names, Kind.ofJson_name] at reads
    exact (Except.ok.inj reads).symm
  · rintro rfl
    rfl

/-- Members are split if they are whole, and of those before and among them one names a kind. -/
theorem splitMembers_ok {kind? : Option Kind} {kind : Kind}
    {members others : List (String × Json)} :
    splitMembers kind? members = .ok (some kind, others) ↔
      kind?.toList.map tagOf ++ members.filter (·.1 = tag) = [tagOf kind] ∧
        others = members.filter (·.1 ≠ tag) ∧ ∀ member ∈ members, member.2.break? = none := by
  induction members generalizing kind? others with
  | nil =>
    cases kind? with
    | none => simp [splitMembers]
    | some kind' => simp [splitMembers, tagOf_inj, eq_comm]
  | cons member members ih =>
    obtain ⟨name, value⟩ := member
    rw [splitMembers, List.forall_mem_cons]
    by_cases tagged : name = tag
    · subst tagged
      rw [if_pos rfl, List.filter_cons_of_pos (by simp), List.filter_cons_of_neg (by simp)]
      cases kind? with
      | some kind' =>
        constructor
        · intro twice
          cases twice
        · rintro ⟨one, -⟩
          simp at one
      | none =>
        rw [if_neg (by simp), Json.bind_ok]
        constructor
        · rintro ⟨kind', named, split⟩
          obtain ⟨one, rfl, whole⟩ := ih.mp split
          obtain rfl := Kind.ofJson_ok.mp named
          exact ⟨one, rfl, rfl, whole⟩
        · rintro ⟨one, rfl, -, whole⟩
          have named : (tag, value) = tagOf kind := (List.cons.inj one).1
          obtain rfl : value = .string kind.name := congrArg Prod.snd named
          exact ⟨kind, Kind.ofJson_name kind, ih.mpr ⟨one, rfl, whole⟩⟩
    · rw [if_neg tagged, List.filter_cons_of_neg (by simpa using tagged),
        List.filter_cons_of_pos (by simpa using tagged)]
      cases broken : value.break? with
      | some how =>
        constructor
        · intro fails
          cases fails
        · rintro ⟨-, -, whole, -⟩
          cases whole
      | none =>
        simp only [Json.bind_ok, Prod.exists]
        constructor
        · rintro ⟨found, others', split, ⟨⟩⟩
          obtain ⟨one, rfl, whole⟩ := ih.mp split
          exact ⟨one, rfl, trivial, whole⟩
        · rintro ⟨one, rfl, -, whole⟩
          exact ⟨_, _, ih.mpr ⟨one, rfl, whole⟩, rfl⟩

/-- A limiter in an object is read from its kind, which is named once, and its other members. -/
theorem ofJson_object {members : List (String × Json)} {ending : Ending} {spec : LimiterSpec} :
    ofJson (.object members ending) = .ok spec ↔
      ∃ kind : Kind, members.filter (·.1 = tag) = [tagOf kind] ∧
        Json.break? (.object members ending) = none ∧
        Json.takeMembers set (fun _ => .ok ()) (ofKind kind) [] (members.filter (·.1 ≠ tag)) =
          .ok spec := by
  rw [ofJson, Json.bind_ok, Prod.exists]
  constructor
  · rintro ⟨kind?, others, split, reads⟩
    cases closed : ending.break? with
    | some how =>
      rw [closed] at reads
      cases reads
    | none =>
      rw [closed] at reads
      cases kind? with
      | none => cases reads
      | some kind =>
        obtain ⟨one, rfl, whole⟩ := splitMembers_ok.mp split
        exact ⟨kind, one, Json.break?_object_eq_none.mpr ⟨whole, closed⟩, reads⟩
  · rintro ⟨kind, one, whole, reads⟩
    obtain ⟨whole, closed⟩ := Json.break?_object_eq_none.mp whole
    refine ⟨some kind, _, splitMembers_ok.mpr ⟨one, rfl, whole⟩, ?_⟩
    rw [closed]
    exact reads

theorem ofJson_around {before after : List (String × Json)} {ending : Ending} {spec : LimiterSpec}
    (untagged : name ≠ tag) :
    ofJson (.object (before ++ (name, one) :: after) ending) = .ok spec ↔
      ∃ kind : Kind, (before ++ after).filter (·.1 = tag) = [tagOf kind] ∧
        (one.break? = none ∧ Json.break? (.object (before ++ after) ending) = none) ∧
        Json.takeMembers set (fun _ => .ok ()) (ofKind kind) []
          (before.filter (·.1 ≠ tag) ++ (name, one) :: after.filter (·.1 ≠ tag)) = .ok spec := by
  have tags : (before ++ (name, one) :: after).filter (·.1 = tag) =
      (before ++ after).filter (·.1 = tag) := by
    rw [List.filter_append, List.filter_cons_of_neg (by simpa using untagged), List.filter_append]
  have others : (before ++ (name, one) :: after).filter (·.1 ≠ tag) =
      before.filter (·.1 ≠ tag) ++ (name, one) :: after.filter (·.1 ≠ tag) := by
    rw [List.filter_append, List.filter_cons_of_pos (by simpa using untagged)]
  have whole : Json.break? (.object (before ++ (name, one) :: after) ending) = none ↔
      one.break? = none ∧ Json.break? (.object (before ++ after) ending) = none := by
    simp only [Json.break?_object_eq_none, List.forall_mem_append, List.forall_mem_cons]
    constructor
    · rintro ⟨⟨front, one, back⟩, closed⟩
      exact ⟨one, ⟨front, back⟩, closed⟩
    · rintro ⟨one, ⟨front, back⟩, closed⟩
      exact ⟨⟨front, one, back⟩, closed⟩
  simp only [ofJson_object, tags, others, whole]

private theorem ofJson_array {first : Json} {items : List Json} {ending : Ending}
    {spec : LimiterSpec} :
    ofJson (.array (first :: items) ending) = .ok spec ↔
      ∃ kind : Kind, first = .string kind.name ∧ Json.break? (.array items ending) = none ∧
        ∃ names, Json.takeItems set (ofKind kind) (fields kind) items = .ok (spec, names, []) := by
  rw [ofJson, Json.bind_ok]
  constructor
  · rintro ⟨kind, named, reads⟩
    refine ⟨kind, Kind.ofJson_ok.mp named, ?_⟩
    split at reads
    · cases reads
    · next whole =>
      obtain ⟨⟨found, names, left⟩, taken, finished⟩ := Json.bind_ok.mp reads
      cases left with
      | nil =>
        cases finished
        exact ⟨whole, names, taken⟩
      | cons item left => cases finished
  · rintro ⟨kind, rfl, whole, names, taken⟩
    refine ⟨kind, Kind.ofJson_name kind, ?_⟩
    rw [whole, Json.bind_ok]
    exact ⟨_, taken, rfl⟩

private theorem orderless_ofJson : Json.Orderless ofJson := by
  intro json other spec moved reads
  have whole := moved.whole
  cases moved with
  | here shuffled =>
    obtain ⟨kind, one, unbroken, taken⟩ := ofJson_object.mp reads
    refine ofJson_object.mpr ⟨kind, ?_, whole unbroken, ?_⟩
    · exact List.perm_singleton.mp (one ▸ (shuffled.filter _).symm)
    · exact Json.takeMembers_perm orderly_set (shuffled.filter _) taken
  | @member before after name one other ending inside =>
    by_cases tagged : name = tag
    · subst tagged
      obtain ⟨kind, single, -⟩ := ofJson_object.mp reads
      have named : (tag, one) ∈ [tagOf kind] := by
        rw [← single]
        simp
      obtain rfl : one = .string kind.name := congrArg Prod.snd (List.mem_singleton.mp named)
      cases inside
    · obtain ⟨kind, single, unbroken, taken⟩ := (ofJson_around tagged).mp reads
      refine (ofJson_around tagged).mpr ⟨kind, single, ⟨inside.whole unbroken.1, unbroken.2⟩, ?_⟩
      exact Json.takeMembers_replace orderly_set (set_rearranged inside) taken
  | @item before after one other ending inside =>
    cases before with
    | nil =>
      obtain ⟨kind, rfl, -⟩ := ofJson_array.mp reads
      cases inside
    | cons first before =>
      obtain ⟨kind, named, unbroken, names, taken⟩ := ofJson_array.mp reads
      obtain ⟨left, taken', same⟩ := Json.takeItems_replace orderly_set inside taken
      obtain rfl := same.mpr rfl
      have unbroken' := (Json.Rearranges.item inside).whole unbroken
      exact ofJson_array.mpr ⟨kind, named, unbroken', names, taken'⟩

end LimiterSpec

namespace BreakerSpec

variable {state next : BreakerSpec} {name : String} {one other : Json}

theorem set_eq_none_iff : set state name one = none ↔ name ∉ fields := by
  unfold set
  split <;> simp_all [fields]

private theorem set_pairs (state : BreakerSpec) : fields.Pairwise (set.Commutes state) := by
  simp only [fields, List.pairwise_cons, List.forall_mem_cons, List.not_mem_nil, List.Pairwise.nil,
    and_true, false_imp_iff, implies_true]
  and_intros
  all_goals exact .apart (fun _ => rfl) (fun _ _ => rfl) (fun _ => rfl) (fun _ _ => rfl)

private theorem set_rearranged (moved : one.Rearranges other)
    (known : set state name one = some (.ok next)) : set state name other = some (.ok next) := by
  revert known
  fun_cases set state name one
  case case4 => exact nofun
  all_goals
    intro known
    exact Json.orderless_toInt64.sets moved known

theorem orderly_set : set.Orderly fun _ => fields :=
  .of_pairs set_eq_none_iff (fun _ => rfl) set_pairs set_rearranged

private theorem orderless_ofJson : Json.Orderless ofJson :=
  Json.orderless_toRecord orderly_set fields _ {}

end BreakerSpec

namespace AdmissionConfig

variable {state next : AdmissionConfig} {name : String} {one other : Json}

theorem set_eq_none_iff : set state name one = none ↔ name ∉ fields := by
  unfold set
  split <;> simp_all [fields]

theorem limitersOfJson_array {items : List Json} {ending : Ending} {specs : List LimiterSpec} :
    limitersOfJson (.array items ending) = .ok specs ↔
      items.mapM LimiterSpec.ofJson = .ok specs ∧ ending = .closed := by
  rw [limitersOfJson, Json.bind_ok]
  constructor
  · rintro ⟨specs', each, finished⟩
    cases ending with
    | closed =>
      cases finished
      exact ⟨each, rfl⟩
    | cut afterComma how => cases finished
  · rintro ⟨each, rfl⟩
    exact ⟨specs, each, rfl⟩

theorem mapM_replace {before after : List Json} {specs : List LimiterSpec}
    (alike : ∀ {spec}, LimiterSpec.ofJson one = .ok spec → LimiterSpec.ofJson other = .ok spec)
    (each : (before ++ one :: after).mapM LimiterSpec.ofJson = .ok specs) :
    (before ++ other :: after).mapM LimiterSpec.ofJson = .ok specs := by
  simp only [List.mapM_append, List.mapM_cons, Json.bind_ok] at each ⊢
  obtain ⟨front, reads, rest, ⟨spec, read, others⟩, made⟩ := each
  exact ⟨front, reads, rest, ⟨spec, alike read, others⟩, made⟩

private theorem orderless_limitersOfJson : Json.Orderless limitersOfJson := by
  intro json other specs moved reads
  cases moved with
  | here shuffled => cases reads
  | member inside => cases reads
  | item inside =>
    obtain ⟨each, closed⟩ := limitersOfJson_array.mp reads
    have again := mapM_replace (fun read => LimiterSpec.orderless_ofJson inside read) each
    exact limitersOfJson_array.mpr ⟨again, closed⟩

private theorem set_pairs (state : AdmissionConfig) : fields.Pairwise (set.Commutes state) := by
  simp only [fields, List.pairwise_cons, List.forall_mem_cons, List.not_mem_nil, List.Pairwise.nil,
    and_true, false_imp_iff, implies_true]
  exact .apart (fun _ => rfl) (fun _ _ => rfl) (fun _ => rfl) (fun _ _ => rfl)

private theorem set_rearranged (moved : one.Rearranges other)
    (known : set state name one = some (.ok next)) : set state name other = some (.ok next) := by
  revert known
  fun_cases set state name one
  case case1 =>
    intro known
    exact orderless_limitersOfJson.sets moved known
  case case2 =>
    intro known
    have orderless := Json.orderless_toOption BreakerSpec.orderless_ofJson
    exact orderless.sets moved known
  case case3 => exact nofun

theorem orderly_set : set.Orderly fun _ => fields :=
  .of_pairs set_eq_none_iff (fun _ => rfl) set_pairs set_rearranged

theorem orderless_ofJson : Json.Orderless ofJson :=
  Json.orderless_toRecord orderly_set fields _ {}

end AdmissionConfig

end AdmissionControl
