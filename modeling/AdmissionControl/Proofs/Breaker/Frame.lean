import AdmissionControl.World.Reading

namespace AdmissionControl

namespace World

/-- What calls on breakers leave alone. Interruptions are used up, and none is added. -/
structure Keeps (world after : World) : Prop where
  now : after.now = world.now
  clocks : after.clocks = world.clocks
  tokens : after.tokens = world.tokens
  stores : after.stores = world.stores
  limiters : after.limiters = world.limiters
  requests : after.requests = world.requests
  alarms : after.alarms = world.alarms
  reads : ∀ ref, (after.circuits.get ref).clock = (world.circuits.get ref).clock
  blameless : ∀ ref, (after.circuits.get ref).blameless = (world.circuits.get ref).blameless
  spent : after.interruptions.length ≤ world.interruptions.length

namespace Keeps

variable {world middle after : World}

theorem refl (world : World) : world.Keeps world :=
  ⟨rfl, rfl, rfl, rfl, rfl, rfl, rfl, fun _ => rfl, fun _ => rfl, Nat.le_refl _⟩

theorem trans (first : world.Keeps middle) (second : middle.Keeps after) : world.Keeps after where
  now := second.now.trans first.now
  clocks := second.clocks.trans first.clocks
  tokens := second.tokens.trans first.tokens
  stores := second.stores.trans first.stores
  limiters := second.limiters.trans first.limiters
  requests := second.requests.trans first.requests
  alarms := second.alarms.trans first.alarms
  reads ref := (second.reads ref).trans (first.reads ref)
  blameless ref := (second.blameless ref).trans (first.blameless ref)
  spent := Nat.le_trans second.spent first.spent

theorem change (world : World) (ref : Ref Circuit) (breaker : Breaker) (notices : List Notice) :
    world.Keeps ((world.setBreaker ref breaker).notify notices) where
  now := rfl
  clocks := rfl
  tokens := rfl
  stores := rfl
  limiters := rfl
  requests := rfl
  alarms := rfl
  reads other := by
    simp only [World.notify, World.record, World.setBreaker, Table.get_modify]
    split
    · next same => rw [same]
    · rfl
  blameless other := by
    simp only [World.notify, World.record, World.setBreaker, Table.get_modify]
    split
    · next same => rw [same]
    · rfl
  spent := Nat.le_refl _

private theorem sighted (kept : world.Keeps after) (sightings : List Sighting) :
    world.Keeps { after with sightings } :=
  ⟨kept.now, kept.clocks, kept.tokens, kept.stores, kept.limiters, kept.requests, kept.alarms,
    kept.reads, kept.blameless, kept.spent⟩

private theorem interruptions {interruptions : List Interruption}
    (fewer : interruptions.length ≤ world.interruptions.length) :
    world.Keeps { world with interruptions } :=
  ⟨rfl, rfl, rfl, rfl, rfl, rfl, rfl, fun _ => rfl, fun _ => rfl, fewer⟩

end Keeps

theorem breaker_change (world : World) (ref other : Ref Circuit) (breaker : Breaker)
    (notices : List Notice) :
    ((world.setBreaker ref breaker).notify notices).breaker other =
      if ref = other then breaker else world.breaker other := by
  simp only [World.notify, World.record, World.setBreaker, World.breaker, Table.get_modify]
  split <;> rfl

private theorem others_length {world : World} {clock : Ref Clock} {interruption : Interruption}
    (found : world.interruptions.find? (·.clock = clock) = some interruption) :
    (world.interruptions.filter (·.clock ≠ clock)).length < world.interruptions.length := by
  have member := List.mem_of_find?_eq_some found
  have same := List.find?_some found
  rw [List.length_filter_lt_length_iff_exists]
  exact ⟨interruption, member, by simpa using same⟩

/-- An interrupting caller comes and goes. -/
def interfere (steps : Nat) (world : World) (interruption : Interruption) : World :=
  let (answer, visited) := world.allowWithin steps interruption.circuit
  let left := match answer, interruption.verdict with
    | .ok permit, some verdict => visited.resolveWithin steps interruption.circuit permit verdict
    | _, _ => visited
  { left with
    sightings :=
      left.sightings ++ [⟨interruption.clock, answer, left.breaker interruption.circuit⟩] }

theorem readWithin_cases (steps : Nat) (world : World) (clock : Ref Clock) :
    ∃ after, world.readWithin steps clock = ((after.clocks.get clock).now, after) ∧
      ((∃ interruptions : List Interruption,
          interruptions.length ≤ world.interruptions.length ∧ after = { world with interruptions }) ∨
        ∃ (fewer : Nat) (interruptions : List Interruption) (interruption : Interruption),
          steps = fewer + 1 ∧ interruptions.length < world.interruptions.length ∧
            after = interfere fewer { world with interruptions } interruption) := by
  cases steps with
  | zero => exact ⟨world, rfl, .inl ⟨world.interruptions, Nat.le_refl _, rfl⟩⟩
  | succ steps =>
    cases found : world.interruptions.find? (·.clock = clock) with
    | none =>
      refine ⟨world, ?_, .inl ⟨world.interruptions, Nat.le_refl _, rfl⟩⟩
      simp only [readWithin, found]
    | some interruption =>
      have fewer := others_length found
      have same : interruption.clock = clock := by simpa using List.find?_some found
      obtain ⟨held, skip, ref, verdict⟩ := interruption
      subst same
      cases skip with
      | succ skip =>
        refine ⟨_, ?_, .inl ⟨⟨held, skip, ref, verdict⟩ ::
          world.interruptions.filter (·.clock ≠ held), fewer, rfl⟩⟩
        simp only [readWithin, found]
      | zero =>
        refine ⟨_, ?_, .inr ⟨steps, _, ⟨held, 0, ref, verdict⟩, rfl, fewer, rfl⟩⟩
        simp only [readWithin, found]
        rfl

/-- What `steps` steps keep. -/
structure KeptWithin (steps : Nat) : Prop where
  read : ∀ (world : World) clock, world.Keeps (world.readWithin steps clock).2
  allow : ∀ (world : World) ref, world.Keeps (world.allowWithin steps ref).2
  resolve : ∀ (world : World) ref permit verdict,
    world.Keeps (world.resolveWithin steps ref permit verdict)

private theorem KeptWithin.interfere {steps : Nat} (kept : KeptWithin steps) (world : World)
    (interruption : Interruption) : world.Keeps (interfere steps world interruption) := by
  have allowed := kept.allow world interruption.circuit
  simp only [World.interfere]
  generalize world.allowWithin steps interruption.circuit = visit at allowed
  obtain ⟨answer, visited⟩ := visit
  split
  · exact .sighted (allowed.trans (kept.resolve visited _ _ _)) _
  · exact .sighted allowed _

/-- No call takes more than it may. -/
theorem keptWithin (steps : Nat) : KeptWithin steps := by
  induction steps using Nat.strongRecOn with
  | ind steps ih =>
    have read (world : World) (clock : Ref Clock) :
        world.Keeps (world.readWithin steps clock).2 := by
      obtain ⟨after, read, ⟨interruptions, fewer, rfl⟩ |
        ⟨fewer, interruptions, interruption, rfl, spent, rfl⟩⟩ := readWithin_cases steps world clock
      · rw [read]
        exact .interruptions fewer
      · rw [read]
        exact (Keeps.interruptions (Nat.le_of_lt spent)).trans
          ((ih fewer (Nat.lt_succ_self _)).interfere _ interruption)
    refine ⟨read, ?_, ?_⟩
    · intro world ref
      cases steps with
      | zero => exact .refl world
      | succ steps =>
        have earlier := ih steps (Nat.lt_succ_self _)
        simp only [allowWithin]
        split
        · exact .change _ _ _ _
        · exact .change _ _ _ _
        · split
          · exact ((Keeps.change world ref _ _).trans (earlier.read _ _)).trans (.change _ ref _ _)
          · refine Keeps.trans ?_ (earlier.allow _ ref)
            exact ((Keeps.change world ref _ _).trans (earlier.read _ _)).trans (.change _ ref _ _)
    · intro world ref permit verdict
      cases steps with
      | zero => exact .refl world
      | succ steps =>
        have earlier := ih steps (Nat.lt_succ_self _)
        cases verdict with
        | success => exact .change _ _ _ _
        | none => exact .change _ _ _ []
        | failure =>
          simp only [resolveWithin]
          split
          · exact .change _ _ _ []
          · exact ((Keeps.change world ref _ []).trans (earlier.read _ _)).trans (.change _ ref _ _)

theorem readWithin_fst (steps : Nat) (world : World) (clock : Ref Clock) :
    (world.readWithin steps clock).1 = (world.clocks.get clock).now := by
  obtain ⟨after, read, _⟩ := readWithin_cases steps world clock
  have kept := (keptWithin steps).read world clock
  rw [read] at kept ⊢
  rw [← kept.clocks]

theorem readWithin_calm (steps : Nat) (world : World) (clock : Ref Clock) :
    (∀ ref, (world.readWithin steps clock).2.breaker ref = world.breaker ref) ∨
      (world.readWithin steps clock).2.interruptions.length < world.interruptions.length := by
  obtain ⟨_, read, ⟨interruptions, _, rfl⟩ | ⟨fewer, interruptions, interruption, _, spent, rfl⟩⟩ :=
    readWithin_cases steps world clock
  · rw [read]
    exact .inl fun _ => rfl
  · rw [read]
    have kept := (keptWithin fewer).interfere { world with interruptions } interruption
    exact .inr (Nat.lt_of_le_of_lt kept.spent spent)

end World

end AdmissionControl
