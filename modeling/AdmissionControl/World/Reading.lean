import AdmissionControl.World.Basic
/-!
Reading clocks, and what breakers do around a reading.

A reading is where a second caller can get in: an interruption that is set on the clock asks its
breaker for a permit and may return it, all before the reading has its answer. That caller reads
clocks too and may be interrupted itself. Each interruption happens once, so the nesting ends, and
a caller that has to ask again has been interrupted since it asked last.
-/

namespace AdmissionControl

namespace World

mutual

def readWithin : Nat → World → Ref Clock → Nat × World
  | 0, world, ref => ((world.clocks.get ref).now, world)
  | steps + 1, world, ref =>
    match world.interruptions.find? (·.clock = ref) with
    | none => ((world.clocks.get ref).now, world)
    | some interruption =>
      let others := world.interruptions.filter (·.clock ≠ ref)
      match interruption.skip with
      | skip + 1 =>
        ((world.clocks.get ref).now,
          { world with interruptions := { interruption with skip } :: others })
      | 0 =>
        let (answer, world) :=
          allowWithin steps { world with interruptions := others } interruption.circuit
        let world := match answer, interruption.verdict with
          | .ok permit, some verdict =>
            resolveWithin steps world interruption.circuit permit verdict
          | _, _ => world
        let sighting := ⟨ref, answer, world.breaker interruption.circuit⟩
        ((world.clocks.get ref).now,
          { world with sightings := world.sightings ++ [sighting] })

def allowWithin : Nat → World → Ref Circuit → Except CircuitOpen Permit × World
  | 0, world, ref => (.error ((world.breaker ref).refusal 0), world)
  | steps + 1, world, ref =>
    let (breaker, notices, inquiry) := (world.breaker ref).inquire
    let world := (world.setBreaker ref breaker).notify notices
    match inquiry with
    | .granted permit => (.ok permit, world)
    | .refused refusal => (.error refusal, world)
    | .timing seen openedAt =>
      let (now, world) := readWithin steps world (world.circuits.get ref).clock
      let (breaker, notices, refusal?) := (world.breaker ref).timed seen openedAt now
      let world := (world.setBreaker ref breaker).notify notices
      match refusal? with
      | some refusal => (.error refusal, world)
      | none => allowWithin steps world ref

def resolveWithin : Nat → World → Ref Circuit → Permit → Verdict → World
  | 0, world, _, _, _ => world
  | steps + 1, world, ref, permit, verdict =>
    match verdict with
    | .success =>
      let (breaker, notices) := (world.breaker ref).succeed permit
      (world.setBreaker ref breaker).notify notices
    | .none => world.setBreaker ref ((world.breaker ref).discard permit)
    | .failure =>
      let (breaker, opening?) := (world.breaker ref).fail permit
      let world := world.setBreaker ref breaker
      match opening? with
      | none => world
      | some opening =>
        let (now, world) := readWithin steps world (world.circuits.get ref).clock
        let (breaker, notices) := (world.breaker ref).stamp opening now
        (world.setBreaker ref breaker).notify notices

end

theorem readWithin_undisturbed {world : World} (calm : world.interruptions = []) (steps : Nat)
    (clock : Ref Clock) :
    world.readWithin steps clock = ((world.clocks.get clock).now, world) := by
  cases steps <;> simp [readWithin, calm]

/-- Enough steps for every interruption that is set: each takes one for the reading that it
interrupts, two for what its caller does, and one for whoever asks again because of it. -/
def steps (world : World) : Nat := 4 * world.interruptions.length + 4

def read (world : World) (ref : Ref Clock) : Nat × World := readWithin world.steps world ref

/-- Asks a breaker for a permit. It never waits. -/
def allow (world : World) (ref : Ref Circuit) : Except CircuitOpen Permit × World :=
  allowWithin world.steps world ref

/-- Returns a permit to its breaker. -/
def resolve (world : World) (ref : Ref Circuit) (permit : Permit) (verdict : Verdict) : World :=
  resolveWithin world.steps world ref permit verdict

def interrupt (world : World) (interruption : Interruption) : World :=
  { world with
    interruptions :=
      interruption :: world.interruptions.filter (·.clock ≠ interruption.clock) }

def takeSightings (world : World) (ref : Ref Clock) : List Sighting × World :=
  (world.sightings.filter (·.clock = ref),
    { world with sightings := world.sightings.filter (·.clock ≠ ref) })

end World

end AdmissionControl
