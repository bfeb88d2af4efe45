import AdmissionControl.Proofs.Breaker.Frame
import AdmissionControl.World.Requests

namespace AdmissionControl

namespace World

/-- The world with other requests on their way and other alarms. -/
def note (requests : Table Request) (alarms : List Alarm) (world : World) : World :=
  { world with requests, alarms }

def noted {α : Type u} (requests : Table Request) (alarms : List Alarm) (result : α × World) :
    α × World :=
  (result.1, result.2.note requests alarms)

/-- All is the same but which requests there are and which alarms are set. -/
def Matches (one other : World) : Prop := one.note {} [] = other.note {} []

namespace Matches

variable {one other : World}

theorem eq_note (same : one.Matches other) : one = other.note one.requests one.alarms := by
  have again := congrArg (note one.requests one.alarms) same
  exact again

theorem of_note {requests : Table Request} {alarms : List Alarm}
    (same : one = other.note requests alarms) : one.Matches other := by
  rw [same]
  rfl

theorem limiters (same : one.Matches other) : other.limiters = one.limiters :=
  (congrArg World.limiters same).symm

theorem stores (same : one.Matches other) : other.stores = one.stores :=
  (congrArg World.stores same).symm

theorem breaker (same : one.Matches other) (circuit : Ref Circuit) :
    one.breaker circuit = other.breaker circuit := by
  rw [same.eq_note]
  rfl

end Matches

def furnish (limiters : Table Limiter) (requests : Table Request) (alarms : List Alarm)
    (world : World) : World :=
  { world with limiters, requests, alarms }

def furnished {α : Type u} (limiters : Table Limiter) (requests : Table Request)
    (alarms : List Alarm) (result : α × World) : α × World :=
  (result.1, result.2.furnish limiters requests alarms)

section Breakers

variable (limiters : Table Limiter) (requests : Table Request) (alarms : List Alarm)

/-- No call on a breaker that takes so many steps sees any of this. -/
structure UnseenWithin (steps : Nat) : Prop where
  read : ∀ (world : World) ref, (world.furnish limiters requests alarms).readWithin steps ref =
    furnished limiters requests alarms (world.readWithin steps ref)
  allow : ∀ (world : World) ref, (world.furnish limiters requests alarms).allowWithin steps ref =
    furnished limiters requests alarms (world.allowWithin steps ref)
  resolve : ∀ (world : World) ref permit verdict,
    (world.furnish limiters requests alarms).resolveWithin steps ref permit verdict =
      (world.resolveWithin steps ref permit verdict).furnish limiters requests alarms

variable {limiters requests alarms}

private theorem breaker_furnish (world : World) (ref : Ref Circuit) :
    (world.furnish limiters requests alarms).breaker ref = world.breaker ref := rfl

private theorem clock_furnish (world : World) (ref : Ref Circuit) :
    ((world.furnish limiters requests alarms).circuits.get ref).clock =
      (world.circuits.get ref).clock := rfl

private theorem setBreaker_furnish (world : World) (ref : Ref Circuit) (breaker : Breaker) :
    (world.furnish limiters requests alarms).setBreaker ref breaker =
      (world.setBreaker ref breaker).furnish limiters requests alarms := rfl

private theorem notify_furnish (world : World) (notices : List Notice) :
    (world.furnish limiters requests alarms).notify notices =
      (world.notify notices).furnish limiters requests alarms := rfl

namespace UnseenWithin

variable {steps : Nat}

private theorem interfere (unseen : UnseenWithin limiters requests alarms steps)
    (world : World) (interruption : Interruption) :
    interfere steps (world.furnish limiters requests alarms) interruption =
      (interfere steps world interruption).furnish limiters requests alarms := by
  simp only [World.interfere, unseen.allow, furnished]
  generalize world.allowWithin steps interruption.circuit = visit
  obtain ⟨answer, visited⟩ := visit
  cases answer with
  | error refusal => rfl
  | ok permit =>
    cases interruption.verdict with
    | none => rfl
    | some verdict =>
      simp only [unseen.resolve]
      rfl

/-! A caller who gets in while the clock is read has fewer steps left than the one who reads. -/

private theorem read_succ (unseen : UnseenWithin limiters requests alarms steps) (world : World)
    (clock : Ref Clock) :
    (world.furnish limiters requests alarms).readWithin (steps + 1) clock =
      furnished limiters requests alarms (world.readWithin (steps + 1) clock) := by
  have interruptions :
      (world.furnish limiters requests alarms).interruptions = world.interruptions := rfl
  cases found : world.interruptions.find? (·.clock = clock) with
  | none =>
    simp only [readWithin, interruptions, found]
    rfl
  | some interruption =>
    have same : interruption.clock = clock := by simpa using List.find?_some found
    obtain ⟨held, skip, circuit, verdict⟩ := interruption
    subst same
    cases skip with
    | succ skip =>
      simp only [readWithin, interruptions, found]
      rfl
    | zero =>
      have met (world : World)
          (found : world.interruptions.find? (·.clock = held) =
            some ⟨held, 0, circuit, verdict⟩) :
          world.readWithin (steps + 1) held =
            let after := World.interfere steps { world with
              interruptions := world.interruptions.filter (·.clock ≠ held) }
              ⟨held, 0, circuit, verdict⟩
            ((after.clocks.get held).now, after) := by
        simp only [readWithin, found]
        rfl
      have alike := unseen.interfere { world with
        interruptions := world.interruptions.filter (·.clock ≠ held) }
        ⟨held, 0, circuit, verdict⟩
      have left := met (world.furnish limiters requests alarms) found
      simp only [furnish] at left alike
      rw [met _ found]
      simp only [furnish, left, alike]
      rfl

private theorem allow_succ (unseen : UnseenWithin limiters requests alarms steps) (world : World)
    (ref : Ref Circuit) :
    (world.furnish limiters requests alarms).allowWithin (steps + 1) ref =
      furnished limiters requests alarms (world.allowWithin (steps + 1) ref) := by
  simp only [allowWithin, breaker_furnish, setBreaker_furnish, notify_furnish, clock_furnish]
  cases (world.breaker ref).inquire.2.2 with
  | granted permit => rfl
  | refused refusal => rfl
  | timing seen openedAt =>
    simp only [unseen.read, furnished, breaker_furnish, setBreaker_furnish, notify_furnish]
    split
    · rfl
    · exact unseen.allow _ ref

private theorem resolve_succ (unseen : UnseenWithin limiters requests alarms steps) (world : World)
    (ref : Ref Circuit) (permit : Permit) (verdict : Verdict) :
    (world.furnish limiters requests alarms).resolveWithin (steps + 1) ref permit verdict =
      (world.resolveWithin (steps + 1) ref permit verdict).furnish limiters requests alarms := by
  cases verdict with
  | success => rfl
  | none => rfl
  | failure =>
    simp only [resolveWithin, breaker_furnish, setBreaker_furnish, clock_furnish]
    split
    · rfl
    · simp only [unseen.read, furnished, breaker_furnish, setBreaker_furnish, notify_furnish]

end UnseenWithin

variable (limiters requests alarms)

private theorem unseenWithin (steps : Nat) : UnseenWithin limiters requests alarms steps := by
  induction steps with
  | zero => exact ⟨fun _ _ => rfl, fun _ _ => rfl, fun _ _ _ _ => rfl⟩
  | succ steps unseen => exact ⟨unseen.read_succ, unseen.allow_succ, unseen.resolve_succ⟩

private theorem resolve_furnish (world : World) (ref : Ref Circuit) (permit : Permit)
    (verdict : Verdict) :
    (world.furnish limiters requests alarms).resolve ref permit verdict =
      (world.resolve ref permit verdict).furnish limiters requests alarms :=
  (unseenWithin limiters requests alarms world.steps).resolve world ref permit verdict

end Breakers

theorem complete_resolve (world : World) (limiter : Ref Limiter) (ref : Ref Circuit)
    (permit : Permit) (verdict : Verdict) :
    (world.complete limiter).resolve ref permit verdict =
      (world.resolve ref permit verdict).complete limiter := by
  have kept := (keptWithin world.steps).resolve world ref permit verdict
  have resolved : (world.complete limiter).resolve ref permit verdict =
      (world.resolve ref permit verdict).furnish
        (world.limiters.modify limiter Limiter.complete) world.requests world.alarms :=
    resolve_furnish (world.limiters.modify limiter Limiter.complete) world.requests world.alarms
      world ref permit verdict
  rw [resolved, ← kept.limiters, ← kept.requests, ← kept.alarms]
  rfl

variable (requests : Table Request) (alarms : List Alarm)

private theorem furnish_own {world after : World} (kept : after.limiters = world.limiters) :
    after.furnish world.limiters requests alarms = after.note requests alarms := by
  rw [← kept]
  rfl

private theorem read_note (world : World) (ref : Ref Clock) :
    (world.note requests alarms).read ref = noted requests alarms (world.read ref) := by
  have kept := (keptWithin world.steps).read world ref
  have read := (unseenWithin world.limiters requests alarms world.steps).read world ref
  rw [furnished, furnish_own requests alarms kept.limiters] at read
  exact read

theorem allow_note (world : World) (ref : Ref Circuit) :
    (world.note requests alarms).allow ref = noted requests alarms (world.allow ref) := by
  have kept := (keptWithin world.steps).allow world ref
  have allowed := (unseenWithin world.limiters requests alarms world.steps).allow world ref
  rw [furnished, furnish_own requests alarms kept.limiters] at allowed
  exact allowed

theorem resolve_note (world : World) (ref : Ref Circuit) (permit : Permit) (verdict : Verdict) :
    (world.note requests alarms).resolve ref permit verdict =
      (world.resolve ref permit verdict).note requests alarms := by
  have limiters : (world.resolve ref permit verdict).limiters = world.limiters :=
    ((keptWithin world.steps).resolve world ref permit verdict).limiters
  have resolved := resolve_furnish world.limiters requests alarms world ref permit verdict
  rw [furnish_own requests alarms limiters] at resolved
  exact resolved

private theorem consult_note (world : World) (ref : Ref Store) (request : WindowRequest) :
    (world.note requests alarms).consult ref request =
      noted requests alarms (world.consult ref request) := by
  have stores : (world.note requests alarms).stores = world.stores := rfl
  unfold consult
  rw [stores]
  cases world.stores.get ref with
  | memory store clock =>
    cases request.now with
    | some now => rfl
    | none =>
      simp only [read_note]
      rfl
  | scripted store => rfl

private theorem beginConsultation_note (world : World) (limiter : SlidingWindow) (store : Ref Store)
    (clock : Option (Ref Clock)) (key : String) :
    (world.note requests alarms).beginConsultation limiter store clock key =
      noted requests alarms (world.beginConsultation limiter store clock key) := by
  unfold beginConsultation
  cases clock with
  | some clock =>
    simp only [read_note, noted, consult_note]
    rfl
  | none =>
    simp only [consult_note, noted]
    rfl

private theorem weigh_note (world : World) (limiter : SlidingWindow) (key : String)
    (answer : StoreAnswer) :
    (world.note requests alarms).weigh limiter key answer =
      noted requests alarms (world.weigh limiter key answer) := by
  cases answer <;> rfl

theorem answered_note (world : World) (ref : Ref Limiter) (context : Context)
    (answer : StoreAnswer) :
    (world.note requests alarms).answered ref context answer =
      noted requests alarms (world.answered ref context answer) := by
  have limiters : (world.note requests alarms).limiters = world.limiters := rfl
  unfold answered
  rw [limiters]
  split
  · exact weigh_note _ _ _ _ _ _
  · rfl

theorem ask_note (world : World) (ref : Ref Limiter) (context : Context) :
    (world.note requests alarms).ask ref context =
      noted requests alarms (world.ask ref context) := by
  have gone : context.abandoned? (world.note requests alarms).tokens
      (world.note requests alarms).now = context.abandoned? world.tokens world.now := rfl
  have limiters : (world.note requests alarms).limiters = world.limiters := rfl
  unfold ask
  rw [gone, limiters]
  cases context.abandoned? world.tokens world.now with
  | some reason => rfl
  | none =>
    cases world.limiters.get ref with
    | concurrency limiter => rfl
    | fixedWindow limiter clock =>
      simp only [read_note]
      rfl
    | slidingWindow limiter store clock =>
      simp only [beginConsultation_note, noted]
      have now (world : World) : (world.note requests alarms).now = world.now := rfl
      simp only [now, weigh_note, noted]
      split <;> rfl
    | tokenBucket bucket => rfl
    | leakyBucket bucket => rfl

theorem account_note (world : World) (ref : Ref Limiter) (context : Context)
    (decision : Decision) :
    (world.note requests alarms).account ref context decision =
      (world.account ref context decision).note requests alarms := by
  cases decision <;> rfl

end World

end AdmissionControl
