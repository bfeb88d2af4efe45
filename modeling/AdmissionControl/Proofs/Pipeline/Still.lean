import AdmissionControl.Proofs.Breaker.Frame
import AdmissionControl.World.Requests

namespace AdmissionControl

private theorem Consultation.outcome?_isSome {consultation : Consultation} {now : Nat} :
    (consultation.outcome? now).isSome = true ↔ consultation.wake ≤ now := by
  unfold outcome? wake
  by_cases due : consultation.due ≤ now
  · rw [if_pos due]
    cases consultation.giveUp with
    | none => exact iff_of_true rfl due
    | some limit => exact iff_of_true rfl (Nat.le_trans (Nat.min_le_left _ _) due)
  · rw [if_neg due]
    cases consultation.giveUp with
    | none => exact iff_of_false nofun due
    | some limit =>
      by_cases late : limit.1 ≤ now
      · exact iff_of_true (by simp [late]) (Nat.le_trans (Nat.min_le_right _ _) late)
      · have before : now < min consultation.due limit.1 :=
          Nat.lt_min.mpr ⟨Nat.lt_of_not_le due, Nat.lt_of_not_le late⟩
        exact iff_of_false (by simp [late]) (Nat.not_le.mpr before)

namespace World

/-- Nothing has happened but to stores, limiters and breakers, to the metrics and the log. -/
structure Still (world after : World) : Prop where
  now : after.now = world.now
  clocks : after.clocks = world.clocks
  tokens : after.tokens = world.tokens
  requests : after.requests = world.requests
  alarms : after.alarms = world.alarms
  blameless : ∀ ref, (after.circuits.get ref).blameless = (world.circuits.get ref).blameless
  spent : after.interruptions.length ≤ world.interruptions.length

namespace Still

variable {world middle after : World}

theorem refl (world : World) : world.Still world :=
  ⟨rfl, rfl, rfl, rfl, rfl, fun _ => rfl, Nat.le_refl _⟩

theorem trans (first : world.Still middle) (second : middle.Still after) : world.Still after where
  now := second.now.trans first.now
  clocks := second.clocks.trans first.clocks
  tokens := second.tokens.trans first.tokens
  requests := second.requests.trans first.requests
  alarms := second.alarms.trans first.alarms
  blameless ref := (second.blameless ref).trans (first.blameless ref)
  spent := Nat.le_trans second.spent first.spent

private theorem of_keeps (kept : world.Keeps after) : world.Still after :=
  ⟨kept.now, kept.clocks, kept.tokens, kept.requests, kept.alarms, kept.blameless, kept.spent⟩

private theorem read (world : World) (clock : Ref Clock) : world.Still (world.read clock).2 :=
  of_keeps ((keptWithin world.steps).read world clock)

theorem allow (world : World) (ref : Ref Circuit) : world.Still (world.allow ref).2 :=
  of_keeps ((keptWithin world.steps).allow world ref)

private theorem resolve (world : World) (ref : Ref Circuit) (permit : Permit) (verdict : Verdict) :
    world.Still (world.resolve ref permit verdict) :=
  of_keeps ((keptWithin world.steps).resolve world ref permit verdict)

theorem consult (world : World) (ref : Ref Store) (request : WindowRequest) :
    world.Still (world.consult ref request).2 := by
  unfold World.consult
  cases world.stores.get ref with
  | memory store clock =>
    cases request.now with
    | some now => exact ⟨rfl, rfl, rfl, rfl, rfl, fun _ => rfl, Nat.le_refl _⟩
    | none => exact (read world clock).trans ⟨rfl, rfl, rfl, rfl, rfl, fun _ => rfl, Nat.le_refl _⟩
  | scripted store => exact ⟨rfl, rfl, rfl, rfl, rfl, fun _ => rfl, Nat.le_refl _⟩

theorem beginConsultation (world : World) (limiter : SlidingWindow) (store : Ref Store)
    (clock : Option (Ref Clock)) (key : String) :
    world.Still (world.beginConsultation limiter store clock key).2 := by
  unfold World.beginConsultation
  cases clock with
  | some clock => exact (read world clock).trans (consult _ _ _)
  | none => exact consult _ _ _

theorem weigh (world : World) (limiter : SlidingWindow) (key : String) (answer : StoreAnswer) :
    world.Still (world.weigh limiter key answer).2 := by
  cases answer <;> exact ⟨rfl, rfl, rfl, rfl, rfl, fun _ => rfl, Nat.le_refl _⟩

theorem answered (world : World) (ref : Ref Limiter) (context : Context) (answer : StoreAnswer) :
    world.Still (world.answered ref context answer).2 := by
  unfold World.answered
  split
  · exact weigh _ _ _ _
  · exact refl world

theorem ask (world : World) (ref : Ref Limiter) (context : Context) :
    world.Still (world.ask ref context).2 := by
  unfold World.ask
  split
  · exact refl world
  · split
    · exact ⟨rfl, rfl, rfl, rfl, rfl, fun _ => rfl, Nat.le_refl _⟩
    · exact (read world _).trans ⟨rfl, rfl, rfl, rfl, rfl, fun _ => rfl, Nat.le_refl _⟩
    · next window store clock _ =>
      have begun := beginConsultation world window store clock context.windowKey
      simp only []
      split
      · exact begun
      · exact begun.trans (weigh _ _ _ _)
    · exact ⟨rfl, rfl, rfl, rfl, rfl, fun _ => rfl, Nat.le_refl _⟩
    · exact ⟨rfl, rfl, rfl, rfl, rfl, fun _ => rfl, Nat.le_refl _⟩

theorem account (world : World) (ref : Ref Limiter) (context : Context) (decision : Decision) :
    world.Still (world.account ref context decision) := by
  cases decision <;> exact ⟨rfl, rfl, rfl, rfl, rfl, fun _ => rfl, Nat.le_refl _⟩

private theorem complete (world : World) (ref : Ref Limiter) : world.Still (world.complete ref) :=
  ⟨rfl, rfl, rfl, rfl, rfl, fun _ => rfl, Nat.le_refl _⟩

theorem accompanies : Accompanies Still where
  refl := refl
  trans := trans
  complete := complete
  resolve := resolve
  ask := ask
  answered := answered
  account := account
  allow := allow

end Still

theorem start_cases (world : World) (ref : Ref Request) :
    let request : Request := { world.requests.get ref with polled := true }
    let passed := world.pass request request.ahead
    request.phase = .fresh ∧ world.start ref = passed.2.place ref passed.1 ∨
      request.phase ≠ .fresh ∧ world.start ref = world.setRequest ref request := by
  intro request passed
  simp only [World.start]
  split
  · next fresh => exact .inl ⟨fresh, rfl⟩
  · next other => exact .inr ⟨other, rfl⟩

theorem answer_cases (world : World) (ref : Ref Request) (response : Response) :
    let request : Request := { world.requests.get ref with response := some response }
    let handled := world.handle request
    request.phase = .handling ∧ world.answer ref response = handled.2.place ref handled.1 ∨
      request.phase ≠ .handling ∧
        world.answer ref response = world.setRequest ref request := by
  intro request handled
  simp only [World.answer]
  split
  · next handling => exact .inl ⟨handling, rfl⟩
  · next other => exact .inr ⟨other, rfl⟩

/-- A request that is woken goes on where what it waited for is there, and waits on otherwise. -/
theorem resume_cases (world : World) (ref : Ref Request) :
    let request := world.requests.get ref
    (∃ limiter context consultation answer,
        request.phase = .consulting limiter context consultation ∧
        consultation.outcome? world.now = some answer ∧
        let passed := world.passOn request limiter context answer
        world.resume ref = passed.2.place ref passed.1) ∨
      (∃ moment outcome, request.phase = .resting moment outcome ∧ moment ≤ world.now ∧
        let concluded := world.conclude request outcome
        world.resume ref = concluded.2.place ref concluded.1) ∨
      world.resume ref = world ∧ ∀ moment, request.wake? = some moment → world.now < moment := by
  intro request
  simp only [World.resume]
  split
  · next limiter context consultation consulting =>
    have wakes : request.wake? = some consultation.wake := by rw [Request.wake?, consulting]
    have early := @Consultation.outcome?_isSome consultation world.now
    cases answers : consultation.outcome? world.now with
    | none =>
      rw [answers] at early
      refine .inr (.inr ⟨rfl, fun moment waits => ?_⟩)
      cases wakes.symm.trans waits
      simpa using early
    | some answer =>
      exact .inl ⟨limiter, context, consultation, answer, consulting, answers, rfl⟩
  · next moment outcome resting =>
    have wakes : request.wake? = some moment := by rw [Request.wake?, resting]
    by_cases due : moment ≤ world.now
    · exact .inr (.inl ⟨moment, outcome, resting, due, if_pos due⟩)
    · refine .inr (.inr ⟨if_neg due, fun later waits => ?_⟩)
      cases wakes.symm.trans waits
      exact Nat.lt_of_not_le due
  · next idle asleep =>
    refine .inr (.inr ⟨rfl, fun moment waits => ?_⟩)
    unfold Request.wake? at waits
    split at waits
    · next consulting => exact absurd consulting (idle _ _ _)
    · next resting => exact absurd resting (asleep _ _)
    · cases waits

theorem resume_places (world : World) (ref : Ref Request) :
    (∃ left request, world.Still left ∧ world.resume ref = left.place ref request) ∨
      world.resume ref = world := by
  obtain ⟨_, _, _, _, -, -, does⟩ | ⟨_, _, -, -, does⟩ | ⟨does, -⟩ := world.resume_cases ref
  · exact .inl ⟨_, _, Still.accompanies.passOn _ _ _ _ _, does⟩
  · exact .inl ⟨_, _, Still.accompanies.conclude _ _ _, does⟩
  · exact .inr does

theorem place_requests (world : World) (ref : Ref Request) (request : Request) :
    (world.place ref request).requests = world.requests.set ref request :=
  setAlarm_blind World.requests (fun _ _ => rfl) _ _ _

theorem place_limiters (world : World) (ref : Ref Request) (request : Request) :
    (world.place ref request).limiters = world.limiters :=
  setAlarm_blind World.limiters (fun _ _ => rfl) _ _ _

theorem place_now (world : World) (ref : Ref Request) (request : Request) :
    (world.place ref request).now = world.now :=
  setAlarm_blind World.now (fun _ _ => rfl) _ _ _

end World

end AdmissionControl
