import AdmissionControl.Proofs.Window.Tenants
/-!
What a sliding window makes of a store that may fail it. The store is asked once for each caller who
is still there. An answer that comes in time counts, and only where there is none, because the store
failed or kept the limiter waiting for too long, the policy decides. The end of a timeout is noticed
at a whole millisecond, so that an answer is in time up to the millisecond in which its time ends.
-/

namespace AdmissionControl

private theorem ceilMilli_add (millis nanos : Nat) :
    ceilMilli (millis * Duration.nanosPerMilli + nanos) = millis + ceilMilli nanos := by
  rw [ceilMilli, ceilMilli, Nat.add_assoc, Nat.add_comm, Nat.add_mul_div_right _ _ (by decide),
    Nat.add_comm]

/-- The caller has not gone. -/
def Arrival.present (arrival : Arrival) : Bool :=
  (arrival.context.abandoned? arrival.tokens arrival.now).isNone

/-- What a store that answers from a list replies to arrivals. Nobody asks it for a caller who has
gone. At the end of its list it records every event at once. -/
def Arrival.replies : List Reply → List Arrival → List (Option Reply)
  | _, [] => []
  | replies, arrival :: rest =>
    if arrival.present then some (replies.headD default) :: Arrival.replies replies.tail rest
    else none :: Arrival.replies replies rest

private theorem Arrival.replies_present {arrival : Arrival} (present : arrival.present = true)
    (replies : List Reply) (rest : List Arrival) :
    Arrival.replies replies (arrival :: rest) =
      some (replies.headD default) :: Arrival.replies replies.tail rest := by
  rw [Arrival.replies, if_pos present]

private theorem Arrival.replies_absent {arrival : Arrival} (absent : arrival.present = false)
    (replies : List Reply) (rest : List Arrival) :
    Arrival.replies replies (arrival :: rest) = none :: Arrival.replies replies rest := by
  rw [Arrival.replies, if_neg (Bool.eq_false_iff.mp absent)]

private theorem Arrival.replies_length (replies : List Reply) (arrivals : List Arrival) :
    (Arrival.replies replies arrivals).length = arrivals.length := by
  induction arrivals generalizing replies with
  | nil => rfl
  | cons arrival rest ih =>
    rw [Arrival.replies]
    split
    · exact congrArg (· + 1) (ih replies.tail)
    · exact congrArg (· + 1) (ih replies)

namespace SlidingWindow

/-- What a store is asked for an arrival. Only a limiter with a clock of its own tells the moment. -/
def asks (limiter : SlidingWindow) (stamps : Option (Ref Clock)) (arrival : Arrival) :
    WindowRequest where
  key := limiter.keyPrefix ++ arrival.context.key.getD globalKey
  window := limiter.window.wholeMillis
  threshold := limiter.threshold
  now := stamps.map fun _ => arrival.moment

/-- The timeout after which a limiter no longer waits for a reply, where that comes later than the
millisecond in which the timeout ends. -/
def givesUp? (limiter : SlidingWindow) (reply : Reply) : Option Duration :=
  limiter.timeout.filter fun limit => ceilMilli limit.nanos < reply.delay

/-- The reply is an error, or it comes too late. -/
def failed (limiter : SlidingWindow) (reply : Reply) : Bool :=
  !reply.answer.isOk || (limiter.givesUp? reply).isSome

/-- What comes of an arrival, and of the reply to what the store was asked for it. -/
inductive Rules (limiter : SlidingWindow) : Arrival × Option Reply → Decision → Prop where
  | gone {arrival : Arrival} {reason : Reason}
    (abandoned : arrival.context.abandoned? arrival.tokens arrival.now = some reason) :
    Rules limiter (arrival, none) (.refuse reason)
  | heard {arrival : Arrival} {reply : Reply} {decision : Decision}
    (present : arrival.context.abandoned? arrival.tokens arrival.now = none)
    (granted : decision = .granted ↔ limiter.failed reply = false ∧ reply.answer = .ok true ∨
      limiter.failed reply = true ∧ limiter.policy = .failOpen)
    (exhausted : decision = .refuse .slidingWindowExhausted ↔
      limiter.failed reply = false ∧ reply.answer = .ok false)
    (unavailable : decision = .refuse .backendUnavailable ↔
      limiter.failed reply = true ∧ limiter.policy = .failClosed) :
    Rules limiter (arrival, some reply) decision

def hears (limiter : SlidingWindow) (reply : Reply) : StoreAnswer :=
  match limiter.givesUp? reply with
  | some limit => .error (.timeout limit)
  | none => reply.answer

def warning? (limiter : SlidingWindow) : Arrival × Option Reply → Option Event
  | (_, none) => none
  | (arrival, some reply) =>
    match limiter.hears reply with
    | .error error => some (.storeFailed arrival.context.windowKey error limiter.policy)
    | .ok _ => none

def warnings (limiter : SlidingWindow) (replies : List Reply) (arrivals : List Arrival) :
    List Event :=
  (arrivals.zip (Arrival.replies replies arrivals)).filterMap limiter.warning?

/-- How many of their consultations fail. -/
def failures (limiter : SlidingWindow) (replies : List Reply) (arrivals : List Arrival) : Nat :=
  (Arrival.replies replies arrivals).countP (·.any limiter.failed)

variable {limiter : SlidingWindow} {reply : Reply} {replies : List Reply} {arrivals : List Arrival}

private theorem hears_failed (limiter : SlidingWindow) (reply : Reply) :
    limiter.failed reply = true ∧ (∃ error, limiter.hears reply = .error error) ∨
      limiter.failed reply = false ∧ ∃ recorded, reply.answer = .ok recorded ∧
        limiter.hears reply = .ok recorded := by
  unfold failed hears
  cases limiter.givesUp? reply with
  | some limit => exact .inl ⟨Bool.or_true _, _, rfl⟩
  | none =>
    cases reply.answer with
    | error error => exact .inl ⟨rfl, error, rfl⟩
    | ok recorded => exact .inr ⟨rfl, recorded, rfl, rfl⟩

private theorem warning?_isSome (limiter : SlidingWindow) (arrival : Arrival)
    (reply? : Option Reply) :
    (limiter.warning? (arrival, reply?)).isSome = reply?.any limiter.failed := by
  cases reply? with
  | none => rfl
  | some reply =>
    obtain ⟨failed, error, heard⟩ | ⟨fine, recorded, -, heard⟩ := limiter.hears_failed reply
    · simp [warning?, heard, failed]
    · simp [warning?, heard, fine]

private theorem warnings_present {arrival : Arrival} (present : arrival.present = true)
    (limiter : SlidingWindow) (replies : List Reply) (rest : List Arrival) :
    limiter.warnings replies (arrival :: rest) =
      (limiter.warning? (arrival, some (replies.headD default))).toList ++
        limiter.warnings replies.tail rest := by
  rw [warnings, Arrival.replies_present present, List.zip_cons_cons, List.filterMap_cons]
  cases limiter.warning? (arrival, some (replies.headD default)) <;> rfl

private theorem warnings_absent {arrival : Arrival} (absent : arrival.present = false)
    (limiter : SlidingWindow) (replies : List Reply) (rest : List Arrival) :
    limiter.warnings replies (arrival :: rest) = limiter.warnings replies rest := by
  rw [warnings, Arrival.replies_absent absent, List.zip_cons_cons]
  rfl

private theorem warnings_length (limiter : SlidingWindow) (replies : List Reply)
    (arrivals : List Arrival) :
    (limiter.warnings replies arrivals).length = limiter.failures replies arrivals := by
  have all : ((arrivals.zip (Arrival.replies replies arrivals)).map Prod.snd) =
      Arrival.replies replies arrivals :=
    List.map_snd_zip (Nat.le_of_eq (Arrival.replies_length replies arrivals))
  rw [warnings, failures, List.length_filterMap_eq_countP]
  conv_rhs => rw [← all, List.countP_map]
  refine List.countP_congr fun pair _ => ?_
  exact iff_of_eq (congrArg (· = true) (limiter.warning?_isSome pair.1 pair.2))

private theorem warnings_level {warning : Event}
    (logged : warning ∈ limiter.warnings replies arrivals) :
    warning.level = .warn := by
  obtain ⟨⟨arrival, reply?⟩, -, told⟩ := List.mem_filterMap.mp logged
  cases reply? with
  | none => cases told
  | some reply =>
    simp only [warning?] at told
    split at told
    · cases told
      rfl
    · cases told

private theorem weigh_rules (limiter : SlidingWindow) {arrival : Arrival}
    (present : arrival.context.abandoned? arrival.tokens arrival.now = none) (reply : Reply) :
    limiter.Rules (arrival, some reply) (limiter.weigh (limiter.hears reply)) := by
  obtain ⟨failed, error, heard⟩ | ⟨fine, recorded, answered, heard⟩ := limiter.hears_failed reply
  · cases policy : limiter.policy <;>
      exact .heard present (by simp [weigh, heard, failed, policy, Decision.refuse])
        (by simp [weigh, heard, failed, policy, Decision.refuse])
        (by simp [weigh, heard, failed, policy, Decision.refuse])
  · cases recorded <;>
      exact .heard present (by simp [weigh, heard, fine, answered, Decision.refuse])
        (by simp [weigh, heard, fine, answered, Decision.refuse])
        (by simp [weigh, heard, fine, Decision.refuse])

private theorem hears_unbounded (unbounded : limiter.timeout = none) :
    limiter.hears reply = reply.answer := by
  rw [hears, givesUp?, unbounded, Option.filter_none]

private theorem hears_bounded {limit : Duration} (bounded : limiter.timeout = some limit) :
    limiter.hears reply =
      if ceilMilli limit.nanos < reply.delay then .error (.timeout limit) else reply.answer := by
  rw [hears, givesUp?, bounded, Option.filter_some]
  by_cases late : ceilMilli limit.nanos < reply.delay
  · rw [if_pos late, if_pos (decide_eq_true late)]
  · rw [if_neg late, if_neg (Bool.eq_false_iff.mp (decide_eq_false late))]

end SlidingWindow

namespace Consultation

variable {answer found : StoreAnswer} {delay now ends : Nat} {limit : Duration}

def bounded (answer : StoreAnswer) (delay now ends : Nat) (limit : Duration) : Consultation :=
  ⟨answer, now + delay, some (now + ends, limit)⟩

private theorem bounded_settled :
    (bounded answer delay now ends limit).settled =
      if ends < delay then .error (.timeout limit) else answer := by
  by_cases late : ends < delay
  · have first : min (now + delay) (now + ends) = now + ends := by omega
    have missing : ¬ now + delay ≤ now + ends := by omega
    simp [settled, wake, outcome?, bounded, first, missing, late]
  · have first : min (now + delay) (now + ends) = now + delay := by omega
    simp [settled, wake, outcome?, bounded, first, late]

private theorem bounded_outcome?
    (there : (bounded answer delay now ends limit).outcome? now = some found) :
    found = if ends < delay then .error (.timeout limit) else answer := by
  by_cases late : ends < delay
  · have missing : ¬ now + delay ≤ now := by omega
    by_cases passed : now + ends ≤ now
    · simp only [outcome?, bounded, missing, passed, if_true, if_false] at there
      rw [if_pos late, ← Option.some.inj there]
    · simp only [outcome?, bounded, missing, passed, if_false] at there
      cases there
  · rw [if_neg late]
    by_cases here : now + delay ≤ now
    · simp only [outcome?, bounded, here, if_true] at there
      exact (Option.some.inj there).symm
    · have open_still : ¬ now + ends ≤ now := by omega
      simp only [outcome?, bounded, here, open_still, if_false] at there
      cases there

end Consultation

namespace SlidingWindow

/-- A limiter that sleeps until there is an outcome hears the reply or the end of its timeout,
whichever comes first, and what there is at once it hears at once. -/
theorem hears_outcome (limiter : SlidingWindow) (reply : Reply) (now : Nat) :
    let consultation := Consultation.start reply.answer reply.delay now limiter.timeout
    consultation.settled = limiter.hears reply ∧
      ∀ answer, consultation.outcome? now = some answer → answer = limiter.hears reply := by
  cases limits : limiter.timeout with
  | none =>
    rw [hears_unbounded limits]
    refine ⟨by simp [Consultation.start, Consultation.settled, Consultation.outcome?,
      Consultation.wake], ?_⟩
    intro answer there
    by_cases here : now + reply.delay ≤ now
    · simp only [Consultation.start, Consultation.outcome?, here, if_true] at there
      exact (Option.some.inj there).symm
    · simp only [Consultation.start, Consultation.outcome?, Option.map_none, here, if_false] at there
      cases there
  | some limit =>
    have same : Consultation.start reply.answer reply.delay now (some limit) =
        .bounded reply.answer reply.delay now (ceilMilli limit.nanos) limit := by
      rw [Consultation.start, Option.map_some, ceilMilli_add]
      rfl
    rw [hears_bounded limits]
    simp only [same]
    exact ⟨Consultation.bounded_settled, fun _ => Consultation.bounded_outcome?⟩

end SlidingWindow

namespace World

/-- What a limiter decides about one request after another, and the world that they leave behind. -/
def admissions (world : World) (ref : Ref Limiter) (clock : Ref Clock) :
    List Arrival → List Decision × World
  | [] => ([], world)
  | arrival :: rest =>
    let (decision, world) := (world.meet clock arrival).decisionOf ref arrival.context
    let (decisions, world) := world.admissions ref clock rest
    (decision :: decisions, world)

structure Attended (world : World) (ref : Ref Limiter) (store : Ref Store)
    (stamps : Option (Ref Clock)) (limiter : SlidingWindow) (script : ScriptedStore) : Prop where
  placed : world.limiters.get ref = .slidingWindow limiter store stamps
  stored : world.stores.get store = .scripted script
  calm : world.alarms = []
  undisturbed : world.interruptions = []

/-- Counters and log, with some failures of a store that have been counted and logged. -/
structure Notes (world after : World) (warnings : List Event) : Prop where
  counted : after.metrics = { world.metrics with
    slidingWindow := { world.metrics.slidingWindow with
      backendErrors := world.metrics.slidingWindow.backendErrors + warnings.length } }
  logged : after.journal.toList = world.journal.toList ++ warnings

variable {world middle after : World} {ref : Ref Limiter} {store : Ref Store}
  {stamps : Option (Ref Clock)} {own : Ref Clock} {limiter : SlidingWindow} {script : ScriptedStore}
  {arrival : Arrival}

private theorem Notes.none (metrics : after.metrics = world.metrics)
    (journal : after.journal = world.journal) : world.Notes after [] :=
  ⟨by simp [metrics], by simp [journal]⟩

theorem Notes.trans {warnings more : List Event} (first : world.Notes middle warnings)
    (second : middle.Notes after more) : world.Notes after (warnings ++ more) where
  counted := by
    rw [second.counted, first.counted, List.length_append]
    simp only [Nat.add_assoc]
  logged := by rw [second.logged, first.logged, List.append_assoc]

private theorem Attended.beginConsultation
    (attended : world.Attended ref store stamps limiter script)
    (shows : (world.clocks.get (stamps.getD own)).now = arrival.moment) :
    ∃ sent, world.beginConsultation limiter store stamps arrival.context.windowKey =
        (.start (script.replies.headD default).answer (script.replies.headD default).delay world.now
          limiter.timeout, sent) ∧
      sent.Attended ref store stamps limiter
        ⟨script.replies.tail, script.received ++ [limiter.asks stamps arrival]⟩ ∧
      sent.now = world.now ∧ world.Notes sent [] := by
  have replied (request : WindowRequest) : script.reply request =
      (script.replies.headD default, ⟨script.replies.tail, script.received ++ [request]⟩) := by
    cases replies : script.replies <;> simp [ScriptedStore.reply, replies]
  have sent (now : Option Nat) : world.consult store (limiter.request arrival.context.windowKey now) =
      (script.replies.headD default, world.setStore store (.scripted ⟨script.replies.tail,
        script.received ++ [limiter.request arrival.context.windowKey now]⟩)) := by
    simp only [consult, attended.stored, replied]
  have stored (request : WindowRequest) :
      (world.setStore store (.scripted ⟨script.replies.tail, script.received ++ [request]⟩)).Attended
        ref store stamps limiter ⟨script.replies.tail, script.received ++ [request]⟩ :=
    ⟨attended.placed, Table.get_set_self _ _ _, attended.calm, attended.undisturbed⟩
  cases stamps with
  | none =>
    refine ⟨_, ?_, stored (limiter.request arrival.context.windowKey none), rfl, .none rfl rfl⟩
    simp only [World.beginConsultation, sent]
    rfl
  | some stamp =>
    have shown : (world.clocks.get stamp).now = arrival.moment := shows
    refine ⟨_, ?_, stored (limiter.request arrival.context.windowKey (some arrival.moment)), rfl,
      .none rfl rfl⟩
    simp only [World.beginConsultation, World.read, readWithin_undisturbed attended.undisturbed,
      shown, sent]
    rfl

private theorem Attended.weigh (attended : world.Attended ref store stamps limiter script)
    (arrival : Arrival) (reply : Reply) :
    ∃ after, world.weigh limiter arrival.context.windowKey (limiter.hears reply) =
        (limiter.weigh (limiter.hears reply), after) ∧
      world.Notes after (limiter.warning? (arrival, some reply)).toList ∧
      after.Attended ref store stamps limiter script := by
  obtain ⟨placed, stored, calm, undisturbed⟩ := attended
  cases heard : limiter.hears reply with
  | ok recorded =>
    refine ⟨world, rfl, ?_, ⟨placed, stored, calm, undisturbed⟩⟩
    simp only [SlidingWindow.warning?, heard]
    exact .none rfl rfl
  | error error =>
    refine ⟨_, rfl, ?_, ⟨placed, stored, calm, undisturbed⟩⟩
    simp only [SlidingWindow.warning?, heard]
    exact ⟨rfl, by simp [record]⟩

private theorem Attended.decisionOf (attended : world.Attended ref store stamps limiter script)
    (own : Ref Clock) (arrival : Arrival) (present : arrival.present) :
    let met := world.meet (stamps.getD own) arrival
    let reply := script.replies.headD default
    ∃ after, met.decisionOf ref arrival.context = (limiter.weigh (limiter.hears reply), after) ∧
      world.Notes after (limiter.warning? (arrival, some reply)).toList ∧
      after.Attended ref store stamps limiter
        ⟨script.replies.tail, script.received ++ [limiter.asks stamps arrival]⟩ := by
  intro met reply
  have here : met.Attended ref store stamps limiter script :=
    ⟨attended.placed, attended.stored, attended.calm, attended.undisturbed⟩
  have noted : world.Notes met [] := .none rfl rfl
  have stays : arrival.context.abandoned? met.tokens met.now = none :=
    Option.isNone_iff_eq_none.mp present
  have shows : (met.clocks.get (stamps.getD own)).now = arrival.moment :=
    setClock_shows world (stamps.getD own) arrival.moment
  obtain ⟨sent, begun, asked, now, silent⟩ := here.beginConsultation shows
  obtain ⟨settled, atOnce⟩ := limiter.hears_outcome reply met.now
  change met.beginConsultation limiter store stamps arrival.context.windowKey =
    (.start reply.answer reply.delay met.now limiter.timeout, sent) at begun
  generalize Consultation.start reply.answer reply.delay met.now limiter.timeout = consultation
    at begun settled atOnce
  cases there : consultation.outcome? met.now with
  | some answer =>
    cases atOnce answer there
    obtain ⟨after, weighed, notes, attended⟩ := asked.weigh arrival reply
    refine ⟨after, ?_, (noted.trans silent).trans notes, attended⟩
    simp only [World.decisionOf, ask, stays, here.placed, begun, now, there, weighed]
  | none =>
    have waited : (sent.reach consultation.wake).Attended ref store stamps limiter
        ⟨script.replies.tail, script.received ++ [limiter.asks stamps arrival]⟩ := by
      rw [reach_calm asked.calm]
      exact ⟨asked.placed, asked.stored, asked.calm, asked.undisturbed⟩
    have quiet : sent.Notes (sent.reach consultation.wake) [] := by
      rw [reach_calm asked.calm]
      exact .none rfl rfl
    obtain ⟨after, weighed, notes, attended⟩ := waited.weigh arrival reply
    refine ⟨after, ?_, ((noted.trans silent).trans quiet).trans notes, attended⟩
    simp only [World.decisionOf, ask, stays, here.placed, begun, now, there, settled, answered,
      waited.placed, weighed]

private theorem Attended.meet (attended : world.Attended ref store stamps limiter script)
    (clock : Ref Clock) (arrival : Arrival) :
    (world.meet clock arrival).Attended ref store stamps limiter script :=
  ⟨attended.placed, attended.stored, attended.calm, attended.undisturbed⟩

private theorem Attended.admissions (attended : world.Attended ref store stamps limiter script)
    (own : Ref Clock) (arrivals : List Arrival) :
    (world.admissions ref (stamps.getD own) arrivals).2.stores.get store = .scripted
        ⟨script.replies.drop (arrivals.countP Arrival.present),
          script.received ++ (arrivals.filter Arrival.present).map (limiter.asks stamps)⟩ ∧
      List.Forall₂ limiter.Rules (arrivals.zip (Arrival.replies script.replies arrivals))
        (world.admissions ref (stamps.getD own) arrivals).1 ∧
      world.Notes (world.admissions ref (stamps.getD own) arrivals).2
        (limiter.warnings script.replies arrivals) := by
  induction arrivals generalizing world script with
  | nil => exact ⟨by simpa [World.admissions] using attended.stored, .nil, .none rfl rfl⟩
  | cons arrival rest ih =>
    cases gone : arrival.context.abandoned? arrival.tokens arrival.now with
    | some reason =>
      have absent : arrival.present = false := by rw [Arrival.present, gone]; rfl
      have met := attended.meet (stamps.getD own) arrival
      have turned : (world.meet (stamps.getD own) arrival).decisionOf ref arrival.context =
          (.refuse reason, world.meet (stamps.getD own) arrival) := by
        have gone' : arrival.context.abandoned? (world.meet (stamps.getD own) arrival).tokens
            (world.meet (stamps.getD own) arrival).now = some reason := gone
        simp only [World.decisionOf, ask, gone']
      obtain ⟨consulted, decided, noted⟩ := ih met
      simp only [World.admissions, turned]
      refine ⟨?_, ?_, ?_⟩
      · simpa [absent] using consulted
      · rw [Arrival.replies_absent absent]
        exact .cons (.gone gone) decided
      · rw [SlidingWindow.warnings_absent absent]
        exact ⟨noted.counted, noted.logged⟩
    | none =>
      have present : arrival.present = true := by rw [Arrival.present, gone]; rfl
      obtain ⟨after, decision, notes, left⟩ := attended.decisionOf own arrival present
      obtain ⟨consulted, decided, noted⟩ := ih left
      simp only [World.admissions, decision]
      refine ⟨?_, ?_, ?_⟩
      · simpa [present, List.append_assoc] using consulted
      · rw [Arrival.replies_present present]
        exact .cons (limiter.weigh_rules gone _) decided
      · rw [SlidingWindow.warnings_present present]
        exact notes.trans noted

/-- What comes of arrivals at a sliding window whose store may fail it. -/
structure Obeys (world : World) (store : Ref Store) (stamps : Option (Ref Clock))
    (limiter : SlidingWindow) (script : ScriptedStore) (arrivals : List Arrival)
    (decisions : List Decision) (after : World) : Prop where
  /-- The store is asked once for every caller who is there, and never else. -/
  consulted : after.stores.get store = .scripted
    ⟨script.replies.drop (arrivals.countP Arrival.present),
      script.received ++ (arrivals.filter Arrival.present).map (limiter.asks stamps)⟩
  /-- The replies decide, and the policy where there is none in time. -/
  decided : List.Forall₂ limiter.Rules (arrivals.zip (Arrival.replies script.replies arrivals))
    decisions
  /-- Failures are counted, and nothing else is. -/
  counted : after.metrics = { world.metrics with
    slidingWindow := { world.metrics.slidingWindow with
      backendErrors := world.metrics.slidingWindow.backendErrors +
        limiter.failures script.replies arrivals } }
  /-- Nothing but warnings is logged. -/
  logged : after.journal.toList =
    world.journal.toList ++ limiter.warnings script.replies arrivals
  /-- There is one for each failure. -/
  warned : (limiter.warnings script.replies arrivals).length =
      limiter.failures script.replies arrivals ∧
    ∀ warning ∈ limiter.warnings script.replies arrivals, warning.level = .warn

/-- Whatever a store replies, and whenever, the policy decides about the consultations that fail and
about no others. -/
theorem admissions_obey (placed : world.limiters.get ref = .slidingWindow limiter store stamps)
    (stored : world.stores.get store = .scripted script) (calm : world.alarms = [])
    (undisturbed : world.interruptions = []) (own : Ref Clock) (arrivals : List Arrival) :
    world.Obeys store stamps limiter script arrivals
      (world.admissions ref (stamps.getD own) arrivals).1
      (world.admissions ref (stamps.getD own) arrivals).2 := by
  have attended : world.Attended ref store stamps limiter script :=
    ⟨placed, stored, calm, undisturbed⟩
  obtain ⟨consulted, decided, counted, logged⟩ := attended.admissions own arrivals
  have warned := limiter.warnings_length script.replies arrivals
  exact ⟨consulted, decided, warned ▸ counted, logged, warned, fun _ => SlidingWindow.warnings_level⟩

/-- A store that replies in time, one that takes as long as it may, one that fails, and one that
takes longer. One caller has gone before, and for the last there is nothing left on the list. -/
theorem admissions_obey_slow :
    let limiter : SlidingWindow :=
      { threshold := 1, window := .ofMillis 1000, timeout := some (.ofMillis 20) }
    let script : ScriptedStore := { replies := [⟨0, .ok true⟩, ⟨20, .ok false⟩,
      ⟨0, .error (.unavailable "down")⟩, ⟨21, .ok true⟩] }
    let world : World := {
      limiters := ⟨#[.slidingWindow limiter ⟨0⟩ none]⟩
      stores := ⟨#[.scripted script]⟩ }
    let arrivals : List Arrival := [⟨{ key := some "one" }, 0, {}, 0⟩, ⟨{}, 0, {}, 0⟩,
      ⟨{ deadline := some 5 }, 0, {}, 7⟩, ⟨{}, 0, {}, 30⟩, ⟨{}, 0, {}, 30⟩, ⟨{}, 0, {}, 60⟩]
    world.limiters.get ⟨0⟩ = .slidingWindow limiter ⟨0⟩ none ∧
      world.stores.get ⟨0⟩ = .scripted script ∧ world.alarms = [] ∧ world.interruptions = [] ∧
      world.Obeys ⟨0⟩ none limiter script arrivals (world.admissions ⟨0⟩ ⟨0⟩ arrivals).1
        (world.admissions ⟨0⟩ ⟨0⟩ arrivals).2 ∧
      (world.admissions ⟨0⟩ ⟨0⟩ arrivals).1 = [.granted, .refuse .slidingWindowExhausted,
        .refuse .deadlineExceeded, .refuse .backendUnavailable, .refuse .backendUnavailable,
        .granted] ∧
      limiter.failures script.replies arrivals = 2 := by
  intro limiter script world arrivals
  exact ⟨rfl, rfl, rfl, rfl, admissions_obey rfl rfl rfl rfl ⟨0⟩ arrivals, by decide +kernel,
    by decide +kernel⟩

/-- A reply that takes longer than the timeout, but is there in the millisecond in which that ends,
counts although the limiter is to refuse when its store fails. -/
theorem late_reply_granted :
    let limiter : SlidingWindow :=
      { threshold := 1, window := .ofMillis 1000, timeout := some ⟨19000001⟩ }
    let world : World := {
      limiters := ⟨#[.slidingWindow limiter ⟨0⟩ none]⟩
      stores := ⟨#[.scripted { replies := [⟨20, .ok true⟩] }]⟩ }
    limiter.policy = .failClosed ∧ 19000001 < (Duration.ofMillis 20).nanos ∧
      (world.decisionOf ⟨0⟩ {}).1 = .granted := by
  decide +kernel

end World

end AdmissionControl
