import AdmissionControl.Proofs.Window.Lengths

namespace AdmissionControl

/-- A request that comes to a limiter: what is known about it, and which tokens and times there are
when it comes. The limiter goes by its clock, and deadlines by the time that passes. -/
structure Arrival where
  context : Context
  moment : Nat
  tokens : Table Token := {}
  now : Nat := 0
  deriving Inhabited

namespace Arrival

def concerns (key : String) (arrival : Arrival) : Bool := arrival.context.windowKey = key

/-- Time does not go back and never reaches its last moment. -/
structure Steady (arrivals : List Arrival) : Prop where
  rising : (arrivals.map moment).Pairwise (· ≤ ·)
  shown : ∀ arrival ∈ arrivals, arrival.moment < lastMilli

end Arrival

namespace World

def meet (world : World) (clock : Ref Clock) (arrival : Arrival) : World :=
  { world.setClock clock arrival.moment with tokens := arrival.tokens, now := arrival.now }

def decisions (world : World) (ref : Ref Limiter) (clock : Ref Clock) :
    List Arrival → List Decision
  | [] => []
  | arrival :: rest =>
    let (decision, world) := (world.meet clock arrival).decisionOf ref arrival.context
    decision :: world.decisions ref clock rest

/-- What a limiter decides about some of the requests is what it decides if there are no others. -/
def Isolates (world : World) (ref : Ref Limiter) (clock : Ref Clock) (arrivals : List Arrival)
    (mine : Arrival → Bool) : Prop :=
  ((arrivals.zip (world.decisions ref clock arrivals)).filter (mine ·.1)).map (·.2) =
    world.decisions ref clock (arrivals.filter mine)

end World

namespace Ledger

/-- A caller who has gone is refused, and any other is granted if the window reaches back to fewer
requests of its key than the threshold. -/
def decide (ledger : Ledger) (limiter : SlidingWindow) (arrival : Arrival) : Decision × Ledger :=
  match arrival.context.abandoned? arrival.tokens arrival.now with
  | some reason => (.refuse reason, ledger)
  | none =>
    let key := limiter.keyPrefix ++ arrival.context.windowKey
    let live := ledger.live limiter.window.wholeMillis key arrival.moment
    if live.length < limiter.threshold then (.granted, ledger.enter key [arrival.moment])
    else (.refuse .slidingWindowExhausted, ledger)

def decisions (ledger : Ledger) (limiter : SlidingWindow) : List Arrival → List Decision
  | [] => []
  | arrival :: rest =>
    let (decision, ledger) := ledger.decide limiter arrival
    decision :: ledger.decisions limiter rest

variable {ledger other : Ledger} {limiter : SlidingWindow} {arrival : Arrival} {key : String}

private theorem decide_other (elsewhere : arrival.concerns key = false) :
    (ledger.decide limiter arrival).2 (limiter.keyPrefix ++ key) =
      ledger (limiter.keyPrefix ++ key) := by
  have apart : limiter.keyPrefix ++ key ≠ limiter.keyPrefix ++ arrival.context.windowKey := by
    intro same
    have same : key = arrival.context.windowKey := String.append_right_inj _ |>.mp same
    simp [Arrival.concerns, same] at elsewhere
  cases gone : arrival.context.abandoned? arrival.tokens arrival.now with
  | some reason => simp only [decide, gone]
  | none =>
    simp only [decide, gone]
    split
    · exact Ledger.enter_other _ apart _
    · rfl

private theorem decide_same (here : arrival.concerns key = true)
    (same : ledger (limiter.keyPrefix ++ key) = other (limiter.keyPrefix ++ key)) :
    (ledger.decide limiter arrival).1 = (other.decide limiter arrival).1 ∧
      (ledger.decide limiter arrival).2 (limiter.keyPrefix ++ key) =
        (other.decide limiter arrival).2 (limiter.keyPrefix ++ key) := by
  have found : arrival.context.windowKey = key := of_decide_eq_true here
  cases gone : arrival.context.abandoned? arrival.tokens arrival.now with
  | some reason => simp only [decide, gone, same, and_self]
  | none =>
    have counted :
        ledger.live limiter.window.wholeMillis (limiter.keyPrefix ++ key) arrival.moment =
          other.live limiter.window.wholeMillis (limiter.keyPrefix ++ key) arrival.moment :=
      congrArg (List.filter _) same
    simp only [decide, gone, found, counted]
    split
    · exact ⟨rfl, by simp only [enter_self, same]⟩
    · exact ⟨rfl, same⟩

/-- What a key is answered depends on its own requests only. -/
theorem decisions_concerning (arrivals : List Arrival)
    (same : ledger (limiter.keyPrefix ++ key) = other (limiter.keyPrefix ++ key)) :
    ((arrivals.zip (ledger.decisions limiter arrivals)).filter (·.1.concerns key)).map (·.2) =
      other.decisions limiter (arrivals.filter (·.concerns key)) := by
  induction arrivals generalizing ledger other with
  | nil => rfl
  | cons arrival rest ih =>
    by_cases here : arrival.concerns key = true
    · obtain ⟨decision, same⟩ := decide_same here same
      simp [decisions, here, decision, ih same]
    · have elsewhere : (ledger.decide limiter arrival).2 (limiter.keyPrefix ++ key) =
          ledger (limiter.keyPrefix ++ key) := decide_other (Bool.eq_false_iff.mpr here)
      simp [decisions, here, ih (elsewhere.trans same)]

end Ledger

private theorem Consultation.start_outcome? (answer : StoreAnswer) (now : Nat)
    (timeout : Option Duration) :
    (start answer 0 now timeout).outcome? now = some answer := by
  simp [start, outcome?]

namespace World

variable {world : World} {ref : Ref Limiter} {store : Ref Store} {stamps : Option (Ref Clock)}
  {own : Ref Clock} {limiter : SlidingWindow} {held : MemoryStore} {ledger : Ledger} {latest : Nat}

/-- A sliding window over a store of its own decides as a ledger does. -/
theorem decisionOf_meet {arrival : Arrival}
    (tracks : Tracks (fun _ => limiter.window.wholeMillis) ledger latest held)
    (placed : world.limiters.get ref = .slidingWindow limiter store stamps)
    (stored : world.stores.get store = .memory held own) (rising : latest ≤ arrival.moment)
    (shown : arrival.moment < lastMilli) :
    let met := world.meet (stamps.getD own) arrival
    (met.decisionOf ref arrival.context).1 = (ledger.decide limiter arrival).1 ∧
      ∃ after, (met.decisionOf ref arrival.context).2.limiters.get ref =
          .slidingWindow limiter store stamps ∧
        (met.decisionOf ref arrival.context).2.stores.get store = .memory after own ∧
        Tracks (fun _ => limiter.window.wholeMillis) (ledger.decide limiter arrival).2
          arrival.moment after := by
  intro met
  have placed' : met.limiters.get ref = .slidingWindow limiter store stamps := placed
  have stored' : met.stores.get store = .memory held own := stored
  cases gone : arrival.context.abandoned? arrival.tokens arrival.now with
  | some reason =>
    have turned : met.decisionOf ref arrival.context = (.refuse reason, met) := by
      have gone' : arrival.context.abandoned? met.tokens met.now = some reason := gone
      simp only [decisionOf, ask, gone']
    rw [turned]
    simp only [Ledger.decide, gone]
    exact ⟨trivial, held, placed', stored', tracks.later rising held.lastSweep⟩
  | none =>
    have shows : (met.clocks.get (stamps.getD own)).now = arrival.moment :=
      setClock_shows world (stamps.getD own) arrival.moment
    obtain ⟨after, begun, kept, limiters⟩ :=
      beginConsultation_memory stored' shows limiter arrival.context.windowKey
    let request := limiter.request arrival.context.windowKey none
    have answered : met.decisionOf ref arrival.context =
        (limiter.weigh (.ok (held.recordIfBelow request arrival.moment).1), after) := by
      have present : arrival.context.abandoned? met.tokens met.now = none := gone
      simp only [decisionOf, ask, present, placed', begun, Consultation.start_outcome?, weigh,
        request]
    have live : ledger.live request.window request.key arrival.moment =
        held.kept request arrival.moment := tracks.live_eq_kept rising shown rfl
    have counted : (ledger.live limiter.window.wholeMillis
        (limiter.keyPrefix ++ arrival.context.windowKey) arrival.moment).length =
          (held.kept request arrival.moment).length := congrArg List.length live
    have recorded : Tracks (fun _ => limiter.window.wholeMillis)
        (ledger.enter (limiter.keyPrefix ++ arrival.context.windowKey)
          (if (held.kept request arrival.moment).length < limiter.threshold then [arrival.moment]
            else []))
        arrival.moment (held.recordIfBelow request arrival.moment).2.1 :=
      tracks.record rising shown (Nat.le_refl request.window)
    have passed : (held.recordIfBelow request arrival.moment).1 =
        Decidable.decide ((held.kept request arrival.moment).length < limiter.threshold) :=
      held.recordIfBelow_fst request arrival.moment
    rw [answered, passed]
    simp only [Ledger.decide, gone, counted]
    by_cases room : (held.kept request arrival.moment).length < limiter.threshold
    · simp only [if_pos room, decide_eq_true room] at recorded ⊢
      exact ⟨rfl, _, limiters ▸ placed', kept, recorded⟩
    · simp only [if_neg room, decide_eq_false room, Ledger.enter_nil] at recorded ⊢
      exact ⟨rfl, _, limiters ▸ placed', kept, recorded⟩

private theorem decisions_eq {arrivals : List Arrival}
    (tracks : Tracks (fun _ => limiter.window.wholeMillis) ledger latest held)
    (placed : world.limiters.get ref = .slidingWindow limiter store stamps)
    (stored : world.stores.get store = .memory held own) (steady : Arrival.Steady arrivals)
    (after : ∀ arrival ∈ arrivals, latest ≤ arrival.moment) :
    world.decisions ref (stamps.getD own) arrivals = ledger.decisions limiter arrivals := by
  induction arrivals generalizing world ledger latest held with
  | nil => rfl
  | cons arrival rest ih =>
    obtain ⟨rising, shown⟩ := steady
    rw [List.map_cons, List.pairwise_cons, List.forall_mem_map] at rising
    rw [List.forall_mem_cons] at shown after
    obtain ⟨decision, held', placed', stored', tracks'⟩ :=
      decisionOf_meet tracks placed stored after.1 shown.1
    have others := ih tracks' placed' stored' ⟨rising.2, shown.2⟩ rising.1
    simp only [decisions, Ledger.decisions, decision, others]

/-- A sliding window over a new store of its own isolates the requests of each key. Those without a
key it isolates together with those of the key that stands for them. -/
theorem decisions_tenants (placed : world.limiters.get ref = .slidingWindow limiter store stamps)
    (fresh : world.stores.get store = .memory {} own) {arrivals : List Arrival}
    (steady : Arrival.Steady arrivals) :
    (∀ key ≠ SlidingWindow.globalKey,
        world.Isolates ref (stamps.getD own) arrivals (·.context.key = some key)) ∧
      world.Isolates ref (stamps.getD own) arrivals fun arrival =>
        arrival.context.key = none ∨ arrival.context.key = some SlidingWindow.globalKey := by
  have exact {arrivals : List Arrival} (steady : Arrival.Steady arrivals) :
      world.decisions ref (stamps.getD own) arrivals =
        Ledger.decisions (fun _ => []) limiter arrivals :=
    decisions_eq (.new _) placed fresh steady fun _ _ => Nat.zero_le _
  have alone (key : String) :
      world.Isolates ref (stamps.getD own) arrivals (Arrival.concerns key) := by
    have fewer : Arrival.Steady (arrivals.filter (Arrival.concerns key)) :=
      ⟨steady.rising.sublist (List.filter_sublist.map _),
        fun arrival inside => steady.shown arrival (List.mem_filter.mp inside).1⟩
    rw [Isolates, exact steady, exact fewer]
    exact Ledger.decisions_concerning arrivals rfl
  constructor
  · intro key apart
    have named : Arrival.concerns key = fun arrival : Arrival =>
        Decidable.decide (arrival.context.key = some key) := by
      funext arrival
      rw [Arrival.concerns, Context.windowKey]
      cases arrival.context.key with
      | none => simp [Ne.symm apart]
      | some other => simp
    rw [← named]
    exact alone key
  · have unnamed : Arrival.concerns SlidingWindow.globalKey = fun arrival : Arrival =>
        Decidable.decide (arrival.context.key = none ∨
          arrival.context.key = some SlidingWindow.globalKey) := by
      funext arrival
      rw [Arrival.concerns, Context.windowKey]
      cases arrival.context.key <;> simp
    rw [← unnamed]
    exact alone SlidingWindow.globalKey

/-- Two tenants, one request without a key, and one of a caller who has gone, with room for one
request of each key. -/
theorem decisions_two_tenants :
    let limiter := (SlidingWindow.new 1 (.ofMillis 1000)).1
    let world := SlidingWindow.alone 1 (.ofMillis 1000)
    let arrivals : List Arrival := [⟨{ key := some "one" }, 0, {}, 0⟩, ⟨{}, 1, {}, 0⟩,
      ⟨{ key := some "two", deadline := some 5 }, 2, {}, 7⟩, ⟨{ key := some "two" }, 2, {}, 0⟩,
      ⟨{ key := some "one" }, 999, {}, 0⟩, ⟨{ key := some "two" }, 1002, {}, 0⟩]
    world.limiters.get ⟨0⟩ = .slidingWindow limiter ⟨0⟩ none ∧
      world.stores.get ⟨0⟩ = .memory {} ⟨0⟩ ∧ Arrival.Steady arrivals ∧
      world.Isolates ⟨0⟩ ⟨0⟩ arrivals (·.context.key = some "two") ∧
      world.decisions ⟨0⟩ ⟨0⟩ arrivals = [.granted, .granted, .refuse .deadlineExceeded, .granted,
        .refuse .slidingWindowExhausted, .granted] := by
  intro limiter world arrivals
  have placed : world.limiters.get ⟨0⟩ = .slidingWindow limiter ⟨0⟩ none := rfl
  have fresh : world.stores.get ⟨0⟩ = .memory {} ⟨0⟩ := rfl
  have steady : Arrival.Steady arrivals := ⟨by decide, by decide⟩
  have isolated := (decisions_tenants placed fresh steady).1 "two" (by decide)
  exact ⟨placed, fresh, steady, isolated, by decide +kernel⟩

/-- A request without a key takes the quota of one with the key that stands for it, and the other
way round. -/
theorem keyless_takes_quota :
    let world := SlidingWindow.alone 1 (.ofMillis 1000)
    let keyless : Arrival := ⟨{}, 0, {}, 0⟩
    let keyed : Arrival := ⟨{ key := some "global" }, 0, {}, 0⟩
    Arrival.Steady [keyless, keyed] ∧ Arrival.Steady [keyed, keyless] ∧
      ¬ world.Isolates ⟨0⟩ ⟨0⟩ [keyless, keyed] (·.context.key = some "global") ∧
      ¬ world.Isolates ⟨0⟩ ⟨0⟩ [keyed, keyless] (·.context.key = none) := by
  intro world keyless keyed
  refine ⟨⟨by decide, by decide⟩, ⟨by decide, by decide⟩, ?_, ?_⟩
  · unfold Isolates
    decide
  · unfold Isolates
    decide

end World

end AdmissionControl
