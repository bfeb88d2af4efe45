import AdmissionControl.Proofs.Pipeline.Slots
import AdmissionControl.World.Time

namespace AdmissionControl

namespace Bucket

variable {bucket : Bucket}

private theorem shutDown_visit (bucket : Bucket) (now : Nat) :
    (bucket.visit now).shutDown = bucket.shutDown := by
  have filled (moment : Nat) : (bucket.fillAll moment).shutDown = bucket.shutDown := by
    fun_induction fillAll bucket moment with
    | case1 bucket reached ih => exact ih
    | case2 bucket early => rfl
  rw [visit]
  split
  · rfl
  · exact filled _

private theorem shutDown_attempt (bucket : Bucket) (empty : Reason) :
    (bucket.attempt empty).2.shutDown = bucket.shutDown := by
  rw [attempt]
  split
  · rfl
  · by_cases some : 0 < bucket.level <;> simp only [take, some, if_true, if_false]

private theorem shutDown_decide (bucket : Bucket) (empty : Reason) :
    (bucket.decide empty).2.shutDown = bucket.shutDown := by
  have attempted := bucket.shutDown_attempt empty
  unfold decide
  split <;> next same => rwa [same] at attempted

private theorem visit_shutDown (shut : bucket.shutDown = true) (now : Nat) :
    bucket.visit now = bucket :=
  if_pos shut

private theorem attempt_shutDown (shut : bucket.shutDown = true) (empty : Reason) :
    bucket.attempt empty = (.error .shutDown, bucket) := if_pos shut

private theorem decide_shutDown (shut : bucket.shutDown = true) (empty : Reason) :
    bucket.decide empty = (.refuse .shutDown, bucket) := by
  rw [decide, attempt_shutDown shut]

private theorem shutdown_shutDown (shut : bucket.shutDown = true) : bucket.shutdown = bucket := by
  cases bucket
  cases shut
  rfl

end Bucket

namespace Limiter

/-- A bucket that is shut down. -/
def closed (limiter : Limiter) : Bool := limiter.bucket?.any (·.shutDown)

def stopped (limiter : Limiter) : Bool := limiter.bucket?.all (·.shutDown)

/-- A limiter stays of its kind, and a bucket that is shut down stays as it is. -/
structure Settles (limiter after : Limiter) : Prop where
  kind : after.kind = limiter.kind
  still : limiter.closed = true → after = limiter

/-- Besides, no bucket is shut down. -/
structure Becomes (limiter after : Limiter) : Prop extends limiter.Settles after where
  closed : after.closed = limiter.closed

variable {limiter middle after : Limiter}

private theorem closed_cases (closed : limiter.closed = true) :
    ∃ bucket : Bucket, bucket.shutDown = true ∧
      (limiter = .tokenBucket bucket ∨ limiter = .leakyBucket bucket) := by
  cases limiter with
  | tokenBucket bucket => exact ⟨bucket, closed, .inl rfl⟩
  | leakyBucket bucket => exact ⟨bucket, closed, .inr rfl⟩
  | _ => cases closed

theorem closed_iff : limiter.closed = true ↔ limiter.bucket? ≠ none ∧ limiter.stopped = true := by
  rw [closed, stopped]
  cases limiter.bucket? with
  | none => simp
  | some bucket => simp

private theorem bucket?_eq_none_iff :
    limiter.bucket? = none ↔ limiter.kind ≠ .tokenBucket ∧ limiter.kind ≠ .leakyBucket := by
  cases limiter <;> simp [bucket?, kind]

namespace Settles

theorem trans (first : limiter.Settles middle) (second : middle.Settles after) :
    limiter.Settles after where
  kind := second.kind.trans first.kind
  still closed := by
    have same := first.still closed
    exact (second.still (same ▸ closed)).trans same

private theorem mapBucket {change : Bucket → Bucket}
    (still : ∀ bucket, bucket.shutDown = true → change bucket = bucket) (limiter : Limiter) :
    limiter.Settles (limiter.mapBucket change) where
  kind := by cases limiter <;> rfl
  still closed := by
    obtain ⟨bucket, shut, rfl | rfl⟩ := closed_cases closed
    · exact congrArg Limiter.tokenBucket (still bucket shut)
    · exact congrArg Limiter.leakyBucket (still bucket shut)

theorem bucket?_eq_none (settles : limiter.Settles after) :
    after.bucket? = none ↔ limiter.bucket? = none := by
  rw [bucket?_eq_none_iff, bucket?_eq_none_iff, settles.kind]

end Settles

namespace Becomes

theorem refl (limiter : Limiter) : limiter.Becomes limiter := ⟨⟨rfl, fun _ => rfl⟩, rfl⟩

theorem trans (first : limiter.Becomes middle) (second : middle.Becomes after) :
    limiter.Becomes after :=
  ⟨first.toSettles.trans second.toSettles, second.closed.trans first.closed⟩

private theorem of_open (kind : after.kind = limiter.kind) (opened : limiter.closed = false)
    (left : after.closed = false) : limiter.Becomes after :=
  ⟨⟨kind, fun closed => nomatch opened.symm.trans closed⟩, left.trans opened.symm⟩

private theorem visit (limiter : Limiter) (now : Nat) :
    limiter.Becomes (limiter.mapBucket (·.visit now)) where
  toSettles := .mapBucket (fun _ shut => Bucket.visit_shutDown shut now) limiter
  closed := by
    cases limiter with
    | tokenBucket bucket => exact bucket.shutDown_visit now
    | leakyBucket bucket => exact bucket.shutDown_visit now
    | _ => rfl

private theorem complete (limiter : Limiter) : limiter.Becomes limiter.complete where
  kind := by cases limiter <;> rfl
  still closed := by
    obtain ⟨bucket, -, rfl | rfl⟩ := closed_cases closed <;> rfl
  closed := by cases limiter <;> rfl

private theorem tokenBucket {bucket other : Bucket} (same : other.shutDown = bucket.shutDown)
    (still : bucket.shutDown = true → other = bucket) :
    (Limiter.tokenBucket bucket).Becomes (.tokenBucket other) :=
  ⟨⟨rfl, fun shut => congrArg Limiter.tokenBucket (still shut)⟩, same⟩

private theorem leakyBucket {bucket other : Bucket} (same : other.shutDown = bucket.shutDown)
    (still : bucket.shutDown = true → other = bucket) :
    (Limiter.leakyBucket bucket).Becomes (.leakyBucket other) :=
  ⟨⟨rfl, fun shut => congrArg Limiter.leakyBucket (still shut)⟩, same⟩

end Becomes

end Limiter

namespace Request

/-- The request has a limiter ahead, or has ended before its handler was called. -/
def ShortOf (ref : Ref Limiter) (request : Request) : Prop :=
  request.called = false ∧
    (request.ended = true ∨ ∃ context, .limiter ref context ∈ request.ahead)

end Request

namespace World

variable {world middle after : World} {ref other : Ref Limiter}

/-! ### A bucket that is shut down -/

private theorem inside_of_closed (closed : (world.limiters.get ref).closed = true) :
    ref.index < world.limiters.size := by
  apply Nat.lt_of_not_le
  intro beyond
  rw [Table.get_of_size_le beyond] at closed
  cases closed

private theorem setLimiter_self (inside : ref.index < world.limiters.size) :
    world.setLimiter ref (world.limiters.get ref) = world := by
  have same : world.limiters.set ref (world.limiters.get ref) = world.limiters := by
    apply Table.ext (Table.size_set_of_lt inside _)
    intro other
    rw [Table.get_set]
    split
    · next here => rw [here]
    · rfl
  rw [setLimiter, same]

private theorem ask_closed (closed : (world.limiters.get ref).closed = true) (context : Context) :
    world.ask ref context = (.decided (.refuse
      ((context.abandoned? world.tokens world.now).getD .shutDown)), world) := by
  have put := setLimiter_self (inside_of_closed closed)
  unfold ask
  cases context.abandoned? world.tokens world.now with
  | some reason => rfl
  | none =>
    obtain ⟨bucket, shut, row | row⟩ := Limiter.closed_cases closed
    · rw [row] at put
      simp only [row, Bucket.decide_shutDown shut, put]
      rfl
    · rw [row] at put
      simp only [row, Bucket.decide_shutDown shut, put]
      rfl

theorem decisionOf_closed (closed : (world.limiters.get ref).closed = true) (context : Context) :
    world.decisionOf ref context = (.refuse
      ((context.abandoned? world.tokens world.now).getD .shutDown), world) := by
  rw [decisionOf, ask_closed closed]

theorem attempt_closed (closed : (world.limiters.get ref).closed = true) (key : String) :
    world.attempt ref key = (.refused .shutDown, world) := by
  have put := setLimiter_self (inside_of_closed closed)
  unfold attempt
  obtain ⟨bucket, shut, row | row⟩ := Limiter.closed_cases closed
  · rw [row] at put
    simp only [row, Bucket.attempt_shutDown shut, put]
    rfl
  · rw [row] at put
    simp only [row, Bucket.attempt_shutDown shut, put]
    rfl

theorem refill_closed (closed : (world.limiters.get ref).closed = true) :
    world.refill ref = world := by
  have put := setLimiter_self (inside_of_closed closed)
  have filled : (world.limiters.get ref).mapBucket (·.visit world.now) = world.limiters.get ref :=
    (Limiter.Becomes.visit _ _).still closed
  have asleep : (world.limiters.get ref).bucket?.bind Bucket.wake? = none := by
    obtain ⟨bucket, shut, row | row⟩ := Limiter.closed_cases closed
    · rw [row]
      exact if_pos shut
    · rw [row]
      exact if_pos shut
  have same : { world with limiters :=
      world.limiters.modify ref (Limiter.mapBucket (·.visit world.now)) } = world := by
    rw [Table.modify, filled]
    exact put
  rw [refill, same, scheduleFill, asleep]
  rfl

theorem shutdown_closed (closed : (world.limiters.get ref).closed = true) :
    world.shutdown ref = world := by
  unfold shutdown
  obtain ⟨bucket, shut, row | row⟩ := Limiter.closed_cases closed
  · simp only [row, Limiter.bucket?, shut, if_true]
  · simp only [row, Limiter.bucket?, shut, if_true]

/-! ### What everything else leaves -/

/-- Limiters stay of their kinds, and buckets that are shut down stay as they are. Who has one of
them ahead never comes past it. -/
structure Retains (world after : World) : Prop where
  limiters : ∀ ref, (world.limiters.get ref).Settles (after.limiters.get ref)
  requests : ∀ ref request, (world.limiters.get ref).closed = true →
    (world.requests.get request).ShortOf ref → (after.requests.get request).ShortOf ref

/-- Besides, no bucket is shut down. -/
structure Upholds (world after : World) : Prop where
  limiters : ∀ ref, (world.limiters.get ref).Becomes (after.limiters.get ref)
  requests : ∀ ref request, (world.limiters.get ref).closed = true →
    (world.requests.get request).ShortOf ref → (after.requests.get request).ShortOf ref

theorem Upholds.retains (upholds : world.Upholds after) : world.Retains after :=
  ⟨fun ref => (upholds.limiters ref).toSettles, upholds.requests⟩

namespace Retains

theorem refl (world : World) : world.Retains world :=
  ⟨fun _ => (Limiter.Becomes.refl _).toSettles, fun _ _ _ short => short⟩

theorem closed (retains : world.Retains after) (closed : (world.limiters.get ref).closed = true) :
    (after.limiters.get ref).closed = true := by
  rwa [(retains.limiters ref).still closed]

theorem trans (first : world.Retains middle) (second : middle.Retains after) :
    world.Retains after where
  limiters ref := (first.limiters ref).trans (second.limiters ref)
  requests ref request closed short :=
    second.requests ref request (first.closed closed) (first.requests ref request closed short)

theorem shutdown (world : World) (ref : Ref Limiter) : world.Retains (world.shutdown ref) := by
  unfold World.shutdown
  simp only []
  split
  · exact refl world
  · split
    · exact refl world
    · refine ⟨fun other => ?_, fun _ _ _ short => short⟩
      simp only [record, setLimiter, Table.get_set]
      split
      · next here =>
        exact here ▸ .mapBucket (fun _ shut => Bucket.shutdown_shutDown shut) _
      · exact (Limiter.Becomes.refl _).toSettles

end Retains

namespace Upholds

theorem refl (world : World) : world.Upholds world :=
  ⟨fun _ => .refl _, fun _ _ _ short => short⟩

theorem closed (upholds : world.Upholds after) (closed : (world.limiters.get ref).closed = true) :
    (after.limiters.get ref).closed = true := upholds.retains.closed closed

theorem trans (first : world.Upholds middle) (second : middle.Upholds after) :
    world.Upholds after where
  limiters ref := (first.limiters ref).trans (second.limiters ref)
  requests ref request closed short :=
    second.requests ref request (first.closed closed) (first.requests ref request closed short)

theorem of_same (limiters : after.limiters = world.limiters)
    (requests : after.requests = world.requests) : world.Upholds after where
  limiters ref := by
    rw [limiters]
    exact .refl _
  requests ref request _ short := by rwa [requests]

private theorem of_keeps (kept : world.Keeps after) : world.Upholds after :=
  .of_same kept.limiters kept.requests

private theorem of_put {limiter : Limiter} (becomes : (world.limiters.get ref).Becomes limiter)
    (limiters : after.limiters = world.limiters.set ref limiter)
    (requests : after.requests = world.requests) : world.Upholds after where
  limiters other := by
    rw [limiters, Table.get_set]
    split
    · next same => exact same ▸ becomes
    · exact .refl _
  requests ref request _ short := by rwa [requests]

private theorem put {limiter : Limiter} (becomes : (world.limiters.get ref).Becomes limiter) :
    world.Upholds (world.setLimiter ref limiter) := .of_put becomes rfl rfl

private theorem ask (world : World) (ref : Ref Limiter) (context : Context) :
    world.Upholds (world.ask ref context).2 := by
  unfold World.ask
  cases context.abandoned? world.tokens world.now with
  | some reason => exact refl world
  | none =>
    cases row : world.limiters.get ref with
    | concurrency limiter => exact put (row ▸ .of_open rfl rfl rfl)
    | fixedWindow limiter clock =>
      have kept := (keptWithin world.steps).read world clock
      refine (of_keeps kept).trans (put ?_)
      rw [kept.limiters, row]
      exact .of_open rfl rfl rfl
    | slidingWindow limiter store clock =>
      have begun : world.Upholds
          (world.beginConsultation limiter store clock context.windowKey).2 :=
        .of_same (world.beginConsultation_limiters _ _ _ _)
          (Still.beginConsultation world _ _ _ _).requests
      simp only []
      split
      · exact begun
      · exact begun.trans (.of_same (weigh_limiters _ _ _ _) (Still.weigh _ _ _ _).requests)
    | tokenBucket bucket =>
      refine put (row ▸ .tokenBucket (bucket.shutDown_decide _) fun shut => ?_)
      rw [Bucket.decide_shutDown shut]
    | leakyBucket bucket =>
      refine put (row ▸ .leakyBucket (bucket.shutDown_decide _) fun shut => ?_)
      rw [Bucket.decide_shutDown shut]

private theorem answered (world : World) (ref : Ref Limiter) (context : Context)
    (answer : StoreAnswer) :
    world.Upholds (world.answered ref context answer).2 :=
  .of_same (answered_limiters _ _ _ _) (Still.answered _ _ _ _).requests

private theorem account (world : World) (ref : Ref Limiter) (context : Context)
    (decision : Decision) :
    world.Upholds (world.account ref context decision) :=
  .of_same (account_limiters _ _ _ _) (Still.account _ _ _ _).requests

private theorem complete (world : World) (ref : Ref Limiter) : world.Upholds (world.complete ref) :=
  .of_put (.complete _) rfl rfl

private theorem refill (world : World) (ref : Ref Limiter) : world.Upholds (world.refill ref) := by
  have filled : world.Upholds { world with
      limiters := world.limiters.modify ref (Limiter.mapBucket (·.visit world.now)) } :=
    .of_put (.visit _ _) rfl rfl
  refine filled.trans (.of_same ?_ ?_)
  · exact setAlarm_blind World.limiters (fun _ _ => rfl) _ _ _
  · exact setAlarm_blind World.requests (fun _ _ => rfl) _ _ _

private theorem allow (world : World) (ref : Ref Circuit) : world.Upholds (world.allow ref).2 :=
  of_keeps ((keptWithin world.steps).allow world ref)

private theorem accompanies : Accompanies Upholds where
  refl := refl
  trans := trans
  complete := complete
  resolve world ref permit verdict :=
    of_keeps ((keptWithin world.steps).resolve world ref permit verdict)
  ask := ask
  answered := answered
  account := account
  allow := allow

end Upholds

/-! ### Requests -/

private theorem refuse_short (world : World) (request : Request) (error : AdmissionError String)
    (ref : Ref Limiter) : (world.refuse request error).1.ShortOf ref := ⟨rfl, .inl rfl⟩

/-- A request that has a bucket ahead which is shut down gets no further than that. -/
theorem pass_short (closed : (world.limiters.get ref).closed = true) (request : Request)
    {stages : List Stage} {context : Context} (ahead : .limiter ref context ∈ stages) :
    (world.pass request stages).1.ShortOf ref := by
  induction stages generalizing world request with
  | nil => cases ahead
  | cons stage rest ih =>
    cases stage with
    | limiter other context' =>
      have asked := Upholds.ask world other context'
      unfold World.pass
      split
      · next consultation left same =>
        refine ⟨rfl, .inr ⟨context, ?_⟩⟩
        cases ahead with
        | tail _ later => exact later
        | head =>
          rw [ask_closed closed] at same
          cases same
      · next decision left same =>
        rw [same] at asked
        have accounted := asked.trans (.account left other context' decision)
        simp only []
        split
        · next passes =>
          cases ahead with
          | tail _ later => exact ih (accounted.closed closed) _ later
          | head =>
            rw [ask_closed closed] at same
            cases same
            cases passes
        · exact refuse_short _ _ _ _
    | breaker other =>
      have allowed := Upholds.allow world other
      have later : Stage.limiter ref context ∈ rest := by simpa using ahead
      unfold World.pass
      split
      · next same =>
        rw [same] at allowed
        exact ih (allowed.closed closed) _ later
      · exact refuse_short _ _ _ _

private theorem passOn_short (closed : (world.limiters.get ref).closed = true) {request : Request}
    {limiter : Ref Limiter} {context context' : Context} (answer : StoreAnswer)
    (ahead : .limiter ref context ∈ request.ahead) :
    (world.passOn request limiter context' answer).1.ShortOf ref := by
  have accounted := (Upholds.answered world limiter context' answer).trans
    (.account _ limiter context' (world.answered limiter context' answer).1)
  unfold World.passOn
  simp only []
  split
  · exact pass_short (accounted.closed closed) _ ahead
  · exact refuse_short _ _ _ _

private theorem prepare_short (world : World) {pipeline : Pipeline} {context context' : Context}
    (inside : .limiter ref context' ∈ pipeline.stages context) :
    (world.prepare pipeline context).1.ShortOf ref := by
  unfold prepare
  simp only []
  split
  · exact ⟨rfl, .inl rfl⟩
  · split
    · next circuit rest _ stages =>
      rw [stages] at inside
      split
      · exact ⟨rfl, .inr ⟨context', by simpa using inside⟩⟩
      · exact ⟨rfl, .inl rfl⟩
    · exact ⟨rfl, .inr ⟨context', inside⟩⟩

theorem submit_short (world : World) {pipeline : Pipeline} {context context' : Context}
    (inside : .limiter ref context' ∈ pipeline.stages context) :
    ((world.submit pipeline context).2.requests.get (world.submit pipeline context).1).ShortOf
      ref := by
  have short := prepare_short world inside
  unfold submit
  rcases made : world.prepare pipeline context with ⟨request, left⟩
  rw [made] at short
  have last := Table.get_add_self left.requests request
  exact last.symm ▸ short

namespace Upholds

private theorem placed {place : Ref Request} {reached : Request × World}
    (upholds : world.Upholds reached.2) (same : reached.2.requests = world.requests)
    (short : ∀ ref, (world.limiters.get ref).closed = true →
      (world.requests.get place).ShortOf ref → reached.1.ShortOf ref) :
    world.Upholds (reached.2.place place reached.1) where
  limiters ref := by
    rw [place_limiters]
    exact upholds.limiters ref
  requests ref request closed before := by
    rw [place_requests, same, Table.get_set]
    split
    · next here => exact short ref closed (here ▸ before)
    · exact before

private theorem noted {place : Ref Request} {request : Request}
    (short : ∀ ref, (world.requests.get place).ShortOf ref → request.ShortOf ref) :
    world.Upholds (world.setRequest place request) where
  limiters _ := .refl _
  requests ref other _ before := by
    rw [setRequest, Table.get_set]
    split
    · next here => exact short ref (here ▸ before)
    · exact before

private theorem start (world : World) (place : Ref Request) :
    world.Upholds (world.start place) := by
  obtain ⟨fresh, does⟩ | ⟨-, does⟩ := world.start_cases place <;> rw [does]
  · have phase : (world.requests.get place).phase = .fresh := fresh
    refine placed (accompanies.pass _ _ _) (Still.accompanies.pass _ _ _).requests
      fun ref closed short => ?_
    obtain ⟨-, ended | ⟨context, ahead⟩⟩ := short
    · rw [Request.ended, phase] at ended
      cases ended
    · exact pass_short closed _ ahead
  · exact noted fun ref short => short

private theorem answer (world : World) (place : Ref Request) (response : Response) :
    world.Upholds (world.answer place response) := by
  obtain ⟨handling, does⟩ | ⟨-, does⟩ := world.answer_cases place response <;> rw [does]
  · have phase : (world.requests.get place).phase = .handling := handling
    refine placed (accompanies.handle _ _) (Still.accompanies.handle _ _).requests
      fun ref closed short => ?_
    have called := short.1
    rw [Request.called, phase] at called
    cases called
  · exact noted fun ref short => short

private theorem resume (world : World) (place : Ref Request) :
    world.Upholds (world.resume place) := by
  obtain ⟨limiter, context, consultation, answer, waiting, -, does⟩ | ⟨_, _, resting, -, does⟩ |
    ⟨does, -⟩ := world.resume_cases place <;> rw [does]
  · refine placed (accompanies.passOn _ _ _ _ _) (Still.accompanies.passOn _ _ _ _ _).requests
      fun ref closed short => ?_
    obtain ⟨-, ended | ⟨context, ahead⟩⟩ := short
    · rw [Request.ended, waiting] at ended
      cases ended
    · exact passOn_short closed answer ahead
  · refine placed (accompanies.conclude _ _ _) (Still.accompanies.conclude _ _ _).requests
      fun ref closed short => ?_
    have called := short.1
    rw [Request.called, resting] at called
    cases called
  · exact refl world

private theorem drop (world : World) (place : Ref Request) : world.Upholds (world.drop place) :=
  (noted fun _ _ => ⟨rfl, .inl rfl⟩).trans (accompanies.giveBack _ _ _)

theorem submit (world : World) (pipeline : Pipeline) (context : Context) :
    world.Upholds (world.submit pipeline context).2 := by
  have prepared := accompanies.prepare world pipeline context
  unfold World.submit
  rcases made : world.prepare pipeline context with ⟨request, left⟩
  rw [made] at prepared
  refine prepared.trans ⟨fun _ => .refl _, fun ref other _ short => ?_⟩
  have inside : other.index < left.requests.size := by
    apply Nat.lt_of_not_le
    intro beyond
    obtain ⟨-, ended | ⟨context, ahead⟩⟩ := Table.get_of_size_le beyond ▸ short
    · cases ended
    · cases ahead
  rwa [Table.get_add_of_lt left.requests request inside]

private theorem ring (world : World) (sleeper : Sleeper) : world.Upholds (world.ring sleeper) := by
  cases sleeper with
  | bucket ref => exact refill world ref
  | request place => exact resume world place

end Upholds

private theorem abides_upholds (start : World) : Abides (fun _ => True) start.Upholds where
  alarms _ _ _ := trivial
  ring _ upholds := upholds.trans (.ring _ _)
  off _ upholds := upholds.trans (.of_same rfl rfl)
  later _ upholds := upholds.trans (.of_same rfl rfl)

/-! ### What may happen -/

/-- What may happen to the world of pipelines, beside limiters that are shut down. Requests are made
ready, started, answered by their handlers, woken and dropped. Limiters are asked and tried in
person, and are told that somebody has left. Time passes or jumps. Elsewhere anything may happen
that leaves limiters and requests alone. -/
inductive Happens (world : World) : World → Prop where
  | submit (pipeline : Pipeline) (context : Context) :
    Happens world (world.submit pipeline context).2
  | start (place : Ref Request) : Happens world (world.start place)
  | answer (place : Ref Request) (response : Response) : Happens world (world.answer place response)
  | wake (place : Ref Request) : Happens world (world.resume place)
  | drop (place : Ref Request) : Happens world (world.drop place)
  | ask (ref : Ref Limiter) (context : Context) : Happens world (world.decisionOf ref context).2
  | attempt (ref : Ref Limiter) (key : String) : Happens world (world.attempt ref key).2
  | leave (ref : Ref Limiter) : Happens world (world.complete ref)
  | settle : Happens world world.settle
  | reach (target : Nat) : Happens world (world.reach target)
  | jump (millis : Nat) : Happens world (world.jump millis)
  | elsewhere {after : World} (limiters : after.limiters = world.limiters)
    (requests : after.requests = world.requests) : Happens world after

private theorem Upholds.decisionOf (world : World) (ref : Ref Limiter) (context : Context) :
    world.Upholds (world.decisionOf ref context).2 := by
  have asked := ask world ref context
  unfold World.decisionOf
  split
  · next same =>
    rw [same] at asked
    exact asked
  · next same =>
    rw [same] at asked
    exact ((abides_upholds world).reach asked _).trans (answered _ _ _ _)

private theorem Upholds.attempt (world : World) (ref : Ref Limiter) (key : String) :
    world.Upholds (world.attempt ref key).2 := by
  unfold World.attempt
  cases row : world.limiters.get ref with
  | concurrency limiter => exact put (row ▸ .of_open rfl rfl rfl)
  | fixedWindow limiter clock =>
    have kept := (keptWithin world.steps).read world clock
    refine (of_keeps kept).trans (put ?_)
    rw [kept.limiters, row]
    exact .of_open rfl rfl rfl
  | slidingWindow limiter store clock =>
    have begun : world.Upholds (world.beginConsultation limiter store clock key).2 :=
      .of_same (world.beginConsultation_limiters _ _ _ _)
        (Still.beginConsultation world _ _ _ _).requests
    exact (abides_upholds world).sleepTo begun _
  | tokenBucket bucket =>
    refine put (row ▸ .tokenBucket (bucket.shutDown_attempt _) fun shut => ?_)
    rw [Bucket.attempt_shutDown shut]
  | leakyBucket bucket =>
    refine put (row ▸ .leakyBucket (bucket.shutDown_attempt _) fun shut => ?_)
    rw [Bucket.attempt_shutDown shut]

theorem Happens.upholds (happens : world.Happens after) : world.Upholds after := by
  cases happens with
  | submit pipeline context => exact .submit world pipeline context
  | start place => exact .start world place
  | answer place response => exact .answer world place response
  | wake place => exact .resume world place
  | drop place => exact .drop world place
  | ask ref context => exact .decisionOf world ref context
  | attempt ref key => exact .attempt world ref key
  | leave ref => exact .complete world ref
  | settle => exact (abides_upholds world).settle (.refl world)
  | reach target => exact (abides_upholds world).reach (.refl world) target
  | jump millis => exact (abides_upholds world).jump (.refl world) millis
  | elsewhere limiters requests => exact .of_same limiters requests

end World

end AdmissionControl
