import AdmissionControl.Proofs.Pipeline.Unseen

namespace AdmissionControl

namespace Held

def isPermit : Held → Bool
  | .completion _ => false
  | .permit .. => true

def told? : Held → Option (Ref Limiter)
  | .completion limiter => some limiter
  | .permit .. => none

end Held

namespace World

private theorem complete_comm (world : World) (one other : Ref Limiter) :
    (world.complete one).complete other = (world.complete other).complete one := by
  simp only [complete, Table.modify_comm]

private theorem complete_giveBack (verdict : Circuit → Verdict) (world : World)
    (limiter : Ref Limiter) (held : List Held) :
    (world.complete limiter).giveBack verdict held =
      (world.giveBack verdict held).complete limiter := by
  induction held generalizing world with
  | nil => rfl
  | cons first rest ih =>
    cases first with
    | completion other => rw [giveBack, giveBack, complete_comm, ih]
    | permit circuit permit =>
      have circuits : (world.complete limiter).circuits = world.circuits := rfl
      rw [giveBack, giveBack, circuits, complete_resolve, ih]

theorem giveBack_append (verdict : Circuit → Verdict) (world : World) (first second : List Held) :
    world.giveBack verdict (first ++ second) =
      (world.giveBack verdict first).giveBack verdict second := by
  induction first generalizing world with
  | nil => rfl
  | cons held rest ih =>
    cases held with
    | completion limiter => exact ih _
    | permit circuit permit => exact ih _

private theorem giveBack_eq (verdict : Circuit → Verdict) (world : World) (held : List Held) :
    world.giveBack verdict held =
      (held.filterMap Held.told?).foldl complete
        (world.giveBack verdict (held.filter Held.isPermit)) := by
  induction held generalizing world with
  | nil => rfl
  | cons first rest ih =>
    cases first with
    | completion limiter =>
      rw [giveBack, ih, complete_giveBack]
      rfl
    | permit circuit permit =>
      rw [giveBack, ih]
      rfl

theorem giveBack_note (requests : Table Request) (alarms : List Alarm)
    (verdict : Circuit → Verdict) (world : World) (held : List Held) :
    (world.note requests alarms).giveBack verdict held =
      (world.giveBack verdict held).note requests alarms := by
  induction held generalizing world with
  | nil => rfl
  | cons first rest ih =>
    cases first with
    | completion limiter => exact ih (world.complete limiter)
    | permit circuit permit =>
      have circuits : (world.note requests alarms).circuits = world.circuits := rfl
      rw [giveBack, giveBack, circuits, resolve_note, ih]

theorem Matches.giveBack {one other : World} (same : one.Matches other)
    (verdict : Circuit → Verdict) (held : List Held) :
    (one.giveBack verdict held).Matches (other.giveBack verdict held) := by
  rw [same.eq_note, giveBack_note]
  rfl

theorem answer_handling (world : World) {ref : Ref Request} (outcome : Outcome)
    (handling : (world.requests.get ref).phase = .handling) :
    world.answer ref { outcome } =
      (world.giveBack (outcome.verdict (world.requests.get ref).nesting)
        (world.requests.get ref).held).setRequest ref
          { world.requests.get ref with
            held := [], phase := .answered outcome, response := some { outcome } } := by
  simp only [answer, handling]
  rfl

end World

/-- The same things to give back, and the permits among them in the same order. -/
structure Reorders (one other : List Held) : Prop where
  perm : one.Perm other
  permits : one.filter Held.isPermit = other.filter Held.isPermit

namespace Reorders

theorem refl (held : List Held) : Reorders held held := ⟨.refl _, rfl⟩

theorem trans {one middle other : List Held} (first : Reorders one middle)
    (second : Reorders middle other) : Reorders one other :=
  ⟨first.perm.trans second.perm, first.permits.trans second.permits⟩

/-- Wherever a request keeps a thing, it can as well be kept before the others. -/
theorem hold {request : Request} {held : List Held} (same : Reorders request.held held)
    (first : Held) : Reorders (request.hold first).held (first :: held) := by
  have front : Reorders (first :: request.held) (first :: held) := by
    refine ⟨same.perm.cons first, ?_⟩
    rw [List.filter_cons, List.filter_cons, same.permits]
  cases nesting : request.nesting with
  | layered => simpa only [Request.hold, nesting] using front
  | closure =>
    cases first with
    | permit circuit permit => simpa only [Request.hold, nesting] using front
    | completion limiter =>
      refine trans ⟨?_, ?_⟩ front
      · simpa only [Request.hold, nesting] using List.perm_append_singleton _ request.held
      · simp [Request.hold, nesting, Held.isPermit]

theorem giveBack {one other : List Held} (same : Reorders one other)
    (verdict : Circuit → Verdict) (world : World) :
    world.giveBack verdict one = world.giveBack verdict other := by
  rw [World.giveBack_eq, World.giveBack_eq verdict world other, same.permits]
  apply (same.perm.filterMap Held.told?).foldl_eq'
  intro one _ other _ world
  exact world.complete_comm one other

end Reorders

end AdmissionControl
