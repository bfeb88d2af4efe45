import AdmissionControl.Proofs.Breaker.Serializability
import AdmissionControl.Proofs.Breaker.Frame

namespace AdmissionControl

namespace Scene

/-- A scene comes to another by turns in which everybody reads the same time. -/
def Leads (time : Nat) (scene played : Scene) : Prop :=
  ∃ turns, (∀ now ∈ turns.filterMap Turn.reading?, now = time) ∧ scene.run turns = played

variable {time : Nat} {scene middle played : Scene}

theorem Leads.refl (time : Nat) (scene : Scene) : scene.Leads time scene := ⟨[], by simp, rfl⟩

theorem Leads.trans (first : scene.Leads time middle) (second : middle.Leads time played) :
    scene.Leads time played := by
  obtain ⟨turns, timed, rfl⟩ := first
  obtain ⟨more, later, rfl⟩ := second
  refine ⟨turns ++ more, ?_, List.foldl_append⟩
  intro now member
  rw [List.filterMap_append] at member
  rcases List.mem_append.mp member with member | member
  · exact timed now member
  · exact later now member

theorem step_leads (scene : Scene) (turn : Turn) (reads : ∀ now ∈ turn.reading?, now = time) :
    scene.Leads time (scene.step turn) := by
  refine ⟨[turn], ?_, rfl⟩
  intro now member
  obtain ⟨_, same, read⟩ := List.mem_filterMap.mp member
  rw [List.mem_singleton.mp same] at read
  exact reads now read

end Scene

namespace World

def time (world : World) (ref : Ref Circuit) : Nat :=
  (world.clocks.get (world.circuits.get ref).clock).now

private theorem Keeps.time {world after : World} (kept : world.Keeps after) (ref : Ref Circuit) :
    after.time ref = world.time ref := by
  rw [World.time, World.time, kept.clocks, kept.reads]

/-- A call has come to its end in a world, and in a scene that shows one of its breakers. -/
structure Plays (ref : Ref Circuit) (time : Nat) (start : Scene) (outer : List HeldUp)
    (after : World) (played : Scene) : Prop where
  leads : start.Leads time played
  stands : after.breaker ref = played.breaker
  heldUp : played.heldUp = outer

/-- So many steps are enough to ask. Only an open breaker reads its clock. -/
def Enough (steps : Nat) (world : World) (ref : Ref Circuit) : Prop :=
  4 * world.interruptions.length + 2 ≤ steps ∨
    (world.breaker ref).word.state ≠ .opened ∧ 1 ≤ steps

private theorem opened_of_timing {breaker changed : Breaker} {notices : List Notice} {seen : Word}
    {openedAt : Nat} (timing : breaker.inquire = (changed, notices, .timing seen openedAt)) :
    breaker.word.state = .opened := by
  cases state : breaker.word.state with
  | opened => rfl
  | closed => simp [Breaker.inquire_closed state] at timing
  | halfOpen =>
    by_cases full : breaker.settings.halfOpenMaxCalls ≤ breaker.trials
    · simp [Breaker.inquire_full state full] at timing
    · simp [Breaker.inquire_free state full] at timing

private theorem Enough.again {steps time : Nat} {asked read : World} {ref : Ref Circuit}
    {breaker : Breaker} {notices : List Notice}
    (calm : (∀ ref, read.breaker ref = asked.breaker ref) ∨
      read.interruptions.length < asked.interruptions.length)
    (enough : 4 * asked.interruptions.length + 2 ≤ steps + 1)
    (timed : (read.breaker ref).timed (asked.breaker ref).word (asked.breaker ref).openedAt time =
      (breaker, notices, none)) :
    Enough steps ((read.setBreaker ref breaker).notify notices) ref := by
  rcases calm with calm | spent
  · refine .inr ⟨?_, by omega⟩
    rw [breaker_change, if_pos rfl]
    rw [calm] at timed
    by_cases early : time - (asked.breaker ref).openedAt < (asked.breaker ref).settings.recoveryMillis
    · simp [Breaker.timed_early early] at timed
    · rw [Breaker.timed_late early] at timed
      cases timed
      exact nofun
  · left
    show 4 * read.interruptions.length + 2 ≤ steps
    omega

structure Waits (steps : Nat) (world : World) (ref : Ref Circuit) (asked read : World)
    (time : Nat) : Prop where
  noted : world.Keeps asked
  stands : ∀ other, asked.breaker other = world.breaker other
  room : 4 * asked.interruptions.length + 1 ≤ steps
  reading : asked.readWithin steps (asked.circuits.get ref).clock = (time, read)
  moment : time = world.time ref
  kept : world.Keeps read
  refused : ∀ breaker notices refusal,
    (read.breaker ref).timed (world.breaker ref).word (world.breaker ref).openedAt time =
      (breaker, notices, some refusal) →
    world.allowWithin (steps + 1) ref = (.error refusal, (read.setBreaker ref breaker).notify notices)
  again : ∀ breaker notices,
    (read.breaker ref).timed (world.breaker ref).word (world.breaker ref).openedAt time =
      (breaker, notices, none) →
    Enough steps ((read.setBreaker ref breaker).notify notices) ref ∧
      world.allowWithin (steps + 1) ref =
        ((read.setBreaker ref breaker).notify notices).allowWithin steps ref

private theorem waits_of_opened {steps : Nat} {world : World} {ref : Ref Circuit}
    (opened : (world.breaker ref).word.state = .opened) (enough : Enough (steps + 1) world ref) :
    ∃ asked read time, Waits steps world ref asked read time := by
  have inquired := Breaker.inquire_opened opened
  have enough : 4 * world.interruptions.length + 2 ≤ steps + 1 :=
    enough.resolve_right fun unopened => unopened.1 opened
  have noted := Keeps.change world ref (world.breaker ref) []
  have stands (other : Ref Circuit) : ((world.setBreaker ref (world.breaker ref)).notify []).breaker
      other = world.breaker other := by
    rw [breaker_change]
    split
    · next same => rw [same]
    · rfl
  obtain ⟨asked, same⟩ : ∃ asked, (world.setBreaker ref (world.breaker ref)).notify [] = asked :=
    ⟨_, rfl⟩
  rw [same] at noted stands
  have spent := noted.spent
  have room : 4 * asked.interruptions.length + 2 ≤ steps + 1 := by omega
  have calm := readWithin_calm steps asked (asked.circuits.get ref).clock
  have kept := (keptWithin steps).read asked (asked.circuits.get ref).clock
  have moment : _ = asked.time ref := readWithin_fst steps asked (asked.circuits.get ref).clock
  cases reading : asked.readWithin steps (asked.circuits.get ref).clock with
  | mk time read =>
  rw [reading] at calm kept moment
  refine ⟨asked, read, time, noted, stands, by omega, reading, moment.trans (noted.time ref),
    noted.trans kept, ?_, ?_⟩
  · intro breaker notices refusal timed
    simp only [allowWithin, inquired, same, reading, timed]
  · intro breaker notices timed
    refine ⟨?_, by simp only [allowWithin, inquired, same, reading, timed]⟩
    rw [← stands] at timed
    exact Enough.again calm room timed

structure PlayedWithin (ref : Ref Circuit) (steps : Nat) : Prop where
  read : ∀ (world : World) clock (scene : Scene), world.breaker ref = scene.breaker →
    4 * world.interruptions.length + 1 ≤ steps →
    ∃ played, Plays ref (world.time ref) scene scene.heldUp (world.readWithin steps clock).2 played
  allow : ∀ (world : World) (scene : Scene) now readings, world.breaker ref = scene.breaker →
    Enough steps world ref →
    ∃ played, Plays ref (world.time ref) (scene.inquire now readings) scene.heldUp
        (world.allowWithin steps ref).2 played ∧
      (∃ permits, played.permits = permits ++ [(world.allowWithin steps ref).1.toOption]) ∧
      ∃ record moment, played.record =
        record ++ [⟨.ask moment, some (world.allowWithin steps ref).1⟩]
  allowOther : ∀ (world : World) other (scene : Scene), other ≠ ref →
    world.breaker ref = scene.breaker → Enough steps world other →
    ∃ played, Plays ref (world.time ref) scene scene.heldUp (world.allowWithin steps other).2 played
  resolve : ∀ (world : World) (scene : Scene) caller permit verdict,
    world.breaker ref = scene.breaker → scene.permits[caller]?.join = some permit →
    4 * world.interruptions.length + 2 ≤ steps →
    ∃ played, Plays ref (world.time ref) (scene.settle caller verdict) scene.heldUp
      (world.resolveWithin steps ref permit verdict) played
  resolveOther : ∀ (world : World) other (scene : Scene) permit verdict, other ≠ ref →
    world.breaker ref = scene.breaker → 4 * world.interruptions.length + 2 ≤ steps →
    ∃ played, Plays ref (world.time ref) scene scene.heldUp
      (world.resolveWithin steps other permit verdict) played

section Played

variable {ref : Ref Circuit} {steps : Nat} {world : World} {scene : Scene}

private theorem PlayedWithin.allow_succ (earlier : PlayedWithin ref steps) (now readings : Nat)
    (stands : world.breaker ref = scene.breaker) (enough : Enough (steps + 1) world ref) :
    ∃ played, Plays ref (world.time ref) (scene.inquire now readings) scene.heldUp
        (world.allowWithin (steps + 1) ref).2 played ∧
      (∃ permits, played.permits = permits ++ [(world.allowWithin (steps + 1) ref).1.toOption]) ∧
      ∃ record moment, played.record =
        record ++ [⟨.ask moment, some (world.allowWithin (steps + 1) ref).1⟩] := by
  have changed (world : World) (breaker : Breaker) (notices : List Notice) :
      ((world.setBreaker ref breaker).notify notices).breaker ref = breaker :=
    (world.breaker_change ref ref breaker notices).trans (if_pos rfl)
  by_cases opened : (world.breaker ref).word.state = .opened
  · obtain ⟨asked, read, time, waits⟩ := waits_of_opened opened enough
    obtain ⟨waited, leads, stood, heldUp⟩ := earlier.read asked (asked.circuits.get ref).clock
      { scene.change (world.breaker ref) [] with
        heldUp := .asking (world.breaker ref).word (world.breaker ref).openedAt readings ::
          scene.heldUp } (waits.stands ref) waits.room
    rw [waits.reading] at stood
    rw [waits.noted.time] at leads
    have reads : ∀ now ∈ (Turn.read time).reading?, now = world.time ref := by
      simp [Turn.reading?, waits.moment]
    have stepped := leads.trans (waited.step_leads (.read time) reads)
    simp only [Scene.inquire, ← stands, Breaker.inquire_opened opened]
    cases timed : (read.breaker ref).timed (world.breaker ref).word (world.breaker ref).openedAt
        time with
    | mk breaker rest =>
    obtain ⟨notices, refusal?⟩ := rest
    have same := stood ▸ timed
    cases refusal? with
    | some refusal =>
      rw [Scene.step, Scene.read_refused heldUp same] at stepped
      rw [waits.refused breaker notices refusal timed]
      exact ⟨_, ⟨stepped, changed _ _ _, rfl⟩, ⟨_, rfl⟩, _, _, rfl⟩
    | none =>
      obtain ⟨enough, asks⟩ := waits.again breaker notices timed
      rw [Scene.step, Scene.read_again heldUp same] at stepped
      obtain ⟨played, ⟨more, stands, left⟩, answered⟩ :=
        earlier.allow _ (({ waited with heldUp := scene.heldUp } : Scene).change breaker notices)
          time (readings + 1) (changed read breaker notices) enough
      rw [(waits.kept.trans (.change read ref breaker notices)).time] at more
      rw [asks]
      exact ⟨played, ⟨stepped.trans more, stands, left⟩, answered⟩
  · cases inquired : (world.breaker ref).inquire with
    | mk breaker rest =>
    obtain ⟨notices, inquiry⟩ := rest
    simp only [allowWithin, Scene.inquire, ← stands, inquired]
    cases inquiry with
    | granted permit => exact ⟨_, ⟨.refl _ _, changed _ _ _, rfl⟩, ⟨_, rfl⟩, _, _, rfl⟩
    | refused refusal => exact ⟨_, ⟨.refl _ _, changed _ _ _, rfl⟩, ⟨_, rfl⟩, _, _, rfl⟩
    | timing seen openedAt => exact absurd (opened_of_timing inquired) opened

private theorem PlayedWithin.allowOther_succ (earlier : PlayedWithin ref steps)
    {other : Ref Circuit} (apart : other ≠ ref) (stands : world.breaker ref = scene.breaker)
    (enough : Enough (steps + 1) world other) :
    ∃ played, Plays ref (world.time ref) scene scene.heldUp
      (world.allowWithin (steps + 1) other).2 played := by
  have aside (world : World) (breaker : Breaker) (notices : List Notice) :
      ((world.setBreaker other breaker).notify notices).breaker ref = world.breaker ref :=
    (world.breaker_change other ref breaker notices).trans (if_neg apart)
  by_cases opened : (world.breaker other).word.state = .opened
  · obtain ⟨asked, read, time, waits⟩ := waits_of_opened opened enough
    obtain ⟨waited, leads, stood, heldUp⟩ := earlier.read asked (asked.circuits.get other).clock
      scene ((waits.stands ref).trans stands) waits.room
    rw [waits.reading] at stood
    rw [waits.noted.time] at leads
    cases timed : (read.breaker other).timed (world.breaker other).word
        (world.breaker other).openedAt time with
    | mk breaker rest =>
    obtain ⟨notices, refusal?⟩ := rest
    have moved := (aside read breaker notices).trans stood
    cases refusal? with
    | some refusal =>
      rw [waits.refused breaker notices refusal timed]
      exact ⟨waited, leads, moved, heldUp⟩
    | none =>
      obtain ⟨enough, asks⟩ := waits.again breaker notices timed
      obtain ⟨played, more, stands, left⟩ := earlier.allowOther _ other waited apart moved enough
      rw [(waits.kept.trans (.change read other breaker notices)).time] at more
      rw [asks]
      exact ⟨played, leads.trans more, stands, left.trans heldUp⟩
  · cases inquired : (world.breaker other).inquire with
    | mk breaker rest =>
    obtain ⟨notices, inquiry⟩ := rest
    simp only [allowWithin, inquired]
    cases inquiry with
    | granted permit => exact ⟨scene, .refl _ _, (aside _ _ _).trans stands, rfl⟩
    | refused refusal => exact ⟨scene, .refl _ _, (aside _ _ _).trans stands, rfl⟩
    | timing seen openedAt => exact absurd (opened_of_timing inquired) opened

private theorem PlayedWithin.interfere (played : PlayedWithin ref steps) (world : World)
    (interruption : Interruption) (stands : world.breaker ref = scene.breaker)
    (enough : 4 * world.interruptions.length + 2 ≤ steps) :
    ∃ played, Plays ref (world.time ref) scene scene.heldUp (interfere steps world interruption)
      played := by
  obtain ⟨clock, skip, other, verdict⟩ := interruption
  have kept := (keptWithin steps).allow world other
  simp only [World.interfere]
  by_cases same : other = ref
  · subst same
    obtain ⟨asked, ⟨leads, stood, left⟩, ⟨permits, held⟩, _⟩ :=
      played.allow world scene 0 0 stands (.inl enough)
    have stepped := (scene.step_leads .ask (by simp [Turn.reading?])).trans leads
    generalize world.allowWithin steps other = visit at *
    obtain ⟨answer, visited⟩ := visit
    split
    · next permit verdict answered =>
      cases answered
      have holds : asked.permits[permits.length]?.join = some permit := by
        simp [held, Except.toOption]
      obtain ⟨settled, more, stands, gone⟩ := played.resolve visited asked permits.length permit
        verdict stood holds (by have := kept.spent; simp only [] at this; omega)
      rw [kept.time] at more
      have settles :=
        (asked.step_leads (.settle permits.length verdict) (by simp [Turn.reading?])).trans more
      exact ⟨settled, stepped.trans settles, stands, gone.trans left⟩
    · exact ⟨asked, stepped, stood, left⟩
  · obtain ⟨asked, leads, stood, left⟩ :=
      played.allowOther world other scene same stands (.inl enough)
    generalize world.allowWithin steps other = visit at *
    obtain ⟨answer, visited⟩ := visit
    split
    · next permit verdict _ =>
      obtain ⟨settled, more, stands, gone⟩ := played.resolveOther visited other asked permit
        verdict same stood (by have := kept.spent; simp only [] at this; omega)
      rw [kept.time] at more
      exact ⟨settled, leads.trans more, stands, gone.trans left⟩
    · exact ⟨asked, leads, stood, left⟩

private theorem PlayedWithin.read_succ (earlier : PlayedWithin ref steps) (clock : Ref Clock)
    (stands : world.breaker ref = scene.breaker)
    (enough : 4 * world.interruptions.length + 1 ≤ steps + 1) :
    ∃ played, Plays ref (world.time ref) scene scene.heldUp
      (world.readWithin (steps + 1) clock).2 played := by
  obtain ⟨after, read, ⟨interruptions, _, rfl⟩ |
    ⟨fewer, interruptions, interruption, same, spent, rfl⟩⟩ := readWithin_cases (steps + 1) world clock
  · rw [read]
    exact ⟨scene, .refl _ _, stands, rfl⟩
  · rw [read]
    cases same
    exact earlier.interfere { world with interruptions } interruption stands
      (by simp only []; omega)

private theorem PlayedWithin.resolve_succ (earlier : PlayedWithin ref steps) (caller : Nat)
    (permit : Permit) (verdict : Verdict) (stands : world.breaker ref = scene.breaker)
    (held : scene.permits[caller]?.join = some permit)
    (enough : 4 * world.interruptions.length + 2 ≤ steps + 1) :
    ∃ played, Plays ref (world.time ref) (scene.settle caller verdict) scene.heldUp
      (world.resolveWithin (steps + 1) ref permit verdict) played := by
  have changed (world : World) (breaker : Breaker) (notices : List Notice) :
      ((world.setBreaker ref breaker).notify notices).breaker ref = breaker :=
    (world.breaker_change ref ref breaker notices).trans (if_pos rfl)
  simp only [Scene.settle, held]
  cases verdict with
  | success =>
    simp only [Scene.giveBack, resolveWithin, ← stands]
    exact ⟨_, .refl _ _, changed _ _ _, rfl⟩
  | none =>
    simp only [Scene.giveBack, resolveWithin, ← stands]
    exact ⟨_, .refl _ _, changed _ _ [], rfl⟩
  | failure =>
    simp only [Scene.giveBack, resolveWithin, ← stands]
    cases failed : (world.breaker ref).fail permit with
    | mk breaker opening? =>
      cases opening? with
      | none => exact ⟨_, .refl _ _, changed _ _ [], rfl⟩
      | some opening =>
        have noted : world.Keeps (world.setBreaker ref breaker) := .change world ref breaker []
        have opens : (world.setBreaker ref breaker).breaker ref = breaker := changed world breaker []
        simp only []
        generalize world.setBreaker ref breaker = asked at *
        have room := noted.spent
        obtain ⟨waited, leads, stood, heldUp⟩ := earlier.read asked (asked.circuits.get ref).clock
          { scene with
            breaker
            permits := scene.permits.set caller none
            heldUp := .opening opening scene.record.length :: scene.heldUp
            record := scene.record ++ [⟨.settle caller .failure 0, none⟩]
            notices := scene.notices ++ [] } opens (by omega)
        have reads : _ = asked.time ref := readWithin_fst steps asked (asked.circuits.get ref).clock
        generalize asked.readWithin steps (asked.circuits.get ref).clock = reading at *
        obtain ⟨time, read⟩ := reading
        rw [noted.time] at leads reads
        have stepped := leads.trans
          (waited.step_leads (.read time) (by simpa [Turn.reading?] using reads))
        rw [Scene.step, Scene.read_stamped heldUp, ← stood] at stepped
        exact ⟨_, stepped, changed _ _ _, rfl⟩

private theorem PlayedWithin.resolveOther_succ (earlier : PlayedWithin ref steps)
    {other : Ref Circuit} (apart : other ≠ ref) (permit : Permit) (verdict : Verdict)
    (stands : world.breaker ref = scene.breaker)
    (enough : 4 * world.interruptions.length + 2 ≤ steps + 1) :
    ∃ played, Plays ref (world.time ref) scene scene.heldUp
      (world.resolveWithin (steps + 1) other permit verdict) played := by
  have aside (world : World) (breaker : Breaker) (notices : List Notice) :
      ((world.setBreaker other breaker).notify notices).breaker ref = world.breaker ref :=
    (world.breaker_change other ref breaker notices).trans (if_neg apart)
  cases verdict with
  | success =>
    simp only [resolveWithin]
    exact ⟨scene, .refl _ _, (aside _ _ _).trans stands, rfl⟩
  | none => exact ⟨scene, .refl _ _, (aside _ _ []).trans stands, rfl⟩
  | failure =>
    simp only [resolveWithin]
    cases failed : (world.breaker other).fail permit with
    | mk breaker opening? =>
      cases opening? with
      | none => exact ⟨scene, .refl _ _, (aside _ _ []).trans stands, rfl⟩
      | some opening =>
        have noted : world.Keeps (world.setBreaker other breaker) := .change world other breaker []
        have opens : (world.setBreaker other breaker).breaker ref = scene.breaker :=
          (aside world breaker []).trans stands
        simp only []
        generalize world.setBreaker other breaker = asked at *
        have room := noted.spent
        obtain ⟨waited, leads, stood, heldUp⟩ :=
          earlier.read asked (asked.circuits.get other).clock scene opens (by omega)
        rw [noted.time] at leads
        exact ⟨waited, leads, (aside _ _ _).trans stood, heldUp⟩

private theorem playedWithin (ref : Ref Circuit) (steps : Nat) : PlayedWithin ref steps := by
  induction steps with
  | zero =>
    refine ⟨?_, ?_, ?_, ?_, ?_⟩
    · intro world clock scene stands enough
      omega
    · intro world scene now readings stands enough
      simp [Enough] at enough
    · intro world other scene apart stands enough
      simp [Enough] at enough
    · intro world scene caller permit verdict stands held enough
      omega
    · intro world other scene permit verdict apart stands enough
      omega
  | succ steps earlier =>
    exact ⟨fun _ clock _ stands enough => earlier.read_succ clock stands enough,
      fun _ _ now readings stands enough => earlier.allow_succ now readings stands enough,
      fun _ _ _ apart stands enough => earlier.allowOther_succ apart stands enough,
      fun _ _ caller permit verdict stands held enough =>
        earlier.resolve_succ caller permit verdict stands held enough,
      fun _ _ _ permit verdict apart stands enough =>
        earlier.resolveOther_succ apart permit verdict stands enough⟩

/-- Whatever interruptions are set, asking a breaker of a world is to ask in a scene: the answer is
the last of the record, and nobody is left held up. -/
theorem allow_plays (stands : world.breaker ref = scene.breaker) :
    ∃ played, (scene.step .ask).Leads (world.time ref) played ∧
      (world.allow ref).2.breaker ref = played.breaker ∧ played.heldUp = scene.heldUp ∧
      ∃ record moment, played.record = record ++ [⟨.ask moment, some (world.allow ref).1⟩] := by
  obtain ⟨played, ⟨leads, stands, heldUp⟩, _, answered⟩ :=
    (playedWithin ref world.steps).allow world scene 0 0 stands
      (.inl (Nat.add_le_add_left (by decide) _))
  exact ⟨played, leads, stands, heldUp, answered⟩

/-- Whatever interruptions are set, returning a permit to a breaker of a world is what a caller does
who holds it in a scene. -/
theorem resolve_plays {caller : Nat} {permit : Permit} (stands : world.breaker ref = scene.breaker)
    (held : scene.permits[caller]?.join = some permit) (verdict : Verdict) :
    ∃ played, (scene.step (.settle caller verdict)).Leads (world.time ref) played ∧
      (world.resolve ref permit verdict).breaker ref = played.breaker ∧
      played.heldUp = scene.heldUp := by
  obtain ⟨played, leads, stands, heldUp⟩ :=
    (playedWithin ref world.steps).resolve world scene caller permit verdict stands held
      (Nat.add_le_add_left (by decide) _)
  exact ⟨played, leads, stands, heldUp⟩

end Played

end World

end AdmissionControl
