import PageWatch.Proofs.Clock.Limit
import PageWatch.Proofs.Session.Ending

/-!
# Sessions with a limit on time

What a session shows on a clock that is moved by hand is what it shows without any limit on time,
unless it meets a time that cannot be kept.  As sessions come to an end, it is one or the other.
-/

namespace PageWatch.Session

variable (setup : Setup)

theorem runKept_cons (service : TimerService (Clock Task) Task) (ticks : Nat) (action : Action)
    (more : List Action) (world : World.Clocked Task State) :
    runKept setup service ticks (action :: more) world =
      world.performKept service (Work.tick setup) ticks (Work.perform setup action) >>= fun ended =>
        runKept setup service ticks more (between ended.2) >>= fun steps =>
          .ok (seenOnClock ended.1 ended.2 :: steps) := rfl

theorem curbed_runKept (service : TimerService (Clock Task) Task) (ticks : Nat)
    (actions : List Action) (world : World.Clocked Task State) :
    Curbed (runKept setup service ticks actions world)
      (runOnClock setup service ticks actions world) := by
  induction actions generalizing world with
  | nil => exact .ended _
  | cons action more ih =>
      refine (World.curbed_performKept service (Work.tick setup) ticks _ world).bind fun ended => ?_
      exact (ih (between ended.2)).bind fun steps => .ended _

/-- What a session shows is what it shows without any limit on time, unless it meets a time that
cannot be kept. -/
theorem curbed_onKeptClock (ignoreCancel : Bool) (page : Page) (actions : List Action) :
    Curbed (onKeptClock setup ignoreCancel page actions)
      (onClock setup ignoreCancel page actions) :=
  curbed_runKept setup _ _ actions _

theorem extends_runKept (service : TimerService (Clock Task) Task) {fewer more : Nat}
    (le : fewer ≤ more) (actions : List Action) (world : World.Clocked Task State) :
    Extends (runKept setup service fewer actions world)
      (runKept setup service more actions world) := by
  induction actions generalizing world with
  | nil => exact .same _
  | cons action others ih =>
      rw [runKept_cons, runKept_cons]
      refine (World.extends_performKept service _ le _ world).bind fun ended => ?_
      exact (ih (between ended.2)).bind fun steps => .same _

/-- A session meets no time that cannot be kept. -/
abbrev Lasts (actions : List Action) (world : World.Clocked Task State) : Prop :=
  Sound fun ticks => runKept setup Clock.service ticks actions world

variable {setup}

/-- A session that ends with a limit on time never meets it. -/
theorem Lasts.of_ends {actions : List Action} {world : World.Clocked Task State} {ticks : Nat}
    (ends : (runKept setup Clock.service ticks actions world).toOption.isSome = true) :
    Lasts setup actions world := by
  cases result : runKept setup Clock.service ticks actions world with
  | ok steps =>
      exact Sound.of_ok (fun _ _ le => extends_runKept setup Clock.service le actions world) result
  | error halt => simp [result, Except.toOption] at ends

/-- A session that meets no time that cannot be kept shows what it shows without a limit. -/
theorem Lasts.comesTo {actions : List Action} {world : World.Clocked Task State}
    (lasts : Lasts setup actions world) {steps : List ClockStep}
    (comes : ComesTo (fun ticks => runOnClock setup Clock.service ticks actions world) steps) :
    ComesTo (fun ticks => (runKept setup Clock.service ticks actions world).toOption) steps := by
  obtain ⟨limit, ends⟩ := comes
  refine ⟨limit, fun ticks enough => ?_⟩
  have curbed := curbed_runKept setup Clock.service ticks actions world
  exact (curbed.toOption_eq (lasts ticks)).trans (ends ticks enough)

/-- A session meets no time that cannot be kept if its first action does not and the rest does
not. -/
theorem lasts_cons {action : Action} {more : List Action} {world after : World.Clocked Task State}
    {outcome : Outcome}
    (performs : ComesTo (fun ticks => world.perform Clock.service (Work.tick setup) ticks
      (Work.perform setup action)) (outcome, after)) :
    Lasts setup (action :: more) world ↔
      Sound (fun ticks => world.performKept Clock.service (Work.tick setup) ticks
        (Work.perform setup action)) ∧
      Lasts setup more (between after) := by
  obtain ⟨limit, ends⟩ := performs
  have keptEnds (first : Sound fun ticks => world.performKept Clock.service (Work.tick setup) ticks
      (Work.perform setup action)) (ticks : Nat) (enough : limit ≤ ticks) :
      world.performKept Clock.service (Work.tick setup) ticks (Work.perform setup action) =
        .ok (outcome, after) :=
    (World.curbed_performKept Clock.service (Work.tick setup) ticks _ world).eq_ok
      (ends ticks enough) (first ticks)
  have seen (ticks : Nat) :
      (runKept setup Clock.service ticks more (between after) >>= fun steps =>
        .ok (seenOnClock outcome after :: steps)) = .error .overflow ↔
      runKept setup Clock.service ticks more (between after) = .error .overflow :=
    bind_ok_eq_overflow _
  simp only [Lasts, runKept_cons]
  constructor
  · intro lasts
    have first : Sound fun ticks => world.performKept Clock.service (Work.tick setup) ticks
        (Work.perform setup action) := fun ticks => ne_overflow_of_bind (lasts ticks)
    have onward := lasts.bind_right (fun ended _ _ le =>
      (extends_runKept setup Clock.service le more (between ended.2)).bind fun _ => .same _)
      (keptEnds first)
    exact ⟨first, fun ticks overflows => onward ticks ((seen ticks).mpr overflows)⟩
  · rintro ⟨first, lasts⟩
    refine Sound.bind (fun _ _ le => World.extends_performKept _ _ le _ _) (keptEnds first) ?_
    exact fun ticks overflows => lasts ticks ((seen ticks).mp overflows)

end PageWatch.Session
