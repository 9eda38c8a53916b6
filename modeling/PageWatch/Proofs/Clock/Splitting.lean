import PageWatch.Proofs.Clock.Moments

/-!
# Moving a clock in two goes

A move of the clock may stop on the way.  The timer that ticks next is the same however far the
clock is to be moved, as long as it is due by then, and no tick sees how far the move goes that it
belongs to.  Where the move stops, the time is seen by nobody: before the next tick, and at the end
of the move, it is set anew.

So any number of stops makes no difference, and none is better than a stop at every deadline.
-/

namespace PageWatch

variable {τ σ α : Type}

/-! ## More ticks than are needed -/

/-- What is not needed may be allowed. -/
theorem Routine.run_mono {κ : Type} {service : TimerService κ τ}
    {move more : Span → World κ σ → Option (World κ σ)}
    (extends' : ∀ span world after, move span world = some after → more span world = some after)
    {routine : Routine τ σ α} {world : World κ σ} {ended : α × World κ σ}
    (ran : routine.run service move world = some ended) :
    routine.run service more world = some ended := by
  induction routine generalizing world with
  | done result => exact ran
  | look next ih => exact ih _ _ ran
  | put state next ih => exact ih ran
  | schedule interval task next ih => exact ih _ ran
  | cancel handle next ih => exact ih ran
  | clear next ih => exact ih ran
  | advance span next ih =>
      obtain ⟨middle, moved, onward⟩ := Option.bind_eq_some_iff.mp ran
      exact Option.bind_eq_some_iff.mpr ⟨middle, extends' span world middle moved, ih onward⟩

namespace World

variable {behaviour : Behaviour τ σ}

/-- A tick of a due timer, with the moves of the clock in it, and what it leaves behind. -/
def tick? (behaviour : Behaviour τ σ) (allowed : Nat) (due : Clock.Due τ)
    (world : Clocked τ σ) : Option (Clocked τ σ) :=
  ((behaviour due.handle due.task).run Clock.service (advance Clock.service behaviour allowed)
    { world with timers := world.timers.taking due }).map fun ended =>
      { ended.2 with timers := ended.2.timers.putBack due.handle ended.1 }

theorem drain_of_nextDue? {target : Instant} {world : Clocked τ σ} {due : Clock.Due τ}
    (next : world.timers.nextDue? target = some due) (allowed : Nat) :
    drain Clock.service behaviour (allowed + 1) target world =
      (tick? behaviour allowed due world).bind
        (drain Clock.service behaviour allowed target) := by
  rw [drain, Clock.takeDue?_eq, next, tick?, Option.bind_map]
  rfl

theorem tick?_mono {fewer more : Nat}
    (moves : ∀ span inner after, advance Clock.service behaviour fewer span inner = some after →
      advance Clock.service behaviour more span inner = some after)
    {due : Clock.Due τ} {world after : Clocked τ σ}
    (ticked : tick? behaviour fewer due world = some after) :
    tick? behaviour more due world = some after := by
  obtain ⟨ended, ran, back⟩ := Option.map_eq_some_iff.mp ticked
  exact Option.map_eq_some_iff.mpr ⟨ended, Routine.run_mono moves ran, back⟩

theorem drain_mono {fewer more : Nat} (le : fewer ≤ more) {target : Instant}
    {world after : Clocked τ σ}
    (drained : drain Clock.service behaviour fewer target world = some after) :
    drain Clock.service behaviour more target world = some after := by
  induction fewer generalizing more target world after with
  | zero => exact absurd drained nofun
  | succ fewer ih =>
      obtain ⟨more, rfl⟩ := Nat.exists_eq_add_of_le' (Nat.le_trans (Nat.le_add_left 1 _) le)
      have le := Nat.le_of_succ_le_succ le
      cases next : world.timers.nextDue? target with
      | none =>
          rw [drain_rest next] at drained ⊢
          exact drained
      | some due =>
          rw [drain_of_nextDue? next] at drained ⊢
          obtain ⟨middle, ticked, onward⟩ := Option.bind_eq_some_iff.mp drained
          have ticks := tick?_mono (fun span inner after moved => ih le moved) ticked
          exact Option.bind_eq_some_iff.mpr ⟨middle, ticks, ih le onward⟩

theorem comesTo_drain_iff {target : Instant} {world after : Clocked τ σ} :
    ComesTo (fun allowed => drain Clock.service behaviour allowed target world) after ↔
      ∃ allowed, drain Clock.service behaviour allowed target world = some after := by
  constructor
  · exact ComesTo.once
  · rintro ⟨allowed, drained⟩
    exact ⟨allowed, fun more le => drain_mono le drained⟩

theorem comesTo_tick? {allowed : Nat} {due : Clock.Due τ} {world after : Clocked τ σ}
    (ticked : tick? behaviour allowed due world = some after) :
    ComesTo (fun allowed => tick? behaviour allowed due world) after :=
  ⟨allowed, fun _ le => tick?_mono (fun _ _ _ => drain_mono le) ticked⟩

end World

/-! ## The timer that ticks next -/

namespace Clock

/-- Timers that are due later than the first do not come before it. -/
theorem Due.foldl_earlier_filter {target : Instant} {first : Due τ}
    (inTime : first.deadline ≤ target) (more : List (Due τ)) :
    more.foldl earlier first =
      (more.filter fun due => due.deadline ≤ target).foldl earlier first := by
  induction more generalizing first with
  | nil => rfl
  | cons second more ih =>
      by_cases early : second.deadline ≤ target
      · have next : (earlier first second).deadline ≤ target := by
          rw [earlier]
          split
          · exact early
          · exact inTime
        simp only [List.foldl_cons, List.filter_cons, early, decide_true, if_true]
        exact ih next
      · have kept : earlier first second = first := if_neg (by lia)
        simp only [List.foldl_cons, List.filter_cons, early, decide_false, kept]
        exact ih inTime

/-- Nor do those that stand in front of it. -/
theorem Due.foldl_earlier_late {target : Instant} {late first : Due τ} {rest : List (Due τ)}
    (isLate : target < late.deadline) {more : List (Due τ)}
    (inTime : (more.filter fun due => due.deadline ≤ target) = first :: rest) :
    more.foldl earlier late = rest.foldl earlier first := by
  induction more generalizing late with
  | nil => exact absurd inTime nofun
  | cons second more ih =>
      by_cases early : second.deadline ≤ target
      · simp only [List.filter_cons, early, decide_true, if_true] at inTime
        obtain ⟨rfl, rfl⟩ := List.cons.inj inTime
        have next : earlier late second = second := if_pos (by lia)
        rw [List.foldl_cons, next]
        exact Due.foldl_earlier_filter early more
      · simp only [List.filter_cons, early, decide_false] at inTime
        have next : target < (earlier late second).deadline := by
          rw [earlier]
          split <;> lia
        exact ih next inTime

/-- The timer that ticks next on the way to an instant is the one that ticks next on the way
beyond it. -/
theorem nextDue?_of_le {clock : Clock τ} {first second : Instant} (le : first ≤ second)
    {due : Due τ} (next : clock.nextDue? first = some due) :
    clock.nextDue? second = some due := by
  have listed : clock.timers.filterMap (Due.ofTimer? first) =
      (clock.timers.filterMap (Due.ofTimer? second)).filter
        fun due => due.deadline ≤ first := by
    rw [List.filter_filterMap]
    congr 1
    funext entry
    obtain ⟨handle, interval, deadline, task⟩ := entry
    cases task with
    | none => rfl
    | some task =>
        simp only [Due.ofTimer?]
        by_cases early : deadline ≤ first
        · have inTime : deadline ≤ second := Nat.le_trans early le
          simp [early, inTime, Option.filter_some]
        · by_cases inTime : deadline ≤ second <;> simp [early, inTime, Option.filter_some]
  rw [nextDue?] at next ⊢
  cases all : clock.timers.filterMap (Due.ofTimer? second) with
  | nil => simp [listed, all] at next
  | cons head more =>
      rw [listed, all] at next
      by_cases early : head.deadline ≤ first
      · simp only [List.filter_cons, early, decide_true, if_true] at next
        rw [← next]
        exact congrArg some (Due.foldl_earlier_filter early more)
      · simp only [List.filter_cons, early, decide_false] at next
        cases others : more.filter fun due => due.deadline ≤ first with
        | nil => simp [others] at next
        | cons earliest rest =>
            simp only [others] at next
            rw [← next]
            exact congrArg some (Due.foldl_earlier_late (Nat.not_le.mp early) others)

end Clock

/-! ## Stops -/

namespace World

variable {behaviour : Behaviour τ σ} {first second target : Instant}

/-- A move of the clock that has stopped on the way goes on to where it would have gone. -/
theorem drain_drain (le : first ≤ second) {allowed : Nat} {world middle after : Clocked τ σ}
    (stopped : drain Clock.service behaviour allowed first world = some middle)
    (onward : ComesTo (fun more => drain Clock.service behaviour more second middle) after) :
    ComesTo (fun more => drain Clock.service behaviour more second world) after := by
  induction allowed generalizing world with
  | zero => exact absurd stopped nofun
  | succ allowed ih =>
      cases next : world.timers.nextDue? first with
      | none =>
          rw [drain_rest next, Option.some.injEq] at stopped
          subst stopped
          simpa only [drain_atInstant] using onward
      | some due =>
          rw [drain_of_nextDue? next] at stopped
          obtain ⟨ticked, ticks, rests⟩ := Option.bind_eq_some_iff.mp stopped
          exact ((comesTo_tick? ticks).bind (ih rests)).succ
            (drain_of_nextDue? (Clock.nextDue?_of_le le next))

/-- A move of the clock that comes to an end may stop anywhere on the way.  If something ticks
before it stops, less is to be done afterwards. -/
theorem exists_stop (le : first ≤ second) {allowed : Nat} {world after : Clocked τ σ}
    (drained : drain Clock.service behaviour allowed second world = some after) :
    ∃ middle rest, drain Clock.service behaviour allowed first world = some middle ∧
      drain Clock.service behaviour rest second middle = some after ∧ rest ≤ allowed ∧
      (world.timers.nextDue? first ≠ none → rest < allowed) := by
  induction allowed generalizing world with
  | zero => exact absurd drained nofun
  | succ allowed ih =>
      cases next : world.timers.nextDue? first with
      | none =>
          refine ⟨world.arrive first, allowed + 1, drain_rest next allowed, ?_, Nat.le_refl _,
            fun ticks => absurd rfl ticks⟩
          rw [drain_atInstant]
          exact drained
      | some due =>
          rw [drain_of_nextDue? (Clock.nextDue?_of_le le next)] at drained
          obtain ⟨ticked, ticks, onward⟩ := Option.bind_eq_some_iff.mp drained
          obtain ⟨middle, rest, stops, rests, fewer, -⟩ := ih onward
          refine ⟨middle, rest, ?_, rests, Nat.le_succ_of_le fewer,
            fun _ => Nat.lt_succ_of_le fewer⟩
          rw [drain_of_nextDue? next]
          exact Option.bind_eq_some_iff.mpr ⟨ticked, ticks, stops⟩

/-- Going from deadline to deadline, as long as they do not lie beyond an instant, and from the last
of them to that instant. -/
inductive Hops (behaviour : Behaviour τ σ) (target : Instant) :
    Clocked τ σ → Clocked τ σ → Prop where
  | last {world after : Clocked τ σ}
    (beyond : ∀ deadline, world.timers.nextDeadline? = some deadline → target < deadline)
    (moves : ComesTo (fun allowed =>
      advance Clock.service behaviour allowed (target - world.timers.now) world) after) :
    Hops behaviour target world after
  | hop {world middle after : Clocked τ σ} {deadline : Instant}
    (next : world.timers.nextDeadline? = some deadline) (inTime : deadline ≤ target)
    (moves : ComesTo (fun allowed =>
      advance Clock.service behaviour allowed (deadline - world.timers.now) world) middle)
    (onward : Hops behaviour target middle after) : Hops behaviour target world after

/-- Whoever hops gets where a move of the clock goes. -/
theorem Hops.comesTo {world after : Clocked τ σ} (hops : Hops behaviour target world after)
    (begun : world.timers.now ≤ target) :
    ComesTo (fun allowed => drain Clock.service behaviour allowed target world) after := by
  induction hops with
  | last beyond moves =>
      simp only [advance, Nat.add_sub_of_le begun] at moves
      exact moves
  | @hop world middle after deadline next inTime moves onward ih =>
      obtain ⟨allowed, moved⟩ := moves.once
      have early : world.timers.now + (deadline - world.timers.now) ≤ target := by lia
      exact drain_drain early moved (ih (now_drain moved ▸ early))

/-- On a clock on which no tick is under way, a move of the clock gets where hops go. -/
theorem Hops.of_drain {allowed : Nat} {world after : Clocked τ σ}
    (consistent : world.timers.Consistent []) (begun : world.timers.now ≤ target)
    (drained : drain Clock.service behaviour allowed target world = some after) :
    Hops behaviour target world after := by
  induction allowed using Nat.strongRecOn generalizing world with
  | _ allowed ih =>
      by_cases reached : ∃ deadline, world.timers.nextDeadline? = some deadline ∧
          deadline ≤ target
      · obtain ⟨deadline, next, inTime⟩ := reached
        let stop := world.timers.now + (deadline - world.timers.now)
        have early : stop ≤ target := by lia
        obtain ⟨middle, rest, stops, rests, -, fewer⟩ := exists_stop early drained
        -- The timer of the next deadline ticks, so less is left to be done.
        have ticks : world.timers.nextDue? stop ≠ none := by
          intro quiet
          obtain ⟨⟨entry, member, due_eq⟩, -⟩ := Clock.nextDeadline?_eq_some.mp next
          have late := Clock.lt_due_of_nextDue? quiet entry member
            (consistent.settled entry member)
          lia
        refine .hop next inTime (comesTo_drain_iff.mpr ⟨allowed, stops⟩) ?_
        exact ih rest (fewer ticks) (consistent_drain consistent stops)
          (now_drain stops ▸ early) rests
      · refine .last (fun deadline next => ?_) ?_
        · exact Nat.lt_of_not_le fun inTime => reached ⟨deadline, next, inTime⟩
        · simp only [advance, Nat.add_sub_of_le begun]
          exact comesTo_drain_iff.mpr ⟨allowed, drained⟩

end World

/-- A move of a clock may be split anywhere.  Whatever the clock and its ticks are, two moves come
to an end if and only if the one that takes them together does, and then they end in the same world,
with the same chronicle: the same ticks at the same times, moves of the clock in them included.  So
do moves from deadline to deadline, if no tick is under way at first; and if some is, they still end
nowhere else. -/
theorem World.advance_splits (behaviour : Behaviour τ σ) (world : Clocked τ (σ × History)) :
    (∀ first second after,
      ComesTo (fun allowed =>
          (advance Clock.service behaviour.chronicled allowed first world).bind
            (advance Clock.service behaviour.chronicled allowed second)) after ↔
        ComesTo (fun allowed =>
          advance Clock.service behaviour.chronicled allowed (first + second) world) after) ∧
    (∀ span after, Hops behaviour.chronicled (world.timers.now + span) world after →
      ComesTo (fun allowed => advance Clock.service behaviour.chronicled allowed span world)
        after) ∧
    (world.timers.Consistent [] → ∀ span after,
      ComesTo (fun allowed => advance Clock.service behaviour.chronicled allowed span world)
          after →
        Hops behaviour.chronicled (world.timers.now + span) world after) ∧
    ∀ allowed span,
      (advance Clock.service behaviour.chronicled allowed span world).map forget =
        advance Clock.service behaviour allowed span world.forget := by
  refine ⟨fun first second after => ⟨fun split => ?_, fun whole => ?_⟩, ?_, ?_, ?_⟩
  · obtain ⟨allowed, moved⟩ := split.once
    obtain ⟨middle, one, other⟩ := Option.bind_eq_some_iff.mp moved
    have total : middle.timers.now + second = world.timers.now + (first + second) := by
      rw [now_drain one, Nat.add_assoc]
    rw [advance, total] at other
    exact drain_drain (by lia) one (comesTo_drain_iff.mpr ⟨allowed, other⟩)
  · obtain ⟨allowed, moved⟩ := whole.once
    have early : world.timers.now + first ≤ world.timers.now + (first + second) := by lia
    obtain ⟨middle, rest, one, other, -⟩ := exists_stop early moved
    have total : middle.timers.now + second = world.timers.now + (first + second) := by
      rw [now_drain one, Nat.add_assoc]
    refine ComesTo.bind (comesTo_drain_iff.mpr ⟨allowed, one⟩) ?_
    simp only [advance, total]
    exact comesTo_drain_iff.mpr ⟨rest, other⟩
  · exact fun span after hops => hops.comesTo (Nat.le_add_right _ span)
  · intro consistent span after moves
    obtain ⟨allowed, moved⟩ := moves.once
    exact .of_drain consistent (Nat.le_add_right _ span) moved
  · intro allowed span
    exact drain_mirrors Clock.service behaviour.mirrors_chronicled allowed _ world

end PageWatch
