import Mathlib.Data.List.Induction
import PageWatch.Proofs.Clock.Punctuality

/-!
# Stopped timers

A timer that has been cancelled or cleared never ticks again, and no other timer gets its handle.
This holds of every program, also of one whose ticks move the clock themselves, so that several
ticks are under way at once.  What carries it is that the clock has exactly the timers that the
history says are live: scheduled, and not stopped since.

As a consequence, a request to cancel any other handle has no effect.  `Routine.sparing` leaves
such requests out, and the run is the same.
-/

namespace PageWatch

variable {τ σ α : Type}

namespace History

/-! ## Live timers -/

/-- The live timers after something has happened. -/
def liveStep (live : List Handle) : Instant × Happening → List Handle
  | (_, .scheduled handle _) => live ++ [handle]
  | (_, .cancelled handle) => live.filter (· != handle)
  | (_, .cleared) => []
  | _ => live

/-- The timers that have been scheduled and not been stopped since, in order. -/
def live (history : History) : List Handle := history.foldl liveStep []

@[simp] theorem live_snoc (history : History) (entry : Instant × Happening) :
    live (history ++ [entry]) = liveStep (live history) entry := by
  simp [live]

theorem undisturbed_snoc {handle : Handle} {history : History} {entry : Instant × Happening} :
    Undisturbed handle (history ++ [entry]) ↔
      Undisturbed handle history ∧ entry.2 ≠ .cancelled handle ∧ entry.2 ≠ .cleared := by
  simp only [Undisturbed, List.forall_mem_append, List.forall_mem_singleton]

/-- What is live after something has happened has been scheduled by it, or was live before and has
not been stopped by it. -/
theorem mem_liveStep {live : List Handle} {handle : Handle} {entry : Instant × Happening} :
    handle ∈ liveStep live entry ↔
      (∃ interval, entry.2 = .scheduled handle interval) ∨
        handle ∈ live ∧ entry.2 ≠ .cancelled handle ∧ entry.2 ≠ .cleared := by
  obtain ⟨now, happening⟩ := entry
  cases happening with
  | looked | ticked | departed | arrived | cleared => simp [liveStep]
  | scheduled other interval => simp [liveStep, or_comm, @eq_comm _ handle]
  | cancelled other => simp [liveStep, @eq_comm _ handle]

/-- A timer is live if it has been scheduled and nothing has stopped it since. -/
theorem mem_live {history : History} {handle : Handle} :
    handle ∈ history.live ↔
      ∃ before start interval after,
        history = before ++ (start, .scheduled handle interval) :: after ∧
          Undisturbed handle after := by
  induction history using List.reverseRecOn with
  | nil => simp [live]
  | append_singleton history entry ih =>
      rw [live_snoc, mem_liveStep, ih]
      constructor
      · rintro (⟨interval, fresh⟩ | ⟨⟨before, start, interval, after, rfl, undisturbed⟩, kept⟩)
        · exact ⟨history, entry.1, interval, [], by rw [← fresh], by simp [Undisturbed]⟩
        · exact ⟨before, start, interval, after ++ [entry], by simp,
            undisturbed_snoc.mpr ⟨undisturbed, kept⟩⟩
      · rintro ⟨before, start, interval, after, split, undisturbed⟩
        rcases snoc_cases split with ⟨-, rfl, -⟩ | ⟨rest, rfl, earlier⟩
        · exact .inl ⟨interval, rfl⟩
        · obtain ⟨undisturbed, kept⟩ := undisturbed_snoc.mp undisturbed
          exact .inr ⟨⟨before, start, interval, rest, earlier, undisturbed⟩, kept⟩

/-! ## Lawful histories -/

/-- What may happen next: only live timers tick, and no handle is used again. -/
def Permits (history : History) : Happening → Prop
  | .ticked handle => handle ∈ history.live
  | .scheduled handle _ =>
      ∀ time former interval, (time, .scheduled former interval) ∈ history →
        former.number < handle.number
  | _ => True

/-- A history in which everything is permitted by what was before it. -/
def Lawful (history : History) : Prop :=
  ∀ (past : History) entry future, history = past ++ entry :: future → past.Permits entry.2

theorem lawful_nil : Lawful [] := by
  intro past entry future split
  simp at split

theorem Lawful.snoc {history : History} {entry : Instant × Happening} (lawful : history.Lawful)
    (permitted : history.Permits entry.2) : (history ++ [entry]).Lawful := by
  intro past other future split
  rcases snoc_cases split with ⟨rfl, rfl, -⟩ | ⟨rest, -, earlier⟩
  · exact permitted
  · exact lawful past other rest earlier

/-- A history in which no timer comes back to life, and in which handles are unmistakable. -/
structure Mortal (history : History) : Prop where
  /-- Once a timer has been cancelled or cleared, no tick of it begins. -/
  stopped : ∀ (past : History) start handle interval middle now stop future,
    history = past ++ (start, .scheduled handle interval) :: (middle ++ (now, stop) :: future) →
    stop = .cancelled handle ∨ stop = .cleared →
    ∀ time, (time, .ticked handle) ∉ future
  /-- Only a timer that has been scheduled ticks. -/
  known : ∀ (past : History) now handle future, history = past ++ (now, .ticked handle) :: future →
    ∃ start interval, (start, .scheduled handle interval) ∈ past
  /-- A timer gets a handle that no timer has had before. -/
  distinct : ∀ (past : History) start handle interval future,
    history = past ++ (start, .scheduled handle interval) :: future →
    ∀ time former, (time, .scheduled handle former) ∉ past

/-- In a lawful history, timers are mortal. -/
theorem Lawful.mortal {history : History} (lawful : history.Lawful) : history.Mortal where
  stopped := by
    rintro past start handle interval middle now stop future split stops time member
    obtain ⟨between, rest, rfl⟩ := List.append_of_mem member
    have whole : history = (past ++ (start, .scheduled handle interval) :: middle) ++
        (now, stop) :: between ++ (time, .ticked handle) :: rest := by
      simp [split]
    -- The tick says that its timer has been scheduled and not been stopped since.
    obtain ⟨before, again, length, after, earlier, undisturbed⟩ :=
      mem_live.mp (lawful _ (time, .ticked handle) rest whole)
    rcases List.append_eq_append_iff.mp earlier with ⟨more, rfl, -⟩ | ⟨more, -, tail⟩
    · -- Then it has been scheduled twice.
      rw [earlier, List.append_assoc] at whole
      have fresh := lawful _ (again, .scheduled handle length) _ whole
      exact Nat.lt_irrefl _ (fresh start handle interval (by simp))
    · -- Or it has been stopped since.
      rcases more with _ | ⟨first, more⟩
      · obtain ⟨same, -⟩ := List.cons.inj tail
        obtain rfl := congrArg Prod.snd same
        simp at stops
      · obtain ⟨-, rfl⟩ := List.cons.inj tail
        have kept := undisturbed (now, stop) (by simp)
        exact stops.elim kept.1 kept.2
  known := by
    intro past now handle future split
    obtain ⟨before, start, interval, after, rfl, -⟩ :=
      mem_live.mp (lawful past (now, .ticked handle) future split)
    exact ⟨start, interval, by simp⟩
  distinct := by
    intro past start handle interval future split time former member
    exact Nat.lt_irrefl _
      (lawful past (start, .scheduled handle interval) future split time handle former member)

end History

/-! ## Requests that have no effect -/

/-- The same routine, without the requests to cancel timers that are not live. -/
def Routine.sparing : Routine τ (σ × History) α → Routine τ (σ × History) α
  | done result => done result
  | look next => look fun now state => (next now state).sparing
  | put state next => put state next.sparing
  | schedule interval task next => schedule interval task fun handle => (next handle).sparing
  | cancel handle next =>
      look fun _ state => if handle ∈ state.2.live then cancel handle next.sparing else next.sparing
  | clear next => clear next.sparing
  | advance span next => advance span next.sparing

/-- The same behaviour, without the requests to cancel timers that are not live. -/
def Behaviour.sparing (behaviour : Behaviour τ (σ × History)) : Behaviour τ (σ × History) :=
  fun handle task => (behaviour handle task).sparing

/-! ## What a clock and its history agree on -/

/-- Among entries with different handles, the one of a handle is found. -/
theorem lookup_of_mem {α : Type} {entries : List (Handle × α)}
    (nodup : (entries.map Prod.fst).Nodup) {handle : Handle} {value : α}
    (member : (handle, value) ∈ entries) : entries.lookup handle = some value := by
  induction entries with
  | nil => exact absurd member List.not_mem_nil
  | cons entry entries ih =>
      obtain ⟨key, other⟩ := entry
      rw [List.map_cons, List.nodup_cons] at nodup
      cases member with
      | head => simp
      | tail _ member =>
          have apart : (handle == key) = false := by
            have different : handle ≠ key := fun same =>
              nodup.1 (List.mem_map.mpr ⟨_, member, same⟩)
            simpa using different
          rw [List.lookup_cons, apart]
          exact ih nodup.2 member

namespace Clock

def handles (clock : Clock τ) : List Handle := clock.timers.map Prod.fst

variable {clock : Clock τ}

@[simp] theorem handles_update (handle : Handle) (change : Timer τ → Timer τ) :
    (clock.update handle change).handles = clock.handles := by
  simp only [handles, update, List.map_map]
  refine List.map_congr_left fun entry _ => ?_
  simp only [Function.comp]
  split <;> rfl

@[simp] theorem handles_taking (due : Due τ) : (clock.taking due).handles = clock.handles :=
  handles_update due.handle _

@[simp] theorem handles_putBack (handle : Handle) (task : τ) :
    (clock.putBack handle task).handles = clock.handles :=
  handles_update handle _

/-- Cancelling a handle that names no timer has no effect. -/
theorem cancel_eq_self {handle : Handle} (unknown : handle ∉ clock.handles) :
    clock.cancel handle = clock := by
  have kept : clock.timers.filter (fun entry => entry.1 != handle) = clock.timers := by
    refine List.filter_eq_self.mpr fun entry member => ?_
    have other : entry.1 ≠ handle := fun same => unknown (same ▸ List.mem_map_of_mem member)
    simpa using other
  rw [cancel, kept]

theorem Due.foldl_earlier_mem (first : Due τ) (more : List (Due τ)) :
    more.foldl earlier first ∈ first :: more := by
  induction more generalizing first with
  | nil => exact .head _
  | cons second more ih =>
      rw [List.foldl_cons]
      rcases List.mem_cons.mp (ih (earlier first second)) with same | member
      · rw [same, earlier]
        split
        · exact .tail _ (.head _)
        · exact .head _
      · exact .tail _ (.tail _ member)

/-- What is due is the task of a timer of the clock. -/
theorem exists_of_nextDue? {target : Instant} {due : Due τ}
    (next : clock.nextDue? target = some due) :
    ∃ timer, (due.handle, timer) ∈ clock.timers ∧ timer.task = some due.task ∧
      timer.due = due.deadline ∧ due.deadline ≤ target := by
  rw [nextDue?] at next
  cases listed : clock.timers.filterMap (Due.ofTimer? target) with
  | nil => simp [listed] at next
  | cons first more =>
      simp only [listed, Option.some.injEq] at next
      have member := Due.foldl_earlier_mem first more
      rw [next, ← listed] at member
      obtain ⟨⟨handle, timer⟩, entryMem, isDue⟩ := List.mem_filterMap.mp member
      obtain ⟨task_eq, rfl, due_eq, inTime⟩ := Due.ofTimer?_eq_some.mp isDue
      exact ⟨timer, entryMem, task_eq, due_eq, inTime⟩

theorem handle_mem_of_nextDue? {target : Instant} {due : Due τ}
    (next : clock.nextDue? target = some due) : due.handle ∈ clock.handles := by
  obtain ⟨timer, member, -⟩ := exists_of_nextDue? next
  exact List.mem_map_of_mem member

/-- A clock has the timers that are live in a history, and the handle that it gives next is
new. -/
structure Tracks (clock : Clock τ) (history : History) : Prop where
  lawful : history.Lawful
  handles_eq : clock.handles = history.live
  below_next : ∀ time handle interval, (time, .scheduled handle interval) ∈ history →
    handle.number < clock.next

namespace Tracks

variable {after : Clock τ} {history : History}

theorem start : (Clock.start : Clock τ).Tracks [] :=
  ⟨History.lawful_nil, rfl, by simp⟩

/-- A clock that does what is written down next goes on to have the live timers. -/
theorem snoc (tracks : clock.Tracks history) {entry : Instant × Happening}
    (permitted : history.Permits entry.2)
    (handles_eq : after.handles = History.liveStep clock.handles entry)
    (next_le : clock.next ≤ after.next)
    (fresh : ∀ handle interval, entry.2 = .scheduled handle interval →
      handle.number < after.next) : after.Tracks (history ++ [entry]) where
  lawful := tracks.lawful.snoc permitted
  handles_eq := by rw [handles_eq, tracks.handles_eq, History.live_snoc]
  below_next time handle interval member := by
    rcases List.mem_append.mp member with member | member
    · exact Nat.lt_of_lt_of_le (tracks.below_next time handle interval member) next_le
    · exact fresh handle interval (congrArg Prod.snd (List.mem_singleton.mp member)).symm

theorem looked (tracks : clock.Tracks history) (now : Instant) :
    clock.Tracks (history ++ [(now, .looked)]) :=
  tracks.snoc trivial rfl (Nat.le_refl _) nofun

theorem departed (tracks : clock.Tracks history) (now : Instant) (span : Span) :
    clock.Tracks (history ++ [(now, .departed span)]) :=
  tracks.snoc trivial rfl (Nat.le_refl _) nofun

theorem arrived (tracks : clock.Tracks history) (now : Instant) :
    clock.Tracks (history ++ [(now, .arrived)]) :=
  tracks.snoc trivial rfl (Nat.le_refl _) nofun

theorem scheduled (tracks : clock.Tracks history) (interval : Span) (task : Handle → τ) :
    (clock.schedule interval task).2.Tracks
      (history ++ [(clock.now, .scheduled ⟨clock.next⟩ interval)]) := by
  refine tracks.snoc tracks.below_next ?_ (Nat.le_succ _) ?_
  · simp [handles, History.liveStep]
  · rintro handle other ⟨⟩
    exact Nat.lt_succ_self _

theorem cancelled (tracks : clock.Tracks history) (handle : Handle) :
    (clock.cancel handle).Tracks (history ++ [(clock.now, .cancelled handle)]) := by
  refine tracks.snoc trivial ?_ (Nat.le_refl _) nofun
  simp only [handles, cancel, History.liveStep, List.filter_map]
  rfl

theorem cleared (tracks : clock.Tracks history) :
    clock.clear.Tracks (history ++ [(clock.now, .cleared)]) :=
  tracks.snoc trivial rfl (Nat.le_refl _) nofun

/-- A timer that is taken is live, and stays on the clock while it runs. -/
theorem ticked (tracks : clock.Tracks history) {target : Instant} {due : Due τ}
    (next : clock.nextDue? target = some due) :
    (clock.taking due).Tracks (history ++ [(due.deadline, .ticked due.handle)]) := by
  refine tracks.snoc ?_ (handles_taking due) (Nat.le_refl _) nofun
  show due.handle ∈ history.live
  exact tracks.handles_eq ▸ handle_mem_of_nextDue? next

/-- Putting a task back brings no timer back. -/
theorem putBack (tracks : clock.Tracks history) (handle : Handle) (task : τ) :
    (clock.putBack handle task).Tracks history :=
  ⟨tracks.lawful, (handles_putBack handle task).trans tracks.handles_eq, tracks.below_next⟩

end Tracks

end Clock

/-! ## Whole runs -/

namespace World

/-- The clock has the timers that are live in the chronicle beside it. -/
def Tracks (world : Clocked τ (σ × History)) : Prop := world.timers.Tracks world.state.2

/-- A run comes to the same without the requests that have no effect, and if it comes to an end,
the clock has the live timers there. -/
structure Spares {β : Type} (ending : β → Clocked τ (σ × History)) (spared plain : Option β) :
    Prop where
  same : spared = plain
  tracks : ∀ ended, plain = some ended → (ending ended).Tracks

theorem Spares.some {β : Type} {ending : β → Clocked τ (σ × History)} {ended : β}
    (tracks : (ending ended).Tracks) : Spares ending (.some ended) (.some ended) :=
  ⟨rfl, by rintro _ ⟨⟩; exact tracks⟩

theorem Spares.bind {β γ : Type} {ending : β → Clocked τ (σ × History)}
    {ending' : γ → Clocked τ (σ × History)} {spared plain : Option β}
    {sparedRest rest : β → Option γ}
    (first : Spares ending spared plain)
    (second : ∀ ended, (ending ended).Tracks → Spares ending' (sparedRest ended) (rest ended)) :
    Spares ending' (spared >>= sparedRest) (plain >>= rest) := by
  rw [first.same]
  cases reached : plain with
  | none => exact ⟨rfl, nofun⟩
  | some ended => exact second ended (first.tracks ended reached)

variable {world : Clocked τ (σ × History)} {behaviour : Behaviour τ σ}

/-- Whatever a routine asks of the timers, the clock has the live ones. -/
theorem spares_run {spared move : Span → Clocked τ (σ × History) → Option (Clocked τ (σ × History))}
    (moves : ∀ span world, world.Tracks → Spares id (spared span world) (move span world))
    (routine : Routine τ σ α) (tracks : world.Tracks) :
    Spares Prod.snd (routine.chronicled.sparing.run Clock.service spared world)
      (routine.chronicled.run Clock.service move world) := by
  induction routine generalizing world with
  | done result => exact .some tracks
  | look next ih => exact ih _ _ (tracks.looked _)
  | put state next ih => exact ih tracks
  | schedule interval task next ih => exact ih _ (tracks.scheduled interval task)
  | cancel handle next ih =>
      have cancelled : Tracks ⟨world.timers.cancel handle, world.state.1,
          world.state.2 ++ [(world.timers.now, .cancelled handle)]⟩ := tracks.cancelled handle
      by_cases live : handle ∈ world.state.2.live
      · simp only [Routine.chronicled, Routine.sparing, Routine.run, if_pos live]
        exact ih cancelled
      · have unchanged : world.timers.cancel handle = world.timers :=
          Clock.cancel_eq_self (tracks.handles_eq ▸ live)
        simp only [Routine.chronicled, Routine.sparing, Routine.run, if_neg live, Clock.service,
          unchanged] at cancelled ⊢
        exact ih cancelled
  | clear next ih => exact ih tracks.cleared
  | advance span next ih =>
      have departed : Tracks (world.note (.departed span)) := tracks.departed _ span
      refine (moves span _ departed).bind fun after moved => ?_
      have arrived : Tracks (after.note .arrived) := moved.arrived _
      exact ih arrived

/-- While a clock is moved, it has the live timers, however deeply the moves are nested. -/
theorem spares_drain (behaviour : Behaviour τ σ) (ticks : Nat) (target : Instant)
    (tracks : world.Tracks) :
    Spares id (drain Clock.service behaviour.chronicled.sparing ticks target world)
      (drain Clock.service behaviour.chronicled ticks target world) := by
  induction ticks generalizing target world with
  | zero => exact ⟨rfl, nofun⟩
  | succ ticks ih =>
      rw [drain, drain, Clock.takeDue?_eq]
      cases next : world.timers.nextDue? target with
      | none => exact .some ⟨tracks.lawful, tracks.handles_eq, tracks.below_next⟩
      | some due =>
          have ticked : Tracks
              ({ world with timers := world.timers.taking due }.note (.ticked due.handle)) :=
            tracks.ticked next
          refine (spares_run (fun span inner tracks => ih (inner.timers.now + span) tracks)
            (behaviour due.handle due.task) ticked).bind fun ended tracks => ?_
          exact ih target (tracks.putBack due.handle ended.1)

/-- A program leaves the clock with the live timers. -/
theorem spares_perform (behaviour : Behaviour τ σ) (ticks : Nat) (program : Routine τ σ α)
    (tracks : world.Tracks) :
    Spares Prod.snd
      (perform Clock.service behaviour.chronicled.sparing ticks program.chronicled.sparing world)
      (perform Clock.service behaviour.chronicled ticks program.chronicled world) :=
  spares_run
    (fun span inner tracks => spares_drain behaviour ticks (inner.timers.now + span) tracks)
    program tracks

end World

/-- Stopped timers stay stopped, and handles are unmistakable.  This holds of every program and of
every behaviour of the ticks, nested moves of the clock included, as long as the program comes to
an end: its history shows no tick of a timer that has been cancelled or cleared before, and no
handle that is given twice; the timers left are those that were scheduled and not stopped since;
and the run is the same if every request to cancel another handle is left out. -/
theorem Clock.stopped_for_good (behaviour : Behaviour τ σ) (program : Routine τ σ α) (state : σ)
    (ticks : Nat) {result : α} {world : World.Clocked τ σ}
    (ends : World.perform Clock.service behaviour ticks program ⟨Clock.start, state⟩ =
      some (result, world)) :
    ∃ history,
      World.perform Clock.service behaviour.chronicled ticks program.chronicled
          ⟨Clock.start, state, []⟩ =
        some (result, ⟨world.timers, world.state, history⟩) ∧
      World.perform Clock.service behaviour.chronicled.sparing ticks program.chronicled.sparing
          ⟨Clock.start, state, []⟩ =
        some (result, ⟨world.timers, world.state, history⟩) ∧
      history.Mortal ∧
      ∀ handle, handle ∈ world.timers.handles ↔
        ∃ before start interval after,
          history = before ++ (start, .scheduled handle interval) :: after ∧
            History.Undisturbed handle after := by
  have erased := World.perform_chronicled Clock.service behaviour ticks program
    ⟨Clock.start, state, []⟩
  rw [show World.forget ⟨Clock.start, state, []⟩ = ⟨Clock.start, state⟩ from rfl, ends] at erased
  obtain ⟨⟨result', timers, state', history⟩, noted, same⟩ := Option.map_eq_some_iff.mp erased
  obtain ⟨rfl, rfl⟩ := Prod.mk.inj same
  have started : World.Tracks (⟨Clock.start, state, []⟩ : World.Clocked τ (σ × History)) :=
    Tracks.start
  obtain ⟨spared, tracks⟩ := World.spares_perform behaviour ticks program started
  have tracked : timers.Tracks history := tracks _ noted
  refine ⟨history, noted, spared.trans noted, tracked.lawful.mortal, fun handle => ?_⟩
  show handle ∈ timers.handles ↔ _
  rw [tracked.handles_eq]
  exact History.mem_live

/-- The first timer cancels the second at every tick of its own, and moves the clock on from
there. -/
def rival : Behaviour Unit Unit := fun handle _ =>
  if handle = ⟨0⟩ then .cancel ⟨1⟩ (.advance (Span.ofMs 15) (.done ())) else .done ()

/-- Two timers that are due at the same time. -/
def rivals : Routine Unit Unit Unit :=
  .schedule (Span.ofMs 10) (fun _ => ()) fun _ =>
    .schedule (Span.ofMs 10) (fun _ => ()) fun _ => .advance (Span.ofMs 20) (.done ())

theorem Clock.stopped_for_good_rivals :
    World.perform Clock.service rival 9 rivals ⟨Clock.start, ()⟩ =
        some ((), ⟨⟨Span.ofMs 20, 2, 2, [(⟨0⟩, ⟨Span.ofMs 10, Span.ofMs 30, some ()⟩)]⟩, ()⟩) ∧
      ∃ history : History, history.Mortal ∧
        history.ticks = [(Span.ofMs 10, ⟨0⟩), (Span.ofMs 20, ⟨0⟩)] ∧
        (Span.ofMs 10, .cancelled ⟨1⟩) ∈ history ∧ (Span.ofMs 20, .cancelled ⟨1⟩) ∈ history := by
  have ends : World.perform Clock.service rival 9 rivals ⟨Clock.start, ()⟩ =
      some ((), ⟨⟨Span.ofMs 20, 2, 2, [(⟨0⟩, ⟨Span.ofMs 10, Span.ofMs 30, some ()⟩)]⟩, ()⟩) := rfl
  obtain ⟨history, noted, -, mortal, -⟩ := Clock.stopped_for_good rival rivals () 9 ends
  have computed : World.perform Clock.service rival.chronicled 9 rivals.chronicled
      ⟨Clock.start, (), []⟩ =
        some ((), ⟨⟨Span.ofMs 20, 2, 2, [(⟨0⟩, ⟨Span.ofMs 10, Span.ofMs 30, some ()⟩)]⟩, (),
          [(0, .scheduled ⟨0⟩ (Span.ofMs 10)), (0, .scheduled ⟨1⟩ (Span.ofMs 10)),
            (0, .departed (Span.ofMs 20)), (Span.ofMs 10, .ticked ⟨0⟩),
            (Span.ofMs 10, .cancelled ⟨1⟩), (Span.ofMs 10, .departed (Span.ofMs 15)),
            (Span.ofMs 25, .arrived), (Span.ofMs 20, .ticked ⟨0⟩),
            (Span.ofMs 20, .cancelled ⟨1⟩), (Span.ofMs 20, .departed (Span.ofMs 15)),
            (Span.ofMs 35, .arrived), (Span.ofMs 20, .arrived)]⟩) := rfl
  rw [computed] at noted
  simp only [Option.some.injEq, Prod.mk.injEq, World.mk.injEq, true_and] at noted
  refine ⟨ends, history, mortal, ?_⟩
  rw [← noted]
  decide

end PageWatch
