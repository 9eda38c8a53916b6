import Mathlib.Data.List.Forall2
import PageWatch.Clock.Limit
import PageWatch.Proofs.Clock.Sleeping

/-!
# Clocks that share timers

One clock may have all the timers of another and some of its own besides.  The handles of the
shared timers need not be the same on both, as handles are given in the order of scheduling; but
they stand in the same order.  Requests about shared timers keep two such clocks alike, and so do
ticks: if the next timer to tick is a shared one, it is the next one of both.
-/

namespace PageWatch

variable {τ : Type}

/-- Handles on one clock, each with the handle that stands for it on another. -/
abbrev Pairing := List (Handle × Handle)

/-- A timer that stands for another has tasks that stand for its tasks. -/
structure Timer.Kin (kin : τ → τ → Prop) (plain other : Timer τ) : Prop where
  interval_eq : other.interval = plain.interval
  due_eq : other.due = plain.due
  task : Option.Rel kin plain.task other.task

namespace Timer.Kin

variable {kin : τ → τ → Prop} {plain other : Timer τ}

theorem mono {more : τ → τ → Prop} (extends' : ∀ task same, kin task same → more task same)
    (alike : plain.Kin kin other) : plain.Kin more other := by
  obtain ⟨interval, due, task⟩ := plain
  obtain ⟨_, _, same⟩ := other
  obtain ⟨rfl, rfl, related⟩ := alike
  refine ⟨rfl, rfl, ?_⟩
  cases related with
  | none => exact .none
  | some related => exact .some (extends' _ _ related)

/-- What a timer runs, if it is not running, stands for what the other one runs. -/
theorem of_task_eq (alike : plain.Kin kin other) {same : τ} (holds : other.task = some same) :
    ∃ task, plain.task = some task ∧ kin task same := by
  obtain ⟨interval, due, task⟩ := plain
  obtain ⟨_, _, _⟩ := other
  obtain rfl := holds
  cases alike.task with
  | some related => exact ⟨_, rfl, related⟩

theorem isSome_eq (alike : plain.Kin kin other) : other.task.isSome = plain.task.isSome := by
  obtain ⟨interval, due, task⟩ := plain
  obtain ⟨_, _, same⟩ := other
  cases alike.task <;> rfl

end Timer.Kin

/-- In lists that are related, an element of the first is related to one of the second. -/
theorem exists_of_forall₂ {α β : Type} {related : α → β → Prop} {first : List α} {second : List β}
    (all : List.Forall₂ related first second) {element : α} (member : element ∈ first) :
    ∃ other ∈ second, related element other := by
  induction all with
  | nil => exact absurd member List.not_mem_nil
  | cons head _ ih =>
      cases member with
      | head => exact ⟨_, .head _, head⟩
      | tail _ member =>
          obtain ⟨other, otherMem, both⟩ := ih member
          exact ⟨other, .tail _ otherMem, both⟩

namespace Clock

/-- The timers of a clock that are none of some. -/
def others (mine : List Handle) (clock : Clock τ) : List (Handle × Timer τ) :=
  clock.timers.filter fun entry => !mine.contains entry.1

/-- Those of some timers that are on a clock. -/
def its (mine : List Handle) (clock : Clock τ) : List (Handle × Timer τ) :=
  clock.timers.filter fun entry => mine.contains entry.1

/-- The timers of a clock are those of another one, except for some of its own. -/
structure Alongside (mine : List Handle) (pairs : Pairing) (kin : τ → τ → Prop)
    (plain clock : Clock τ) : Prop where
  now_eq : clock.now = plain.now
  timers : List.Forall₂ (fun first second => (first.1, second.1) ∈ pairs ∧ first.2.Kin kin second.2)
    plain.timers (clock.others mine)
  /-- Handles that stand for others stand in their order. -/
  ordered : ∀ first ∈ pairs, ∀ second ∈ pairs,
    (first.1.number < second.1.number ↔ first.2.number < second.2.number)
  below : ∀ pair ∈ pairs, pair.1.number < plain.next ∧ pair.2.number < clock.next
  foreign : ∀ pair ∈ pairs, pair.2 ∉ mine
  known : ∀ handle ∈ mine, handle.number < clock.next

/-! ## Some timers of a clock -/

section Parts

variable {mine : List Handle} {clock : Clock τ} {handle : Handle}

theorem mem_others {entry : Handle × Timer τ} :
    entry ∈ clock.others mine ↔ entry ∈ clock.timers ∧ entry.1 ∉ mine := by
  simp [others]

theorem mem_its {entry : Handle × Timer τ} :
    entry ∈ clock.its mine ↔ entry ∈ clock.timers ∧ entry.1 ∈ mine := by
  simp [its]

theorem length_timers (mine : List Handle) (clock : Clock τ) :
    clock.timers.length = (clock.others mine).length + (clock.its mine).length := by
  have total := List.length_eq_length_filter_add
    (l := clock.timers) fun entry : Handle × Timer τ => mine.contains entry.1
  rw [total, Nat.add_comm]
  rfl

/-- A change of one timer changes it among those of some handles. -/
theorem filter_update (keeps : Handle → Bool) (handle : Handle) (change : Timer τ → Timer τ)
    (clock : Clock τ) :
    (clock.update handle change).timers.filter (fun entry => keeps entry.1) =
      (clock.timers.filter fun entry => keeps entry.1).map fun entry =>
        if entry.1 = handle then (entry.1, change entry.2) else entry := by
  rw [update, List.filter_map]
  congr 1
  apply List.filter_congr
  intro entry _
  simp only [Function.comp]
  split <;> rfl

theorem filter_cancel (keeps : Handle → Bool) (handle : Handle) (clock : Clock τ) :
    (clock.cancel handle).timers.filter (fun entry => keeps entry.1) =
      (clock.timers.filter fun entry => keeps entry.1).filter fun entry => entry.1 != handle := by
  rw [cancel, List.filter_filter, List.filter_filter]
  apply List.filter_congr
  intro entry _
  exact Bool.and_comm _ _

theorem its_update (change : Timer τ → Timer τ) :
    (clock.update handle change).its mine = (clock.its mine).map fun entry =>
      if entry.1 = handle then (entry.1, change entry.2) else entry :=
  filter_update mine.contains handle change clock

theorem its_cancel :
    (clock.cancel handle).its mine =
      (clock.its mine).filter fun entry => entry.1 != handle :=
  filter_cancel mine.contains handle clock

theorem others_update_of_mem (member : handle ∈ mine) (change : Timer τ → Timer τ) :
    (clock.update handle change).others mine = clock.others mine := by
  rw [others, filter_update fun handle => !mine.contains handle]
  apply map_others
  intro entry entryMem same
  exact (mem_others.mp entryMem).2 (same ▸ member)

theorem its_update_of_not_mem (foreign : handle ∉ mine) (change : Timer τ → Timer τ) :
    (clock.update handle change).its mine = clock.its mine := by
  rw [its_update]
  apply map_others
  intro entry entryMem same
  exact foreign (same ▸ (mem_its.mp entryMem).2)

theorem others_cancel_of_mem (member : handle ∈ mine) :
    (clock.cancel handle).others mine = clock.others mine := by
  rw [others, filter_cancel fun handle => !mine.contains handle]
  apply List.filter_eq_self.mpr
  intro entry entryMem
  have apart : entry.1 ≠ handle := fun same => (mem_others.mp entryMem).2 (same ▸ member)
  simpa using apart

theorem its_cancel_of_not_mem (foreign : handle ∉ mine) :
    (clock.cancel handle).its mine = clock.its mine := by
  rw [its_cancel]
  apply List.filter_eq_self.mpr
  intro entry entryMem
  have apart : entry.1 ≠ handle := fun same => foreign (same ▸ (mem_its.mp entryMem).2)
  simpa using apart

end Parts

/-! ## Requests -/

namespace Alongside

variable {mine : List Handle} {pairs : Pairing} {kin : τ → τ → Prop} {plain clock : Clock τ}

/-- Handles are the same on one clock if and only if they are on the other. -/
theorem eq_iff (alike : plain.Alongside mine pairs kin clock) {first second : Handle × Handle}
    (firstMem : first ∈ pairs) (secondMem : second ∈ pairs) :
    first.1 = second.1 ↔ first.2 = second.2 := by
  have less := alike.ordered first firstMem second secondMem
  have more := alike.ordered second secondMem first firstMem
  obtain ⟨⟨one⟩, ⟨two⟩⟩ := first
  obtain ⟨⟨three⟩, ⟨four⟩⟩ := second
  simp only [Handle.mk.injEq]
  lia

theorem atInstant (alike : plain.Alongside mine pairs kin clock) (now : Instant) :
    Alongside mine pairs kin { plain with now } { clock with now } :=
  ⟨rfl, alike.timers, alike.ordered, alike.below, alike.foreign, alike.known⟩

/-- A timer that is scheduled on both clocks is shared. -/
theorem schedule (alike : plain.Alongside mine pairs kin clock) (interval : Span)
    {task same : Handle → τ} {more : τ → τ → Prop}
    (extends' : ∀ task same, kin task same → more task same)
    (related : more (task ⟨plain.next⟩) (same ⟨clock.next⟩)) :
    (plain.schedule interval task).2.Alongside mine ((⟨plain.next⟩, ⟨clock.next⟩) :: pairs) more
        (clock.schedule interval same).2 ∧
      (clock.schedule interval same).2.its mine = clock.its mine := by
  have fresh : (⟨clock.next⟩ : Handle) ∉ mine := fun member =>
    Nat.lt_irrefl _ (alike.known _ member)
  refine ⟨⟨alike.now_eq, ?_, ?_, ?_, ?_, ?_⟩, ?_⟩
  · simp only [others, timers_schedule, List.filter_append]
    refine List.rel_append (alike.timers.imp fun _ _ both => ?_) ?_
    · exact ⟨.tail _ both.1, both.2.mono extends'⟩
    · have kept : (!mine.contains (⟨clock.next⟩ : Handle)) = true := by simpa using fresh
      simp only [List.filter_cons, kept, if_true, List.filter_nil, alike.now_eq]
      exact .cons ⟨.head _, rfl, rfl, .some related⟩ .nil
  · rintro first (_ | ⟨_, firstMem⟩) second (_ | ⟨_, secondMem⟩)
    · simp
    · have below := alike.below second secondMem
      lia
    · have below := alike.below first firstMem
      lia
    · exact alike.ordered first firstMem second secondMem
  · rintro pair (_ | ⟨_, member⟩)
    · exact ⟨Nat.lt_succ_self _, Nat.lt_succ_self _⟩
    · exact ⟨Nat.lt_succ_of_lt (alike.below pair member).1,
        Nat.lt_succ_of_lt (alike.below pair member).2⟩
  · rintro pair (_ | ⟨_, member⟩)
    · exact fresh
    · exact alike.foreign pair member
  · exact fun handle member => Nat.lt_succ_of_lt (alike.known handle member)
  · simp [its, timers_schedule, List.filter_append, fresh]

/-- A shared timer may be cancelled on both clocks. -/
theorem cancel (alike : plain.Alongside mine pairs kin clock) {pair : Handle × Handle}
    (paired : pair ∈ pairs) :
    (plain.cancel pair.1).Alongside mine pairs kin (clock.cancel pair.2) ∧
      (clock.cancel pair.2).its mine = clock.its mine := by
  refine ⟨⟨alike.now_eq, ?_, alike.ordered, alike.below, alike.foreign, alike.known⟩,
    its_cancel_of_not_mem (alike.foreign pair paired)⟩
  rw [others, filter_cancel fun handle => !mine.contains handle]
  refine List.rel_filter (fun first second both => ?_) alike.timers
  simpa using not_congr (alike.eq_iff both.1 paired)

/-- A shared timer may be changed on both clocks. -/
theorem update (alike : plain.Alongside mine pairs kin clock) {pair : Handle × Handle}
    (paired : pair ∈ pairs) {change same : Timer τ → Timer τ}
    (changes : ∀ timer other, timer.Kin kin other → (change timer).Kin kin (same other)) :
    (plain.update pair.1 change).Alongside mine pairs kin (clock.update pair.2 same) ∧
      (clock.update pair.2 same).its mine = clock.its mine := by
  refine ⟨⟨alike.now_eq, ?_, alike.ordered, alike.below, alike.foreign, alike.known⟩,
    its_update_of_not_mem (alike.foreign pair paired) _⟩
  rw [others, filter_update fun handle => !mine.contains handle]
  refine List.rel_map (fun first second both => ?_) alike.timers
  have owns := alike.eq_iff both.1 paired
  by_cases own : first.1 = pair.1
  · rw [if_pos own, if_pos (owns.mp own)]
    exact ⟨both.1, changes _ _ both.2⟩
  · rw [if_neg own, if_neg fun owned => own (owns.mpr owned)]
    exact both

theorem taking (alike : plain.Alongside mine pairs kin clock) {first second : Due τ}
    (paired : (first.handle, second.handle) ∈ pairs) (deadline : second.deadline = first.deadline) :
    (plain.taking first).Alongside mine pairs kin (clock.taking second) ∧
      (clock.taking second).its mine = clock.its mine := by
  rw [Clock.taking, Clock.taking, deadline]
  exact (alike.atInstant first.deadline).update paired fun timer other both =>
    ⟨both.interval_eq, by rw [both.interval_eq], .none⟩

theorem putBack (alike : plain.Alongside mine pairs kin clock) {pair : Handle × Handle}
    (paired : pair ∈ pairs) {task same : τ} (related : kin task same) :
    (plain.putBack pair.1 task).Alongside mine pairs kin (clock.putBack pair.2 same) ∧
      (clock.putBack pair.2 same).its mine = clock.its mine :=
  alike.update paired fun _ _ both => ⟨both.interval_eq, both.due_eq, .some related⟩

/-- Whatever becomes of the clock's own timers, it shares the others. -/
theorem apart (alike : plain.Alongside mine pairs kin clock) {after : Clock τ}
    {grown : List Handle} (now_eq : after.now = clock.now) (next_le : clock.next ≤ after.next)
    (others_eq : after.others grown = clock.others mine)
    (grows : ∀ handle ∈ grown,
      handle ∈ mine ∨ clock.next ≤ handle.number ∧ handle.number < after.next) :
    plain.Alongside grown pairs kin after where
  now_eq := now_eq.trans alike.now_eq
  timers := others_eq ▸ alike.timers
  ordered := alike.ordered
  below pair member :=
    ⟨(alike.below pair member).1, Nat.lt_of_lt_of_le (alike.below pair member).2 next_le⟩
  foreign pair member own := by
    rcases grows pair.2 own with known | ⟨late, -⟩
    · exact alike.foreign pair member known
    · exact Nat.lt_irrefl _ (Nat.lt_of_lt_of_le (alike.below pair member).2 late)
  known handle own := by
    rcases grows handle own with known | ⟨-, given⟩
    · exact Nat.lt_of_lt_of_le (alike.known handle known) next_le
    · exact given

/-! ## Ticks -/

/-- Every timer of the plain clock is shared. -/
theorem exists_shared (alike : plain.Alongside mine pairs kin clock) {entry : Handle × Timer τ}
    (member : entry ∈ plain.timers) :
    ∃ same ∈ clock.timers, (entry.1, same.1) ∈ pairs ∧ entry.2.Kin kin same.2 := by
  obtain ⟨same, sameMem, paired, both⟩ := exists_of_forall₂ alike.timers member
  exact ⟨same, (mem_others.mp sameMem).1, paired, both⟩

/-- If all times on a clock can be kept, those of the shared timers can. -/
theorem kept (alike : plain.Alongside mine pairs kin clock) (kept : clock.Kept) : plain.Kept := by
  refine ⟨alike.now_eq ▸ kept.1, fun entry member => ?_⟩
  obtain ⟨same, sameMem, -, both⟩ := alike.exists_shared member
  exact both.due_eq ▸ kept.2 same sameMem

/-- What is shared with an orderly clock is orderly. -/
theorem orderly (alike : plain.Alongside mine pairs kin clock) (orderly : clock.Orderly) :
    plain.Orderly where
  sorted := by
    have sorted := orderly.sorted.filter fun entry => !mine.contains entry.1
    have timers := alike.timers
    rw [others] at timers
    generalize plain.timers = all at timers ⊢
    generalize clock.timers.filter _ = shared at sorted timers
    induction timers with
    | nil => exact .nil
    | cons first rest ih =>
        rw [List.pairwise_cons] at sorted ⊢
        refine ⟨fun entry member => ?_, ih sorted.2⟩
        obtain ⟨same, sameMem, paired, -⟩ := exists_of_forall₂ rest member
        exact (alike.ordered _ first.1 _ paired).mpr (sorted.1 same sameMem)
  below_next entry member := by
    obtain ⟨same, -, paired, -⟩ := alike.exists_shared member
    exact (alike.below _ paired).1
  interval_pos entry member := by
    obtain ⟨same, sameMem, -, both⟩ := alike.exists_shared member
    exact both.interval_eq ▸ orderly.interval_pos same sameMem
  now_le_due entry member := by
    obtain ⟨same, sameMem, -, both⟩ := alike.exists_shared member
    rw [← both.due_eq, ← alike.now_eq]
    exact orderly.now_le_due same sameMem

/-- If nothing is due on a clock, no shared timer is. -/
theorem nextDue?_none (alike : plain.Alongside mine pairs kin clock) (orderly : clock.Orderly)
    {target : Instant} (next : clock.nextDue? target = none) :
    plain.nextDue? target = none := by
  cases taken : plain.nextDue? target with
  | none => rfl
  | some due =>
      obtain ⟨timer, takes⟩ := takes_of_nextDue? (alike.orderly orderly) taken
      obtain ⟨same, sameMem, -, both⟩ := alike.exists_shared takes.member
      have late := lt_due_of_nextDue? next same sameMem
        (by rw [both.isSome_eq, takes.task_eq, Option.isSome_some])
      rw [both.due_eq, takes.due_eq] at late
      exact absurd takes.deadline_le (Nat.not_le.mpr late)

/-- If the timer that ticks next is a shared one, it ticks next on both clocks. -/
theorem nextDue?_some (alike : plain.Alongside mine pairs kin clock) (orderly : clock.Orderly)
    {target : Instant} {due : Due τ} (next : clock.nextDue? target = some due)
    (foreign : due.handle ∉ mine) :
    ∃ same : Due τ, plain.nextDue? target = some same ∧ (same.handle, due.handle) ∈ pairs ∧
      due.deadline = same.deadline ∧ kin same.task due.task := by
  obtain ⟨timer, takes⟩ := takes_of_nextDue? orderly next
  obtain ⟨⟨handle, plainTimer⟩, member, paired, both⟩ :=
    exists_of_forall₂ alike.timers.flip (mem_others.mpr ⟨takes.member, foreign⟩)
  obtain ⟨task, holds, related⟩ := both.of_task_eq takes.task_eq
  have plainTakes : plain.Takes target ⟨handle, due.deadline, task⟩ plainTimer := by
    refine ⟨member, holds, both.due_eq.symm.trans takes.due_eq, takes.deadline_le, ?_⟩
    -- A timer that came before it on the plain clock would do so on the other one as well.
    intro entry entryMem idle before
    obtain ⟨same, sameMem, samePaired, sameBoth⟩ := alike.exists_shared entryMem
    apply takes.first same sameMem (sameBoth.isSome_eq.trans idle)
    have order := alike.ordered _ samePaired _ paired
    have due_eq := sameBoth.due_eq
    simp only [Before] at before ⊢
    lia
  exact ⟨_, nextDue?_of_takes (alike.orderly orderly) plainTakes, paired, rfl, related⟩

end Alongside

end Clock

end PageWatch
