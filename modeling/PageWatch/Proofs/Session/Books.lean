import PageWatch.Proofs.Clock.Cancellation
import PageWatch.Proofs.Session.Actions
import PageWatch.Proofs.Session.Ledger

/-!
# Balanced books

The books of a session are its clock, the names of its bare timers, and its ledger.  They are
balanced if the timers on the clock are the bare ones and those that poll, and if those that poll
belong to the unresolved waits, one to each.  While a wait acts, it may be without a timer for a
moment; the books then say which wait that is.

Each change of the books keeps them balanced, and says which wait it leaves without a timer.
-/

namespace PageWatch.Session

/-- Whether no action of a list clears the timers, or sets off one that does. -/
def clearFree (actions : List Action) : Bool :=
  everywhereInList (fun action => !action.clears) actions

/-- What a session knows of its timers. -/
structure Books where
  clock : Clock Task
  names : List (String × Handle)
  ledger : Ledger

/-- The books of a session with a ledger. -/
def booksOf (world : World.Clocked Task (State × Ledger)) : Books :=
  ⟨world.timers, world.state.1.names, world.state.2⟩

namespace Books

/-- Schedules a timer for a wait or for nobody in particular. -/
def schedule (wait? : Option Nat) (interval : Span) (task : Handle → Task) (books : Books) :
    Books :=
  let handle := Handle.mk books.clock.next
  { books with
    clock := (books.clock.schedule interval task).2
    ledger := books.ledger.note wait? (.schedule interval handle (task handle)) }

def cancel (handle : Handle) (books : Books) : Books :=
  { books with
    clock := books.clock.cancel handle
    ledger := books.ledger.note none (.cancel handle) }

/-- A change of the ledger alone. -/
def enter (change : Ledger → Ledger) (books : Books) : Books :=
  { books with ledger := change books.ledger }

/-- A handle that has been given, and not to a timer that polls. -/
def Foreign (books : Books) (handle : Handle) : Prop :=
  handle.number < books.clock.next ∧ ∀ wait, (handle, wait) ∉ books.ledger.polls

/-- A handle that has been given, and whose timer is gone. -/
def Gone (books : Books) (handle : Handle) : Prop :=
  handle.number < books.clock.next ∧ handle ∉ books.clock.handles

/-- A task that goes with a timer.  A wait knows its timer and has its callback, and is the one
for which the timer polls. -/
def Fits (books : Books) (handle : Handle) : Task → Prop
  | .bare _ ticks =>
    books.Foreign handle ∧ everywhereInLists (fun action => !action.clears) ticks = true
  | .wait wait =>
    ∃ condition sequel number,
      wait = ⟨condition, some sequel, some handle⟩ ∧
        (handle, number) ∈ books.ledger.polls ∧ clearFree sequel.final.next = true

/-- The timers are those of the ledger, and those that poll belong to the unresolved waits, some
waits apart that have no timer at present. -/
structure Balanced (apart : List Nat) (books : Books) : Prop where
  nodup : books.clock.handles.Nodup
  below : ∀ handle ∈ books.clock.handles, handle.number < books.clock.next
  timers : books.clock.handles.Perm (books.ledger.bare ++ books.ledger.polls.map Prod.fst)
  waits : (apart ++ books.ledger.polls.map Prod.snd).Perm books.ledger.unresolved
  known : ∀ wait, books.ledger.Resolved wait → wait < books.ledger.begun
  tasks : ∀ handle timer task, (handle, timer) ∈ books.clock.timers → timer.task = some task →
    books.Fits handle task
  names : ∀ name handle, (name, handle) ∈ books.names → books.Foreign handle

/-- What is foreign stays foreign, and what is gone stays away. -/
structure Grows (before after : Books) : Prop where
  foreign : ∀ handle, before.Foreign handle → after.Foreign handle
  gone : ∀ handle, before.Gone handle → after.Gone handle

theorem Grows.refl (books : Books) : Grows books books := ⟨fun _ same => same, fun _ same => same⟩

theorem Grows.trans {first second third : Books} (left : Grows first second)
    (right : Grows second third) : Grows first third :=
  ⟨fun handle foreign => right.foreign handle (left.foreign handle foreign),
    fun handle gone => right.gone handle (left.gone handle gone)⟩

section Ledgers

variable {ledger : Ledger}

theorem nodup_unresolved (ledger : Ledger) : ledger.unresolved.Nodup :=
  List.nodup_range.filter _

theorem mem_unresolved {wait : Nat} :
    wait ∈ ledger.unresolved ↔ wait < ledger.begun ∧ ¬ledger.Resolved wait := by
  simp [Ledger.unresolved]

theorem resolved_settle {wait other : Nat} {progress : Wait.Progress Callback}
    (ended : progress ≠ .waiting) :
    (ledger.settle (some wait) progress).Resolved other ↔ ledger.Resolved other ∨ other = wait := by
  cases progress with
  | waiting => exact absurd rfl ended
  | met callback => simp [Ledger.settle, Ledger.Resolved, or_right_comm]
  | dropped => simp [Ledger.settle, Ledger.Resolved, or_assoc]

/-- What a wait has come to changes only which waits are resolved. -/
theorem settle_eq (wait? : Option Nat) (progress : Wait.Progress Callback) (ledger : Ledger) :
    (ledger.settle wait? progress).begun = ledger.begun ∧
      (ledger.settle wait? progress).bare = ledger.bare ∧
      (ledger.settle wait? progress).polls = ledger.polls := by
  cases wait? <;> cases progress <;> exact ⟨rfl, rfl, rfl⟩

/-- Among entries with different keys, one entry and those with other keys are all. -/
theorem perm_lookup {α : Type} {entries : List (Handle × α)}
    (nodup : (entries.map Prod.fst).Nodup) (handle : Handle) :
    (entries.map Prod.snd).Perm ((entries.lookup handle).toList ++
      (entries.filter fun entry => entry.1 != handle).map Prod.snd) := by
  induction entries with
  | nil => exact .refl _
  | cons entry entries ih =>
      obtain ⟨key, value⟩ := entry
      rw [List.map_cons, List.nodup_cons] at nodup
      by_cases own : handle = key
      · subst own
        have others : entries.filter (fun entry => entry.1 != handle) = entries := by
          rw [List.filter_eq_self]
          intro entry member
          have apart : entry.1 ≠ handle := fun same =>
            nodup.1 (List.mem_map.mpr ⟨entry, member, same⟩)
          simpa using apart
        simp [others]
      · have apart : (handle == key) = false := by simpa using own
        have kept : (key != handle) = true := by simpa using Ne.symm own
        simp only [List.map_cons, List.lookup_cons, apart, List.filter_cons, kept, if_true]
        exact ((ih nodup.2).cons value).trans List.perm_middle.symm

end Ledgers

section Changes

variable {books : Books} {apart : List Nat} {handle : Handle} {task : Handle → Task}

namespace Balanced

/-- A timer that polls is on the clock. -/
theorem handle_mem (balanced : Balanced apart books) {wait : Nat}
    (polls : (handle, wait) ∈ books.ledger.polls) : handle ∈ books.clock.handles := by
  rw [balanced.timers.mem_iff, List.mem_append]
  exact .inr (List.mem_map_of_mem (f := Prod.fst) polls)

theorem nodup_polls (balanced : Balanced apart books) :
    (books.ledger.polls.map Prod.fst).Nodup := by
  have nodup := balanced.timers.nodup_iff.mp balanced.nodup
  exact (List.nodup_append.mp nodup).2.1

theorem pollOf?_eq (balanced : Balanced apart books) {wait : Nat}
    (polls : (handle, wait) ∈ books.ledger.polls) :
    books.ledger.pollOf? handle = some wait :=
  lookup_of_mem balanced.nodup_polls polls

/-- A handle that is given next belongs to no timer yet. -/
theorem fresh (balanced : Balanced apart books) :
    (⟨books.clock.next⟩ : Handle) ∉ books.clock.handles :=
  fun member => Nat.lt_irrefl _ (balanced.below _ member)

end Balanced

/-! ## What stays foreign or gone -/

theorem grows_schedule (wait? : Option Nat) (interval : Span) (task : Handle → Task)
    (books : Books) : Grows books (books.schedule wait? interval task) := by
  have other {known : Handle} (given : known.number < books.clock.next) :
      known ≠ ⟨books.clock.next⟩ := by
    intro same
    subst same
    exact Nat.lt_irrefl _ given
  constructor
  · intro known foreign
    obtain ⟨given, apart⟩ := foreign
    refine ⟨Nat.lt_succ_of_lt given, ?_⟩
    intro wait member
    cases wait? with
    | none => exact apart wait member
    | some owner =>
        cases List.mem_append.mp member with
        | inl member => exact apart wait member
        | inr member => exact other given (congrArg Prod.fst (List.mem_singleton.mp member))
  · intro known gone
    obtain ⟨given, away⟩ := gone
    refine ⟨Nat.lt_succ_of_lt given, ?_⟩
    simp only [schedule, Clock.handles, Clock.timers_schedule, List.map_append, List.mem_append,
      not_or]
    exact ⟨away, by simpa using other given⟩

theorem grows_cancel (handle : Handle) (books : Books) : Grows books (books.cancel handle) := by
  constructor
  · intro known foreign
    exact ⟨foreign.1, fun wait member => foreign.2 wait (List.mem_filter.mp member).1⟩
  · intro known gone
    refine ⟨gone.1, fun member => gone.2 ?_⟩
    obtain ⟨entry, entryMem, same⟩ := List.mem_map.mp member
    exact same ▸ List.mem_map_of_mem (Clock.mem_timers_cancel.mp entryMem).1

/-- No wait polls with a foreign timer. -/
theorem Foreign.pollOf?_eq (foreign : books.Foreign handle) :
    books.ledger.pollOf? handle = none := by
  rw [Ledger.pollOf?, List.lookup_eq_none_iff]
  intro poll member
  have other : handle ≠ poll.1 := by
    intro same
    apply foreign.2 poll.2
    rw [same]
    exact member
  simpa using other

theorem gone_cancel (given : handle.number < books.clock.next) :
    (books.cancel handle).Gone handle := by
  refine ⟨given, ?_⟩
  simp [cancel, Clock.handles]

/-- Notes about waits do not matter to timers. -/
theorem grows_enter {change : Ledger → Ledger}
    (same : (change books.ledger).polls = books.ledger.polls) :
    Grows books (books.enter change) := by
  constructor
  · intro known foreign
    exact ⟨foreign.1, fun wait member => foreign.2 wait (same ▸ member)⟩
  · intro known gone
    exact gone

theorem Fits.grows {after : Books} {known : Handle} {task : Task} (fits : books.Fits known task)
    (grows : Grows books after)
    (polls : ∀ wait, (known, wait) ∈ books.ledger.polls → (known, wait) ∈ after.ledger.polls) :
    after.Fits known task := by
  cases task with
  | bare name ticks => exact ⟨grows.foreign known fits.1, fits.2⟩
  | wait wait =>
      obtain ⟨condition, sequel, number, rfl, member, free⟩ := fits
      exact ⟨condition, sequel, number, rfl, polls number member, free⟩

/-! ## What keeps the books balanced -/

namespace Balanced

/-- A wait begins without a timer. -/
theorem begin (balanced : Balanced [] books) :
    Balanced [books.ledger.begun] (books.enter Ledger.begin) := by
  have grows : Grows books (books.enter Ledger.begin) := grows_enter rfl
  have unresolved : (books.enter Ledger.begin).ledger.unresolved =
      books.ledger.unresolved ++ [books.ledger.begun] := by
    have new : ¬books.ledger.Resolved books.ledger.begun := fun resolved =>
      Nat.lt_irrefl _ (balanced.known _ resolved)
    simp only [enter, Ledger.unresolved, Ledger.begin, List.range_succ, List.filter_append]
    congr 1
    simpa [Ledger.Resolved] using new
  refine ⟨balanced.nodup, balanced.below, balanced.timers, ?_, ?_, ?_, ?_⟩
  · rw [unresolved]
    exact List.perm_append_comm.trans (balanced.waits.append_right _)
  · intro wait resolved
    exact Nat.lt_succ_of_lt (balanced.known wait resolved)
  · intro handle timer task member holds
    exact (balanced.tasks handle timer task member holds).grows grows fun _ same => same
  · intro name handle member
    exact grows.foreign handle (balanced.names name handle member)

/-- A wait that has come to its end needs no timer. -/
theorem settle {wait : Nat} {progress : Wait.Progress Callback}
    (balanced : Balanced [wait] books) (ended : progress ≠ .waiting) :
    Balanced [] (books.enter (Ledger.settle (some wait) progress)) := by
  obtain ⟨begun, bare, polls⟩ := settle_eq (some wait) progress books.ledger
  have grows : Grows books (books.enter (Ledger.settle (some wait) progress)) := grows_enter polls
  have member : wait ∈ books.ledger.unresolved := balanced.waits.mem_iff.mp (.head _)
  have unresolved : (books.ledger.settle (some wait) progress).unresolved =
      books.ledger.unresolved.filter (· != wait) := by
    simp only [Ledger.unresolved, begun, List.filter_filter, resolved_settle ended]
    congr 1
    funext other
    by_cases own : other = wait <;> simp [own]
  refine ⟨balanced.nodup, balanced.below, ?_, ?_, ?_, ?_, ?_⟩
  · simp only [enter, polls, bare]
    exact balanced.timers
  · simp only [enter, polls, unresolved]
    have nodup := balanced.waits.nodup_iff.mpr (nodup_unresolved _)
    have others : ∀ other ∈ books.ledger.polls.map Prod.snd, (other != wait) = true := by
      intro other otherMem
      have different : other ≠ wait := fun equal =>
        (List.nodup_cons.mp nodup).1 (equal ▸ otherMem)
      simpa using different
    have filtered := balanced.waits.filter (· != wait)
    rw [List.singleton_append, List.filter_cons, List.filter_eq_self.mpr others] at filtered
    simpa using filtered
  · intro other resolved
    simp only [enter, begun]
    cases (resolved_settle ended).mp resolved with
    | inl resolved => exact balanced.known other resolved
    | inr own => exact own ▸ (mem_unresolved.mp member).1
  · intro handle timer task timerMem holds
    refine (balanced.tasks handle timer task timerMem holds).grows grows fun number same => ?_
    simp only [enter, polls]
    exact same
  · intro name handle nameMem
    exact grows.foreign handle (balanced.names name handle nameMem)

/-- A timer that is scheduled for a wait ends its being without one. -/
theorem schedule {wait? : Option Nat} (interval : Span)
    (balanced : Balanced wait?.toList books)
    (fits : (books.schedule wait? interval task).Fits ⟨books.clock.next⟩
      (task ⟨books.clock.next⟩)) :
    Balanced [] (books.schedule wait? interval task) := by
  have grows := grows_schedule wait? interval task books
  have handles : (books.schedule wait? interval task).clock.handles =
      books.clock.handles ++ [⟨books.clock.next⟩] := by
    simp [Books.schedule, Clock.handles]
  refine ⟨?_, ?_, ?_, ?_, ?_, ?_, ?_⟩
  · rw [handles, List.nodup_append]
    refine ⟨balanced.nodup, by simp, ?_⟩
    intro known member new newMem same
    rw [List.mem_singleton.mp newMem] at same
    exact balanced.fresh (same ▸ member)
  · rw [handles]
    intro known member
    cases List.mem_append.mp member with
    | inl member => exact Nat.lt_succ_of_lt (balanced.below known member)
    | inr member => exact List.mem_singleton.mp member ▸ Nat.lt_succ_self _
  · rw [handles]
    have added := balanced.timers.append_right [(⟨books.clock.next⟩ : Handle)]
    cases wait? with
    | none =>
        apply added.trans
        simp only [Books.schedule, Ledger.note, List.append_assoc]
        exact List.perm_append_comm.append_left _
    | some wait =>
        simp only [Books.schedule, Ledger.note, List.map_append, ← List.append_assoc]
        exact added
  · cases wait? with
    | none => exact balanced.waits
    | some wait =>
        have moved : (books.ledger.polls.map Prod.snd ++ [wait]).Perm books.ledger.unresolved :=
          List.perm_append_comm.trans balanced.waits
        simp only [Books.schedule, Ledger.note, List.map_append, List.nil_append]
        exact moved
  · cases wait? <;> exact balanced.known
  · intro known timer stored member holds
    cases List.mem_append.mp member with
    | inl member =>
        apply (balanced.tasks known timer stored member holds).grows grows
        intro number polls
        cases wait? with
        | none => exact polls
        | some wait => exact List.mem_append_left _ polls
    | inr member =>
        obtain ⟨rfl, rfl⟩ := Prod.mk.inj (List.mem_singleton.mp member)
        rw [← Option.some.inj holds]
        exact fits
  · intro name known member
    exact grows.foreign known (balanced.names name known member)

/-- Cancelling a timer that polls leaves its wait without one. -/
theorem cancel (balanced : Balanced [] books) (handle : Handle) :
    Balanced (books.ledger.pollOf? handle).toList (books.cancel handle) := by
  have grows := grows_cancel handle books
  have handles : (books.cancel handle).clock.handles =
      books.clock.handles.filter (· != handle) := by
    simp only [Books.cancel, Clock.handles, Clock.cancel, List.filter_map]
    rfl
  refine ⟨?_, ?_, ?_, ?_, balanced.known, ?_, ?_⟩
  · rw [handles]
    exact balanced.nodup.filter _
  · rw [handles]
    intro known member
    exact balanced.below known (List.mem_filter.mp member).1
  · rw [handles]
    have kept := balanced.timers.filter (· != handle)
    rw [List.filter_append, List.filter_map] at kept
    exact kept
  · exact (perm_lookup balanced.nodup_polls handle).symm.trans balanced.waits
  · intro known timer stored member holds
    obtain ⟨member, other⟩ := Clock.mem_timers_cancel.mp member
    apply (balanced.tasks known timer stored member holds).grows grows
    intro number polls
    exact List.mem_filter.mpr ⟨polls, by simpa using other⟩
  · intro name known member
    exact grows.foreign known (balanced.names name known member)

/-- What the timers are named is of no consequence, as long as no name stands for one that
polls. -/
theorem rename {names : List (String × Handle)} (balanced : Balanced apart books)
    (foreign : ∀ name handle, (name, handle) ∈ names → books.Foreign handle) :
    Balanced apart { books with names } :=
  { balanced with names := foreign }

/-- Nor are the timers' deadlines, and a timer may be running. -/
theorem retime {clock : Clock Task} (balanced : Balanced apart books)
    (handles : clock.handles = books.clock.handles) (next : clock.next = books.clock.next)
    (tasks : ∀ handle timer task, (handle, timer) ∈ clock.timers → timer.task = some task →
      books.Fits handle task) :
    Balanced apart { books with clock } := by
  have grows : Grows books { books with clock } := by
    constructor
    · intro known foreign
      exact ⟨next ▸ foreign.1, foreign.2⟩
    · intro known gone
      exact ⟨next ▸ gone.1, handles ▸ gone.2⟩
  refine ⟨handles ▸ balanced.nodup, ?_, handles ▸ balanced.timers, balanced.waits, balanced.known,
    ?_, ?_⟩
  · intro known member
    have below := balanced.below known (handles ▸ member)
    exact next ▸ below
  · intro known timer stored member holds
    exact (tasks known timer stored member holds).grows grows fun _ polls => polls
  · intro name known member
    exact grows.foreign known (balanced.names name known member)

end Balanced

end Changes

end Books

end PageWatch.Session
