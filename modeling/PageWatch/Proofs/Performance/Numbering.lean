import Mathlib.Data.Nat.Pairing
import PageWatch.Proofs.Performance.Renaming

/-!
# Numbered registrations

A script may hand the same callback to its host more than once.  To tell one registration
from another, every callback gets a number on its way to the host and loses it on the way
back.  A ledger lists the registrations that the host has accepted and those whose callback
it has had invoked.  As the host does not look at callbacks, numbering them changes nothing
else.
-/

namespace PageWatch.Performance

open Script

variable {σ : Type}

/-- Registrations that were accepted, and those whose callback was invoked, in order. -/
structure Ledger where
  accepted : List ObjectId
  invoked : List ObjectId

namespace Ledger

/-- Nothing has been registered. -/
def empty : Ledger := ⟨[], []⟩

/-- A callback with the number of the next registration. -/
def tag (ledger : Ledger) (callback : ObjectId) : ObjectId :=
  Nat.pair ledger.accepted.length callback

/-- Notes that a callback is invoked. -/
def invoke (tag : ObjectId) (ledger : Ledger) : Ledger :=
  { ledger with invoked := ledger.invoked ++ [tag] }

/-- Notes that a registration is accepted. -/
def accept (tag : ObjectId) (ledger : Ledger) : Ledger :=
  { ledger with accepted := ledger.accepted ++ [tag] }

/-- Notes that a wait is accepted.  If the reply says that the callback is due, the function that
asked calls it at once: that is what functions do which register waits, `Script.Library.Registers`.
A timeout never comes to this, `Script.Library.Defers`. -/
def acceptWait (tag : ObjectId) (reply : Reply) (ledger : Ledger) : Ledger :=
  match reply with
  | .due => (ledger.accept tag).invoke tag
  | .done | .counted _ | .refused _ => ledger.accept tag

/-- Notes what a request and its reply come to. -/
def note (request : Request) (reply : Reply) (ledger : Ledger) : Ledger :=
  match request with
  | .wait _ callback => ledger.acceptWait (ledger.tag callback) reply
  | .timeout _ callback => ledger.accept (ledger.tag callback)
  | .print _ | .load _ | .setValue _ _ => ledger

/-- The accepted registrations have the numbers from zero on. -/
def Numbered (ledger : Ledger) : Prop :=
  ledger.accepted.map (fun tag => (Nat.unpair tag).1) = List.range ledger.accepted.length

theorem Numbered.nodup {ledger : Ledger} (numbered : ledger.Numbered) :
    ledger.accepted.Nodup := by
  have distinct : (ledger.accepted.map fun tag => (Nat.unpair tag).1).Nodup := by
    rw [numbered]
    exact List.nodup_range
  exact List.Pairwise.of_map _ (fun _ _ apart same => apart (by rw [same])) distinct

@[simp] theorem accepted_acceptWait (tag : ObjectId) (reply : Reply) (ledger : Ledger) :
    (ledger.acceptWait tag reply).accepted = ledger.accepted ++ [tag] := by
  cases reply <;> rfl

theorem Numbered.acceptWait {ledger : Ledger} (numbered : ledger.Numbered) (callback : ObjectId)
    (reply : Reply) : (ledger.acceptWait (ledger.tag callback) reply).Numbered := by
  rw [Numbered, accepted_acceptWait, List.map_append, numbered]
  simp [tag, List.range_succ]

end Ledger

/-- A numbered callback without its number. -/
def original (tag : ObjectId) : ObjectId := (Nat.unpair tag).2

@[simp] theorem original_tag (ledger : Ledger) (callback : ObjectId) :
    original (ledger.tag callback) = callback := by
  simp [original, Ledger.tag]

/-- The same dialogue, with the registrations numbered and noted. -/
def numberedDialogue : Dialogue σ → Ledger → Dialogue (σ × Ledger)
  | .finished failure state, ledger => .finished failure (state, ledger)
  | .asks request next, ledger =>
    .asks (renamedRequest ledger.tag request) fun reply =>
      numberedDialogue (next reply) (ledger.note request reply)

/-- The same performer, with the registrations numbered and noted. -/
def numbered (performer : Performer σ) : Performer (σ × Ledger) where
  start := numberedDialogue performer.start .empty
  call script tag :=
    numberedDialogue (performer.call script.1 (original tag)) (script.2.invoke tag)

/-- A performance without the numbers and the ledger. -/
def Progress.forget (progress : Progress (σ × Ledger)) : Progress σ :=
  ⟨progress.failure, progress.script.1, progress.scene.rename original, progress.sleeps⟩

theorem original_request (ledger : Ledger) (request : Request) :
    renamedRequest original (renamedRequest ledger.tag request) = request := by
  cases request <;> simp [renamedRequest]

/-- Numbers change nothing in a dialogue. -/
theorem converse_numbered (interval : Span) (dialogue : Dialogue σ) (ledger : Ledger)
    (scene : Scene) :
    Scene.converse interval dialogue (scene.rename original) =
      let ended := Scene.converse interval (numberedDialogue dialogue ledger) scene
      ((ended.1.1, ended.1.2.1), ended.2.rename original) := by
  induction dialogue generalizing ledger scene with
  | finished failure state => rfl
  | asks request next ih =>
      have answered : (scene.rename original).act (Work.answer interval
          (renamedRequest original (renamedRequest ledger.tag request))) = _ :=
        follows_answer interval (renamedRequest ledger.tag request) scene
      rw [original_request] at answered
      simp only [Scene.converse, numberedDialogue, answered]
      exact ih _ _ _

namespace Progress

theorem speak_forget (performer : Performer σ) (interval : Span) (tag : ObjectId)
    (progress : Progress (σ × Ledger)) :
    (progress.speak interval fun script => (numbered performer).call script tag).forget =
      progress.forget.speak interval fun script => performer.call script (original tag) := by
  obtain ⟨failure, script, scene, sleeps⟩ := progress
  cases failure with
  | some text => rfl
  | none =>
      simp only [speak, forget]
      rw [converse_numbered interval _ (script.2.invoke tag) scene]
      rfl

theorem callAll_forget (performer : Performer σ) (interval : Span) (tags : List ObjectId)
    (progress : Progress (σ × Ledger)) :
    (callAll (numbered performer) interval tags progress).forget =
      callAll performer interval (tags.map original) progress.forget := by
  induction tags generalizing progress with
  | nil => rfl
  | cons tag tags ih =>
      rw [callAll, List.foldl_cons, ← callAll, ih, speak_forget]
      rfl

theorem callReady_forget (performer : Performer σ) (interval : Span)
    (progress : Progress (σ × Ledger)) :
    (progress.callReady (numbered performer) interval).forget =
      progress.forget.callReady performer interval :=
  callAll_forget performer interval _ _

theorem nextStop?_forget (budget : Span) (progress : Progress (σ × Ledger)) :
    progress.forget.nextStop? budget = progress.nextStop? budget := by
  have deadlines : (progress.scene.rename original).timers.nextDeadline? =
      progress.scene.timers.nextDeadline? := by
    simp [Scene.rename, Clock.retask, Clock.nextDeadline?, Function.comp_def]
  simp only [nextStop?, forget, deadlines]

theorem moveTo_forget (realtime : Bool) (deadline : Instant)
    (progress : Progress (σ × Ledger)) :
    progress.forget.moveTo realtime deadline =
      (progress.moveTo realtime deadline).map forget := by
  have active : (progress.scene.rename original).timers.active =
      progress.scene.timers.active := by
    simp [Scene.rename, Clock.retask, Clock.active]
  simp only [moveTo, pause, forget, active, World.advance, drain_rename, Option.map_map]
  rfl

theorem drive_forget (performer : Performer σ) (settings : Settings) (moves : Nat)
    (progress : Progress (σ × Ledger)) :
    (drive (numbered performer) settings moves progress).forget =
      drive performer settings moves progress.forget := by
  induction moves generalizing progress with
  | zero => rfl
  | succ moves ih =>
      rw [drive, drive, nextStop?_forget]
      cases progress.nextStop? (Span.ofMs settings.budgetMs) with
      | none => rfl
      | some deadline =>
          simp only [moveTo_forget]
          cases progress.moveTo settings.realtime deadline with
          | none => rfl
          | some moved => simp only [Option.map_some, ih, callReady_forget]

end Progress

/-- Numbers change nothing in a performance. -/
theorem perform_numbered (performer : Performer σ) (page : Page) (settings : Settings) :
    (perform (numbered performer) page settings).forget = perform performer page settings := by
  have started := converse_numbered (Span.ofMs settings.checkIntervalMs) performer.start .empty
    (Scene.start page)
  have named : (Scene.start page).rename original = Scene.start page := rfl
  rw [named] at started
  simp only [perform, Progress.drive_forget, Progress.callReady_forget, started]
  rfl

end PageWatch.Performance
