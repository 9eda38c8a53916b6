import PageWatch.Script.Course

/-!
# Dialogues with a host

Seen from outside, running a script is a dialogue: it asks its host for something,
goes on with the reply, and at some time finishes, with or without a failure. Whoever
plays the host needs to know nothing else about scripts, and what holds of the host
holds with every performer.
-/

namespace PageWatch.Script

/-- What a performer says to its host until it finishes in some state. -/
inductive Dialogue (σ : Type) where
  | finished (failure : Option String) (state : σ)
  | asks (request : Request) (next : Reply → Dialogue σ)

/-- Somebody who performs a script: runs it, and calls the callbacks that it has handed
to the host. -/
structure Performer (σ : Type) where
  start : Dialogue σ
  call : σ → ObjectId → Dialogue σ

namespace Course

variable {α σ : Type}

/-- Follows a course up to its end, or up to where generators pause or go on. -/
def follow (atEnd : Except Abrupt α → Memory → Dialogue σ)
    (atResume : Memory → ObjectId → Resumption →
      (Memory → Except Abrupt (Value × Bool) → Course α) → Dialogue σ)
    (atPause : Memory → Value → (Memory → Resumption → Course α) → Dialogue σ) :
    Course α → Dialogue σ
  | ends result memory => atEnd result memory
  | asks memory request next => .asks request fun reply =>
      (next memory reply).follow atEnd atResume atPause
  | resumes memory generator message next => atResume memory generator message next
  | pauses memory value next => atPause memory value next

end Course

end PageWatch.Script
