import PageWatch.Proofs.Script.Ways

/-!
# Computations that have others act for them

A computation relays if it has to do with its surroundings through calls alone: it asks the host
for nothing, waits for no generator and does not pause, but the functions that it calls may do all
of this.  Reading properties and converting values relays.  So whatever is noticed of a conversion
is the doing of a method, a getter or a trap that it has called.
-/

namespace PageWatch.Script

variable {α β : Type}

/-- A course whose only dealings with its surroundings are calls on a machine. -/
inductive Course.Relays (machine : Machine) {α : Type} : Course α → Prop
  | ends (result : Except Abrupt α) (memory : Memory) : Relays machine (.ends result memory)
  | calls (callee self : Value) (arguments : List Value) (memory : Memory) {rest : Value → Run α} :
      (∀ value memory, Relays machine (rest value memory)) →
      Relays machine ((machine.call callee self arguments memory).bind rest)

/-- A computation whose only dealings with its surroundings are calls on a machine. -/
def Run.Relays (machine : Machine) (computation : Run α) : Prop :=
  ∀ memory, (computation memory).Relays machine

theorem Course.Relays.bind {machine : Machine} {course : Course α} {rest : α → Run β}
    (first : course.Relays machine) (rests : ∀ value, (rest value).Relays machine) :
    (course.bind rest).Relays machine := by
  induction first with
  | ends result memory =>
      cases result with
      | ok value => exact rests value memory
      | error abrupt => exact .ends _ _
  | calls callee self arguments memory _ ih =>
      rw [Course.bind_assoc]
      exact .calls callee self arguments memory ih

theorem Course.bind_pure (course : Course α) : course.bind (pure : α → Run α) = course := by
  induction course with
  | ends result memory => cases result <;> rfl
  | asks memory request next ih => simp only [Course.bind, ih]
  | resumes memory generator message next ih => simp only [Course.bind, ih]
  | pauses memory value next ih => simp only [Course.bind, ih]

namespace Run.Relays

variable {machine : Machine}

theorem pure (value : α) : Relays machine (Pure.pure value : Run α) := fun memory => .ends _ memory

theorem stop (abrupt : Abrupt) : Relays machine (Run.stop abrupt : Run α) :=
  fun memory => .ends _ memory

theorem raise (kind : Intrinsic) (message : String) :
    Relays machine (Run.raise kind message : Run α) := fun _ => .ends _ _

theorem look (view : Memory → α) : Relays machine (Run.look view) := fun memory => .ends _ memory

theorem bind {computation : Run α} {rest : α → Run β} (first : computation.Relays machine)
    (rests : ∀ value, (rest value).Relays machine) : Relays machine (computation >>= rest) :=
  fun memory => (first memory).bind rests

theorem call (callee self : Value) (arguments : List Value) :
    Relays machine (machine.call callee self arguments) := by
  intro memory
  rw [← (machine.call callee self arguments memory).bind_pure]
  exact .calls callee self arguments memory pure

theorem repeatUntil {σ : Type} {step : σ → Run (σ ⊕ α)}
    (steps : ∀ state, Relays machine (step state))
    (count : Nat) (state : σ) : Relays machine (Run.repeatUntil step count state) := by
  induction count generalizing state with
  | zero => exact stop _
  | succ count ih =>
      refine (steps state).bind fun outcome => ?_
      cases outcome with
      | inl state => exact ih state
      | inr result => exact pure result

theorem forPositions {length : Nat} {state : α} {step : α → Nat → Run α}
    (steps : ∀ state position, Relays machine (step state position)) :
    Relays machine (Run.forPositions length state step) := by
  refine repeatUntil (fun ⟨position, state⟩ => ?_) _ _
  dsimp only
  split
  · exact pure _
  · exact (steps state position).bind fun _ => pure _

/-! ## Reading -/

theorem isCallable (value : Value) : Relays machine (Run.isCallable value) := by
  cases value with
  | object place =>
      refine (look _).bind fun object => ?_
      split <;> exact pure _
  | _ => exact pure _

/-- A method that is called, or none. -/
theorem callable (method : Value) : Relays machine (do
    if ← Run.isCallable method then return some method
    else Run.typeError "not a callable function") := by
  refine (isCallable method).bind fun callable => ?_
  split
  · exact pure _
  · exact raise _ _

theorem trap? {read : ObjectId → Key → Run Value}
    (reads : ∀ place key, Relays machine (read place key))
    (handler : ObjectId) (name : String) : Relays machine (Run.trap? read handler name) := by
  refine (reads _ _).bind fun method => ?_
  cases method with
  | undefined | null => exact pure _
  | _ => exact callable _

theorem getFrom (steps : Nat) (place : ObjectId) (key : Key) (receiver : Value) :
    Relays machine (Run.getFrom machine steps place key receiver) := by
  induction steps generalizing place key receiver with
  | zero => exact stop _
  | succ steps ih =>
      refine (look _).bind fun object => ?_
      split
      · next handler _ _ _ =>
          refine (trap? (fun place key => ih place key _) handler "get").bind fun method => ?_
          cases method with
          | some method => exact call _ _ _
          | none => exact ih _ _ _
      · split
        · exact pure _
        · exact call _ _ _
        · exact pure _
        · split
          · exact ih _ _ _
          · exact pure _

theorem getOf (place : ObjectId) (key : Key) : Relays machine (Run.getOf machine place key) :=
  getFrom _ _ _ _

theorem method? (place : ObjectId) (key : Key) :
    Relays machine (Run.method? machine (.object place) key) := by
  refine (getFrom _ _ _ _).bind fun method => ?_
  cases method with
  | undefined | null => exact pure _
  | _ => exact callable _

/-! ## Converting -/

theorem firstPrimitive (place : ObjectId) (names : List String) :
    Relays machine (Run.firstPrimitive machine place names) := by
  induction names with
  | nil => exact raise _ _
  | cons name names ih =>
      refine (getOf _ _).bind fun method => (isCallable method).bind fun callable => ?_
      split
      · refine (call _ _ _).bind fun value => ?_
        split
        · exact ih
        · exact pure _
      · exact ih

theorem toPrimitive (value : Value) (hint : Hint) :
    Relays machine (Run.toPrimitive machine value hint) := by
  cases value with
  | object place =>
      refine (method? _ _).bind fun method => ?_
      cases method with
      | some method =>
          refine (call _ _ _).bind fun value => ?_
          split
          · exact raise _ _
          · exact pure _
      | none => exact firstPrimitive _ _
  | _ => exact pure _

theorem textOf (value : Value) : Relays machine (Run.textOf value) := by
  cases value with
  | symbol number => exact raise _ _
  | _ => exact pure _

theorem numberOf (value : Value) : Relays machine (Run.numberOf value) := by
  cases value with
  | whole number => exact raise _ _
  | symbol number => exact raise _ _
  | _ => exact pure _

theorem toText (value : Value) : Relays machine (Run.toText machine value) := by
  cases value with
  | text text => exact pure _
  | _ => exact (toPrimitive _ _).bind textOf

theorem toNumber (value : Value) : Relays machine (Run.toNumber machine value) := by
  cases value with
  | number number => exact pure _
  | _ => exact (toPrimitive _ _).bind numberOf

/-! ## Arguments -/

theorem textArgument (given : Given) (position : Nat) :
    Relays given.machine (Library.textArgument given position) :=
  (toText _).bind fun _ => pure _

theorem textArguments (given : Given) (values : List Value) :
    Relays given.machine (Library.textArguments given values) := by
  induction values with
  | nil => exact pure _
  | cons value values ih => exact (toText _).bind fun _ => ih.bind fun _ => pure _

theorem callbackArgument (given : Given) (position : Nat) (name : String) :
    Relays machine (Library.callbackArgument given position name) := by
  rw [Library.callbackArgument]
  cases given.argument position with
  | object place =>
      refine (isCallable _).bind fun callable => ?_
      split
      · exact pure _
      · exact stop _
  | _ => exact stop _

theorem selectorsArgument (given : Given) :
    Relays given.machine (Library.selectorsArgument given) := by
  rw [Library.selectorsArgument]
  cases given.first with
  | object place =>
      refine (getOf _ _).bind fun value => (toNumber value).bind fun length => ?_
      split
      · exact stop _
      refine bind (forPositions fun selectors position => ?_) fun _ => pure _
      exact (getOf _ _).bind fun item => (toText item).bind fun _ => pure _
  | _ => exact stop _

end Run.Relays

end PageWatch.Script
