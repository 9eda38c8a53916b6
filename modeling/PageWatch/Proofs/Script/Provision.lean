import PageWatch.Proofs.Script.Silence

/-!
# What a fresh memory holds

The memory that scripts start with is put together entry by entry.  What one entry has put there
stays, unless a later one writes to the same key or makes something else of the object.  So what
scripts find under a key is what the last entry for it has left there, and for that only the keys
of the entries that come after it matter.
-/

namespace PageWatch.Script

/-! ## What entries touch -/

namespace Entry

/-- The keys that an entry gives a property to, each with its object. -/
def writes : Entry → List (ObjectId × Key)
  | .method holder key _ _ | .accessor holder key _ _ | .constant holder key _
  | .changeable holder key _ _ | .also holder key _ _ => [(holder, key)]
  | .callable _ _ _ => []
  | .constructor intrinsic name _ _ =>
    [(intrinsic.constructor, "prototype"), (intrinsic.place, "constructor"),
      (Intrinsic.global.place, .ofString name)]

/-- The object that an entry makes a function. -/
def remakes? : Entry → Option ObjectId
  | .callable intrinsic _ _ => some intrinsic.place
  | .constructor intrinsic _ _ _ => some intrinsic.constructor
  | _ => none

/-- Whether an entry leaves some keys of an object as they are. -/
def spares (place : ObjectId) (keys : Key → Bool) (entry : Entry) : Bool :=
  entry.remakes? != some place &&
    entry.writes.all fun (holder, key) => holder != place || !keys key

end Entry

/-- Only objects in memory are functions. -/
theorem Finds.lt_size {natives : Array Native} {objects : Array Object} {place : ObjectId}
    {run : Given → Run Value} (finds : Finds natives objects place run) : place < objects.size := by
  obtain ⟨number, creates, fields, native, kind, -⟩ := finds
  refine Nat.lt_of_not_le fun beyond => ?_
  rw [objectIn, Array.getElem?_eq_none beyond] at kind
  exact absurd kind nofun

namespace Setup

variable {place holder : ObjectId} {keys : Key → Bool} {before middle after setup : Setup}

/-- From one memory to another, an object at a place is of the same kind, with the same parent and
with the same properties under some keys, and all functions keep their numbers. -/
structure Retains (place : ObjectId) (keys : Key → Bool) (before after : Setup) : Prop where
  size_le : before.memory.objects.size ≤ after.memory.objects.size
  native_eq : ∀ (number : Nat) (native : Native), before.natives[number]? = some native →
    after.natives[number]? = some native
  kind_eq : (objectIn after.memory.objects place).kind = (objectIn before.memory.objects place).kind
  parent_eq :
    (objectIn after.memory.objects place).parent = (objectIn before.memory.objects place).parent
  property_eq : ∀ key, keys key = true →
    (objectIn after.memory.objects place).table.get? key =
      (objectIn before.memory.objects place).table.get? key

namespace Retains

theorem refl (setup : Setup) : Retains place keys setup setup :=
  ⟨Nat.le_refl _, fun _ _ found => found, rfl, rfl, fun _ _ => rfl⟩

theorem trans (first : Retains place keys before middle)
    (second : Retains place keys middle after) :
    Retains place keys before after where
  size_le := Nat.le_trans first.size_le second.size_le
  native_eq number native found :=
    second.native_eq number native (first.native_eq number native found)
  kind_eq := second.kind_eq.trans first.kind_eq
  parent_eq := second.parent_eq.trans first.parent_eq
  property_eq key known := (second.property_eq key known).trans (first.property_eq key known)

theorem finds {run : Given → Run Value} (retains : Retains place keys before after)
    (finds : Finds before.natives before.memory.objects place run) :
    Finds after.natives after.memory.objects place run := by
  obtain ⟨number, creates, fields, native, kind, listed, run_eq⟩ := finds
  exact ⟨number, creates, fields, native, retains.kind_eq.trans kind,
    retains.native_eq number native listed, run_eq⟩

end Retains

/-! ## One step after another -/

theorem objectIn_modify_of_ne {objects : Array Object} {change : Object → Object}
    (other : place ≠ holder) :
    objectIn (objects.modify holder change) place = objectIn objects place := by
  rw [objectIn, objectIn, Array.getElem?_modify, if_neg (Ne.symm other)]

theorem objectIn_modify_self {objects : Array Object} {change : Object → Object}
    (inside : holder < objects.size) :
    objectIn (objects.modify holder change) holder = change (objectIn objects holder) := by
  rw [objectIn, objectIn, Array.getElem?_modify, if_pos rfl, Array.getElem?_eq_getElem inside]
  rfl

theorem native_push {natives : Array Native} {number : Nat} {native other : Native}
    (found : natives[number]? = some native) : (natives.push other)[number]? = some native := by
  obtain ⟨inside, same⟩ := Array.getElem?_eq_some_iff.mp found
  rw [Array.getElem?_push_lt inside, same]

/-- What leaves an object as it is and takes no functions away retains everything of the object. -/
theorem Retains.of_unchanged (size_le : before.memory.objects.size ≤ after.memory.objects.size)
    (native_eq : ∀ (number : Nat) (native : Native), before.natives[number]? = some native →
      after.natives[number]? = some native)
    (unchanged : objectIn after.memory.objects place = objectIn before.memory.objects place) :
    Retains place keys before after :=
  ⟨size_le, native_eq, congrArg _ unchanged, congrArg _ unchanged, fun _ _ => by rw [unchanged]⟩

theorem property_put (key : Key) (property : Property)
    (inside : holder < setup.memory.objects.size) :
    (objectIn (setup.put holder key property).memory.objects holder).table.get? key =
      some property := by
  have changed : objectIn (setup.put holder key property).memory.objects holder =
      { objectIn setup.memory.objects holder with
        table := (objectIn setup.memory.objects holder).table.put key property } :=
    objectIn_modify_self inside
  rw [changed]
  exact Table.get?_put_self

theorem retains_put (key : Key) (property : Property) (inside : place < setup.memory.objects.size)
    (spared : holder = place → keys key = false) :
    Retains place keys setup (setup.put holder key property) := by
  have size_eq : (setup.put holder key property).memory.objects.size =
      setup.memory.objects.size := Array.size_modify
  by_cases own : holder = place
  · subst own
    have changed : objectIn (setup.put holder key property).memory.objects holder =
        { objectIn setup.memory.objects holder with
          table := (objectIn setup.memory.objects holder).table.put key property } :=
      objectIn_modify_self inside
    refine ⟨Nat.le_of_eq size_eq.symm, fun _ _ found => found, by rw [changed], by rw [changed],
      fun wanted known => ?_⟩
    rw [changed]
    refine Table.get?_put_of_ne fun same => ?_
    rw [same, spared rfl] at known
    exact Bool.false_ne_true known
  · exact .of_unchanged (Nat.le_of_eq size_eq.symm) (fun _ _ found => found)
      (objectIn_modify_of_ne (Ne.symm own))

namespace Retains

variable (retains : Retains place keys before setup) (inside : place < before.memory.objects.size)

include retains

include inside in
theorem put (key : Key) (property : Property) (spared : holder = place → keys key = false) :
    Retains place keys before (setup.put holder key property) :=
  retains.trans (retains_put key property (Nat.lt_of_lt_of_le inside retains.size_le) spared)

include inside in
theorem addFunction (name : Text.Units) (length : Nat) (run : Given → Run Value) :
    Retains place keys before (setup.addFunction name length run).2 := by
  have inside := Nat.lt_of_lt_of_le inside retains.size_le
  refine retains.trans (.of_unchanged ?_ (fun _ _ found => native_push found) ?_)
  · simp [Setup.addFunction, addNative, Memory.addObject]
  · rw [objectIn, objectIn]
    simp only [Setup.addFunction, addNative, Memory.addObject]
    rw [Array.getElem?_push_lt inside, Array.getElem?_eq_getElem inside]

theorem makeFunction (name : Text.Units) (length : Nat) (creates : Bool) (run : Given → Run Value)
    (other : holder ≠ place) :
    Retains place keys before (setup.makeFunction holder name length creates run) := by
  refine retains.trans (.of_unchanged (Nat.le_of_eq ?_) (fun _ _ found => native_push found) ?_)
  · exact Array.size_modify.symm
  · exact objectIn_modify_of_ne other.symm

end Retains

/-- An entry retains what it spares. -/
theorem retains_add {entry : Entry} (inside : place < setup.memory.objects.size)
    (spared : entry.spares place keys = true) : Retains place keys setup (setup.add entry) := by
  obtain ⟨remakes, writes⟩ := Bool.and_eq_true_iff.mp spared
  have spares {holder : ObjectId} {key : Key} (written : (holder, key) ∈ entry.writes) :
      holder = place → keys key = false := by
    have free := List.all_eq_true.mp writes _ written
    rintro rfl
    simpa using free
  have itself : Retains place keys setup setup := .refl setup
  cases entry with
  | method holder key length run =>
      exact (itself.addFunction inside _ _ _).put inside _ _ (spares (.head _))
  | accessor holder key getter setter =>
      have first := itself.addFunction inside ("get " ++ nameOf key) 0 getter
      cases setter with
      | none => exact first.put inside _ _ (spares (.head _))
      | some setter => exact (first.addFunction inside _ _ _).put inside _ _ (spares (.head _))
  | callable intrinsic length run =>
      refine itself.makeFunction _ _ _ _ fun same => ?_
      simp [Entry.remakes?, same] at remakes
  | constant | changeable => exact itself.put inside _ _ (spares (.head _))
  | constructor intrinsic name length run =>
      have made : Retains place keys setup
          (setup.makeFunction intrinsic.constructor name length true run) :=
        itself.makeFunction _ _ _ _ fun same => by simp [Entry.remakes?, same] at remakes
      have first := made.put inside "prototype"
        ⟨.data (.object intrinsic.place) false, false, false⟩ (spares (.head _))
      have second := first.put inside "constructor" (.quiet (.object intrinsic.constructor))
        (spares (.tail _ (.head _)))
      exact second.put inside name _ (spares (.tail _ (.tail _ (.head _))))
  | also holder key source sourceKey =>
      cases found : (setup.memory.objects[source]?).bind (·.table.get? sourceKey) with
      | some property =>
          simp only [add, found]
          exact itself.put inside _ _ (spares (.head _))
      | none =>
          simp only [add, found]
          exact itself

theorem retains_all {entries : List Entry} (inside : place < setup.memory.objects.size)
    (spared : entries.all (·.spares place keys) = true) :
    Retains place keys setup (entries.foldl add setup) := by
  induction entries generalizing setup with
  | nil => exact .refl _
  | cons entry entries ih =>
      obtain ⟨first, rest⟩ := Bool.and_eq_true_iff.mp spared
      have added := retains_add inside first
      exact added.trans (ih (Nat.lt_of_lt_of_le inside added.size_le) rest)

/-! ## The whole library -/

theorem size_le_add (setup : Setup) (entry : Entry) :
    setup.memory.objects.size ≤ (setup.add entry).memory.objects.size := by
  cases entry with
  | accessor holder key getter setter =>
      cases setter <;>
        simp [add, put, addFunction, addNative, Memory.addObject, Memory.modifyObject]
      lia
  | also holder key source sourceKey =>
      simp only [add]
      split <;> simp [put, Memory.modifyObject]
  | _ =>
      simp [add, put, addFunction, makeFunction, addNative, Memory.addObject, Memory.modifyObject]

theorem size_le_foldl (setup : Setup) (entries : List Entry) :
    setup.memory.objects.size ≤ (entries.foldl add setup).memory.objects.size := by
  induction entries generalizing setup with
  | nil => exact Nat.le_refl _
  | cons entry entries ih => exact Nat.le_trans (size_le_add setup entry) (ih _)

/-- How many objects there are before any function is added. -/
def known : Nat := Intrinsic.count + Intrinsic.count

theorem size_start : start.memory.objects.size = known := rfl

/-- Objects that are added later are not made anything else. -/
theorem spares_new (entry : Entry) (new : known ≤ place) :
    entry.spares place (fun _ => false) = true := by
  have older (intrinsic : Intrinsic) :
      intrinsic.place < known ∧ intrinsic.constructor < known := by
    cases intrinsic <;> decide
  rw [Entry.spares, Bool.and_eq_true]
  refine ⟨?_, by simp⟩
  cases entry with
  | callable intrinsic =>
      have other := Nat.ne_of_lt (Nat.lt_of_lt_of_le (older intrinsic).1 new)
      simpa [Entry.remakes?] using other
  | constructor intrinsic =>
      have other := Nat.ne_of_lt (Nat.lt_of_lt_of_le (older intrinsic).2 new)
      simpa [Entry.remakes?] using other
  | _ => rfl

/-- An object has a property under a key, and that is a function of the library. -/
def Provides (setup : Setup) (holder : ObjectId) (key : Key) (run : Given → Run Value) : Prop :=
  ∃ place, known ≤ place ∧
    (objectIn setup.memory.objects holder).table.get? key = some (.quiet (.object place)) ∧
    Finds setup.natives setup.memory.objects place run

theorem provides_method (key : Key) (length : Nat) (run : Given → Run Value)
    (inside : holder < known) (grown : known ≤ setup.memory.objects.size) :
    (setup.add (.method holder key length run)).Provides holder key run := by
  have below : holder < setup.memory.objects.size := Nat.lt_of_lt_of_le inside grown
  let added := (setup.addFunction (nameOf key) length run).2
  have size_eq : added.memory.objects.size = setup.memory.objects.size + 1 := Array.size_push _
  have kind : (objectIn (setup.add (.method holder key length run)).memory.objects
      setup.memory.objects.size).kind =
        .function ⟨.native setup.natives.size, false, none, []⟩ := by
    have untouched : objectIn (setup.add (.method holder key length run)).memory.objects
        setup.memory.objects.size = objectIn added.memory.objects setup.memory.objects.size :=
      objectIn_modify_of_ne (Nat.ne_of_gt below)
    rw [untouched, objectIn]
    simp [added, addFunction, addNative, Memory.addObject]
  refine ⟨setup.memory.objects.size, grown, ?_, setup.natives.size, false, [], _, kind,
    Array.getElem?_push_size, rfl⟩
  exact property_put key _ (size_eq ▸ Nat.lt_succ_of_lt below)

/-- What an entry has left is still there when all entries after it have been put into memory. -/
theorem complete_split {changeable : Bool} {index : Nat} {entry : Entry}
    (found : (Library.entries changeable)[index]? = some entry) :
    ∃ earlier : Setup, known ≤ earlier.memory.objects.size ∧
      complete changeable =
        ((Library.entries changeable).drop (index + 1)).foldl add (earlier.add entry) := by
  obtain ⟨inside, same⟩ := List.getElem?_eq_some_iff.mp found
  refine ⟨((Library.entries changeable).take index).foldl add start,
    size_start ▸ size_le_foldl _ _, ?_⟩
  rw [← List.foldl_cons, ← same, ← List.drop_eq_getElem_cons inside, ← List.foldl_append,
    List.take_append_drop]
  rfl

/-- Scripts find a method where the last entry for its key has put it. -/
theorem complete_provides {changeable : Bool} {key : Key} {length : Nat} {run : Given → Run Value}
    (index : Nat)
    (found : (Library.entries changeable)[index]? = some (.method holder key length run))
    (inside : holder < known)
    (last : ((Library.entries changeable).drop (index + 1)).all (·.spares holder (· == key)) =
      true) :
    (complete changeable).Provides holder key run := by
  obtain ⟨earlier, grown, complete_eq⟩ := complete_split found
  obtain ⟨place, new, property, finds⟩ := provides_method key length run inside grown
  have grown' := Nat.le_trans grown (size_le_add earlier (.method holder key length run))
  have retains := retains_all (Nat.lt_of_lt_of_le inside grown') last
  rw [complete_eq]
  refine ⟨place, new, (retains.property_eq key (beq_self_eq_true key)).trans property, ?_⟩
  exact (retains_all finds.lt_size (List.all_eq_true.mpr fun entry _ =>
    spares_new entry new)).finds finds

/-- Under a key that no entry writes to, an object at a place known in advance has what it starts
with. -/
theorem complete_retains {changeable : Bool} {keys : Key → Bool} (inside : place < known)
    (spared : (Library.entries changeable).all (·.spares place keys) = true) :
    Retains place keys start (complete changeable) :=
  retains_all inside spared

end Setup

/-! ## Arrays -/

/-- The properties of an array, from a position on, where some values follow. -/
def fill (values : List Value) (position : Nat) (table : Table) : Nat × Table :=
  values.foldl (fun (position, table) value =>
    (position + 1, table.put (.index position) (.ofValue value))) (position, table)

/-- Only positions get properties, and these hold the values. -/
theorem get?_fill (values : List Value) (position : Nat) (table : Table) (key : Key) :
    (fill values position table).2.get? key = table.get? key ∨
      (∃ place, key = .index place) ∧
        ∃ value ∈ values, (fill values position table).2.get? key = some (.ofValue value) := by
  induction values generalizing position table with
  | nil => exact .inl rfl
  | cons value values ih =>
      rcases ih (position + 1) (table.put (.index position) (.ofValue value)) with
        same | ⟨indexed, other, member, found⟩
      · by_cases own : key = .index position
        · subst own
          exact .inr ⟨⟨position, rfl⟩, value, .head _, same.trans Table.get?_put_self⟩
        · exact .inl (same.trans (Table.get?_put_of_ne own))
      · exact .inr ⟨indexed, other, .tail _ member, found⟩

/-- The array that the library makes of some values. -/
def arrayOf (values : List Value) : Object :=
  ⟨.array, some Intrinsic.array.place,
    (fill values 0 .empty).2.put "length"
      ⟨.data (Run.countValue (fill values 0 .empty).1) true, false, false⟩, true⟩

/-- A new array is the last object, and all others are as before. -/
theorem newArray_ends (values : List Value) (memory : Memory) :
    ∃ last, Run.newArray values memory = .ends (.ok memory.objects.size) last ∧
      objectIn last.objects memory.objects.size = arrayOf values ∧
      ∀ place < memory.objects.size,
        objectIn last.objects place = objectIn memory.objects place := by
  refine ⟨_, rfl, ?_, fun place inside => ?_⟩
  · refine (Setup.objectIn_modify_self (by simp)).trans ?_
    simp [objectIn, arrayOf, fill]
  · refine (Setup.objectIn_modify_of_ne (Nat.ne_of_lt inside)).trans ?_
    rw [objectIn, objectIn, Array.getElem?_push_lt inside, Array.getElem?_eq_getElem inside]

/-! ## Arrays among the objects of a fresh memory -/

/-- The objects of a fresh memory, with an array of primitive values behind them. -/
structure FreshArray (changeable : Bool) (values : List Value) (objects : Array Object)
    (place : ObjectId) : Prop where
  primitive : ∀ value ∈ values, value.Primitive
  array_eq : objectIn objects place = arrayOf values
  older : ∀ other < (Setup.complete changeable).memory.objects.size,
    objectIn objects other = objectIn (Setup.complete changeable).memory.objects other

/-- Objects of these kinds have the properties in their tables, and no others. -/
def Kind.Tabled : Kind → Prop
  | .array | .plain => True
  | _ => False

theorem Kind.Tabled.direct {kind : Kind} (tabled : kind.Tabled) : kind.Direct := by
  cases kind with
  | array | plain => exact trivial
  | _ => exact tabled.elim

theorem plainProperty?_of_tabled {object : Object} (tabled : object.kind.Tabled) (key : Key) :
    Run.plainProperty? object key = object.table.get? key := by
  rw [Run.plainProperty?]
  split
  · next kind =>
      rw [kind] at tabled
      exact tabled.elim
  · rfl

/-- Whether a key is a position. -/
def Key.isIndex : Key → Bool
  | .index _ => true
  | _ => false

/-- Keys under which neither arrays nor objects inherit anything from the library: positions, and
the symbol for how an object wants to be converted. -/
def unwritten (key : Key) : Bool := key.isIndex || key == WellKnown.toPrimitive.key

theorem unwritten_ne {key other : Key} (free : unwritten key = true)
    (written : unwritten other = false) : key ≠ other := by
  rintro rfl
  exact Bool.false_ne_true (written.symm.trans free)

namespace FreshArray

open Setup

variable {changeable : Bool} {values : List Value} {objects : Array Object} {place : ObjectId}
  {key : Key} {run : Given → Run Value} (fresh : FreshArray changeable values objects place)

include fresh

theorem older_known {other : ObjectId} (inside : other < known) :
    objectIn objects other = objectIn (complete changeable).memory.objects other :=
  fresh.older other (Nat.lt_of_lt_of_le inside (size_le_foldl start (Library.entries changeable)))

/-! ### What arrays inherit from -/

/-- A known object that is not made a function is what it starts as. -/
theorem known_eq {holder : ObjectId} (inside : holder < known)
    (spared : (Library.entries changeable).all (·.spares holder fun _ => false) = true) :
    (objectIn objects holder).kind = (objectIn start.memory.objects holder).kind ∧
      (objectIn objects holder).parent = (objectIn start.memory.objects holder).parent := by
  have retains := complete_retains inside spared
  rw [fresh.older_known inside]
  exact ⟨retains.kind_eq, retains.parent_eq⟩

/-- The parent of all arrays is an array itself, and its parent is that of all objects. -/
theorem array_parent : (objectIn objects Intrinsic.array.place).kind = .array ∧
    (objectIn objects Intrinsic.array.place).parent = some Intrinsic.object.place :=
  fresh.known_eq (by decide) (by cases changeable <;> decide +kernel)

theorem object_parent : (objectIn objects Intrinsic.object.place).kind = .plain ∧
    (objectIn objects Intrinsic.object.place).parent = none :=
  fresh.known_eq (by decide) (by cases changeable <;> decide +kernel)

/-- Arrays inherit nothing under keys that the library does not write to. -/
theorem shows_missing (free : unwritten key = true) :
    Shows objects key Intrinsic.array.place .undefined := by
  obtain ⟨arrayKind, arrayParent⟩ := fresh.array_parent
  obtain ⟨objectKind, objectParent⟩ := fresh.object_parent
  have array : Retains Intrinsic.array.place unwritten start (complete changeable) :=
    complete_retains (by decide) (by cases changeable <;> decide +kernel)
  have object : Retains Intrinsic.object.place unwritten start (complete changeable) :=
    complete_retains (by decide) (by cases changeable <;> decide +kernel)
  refine .inherited (by rw [arrayKind]; trivial) ?_ arrayParent
    (.missing (by rw [objectKind]; trivial) ?_ objectParent)
  · rw [plainProperty?_of_tabled (by rw [arrayKind]; trivial), fresh.older_known (by decide),
      array.property_eq key free]
    exact (Table.get?_put_of_ne (unwritten_ne free (by decide +kernel))).trans Table.get?_empty
  · rw [plainProperty?_of_tabled (by rw [objectKind]; trivial), fresh.older_known (by decide),
      object.property_eq key free]
    exact Table.get?_empty

/-- What the library gives to a known object, that object shows. -/
theorem provided {holder : ObjectId} (inside : holder < known)
    (tabled : (objectIn objects holder).kind.Tabled)
    (provides : (complete changeable).Provides holder key run) :
    ∃ method, Shows objects key holder (.object method) ∧
      Finds (complete changeable).natives objects method run := by
  obtain ⟨method, -, property, finds⟩ := provides
  rw [← fresh.older_known inside, ← plainProperty?_of_tabled tabled] at property
  refine ⟨method, .own tabled.direct property, ?_⟩
  rw [Finds, fresh.older method finds.lt_size]
  exact finds

/-- Scripts find a function of the library by its name. -/
theorem named (provides : (complete changeable).Provides Intrinsic.global.place key run) :
    ∃ method, Shows objects key Intrinsic.global.place (.object method) ∧
      Finds (complete changeable).natives objects method run := by
  have kind : (objectIn objects Intrinsic.global.place).kind = .plain :=
    (fresh.known_eq (by decide) (by cases changeable <;> decide +kernel)).1
  exact fresh.provided (by decide) (by rw [kind]; trivial) provides

/-! ### The array -/

theorem tabled : (objectIn objects place).kind.Tabled := by
  rw [fresh.array_eq]
  trivial

/-- What the array has not of its own, it inherits. -/
theorem inherits {value : Value} (lacking : (arrayOf values).table.get? key = none)
    (shown : Shows objects key Intrinsic.array.place value) : Shows objects key place value := by
  refine .inherited fresh.tabled.direct ?_ (by rw [fresh.array_eq]; rfl) shown
  rw [plainProperty?_of_tabled fresh.tabled, fresh.array_eq]
  exact lacking

/-- The length and the values of the array are there to be read. -/
theorem listed : Listed objects place where
  length := by
    have found : Run.plainProperty? (objectIn objects place) "length" =
        some ⟨.data (Run.countValue (fill values 0 .empty).1) true, false, false⟩ := by
      rw [plainProperty?_of_tabled fresh.tabled, fresh.array_eq]
      exact Table.get?_put_self
    exact ⟨_, .own fresh.tabled.direct found, trivial⟩
  item position := by
    have own : (arrayOf values).table.get? (.index position) =
        (fill values 0 .empty).2.get? (.index position) :=
      Table.get?_put_of_ne (unwritten_ne rfl (by decide +kernel))
    rcases get?_fill values 0 .empty (.index position) with lacking | ⟨-, value, member, found⟩
    · exact ⟨.undefined, fresh.inherits ((own.trans lacking).trans Table.get?_empty)
        (fresh.shows_missing rfl), trivial⟩
    · have shown : Run.plainProperty? (objectIn objects place) (.index position) =
          some (.ofValue value) := by
        rw [plainProperty?_of_tabled fresh.tabled, fresh.array_eq]
        exact own.trans found
      exact ⟨value, .own fresh.tabled.direct shown, fresh.primitive value member⟩

omit fresh in
/-- Of its own, an array has its length and its values. -/
theorem arrayOf_lacks (unindexed : key.isIndex = false) (other : key ≠ Key.ofString "length") :
    (arrayOf values).table.get? key = none := by
  rcases get?_fill values 0 .empty key with same | ⟨⟨position, rfl⟩, -⟩
  · exact (Table.get?_put_of_ne other).trans (same.trans Table.get?_empty)
  · exact absurd unindexed nofun

/-- The methods by which the array is converted are those that the library gives to arrays and to
all objects. -/
theorem unaided : Unaided (complete changeable).natives objects place where
  preference :=
    ⟨.undefined, fresh.inherits (arrayOf_lacks rfl (unwritten_ne rfl (by decide +kernel)))
      (fresh.shows_missing rfl), .inl rfl⟩
  method name tried := by
    obtain ⟨arrayKind, arrayParent⟩ := fresh.array_parent
    have array : (objectIn objects Intrinsic.array.place).kind.Tabled := by
      rw [arrayKind]
      trivial
    have object : (objectIn objects Intrinsic.object.place).kind.Tabled := by
      rw [fresh.object_parent.1]
      trivial
    have inherited {value : Value} : Shows objects name Intrinsic.array.place value →
        Shows objects name place value :=
      fresh.inherits (arrayOf_lacks (by revert name; decide +kernel)
        (by revert name; decide +kernel))
    simp only [List.mem_cons, List.not_mem_nil, or_false] at tried
    rcases tried with rfl | rfl
    · obtain ⟨method, shown, finds⟩ := fresh.provided (by decide) array
        (complete_provides 67 rfl (by decide) (by cases changeable <;> decide +kernel) :
          (complete changeable).Provides Intrinsic.array.place "toString" Library.arrayToString)
      obtain ⟨join, joinShown, joins⟩ := fresh.provided (by decide) array
        (complete_provides 66 rfl (by decide) (by cases changeable <;> decide +kernel) :
          (complete changeable).Provides Intrinsic.array.place "join" Library.arrayJoin)
      have ofArrays := fresh.inherits (arrayOf_lacks (by decide +kernel) (by decide +kernel))
        joinShown
      refine ⟨.object method, inherited shown, fun other same _ => ?_⟩
      cases same
      exact .array finds ofArrays joins fresh.listed
    · obtain ⟨method, shown, finds⟩ := fresh.provided (by decide) object
        (complete_provides 36 rfl (by decide) (by cases changeable <;> decide +kernel) :
          (complete changeable).Provides Intrinsic.object.place "valueOf" Library.objectValueOf)
      have retains : Retains Intrinsic.array.place (· == Key.ofString "valueOf") start
          (complete changeable) :=
        complete_retains (by decide) (by cases changeable <;> decide +kernel)
      have lacking : Run.plainProperty? (objectIn objects Intrinsic.array.place) "valueOf" =
          none := by
        rw [plainProperty?_of_tabled array, fresh.older_known (by decide),
          retains.property_eq _ (beq_self_eq_true _)]
        exact (Table.get?_put_of_ne (by decide +kernel)).trans Table.get?_empty
      refine ⟨.object method, inherited (.inherited array.direct lacking arrayParent shown),
        fun other same _ => ?_⟩
      cases same
      exact .itself finds

end FreshArray

/-- An array that is made in a fresh memory. -/
theorem freshArray_newArray {changeable : Bool} {values : List Value}
    (primitive : ∀ value ∈ values, value.Primitive) :
    let memory := (Setup.complete changeable).memory
    ∃ last, Run.newArray values memory = .ends (.ok memory.objects.size) last ∧
      FreshArray changeable values last.objects memory.objects.size := by
  obtain ⟨last, ends, array_eq, older⟩ := newArray_ends values (Setup.complete changeable).memory
  exact ⟨last, ends, primitive, array_eq, older⟩

end PageWatch.Script
