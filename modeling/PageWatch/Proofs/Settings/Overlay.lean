import PageWatch.Proofs.CommandLine.Overriding
import PageWatch.Proofs.Json.Records

/-!
# Settings files over the standard settings

A settings file gives some of three fields, in any order and among whatever else its object holds.
The settings that are loaded are the standard ones with those fields replaced; only a check
interval of zero is refused.
-/

namespace PageWatch.Settings

open Json Json.Reader

variable {members others : List Member} {one : Member} {text : List Char}

/-! ## What an object gives -/

/-- The values that members have for a key, as they are written. -/
def valuesOf (key : String) (members : List Member) : List (List Char) :=
  (members.filter fun one => one.key = some key).map Member.value

/-- The members give these fields, each at most once, as decimal numbers of 64 bits and truth
values.  Members of other names may be any. -/
structure GivenBy (members : List Member) (given : Given) : Prop where
  named : ∀ one ∈ members, one.key ≠ none
  interval : valuesOf "check_interval_ms" members =
    given.checkIntervalMs.toList.map (Nat.toDigits 10)
  budget : valuesOf "budget_ms" members = given.budgetMs.toList.map (Nat.toDigits 10)
  realtime : valuesOf "realtime" members = given.realtime.toList.map truth
  intervalFits : ∀ ms ∈ given.checkIntervalMs, ms < 2 ^ 64
  budgetFits : ∀ ms ∈ given.budgetMs, ms < 2 ^ 64

theorem valuesOf_cons_same {key : String} (same : one.key = some key) :
    valuesOf key (one :: others) = one.value :: valuesOf key others := by
  simp [valuesOf, same]

theorem valuesOf_cons_other {key : String} (other : one.key ≠ some key) :
    valuesOf key (one :: others) = valuesOf key others := by
  simp [valuesOf, other]

/-! ## Members that remain -/

section Fills

variable {α : Type} {write : α → List Char} {value : List Char} {values : List (List Char)}
  {before after : Option α}

/-- The values that are still to be read make the one state of a field into the other. -/
def Fills (write : α → List Char) (values : List (List Char)) (before after : Option α) : Prop :=
  ∃ more : List α, values = more.map write ∧ before.toList ++ more = after.toList

theorem Fills.eq (fills : Fills write [] before after) : before = after := by
  obtain ⟨more, none, same⟩ := fills
  obtain rfl := List.map_eq_nil_iff.mp none.symm
  cases before <;> cases after <;> simp_all

/-- A field is given once, so it is empty before its value is read. -/
theorem Fills.cons (fills : Fills write (value :: values) before after) :
    before = none ∧ ∃ given, value = write given ∧ after = some given ∧
      Fills write values (some given) after := by
  obtain ⟨more, all, same⟩ := fills
  obtain ⟨given, more, rfl, rfl, rfl⟩ := List.map_eq_cons_iff.mp all.symm
  cases before with
  | none =>
      refine ⟨rfl, given, rfl, ?_, more, rfl, same⟩
      cases after with
      | none => contradiction
      | some last => exact congrArg some (List.cons.inj same).1.symm
  | some first =>
      cases after with
      | none => contradiction
      | some last => exact absurd (List.cons.inj same).2 (List.cons_ne_nil _ _)

end Fills

/-- The members that remain give what is still missing. -/
structure Completes (members : List Member) (before after : Given) : Prop where
  interval : Fills (Nat.toDigits 10) (valuesOf "check_interval_ms" members)
    before.checkIntervalMs after.checkIntervalMs
  budget : Fills (Nat.toDigits 10) (valuesOf "budget_ms" members) before.budgetMs after.budgetMs
  realtime : Fills truth (valuesOf "realtime" members) before.realtime after.realtime

theorem GivenBy.completes {given : Given} (gives : GivenBy members given) :
    Completes members {} given where
  interval := ⟨_, gives.interval, rfl⟩
  budget := ⟨_, gives.budget, rfl⟩
  realtime := ⟨_, gives.realtime, rfl⟩

theorem Completes.eq {before after : Given} (completes : Completes [] before after) :
    before = after := by
  cases before
  cases after
  rw [Given.mk.injEq]
  exact ⟨completes.interval.eq, completes.budget.eq, completes.realtime.eq⟩

/-! ## Reading one member -/

section Member

variable {α : Type} {before after middle : Given} {behind lead rest : List Char}

theorem takes_colon_bind {next : Reader α} {value : List Char} {result : α} (follows : Space behind)
    (takes : next.Takes (lead ++ value) rest result) :
    (do colon; next).Takes (behind ++ ':' :: (lead ++ value)) rest result := by
  have both : (do colon; next).Takes (behind ++ [':'] ++ (lead ++ value)) rest result :=
    (takes_colon follows).bind takes
  simpa only [List.append_assoc, List.singleton_append] using both

theorem reads_interval {ms : Nat} (key : one.key = some "check_interval_ms")
    (free : before.checkIntervalMs = none) (written : one.value = Nat.toDigits 10 ms)
    (fits : ms < 2 ^ 64) :
    Reads Given.member one before { before with checkIntervalMs := some ms } := by
  refine ⟨_, key, fun follows starts closed => ?_⟩
  rw [Given.member, if_pos rfl, free, written]
  exact takes_colon_bind follows ((takes_natural starts fits closed).bind_nil (.pure _))

theorem reads_budget {ms : Nat} (key : one.key = some "budget_ms")
    (free : before.budgetMs = none) (written : one.value = Nat.toDigits 10 ms)
    (fits : ms < 2 ^ 64) : Reads Given.member one before { before with budgetMs := some ms } := by
  refine ⟨_, key, fun follows starts closed => ?_⟩
  rw [Given.member, if_neg (by decide), if_pos rfl, free, written]
  exact takes_colon_bind follows ((takes_natural starts fits closed).bind_nil (.pure _))

theorem reads_realtime {flag : Bool} (key : one.key = some "realtime")
    (free : before.realtime = none) (written : one.value = truth flag) :
    Reads Given.member one before { before with realtime := some flag } := by
  refine ⟨_, key, fun follows starts _ => ?_⟩
  rw [Given.member, if_neg (by decide), if_neg (by decide), if_pos rfl, free, written]
  exact takes_colon_bind follows ((takes_boolean starts).bind_nil (.pure _))

/-- A member of any other name is passed over. -/
theorem reads_other {key : String} (known : one.key = some key)
    (noInterval : key ≠ "check_interval_ms") (noBudget : key ≠ "budget_ms")
    (noRealtime : key ≠ "realtime") (written : Written .value one.value) :
    Reads Given.member one before before := by
  refine ⟨key, known, fun follows starts closed => ?_⟩
  rw [Given.member, if_neg noInterval, if_neg noBudget, if_neg noRealtime]
  exact takes_colon_bind follows ((takes_skipValue written starts closed).bind_nil (.pure before))

/-- One member either gives a field that is missing or none, and the others give the rest. -/
theorem Completes.cons (completes : Completes (one :: others) before after) (named : one.key ≠ none)
    (written : Written .value one.value) (intervalFits : ∀ ms ∈ after.checkIntervalMs, ms < 2 ^ 64)
    (budgetFits : ∀ ms ∈ after.budgetMs, ms < 2 ^ 64) :
    ∃ middle, Reads Given.member one before middle ∧ Completes others middle after := by
  obtain ⟨interval, budget, realtime⟩ := completes
  obtain ⟨key, known⟩ := Option.ne_none_iff_exists'.mp named
  have other {name : String} (no : key ≠ name) : one.key ≠ some name :=
    fun same => no (Option.some.inj (known.symm.trans same))
  by_cases isInterval : key = "check_interval_ms"
  · subst isInterval
    rw [valuesOf_cons_same known] at interval
    rw [valuesOf_cons_other (other (by decide))] at budget realtime
    obtain ⟨free, ms, value, gives, interval⟩ := interval.cons
    exact ⟨_, reads_interval known free value (intervalFits ms gives), interval, budget, realtime⟩
  by_cases isBudget : key = "budget_ms"
  · subst isBudget
    rw [valuesOf_cons_same known] at budget
    rw [valuesOf_cons_other (other (by decide))] at interval realtime
    obtain ⟨free, ms, value, gives, budget⟩ := budget.cons
    exact ⟨_, reads_budget known free value (budgetFits ms gives), interval, budget, realtime⟩
  by_cases isRealtime : key = "realtime"
  · subst isRealtime
    rw [valuesOf_cons_same known] at realtime
    rw [valuesOf_cons_other (other (by decide))] at interval budget
    obtain ⟨free, flag, value, gives, realtime⟩ := realtime.cons
    exact ⟨_, reads_realtime known free value, interval, budget, realtime⟩
  · rw [valuesOf_cons_other (other isInterval)] at interval
    rw [valuesOf_cons_other (other isBudget)] at budget
    rw [valuesOf_cons_other (other isRealtime)] at realtime
    exact ⟨before, reads_other known isInterval isBudget isRealtime written, interval, budget,
      realtime⟩

theorem readsAll (completes : Completes members before after)
    (named : ∀ one ∈ members, one.key ≠ none)
    (written : ∀ one ∈ members, Written .value one.value)
    (intervalFits : ∀ ms ∈ after.checkIntervalMs, ms < 2 ^ 64)
    (budgetFits : ∀ ms ∈ after.budgetMs, ms < 2 ^ 64) :
    ReadsAll Given.member members before after := by
  induction members generalizing before with
  | nil => exact completes.eq
  | cons one others ih =>
      obtain ⟨middle, reads, completes⟩ := completes.cons (named one (.head _))
        (written one (.head _)) intervalFits budgetFits
      exact ⟨middle, reads, ih completes (fun one mem => named one (.tail _ mem))
        fun one mem => written one (.tail _ mem)⟩

end Member

theorem given_of_object {given : Given} (object : ObjectText members text)
    (gives : GivenBy members given) : Settings.given (String.ofList text) = .ok given := by
  have reads := readsAll gives.completes gives.named (written_of_object object)
    gives.intervalFits gives.budgetFits
  obtain ⟨body, space, rfl, blank, takes⟩ := takes_record "struct WaitConfig"
    Given.inOrder object reads fun _ => .pure given
  exact whole_eq_ok blank takes

theorem text_toUTF8 (text : String) : FileContent.text (.ok text.toUTF8) = .ok text := by
  have decodes : String.fromUTF8? text.toUTF8 = some text := dif_pos text.isValidUTF8
  simp only [FileContent.text, bind, Except.bind, decodes]
  rfl

/-! ## Settings as a file -/

section Saved

/-- Every character of a name may stand for itself. -/
def IsPlain (name : String) : Prop := ∀ c ∈ name.toList, IsOrdinary c

instance : DecidablePred IsPlain := fun name => List.decidableBAll IsOrdinary name.toList

/-- A name in which every character stands for itself. -/
def plainly (name : String) (plain : IsPlain name) : List Glyph :=
  name.toList.pmap Glyph.plain plain

variable {name : String} {plain : IsPlain name}

theorem text_plainly : (plainly name plain).flatMap Glyph.text = name.toList := by
  unfold plainly
  unfold IsPlain at plain
  generalize name.toList = letters at plain
  induction letters with
  | nil => rfl
  | cons c letters ih => exact congrArg (c :: ·) ih

theorem meaning_plainly : Glyph.meaning (plainly name plain) = some name.toList := by
  unfold plainly
  unfold IsPlain at plain
  generalize name.toList = letters at plain
  induction letters with
  | nil => rfl
  | cons c letters ih => exact congrArg (Option.map (c :: ·)) ih

theorem key_plainly {value : List Char} :
    (Member.mk (plainly name plain) value).key = some name := by
  rw [Member.key, meaning_plainly, Option.map_some, String.ofList_toList]

theorem numeral_toDigits (ms : Nat) : Numeral (Nat.toDigits 10 ms) := by
  have whole : Whole (Nat.toDigits 10 ms) := by
    rcases Nat.eq_zero_or_pos ms with rfl | positive
    · exact .inl rfl
    · exact .inr ⟨digits_toDigits ms, toDigits_head positive⟩
  exact ⟨[], _, [], [], .inl rfl, whole, .inl rfl, .inl rfl, by simp⟩

theorem written_truth (flag : Bool) : Written .value (truth flag) := by
  cases flag with
  | true => exact .true
  | false => exact .false

/-- The members of the file that settings are saved to. -/
def saved (settings : Settings) : List Member :=
  [⟨plainly "check_interval_ms" (by decide), Nat.toDigits 10 settings.checkIntervalMs⟩,
    ⟨plainly "budget_ms" (by decide), Nat.toDigits 10 settings.budgetMs⟩,
    ⟨plainly "realtime" (by decide), truth settings.realtime⟩]

theorem objectText_saved (settings : Settings) :
    ObjectText settings.saved settings.toJson.toList := by
  have last := Written.lastMember (plainly "realtime" (by decide)) space_nil space_nil
    (written_truth settings.realtime) space_nil
  have budget := Written.nextMember (plainly "budget_ms" (by decide)) space_nil space_nil
    (.number (numeral_toDigits settings.budgetMs)) space_nil space_nil last
  have interval := Written.nextMember (plainly "check_interval_ms" (by decide)) space_nil
    space_nil (.number (numeral_toDigits settings.checkIntervalMs)) space_nil space_nil budget
  have object := ObjectText.full space_nil space_nil interval space_nil
  have opening : "\x7b\"check_interval_ms\":".toList =
      '\x7b' :: '"' :: ("check_interval_ms".toList ++ ['"', ':']) := by decide
  have comma : ",\"budget_ms\":".toList = ',' :: '"' :: ("budget_ms".toList ++ ['"', ':']) := by
    decide
  have lastComma : ",\"realtime\":".toList = ',' :: '"' :: ("realtime".toList ++ ['"', ':']) := by
    decide
  have closing : "\x7d".toList = ['\x7d'] := by decide
  have word : (if settings.realtime then "true" else "false").toList = truth settings.realtime := by
    cases settings.realtime <;> rfl
  unfold toJson
  simp only [String.toList_append, opening, comma, lastComma, closing, word,
    Nat.toString_eq_ofList_toDigits, String.toList_ofList]
  simpa only [saved, spelt, text_plainly, List.nil_append, List.append_nil, List.cons_append,
    List.append_assoc] using object

theorem givenBy_saved {settings : Settings} (intervalFits : settings.checkIntervalMs < 2 ^ 64)
    (budgetFits : settings.budgetMs < 2 ^ 64) :
    GivenBy settings.saved
      ⟨some settings.checkIntervalMs, some settings.budgetMs, some settings.realtime⟩ where
  named := by simp [saved, key_plainly]
  interval := by simp [valuesOf, saved, key_plainly]
  budget := by simp [valuesOf, saved, key_plainly]
  realtime := by simp [valuesOf, saved, key_plainly]
  intervalFits := by simpa using intervalFits
  budgetFits := by simpa using budgetFits

end Saved

/-! ## Loading a file -/

theorem load_object (path : String) {given : Given} (object : ObjectText members text)
    (gives : GivenBy members given) :
    load path (.ok (String.ofList text).toUTF8) = validate (given.overlay standard) :=
  load_eq (text_toUTF8 _) (given_of_object object gives)

/-- A settings file overlays the standard settings field by field.  Whatever object it holds, the
settings that are loaded are the standard ones with the given fields replaced, and loading fails if
and only if the check interval is given as zero.  So valid settings that are saved load back. -/
theorem load_overlays (path : String) :
    (∀ (members : List Member) (text : List Char) (given : Given), ObjectText members text →
      GivenBy members given →
      load path (.ok (String.ofList text).toUTF8) =
        if given.checkIntervalMs = some 0 then .error .invalid
        else .ok
          { checkIntervalMs := given.checkIntervalMs.getD standard.checkIntervalMs
            budgetMs := given.budgetMs.getD standard.budgetMs
            realtime := given.realtime.getD standard.realtime }) ∧
    ∀ settings : Settings, settings.IsValid → settings.checkIntervalMs < 2 ^ 64 →
      settings.budgetMs < 2 ^ 64 → load path (.ok settings.toJson.toUTF8) = .ok settings := by
  constructor
  · intro members text given object gives
    rw [load_object path object gives]
    split
    · have invalid : ¬ (given.overlay standard).IsValid := fun valid =>
        isValid_overlay_standard.mp valid ‹_›
      exact validate_eq_error invalid
    · exact validate_eq_ok.mpr ⟨rfl, isValid_overlay_standard.mpr ‹_›⟩
  · intro settings valid intervalFits budgetFits
    have loads := load_object path (objectText_saved settings)
      (givenBy_saved intervalFits budgetFits)
    rw [String.ofList_toList] at loads
    rw [loads]
    exact validate_eq_ok.mpr ⟨rfl, valid⟩

/-- A file with a greatest budget, whose name is spelt with an escape, behind a value that means
nothing. -/
def oddFile : String :=
  "\x7b \"t\":[null, \"\\ud800\"],\"budget\\u005fms\" : 18446744073709551615 \x7d"

/-- The members of that file. -/
def oddMembers : List Member :=
  [⟨plainly "t" (by decide), "[null, \"\\ud800\"]".toList⟩,
    ⟨plainly "budget" (by decide) ++
      .code ⟨'0', rfl⟩ ⟨'0', rfl⟩ ⟨'5', rfl⟩ ⟨'f', rfl⟩ :: plainly "ms" (by decide),
      Nat.toDigits 10 18446744073709551615⟩]

theorem objectText_oddMembers : ObjectText oddMembers oddFile.toList := by
  have blank : Space [' '] := by decide
  have nested := Written.array space_nil (.nextItem .null space_nil blank
    (.lastItem (.string [.code ⟨'d', rfl⟩ ⟨'8', rfl⟩ ⟨'0', rfl⟩ ⟨'0', rfl⟩]) space_nil))
  have budget := Written.lastMember oddMembers[1].name blank blank
    (.number (numeral_toDigits 18446744073709551615)) blank
  have object := ObjectText.full space_nil blank
    (.nextMember oddMembers[0].name space_nil space_nil nested space_nil space_nil budget)
    space_nil
  exact object

theorem load_overlays_odd :
    let given : Given := { budgetMs := some 18446744073709551615 }
    let settings : Settings := ⟨1, 18446744073709551615, true⟩
    ObjectText oddMembers oddFile.toList ∧ GivenBy oddMembers given ∧
      load "odd.json" (.ok oddFile.toUTF8) = .ok ⟨10, 18446744073709551615, false⟩ ∧
      load "odd.json" (.ok settings.toJson.toUTF8) = .ok settings := by
  intro given settings
  have gives : GivenBy oddMembers given :=
    { named := by decide
      interval := by decide
      budget := by decide
      realtime := by decide
      intervalFits := nofun
      budgetFits := by simp [given] }
  have loads := (load_overlays "odd.json").1 oddMembers _ given objectText_oddMembers gives
  have back := (load_overlays "odd.json").2 settings (by decide) (by decide) (by decide)
  rw [String.ofList_toList] at loads
  exact ⟨objectText_oddMembers, gives, loads, back⟩

end PageWatch.Settings
