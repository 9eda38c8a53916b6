import Mathlib.Data.Nat.Digits.Defs
import PageWatch.Proofs.Json.Skipping

/-!
# Objects that are read

A record is read from an object by folding its members into a state, one after the other.  Which
members there are and what they do to the state is left open; what is said here is that nothing
else in the text of the object counts.
-/

namespace PageWatch.Json.Reader

variable {σ α : Type} {text space rest : List Char}

/-! ## Numbers and truth values -/

/-- All digits of a number below the bound fit. -/
theorem fitting_eq {value : Nat} {digits : List Char}
    (fits : Nat.ofDigitChars 10 digits value < 2 ^ 64) :
    fitting value digits = (Nat.ofDigitChars 10 digits value, digits.length, []) := by
  induction digits generalizing value with
  | nil => rfl
  | cons c digits ih =>
      rw [Nat.ofDigitChars_cons, Nat.mul_comm] at fits ⊢
      have next : value * 10 + (c.toNat - '0'.toNat) < 2 ^ 64 := by
        rw [Nat.ofDigitChars_eq_ofDigitChars_zero] at fits
        refine Nat.lt_of_le_of_lt (Nat.le_trans ?_ (Nat.le_add_right _ _)) fits
        exact Nat.le_mul_of_pos_left _ (Nat.pow_pos (by decide))
      exact (if_pos next).trans (congrArg (fun all => (all.1, all.2.1 + 1, all.2.2)) (ih fits))

/-- Only zero is written with a zero in front. -/
theorem toDigits_head {ms : Nat} (positive : 0 < ms) : (Nat.toDigits 10 ms).head? ≠ some '0' := by
  have one : ∀ digit < 10, 0 < digit → [Nat.digitChar digit].head? ≠ some '0' := by decide
  induction ms using Nat.strongRecOn with
  | _ ms ih =>
      by_cases small : ms < 10
      · rw [Nat.toDigits_of_lt_base small]
        exact one ms small positive
      · rw [Nat.toDigits_of_base_le (by decide) (Nat.not_lt.mp small)]
        have smaller := ih (ms / 10) (Nat.div_lt_self positive (by decide)) (by omega)
        obtain ⟨first, others, digits⟩ := List.exists_cons_of_ne_nil
          (Nat.toDigits_ne_nil : Nat.toDigits 10 (ms / 10) ≠ [])
        rw [digits] at smaller ⊢
        exact smaller

theorem digits_toDigits (ms : Nat) : Digits (Nat.toDigits 10 ms) :=
  ⟨Nat.toDigits_ne_nil, fun _ mem => Nat.isDigit_of_mem_toDigits (by decide) (by decide) mem⟩

theorem takes_numberEnd {value : Nat} (closed : Closed rest) :
    (numberEnd false value 0).Takes [] rest (.integer value) := by
  refine .peek_nil ?_
  split
  · exact absurd rfl (closed '.' ‹_›).2.1
  · exact absurd rfl (closed 'e' ‹_›).2.2.1
  · exact absurd rfl (closed 'E' ‹_›).2.2.2
  · exact .pure _

theorem takes_number {ms : Nat} (fits : ms < 2 ^ 64) (closed : Closed rest) :
    number.Takes (Nat.toDigits 10 ms) rest (.integer ms) := by
  rcases Nat.eq_zero_or_pos ms with rfl | positive
  · refine .peek_cons (.peek_cons (.skip_bind ?_))
    refine .peek_nil ?_
    split
    · have noDigit := closed.noDigit _ ‹_›
      rw [if_neg noDigit]
      exact takes_numberEnd closed
    · exact takes_numberEnd closed
  · have digits : Digits (Nat.toDigits 10 ms) := digits_toDigits ms
    have passes := takes_digits digits.2 closed.noDigit
    obtain ⟨first, others, written, isDigit⟩ := digits.eq_cons
    have notMinus : first ≠ '-' := ne_of_isDigit isDigit (by decide)
    have notZero : first ≠ '0' := fun zero => toDigits_head positive (by rw [written, zero]; rfl)
    have value : fitting 0 (Nat.toDigits 10 ms) = (ms, (Nat.toDigits 10 ms).length, []) := by
      rw [fitting_eq (by rwa [Nat.ofDigitChars_ten_toDigits]), Nat.ofDigitChars_ten_toDigits]
    rw [written] at passes value ⊢
    refine .peek_cons ?_
    simp only [Option.some.injEq, notMinus, if_false]
    refine .peek_cons ?_
    simp only [isDigit, if_true]
    refine passes.bind_nil ?_
    simp only [value]
    exact takes_numberEnd closed

theorem takes_natural {ms : Nat} (blank : Space space) (fits : ms < 2 ^ 64)
    (closed : Closed rest) : natural.Takes (space ++ Nat.toDigits 10 ms) rest ms := by
  have number := takes_number fits closed
  obtain ⟨first, others, written, isDigit⟩ := (digits_toDigits ms).eq_cons
  rw [written] at number ⊢
  refine .located (.peekToken_cons blank (begins_of_isDigit isDigit).1 ?_)
  simp only [isDigit, or_true, if_true]
  refine number.bind_nil ?_
  simp only [ge_iff_le, Int.natCast_nonneg, if_true]
  exact .pure ms

/-- A truth value as it is written. -/
def truth : Bool → List Char
  | true => ['t', 'r', 'u', 'e']
  | false => ['f', 'a', 'l', 's', 'e']

theorem takes_boolean {flag : Bool} (blank : Space space) :
    boolean.Takes (space ++ truth flag) rest flag := by
  cases flag with
  | true =>
      refine .peekToken_cons blank (by decide) (.skip_bind ?_)
      exact (takes_word _).bind_nil (.pure true)
  | false =>
      refine .peekToken_cons blank (by decide) (.skip_bind ?_)
      exact (takes_word _).bind_nil (.pure false)

/-! ## Members -/

section Members

variable {member : String → σ → Reader σ} {all : List Member} {before middle after : σ}
  {steps : Nat} {first : Bool} {lead : List Char}

/-- A member is folded into the state, whatever white space stands around its colon. -/
def Reads (member : String → σ → Reader σ) (one : Member) (before after : σ) : Prop :=
  ∃ key, one.key = some key ∧
    ∀ {behind lead rest : List Char}, Space behind → Space lead → Closed rest →
      (member key before).Takes (behind ++ ':' :: (lead ++ one.value)) rest after

/-- Members are folded into the state, one after the other. -/
def ReadsAll (member : String → σ → Reader σ) : List Member → σ → σ → Prop
  | [], before, after => before = after
  | one :: others, before, after =>
    ∃ middle, Reads member one before middle ∧ ReadsAll member others middle after

/-- What stands in front of a member, which may be the first one. -/
def Leads : Bool → List Char → Prop
  | true, lead => Space lead
  | false, lead => ∃ space next, Space space ∧ Space next ∧ lead = space ++ ',' :: next

theorem takes_moreMembers (leads : Leads first lead) (quote : rest.head? = some '"') :
    (moreMembers first).Takes lead rest true := by
  obtain ⟨others, rfl⟩ : ∃ others, rest = '"' :: others := by
    cases rest with
    | nil => contradiction
    | cons c others => exact ⟨others, by rw [Option.some.inj quote]⟩
  have dense : Dense ('"' :: others) := dense_cons (by decide)
  cases first with
  | true => exact (takes_peekToken leads dense).bind_nil (.pure true)
  | false =>
      obtain ⟨space, next, behind, before, rfl⟩ := leads
      refine .peekToken_cons behind (by decide) (.skip_bind ?_)
      exact (takes_peekToken before dense).bind_nil (.pure true)

theorem takes_noMoreMembers (blank : Space space) :
    (moreMembers first).Takes space ('\x7d' :: rest) false :=
  (takes_peekToken blank (dense_cons (by decide))).bind_nil (.pure false)

theorem takes_oneMember {name : List Glyph} {behind start value more : List Char}
    (leads : Leads first lead) (reads : Reads member ⟨name, value⟩ before middle)
    (follows : Space behind) (starts : Space start) (closed : Closed (more ++ rest))
    (goes : (members member steps false middle).Takes more rest after) :
    (members member (steps + 1) first before).Takes
      (lead ++ (spelt name ++ (behind ++ ':' :: (start ++ value) ++ more))) rest after := by
  obtain ⟨key, known, reads⟩ := reads
  obtain ⟨meant, means, rfl⟩ := Option.map_eq_some_iff.mp known
  refine (takes_moreMembers leads rfl).bind ?_
  rw [if_pos rfl]
  exact (takes_string means).bind ((reads follows starts closed).bind goes)

/-- The induction is on the text of the members: behind each comma, all that has been read before
is the state. -/
theorem takes_members (written : Written (.members all) text)
    (reads : ReadsAll member all before after) (enough : all.length < steps)
    (leads : Leads first lead) :
    (members member steps first before).Takes (lead ++ text) ('\x7d' :: rest) after := by
  generalize kind : Phrase.members all = phrase at written
  induction written generalizing all before steps first lead with
  | @lastMember name behind start value space follows starts _ ends _ =>
      cases kind
      obtain ⟨steps, rfl⟩ : ∃ fewer, steps = fewer + 2 := ⟨steps - 2, by
        simp only [List.length_singleton] at enough; omega⟩
      obtain ⟨final, reads, rfl⟩ := reads
      have closed : Closed (space ++ ['\x7d'] ++ rest) := closed_append ends (by decide)
      rw [List.append_assoc, List.singleton_append] at closed
      have goes : (members member (steps + 1) false final).Takes space ('\x7d' :: rest) final :=
        (takes_noMoreMembers ends).bind_nil (.pure final)
      have takes := takes_oneMember leads reads follows starts closed goes
      simpa only [List.append_assoc, List.cons_append] using takes
  | @nextMember name behind start value space next others _ follows starts _ ends between _ _ ih =>
      cases kind
      obtain ⟨steps, rfl⟩ := Nat.exists_eq_add_one_of_ne_zero (Nat.ne_zero_of_lt enough)
      obtain ⟨middle, reads, readsOthers⟩ := reads
      have comma : Leads false (space ++ ',' :: next) := ⟨space, next, ends, between, rfl⟩
      have goes := ih readsOthers (Nat.lt_of_succ_lt_succ enough) comma rfl
      have closed : Closed (space ++ [','] ++ (next ++ others ++ '\x7d' :: rest)) :=
        closed_append ends (by decide)
      have takes := takes_oneMember leads reads follows starts (by simpa using closed) goes
      simpa only [List.append_assoc, List.cons_append] using takes
  | _ => cases kind

/-! ## Records -/

theorem length_le_of_members (written : Written (.members all) text) :
    all.length ≤ text.length := by
  generalize kind : Phrase.members all = phrase at written
  induction written generalizing all with
  | lastMember =>
      cases kind
      exact Nat.succ_le_succ (Nat.zero_le _)
  | nextMember _ _ _ _ _ _ _ _ ih =>
      cases kind
      have others := ih rfl
      simp only [List.length_append, List.length_cons]
      omega
  | _ => cases kind

theorem written_of_members (written : Written (.members all) text) :
    ∀ one ∈ all, Written .value one.value := by
  generalize kind : Phrase.members all = phrase at written
  induction written generalizing all with
  | lastMember _ _ _ written =>
      cases kind
      exact List.forall_mem_singleton.mpr written
  | nextMember _ _ _ written _ _ _ _ ih =>
      cases kind
      exact List.forall_mem_cons.mpr ⟨written, ih rfl⟩
  | _ => cases kind

theorem written_of_object (object : ObjectText all text) :
    ∀ one ∈ all, Written .value one.value := by
  cases object with
  | empty => exact List.forall_mem_nil _
  | full _ _ written _ => exact written_of_members written

theorem takes_closeObject : closeObject.Takes ['\x7d'] rest () :=
  .peekToken_cons space_nil (by decide) .skip

theorem takes_record {start : σ} {finish : σ → Reader α} {result : α} (expected : String)
    (fields : Reader α) (object : ObjectText all text) (reads : ReadsAll member all start after)
    (finishes : ∀ rest, (finish after).Takes [] rest result) :
    ∃ body space, text = body ++ space ∧ Space space ∧
      (record expected start member finish fields).Takes body space result := by
  cases object with
  | @empty front space last blank inside behind =>
      obtain rfl : start = after := reads
      refine ⟨front ++ '\x7b' :: (space ++ ['\x7d']), last, by simp, behind, ?_⟩
      refine .located (.peekToken_cons blank (by decide) (.skip_bind (.get_bind fun _ => ?_)))
      refine .thenClose ?_ takes_closeObject
      exact ((takes_noMoreMembers inside).bind_nil (.pure start)).bind_nil (finishes _)
  | @full front space members last _ blank inside written behind =>
      refine ⟨front ++ '\x7b' :: (space ++ members ++ ['\x7d']), last, by simp, behind, ?_⟩
      refine .located (.peekToken_cons blank (by decide) (.skip_bind (.get_bind fun _ => ?_)))
      refine .thenClose ?_ takes_closeObject
      have leads : Leads true space := inside
      refine (takes_members written reads ?_ leads).bind_nil (finishes _)
      have bound := length_le_of_members written
      simp only [List.length_append]
      omega

end Members

theorem whole_eq_ok {reader : Reader α} {value : α} (blank : Space space)
    (takes : reader.Takes text space value) :
    whole reader (String.ofList (text ++ space)) = .ok value := by
  have start : Cursor.start (String.ofList (text ++ space)) = ⟨text ++ space, ⟨1, 0⟩⟩ := by
    rw [Cursor.start, String.toList_ofList]
  rw [whole, start]
  refine Takes.fst (.bind (by rwa [List.append_nil]) ?_)
  exact (takes_peekToken blank dense_nil).bind_nil (.pure value)

end PageWatch.Json.Reader
