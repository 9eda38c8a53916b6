import PageWatch.Proofs.Json.Reading

/-!
# Values that are passed

A value that nobody asks for is passed over as a whole, whatever it is and however deep it nests,
and what stands behind it stays.  The bound on the steps is never reached: each item takes one
step for itself and one for its value, so twice the length of a text is enough.
-/

namespace PageWatch.Json

variable {phrase : Phrase} {text space rest : List Char} {c : Char}

/-! ## How texts begin and go on -/

theorem Numeral.begins (numeral : Numeral text) :
    ∃ first others, text = first :: others ∧ (first = '-' ∨ first.isDigit) := by
  obtain ⟨sign, whole, fraction, exponent, signed, isWhole, -, -, rfl⟩ := numeral
  obtain ⟨first, others, rfl, isDigit⟩ := Whole.eq_cons isWhole
  rcases signed with rfl | rfl
  · exact ⟨first, _, rfl, .inr isDigit⟩
  · exact ⟨'-', _, rfl, .inl rfl⟩

/-- What a text of JSON cannot begin with: white space, or the end of what it stands in. -/
def Begins (c : Char) : Prop := ¬ IsSpace c ∧ c ≠ ']' ∧ c ≠ '\x7d'

instance : DecidablePred Begins := fun _ => inferInstanceAs (Decidable (_ ∧ _))

theorem begins_of_isDigit (isDigit : c.isDigit) : Begins c := by
  have other {d : Char} (no : ¬ d.isDigit) : c ≠ d := ne_of_isDigit isDigit no
  refine ⟨?_, other (by decide), other (by decide)⟩
  rintro (h | h | h | h)
  · exact other (by decide) h
  · exact other (by decide) h
  · exact other (by decide) h
  · exact other (by decide) h

theorem Written.begins (written : Written phrase text) :
    ∃ first others, text = first :: others ∧ Begins first := by
  induction written with
  | null => exact ⟨_, _, rfl, by decide⟩
  | true => exact ⟨_, _, rfl, by decide⟩
  | false => exact ⟨_, _, rfl, by decide⟩
  | number numeral =>
      obtain ⟨first, others, rfl, rfl | isDigit⟩ := numeral.begins
      · exact ⟨_, _, rfl, by decide⟩
      · exact ⟨first, others, rfl, begins_of_isDigit isDigit⟩
  | string => exact ⟨_, _, rfl, by decide⟩
  | emptyArray => exact ⟨_, _, rfl, by decide⟩
  | array => exact ⟨_, _, rfl, by decide⟩
  | emptyObject => exact ⟨_, _, rfl, by decide⟩
  | object => exact ⟨_, _, rfl, by decide⟩
  | lastItem _ _ ih =>
      obtain ⟨first, others, rfl, begins⟩ := ih
      exact ⟨first, _, rfl, begins⟩
  | nextItem _ _ _ _ ih =>
      obtain ⟨first, others, rfl, begins⟩ := ih
      exact ⟨first, _, rfl, begins⟩
  | lastMember => exact ⟨_, _, rfl, by decide⟩
  | nextMember => exact ⟨_, _, rfl, by decide⟩

/-- A number ends at white space, too. -/
theorem closed_append (blank : Space space) (closes : Closes c) :
    Closed (space ++ [c] ++ rest) := by
  cases space with
  | nil =>
      rintro _ ⟨⟩
      exact closes
  | cons d space =>
      rintro _ ⟨⟩
      rcases blank d (.head space) with rfl | rfl | rfl | rfl <;> decide

namespace Reader

variable {close : Char} {atEnd other : Fault}

/-- What it is to pass a text of some kind.  Items and members are passed with the end of what
they stand in. -/
def Passes : Phrase → List Char → Prop
  | .value, text => ∀ (steps : Nat) (space rest : List Char), 2 * text.length ≤ steps →
      Space space → Closed rest → (skipValueWithin steps).Takes (space ++ text) rest ()
  | .items, text => ∀ (steps : Nat) (space rest : List Char), 2 * text.length < steps →
      Space space → (skipItems steps).Takes (space ++ (text ++ [']'])) rest ()
  | .members _, text => ∀ (steps : Nat) (space rest : List Char), 2 * text.length < steps →
      Space space → (skipMembers steps).Takes (space ++ (text ++ ['\x7d'])) rest ()

/-- A value is not empty, so it has one step at least. -/
theorem passes_value (present : text ≠ [])
    (goes : ∀ (steps : Nat) (space rest : List Char), 2 * text.length ≤ steps + 1 →
      Space space → Closed rest → (skipValueWithin (steps + 1)).Takes (space ++ text) rest ()) :
    Passes .value text := by
  intro steps space rest enough blank closed
  have positive : 0 < text.length := List.length_pos_iff.mpr present
  obtain ⟨steps, rfl⟩ : ∃ fewer, steps = fewer + 1 := ⟨steps - 1, by omega⟩
  exact goes steps space rest enough blank closed

theorem passes_number {number : List Char} (numeral : Numeral number) : Passes .value number := by
  obtain ⟨first, others, rfl, starts⟩ := numeral.begins
  refine passes_value (List.cons_ne_nil _ _) fun _ _ rest _ blank closed => ?_
  have passes : skipNumber.Takes (first :: others) rest () := takes_skipNumber numeral closed
  rcases starts with rfl | isDigit
  · exact .peekToken_cons blank (by decide) passes
  · have different {c : Char} (no : ¬ c.isDigit) : first ≠ c := ne_of_isDigit isDigit no
    obtain ⟨_, _, _⟩ : first ≠ 'n' ∧ first ≠ 't' ∧ first ≠ 'f' :=
      ⟨different (by decide), different (by decide), different (by decide)⟩
    obtain ⟨_, _, _⟩ : first ≠ '"' ∧ first ≠ '[' ∧ first ≠ '\x7b' :=
      ⟨different (by decide), different (by decide), different (by decide)⟩
    refine .peekToken_cons blank (begins_of_isDigit isDigit).1 ?_
    -- A digit is none of the characters that other values begin with.
    simp only [isDigit, or_true, if_true]
    exact passes

theorem passes_array {items : List Char} (inside : Space space) (written : Written .items items)
    (passes : Passes .items items) : Passes .value ('[' :: (space ++ (items ++ [']']))) := by
  refine passes_value (List.cons_ne_nil _ _) fun steps _ rest enough blank _ => ?_
  have remain : 2 * items.length < steps := by
    simp only [List.length_cons, List.length_append] at enough
    omega
  have takes := passes steps [] rest remain space_nil
  obtain ⟨first, others, rfl, dense, _, -⟩ := written.begins
  refine .peekToken_cons blank (by decide) (.skip_bind ?_)
  refine .peekToken_cons inside dense ?_
  -- The first item is not the end of the array.
  simp only
  exact takes

theorem passes_object {all : List Member} {members : List Char} (inside : Space space)
    (written : Written (.members all) members) (passes : Passes (.members all) members) :
    Passes .value ('\x7b' :: (space ++ (members ++ ['\x7d']))) := by
  refine passes_value (List.cons_ne_nil _ _) fun steps _ rest enough blank _ => ?_
  have remain : 2 * members.length < steps := by
    simp only [List.length_cons, List.length_append] at enough
    omega
  have takes := passes steps [] rest remain space_nil
  obtain ⟨first, others, rfl, dense, -, _⟩ := written.begins
  refine .peekToken_cons blank (by decide) (.skip_bind ?_)
  refine .peekToken_cons inside dense ?_
  simp only
  exact takes

/-! ### Items and members -/

section Rows

variable {steps : Nat} {value lead next others : List Char} {again : Reader Unit}

/-- Behind the last value of an array or object comes the end of it. -/
theorem takes_last (passes : Passes .value value) (enough : 2 * value.length ≤ steps)
    (blank : Space lead) (behind : Space space) (dense : ¬ IsSpace close)
    (closes : Closes close) :
    (do
      skipValueWithin steps
      if ← skipComma close atEnd other then again).Takes
      (lead ++ value ++ (space ++ [close])) rest () := by
  have ends : (skipComma close atEnd other).Takes (space ++ [close]) rest false := by
    refine .peekToken_cons behind dense ?_
    simp only [if_true]
    exact .skip_bind (.pure false)
  have first := passes steps lead (space ++ [close] ++ rest) enough blank
    (closed_append behind closes)
  exact first.bind (ends.bind_nil (.pure ()))

/-- Behind any other value comes a comma, and from there it goes on. -/
theorem takes_next (passes : Passes .value value) (enough : 2 * value.length ≤ steps)
    (blank : Space lead) (behind : Space space) (notClose : ',' ≠ close)
    (goes : again.Takes others rest ()) :
    (do
      skipValueWithin steps
      if ← skipComma close atEnd other then again).Takes
      (lead ++ value ++ (space ++ [','] ++ others)) rest () := by
  have comma : (skipComma close atEnd other).Takes (space ++ [',']) (others ++ rest) true := by
    refine .peekToken_cons behind (by decide) ?_
    simp only [notClose, if_false, if_true]
    exact .skip_bind (.pure true)
  have first := passes steps lead (space ++ [','] ++ (others ++ rest)) enough blank
    (closed_append behind (by decide))
  rw [← List.append_assoc] at first
  exact first.bind (comma.bind goes)

end Rows

theorem passes_lastItem {item : List Char} (passes : Passes .value item) (behind : Space space) :
    Passes .items (item ++ space) := by
  intro steps lead rest enough blank
  obtain ⟨steps, rfl⟩ := Nat.exists_eq_add_one_of_ne_zero (Nat.ne_zero_of_lt enough)
  rw [List.length_append] at enough
  have goes : (skipItems (steps + 1)).Takes (lead ++ item ++ (space ++ [']'])) rest () :=
    takes_last passes (by omega) blank behind (by decide) (by decide)
  simpa only [List.append_assoc] using goes

theorem passes_nextItem {item next items : List Char} (passes : Passes .value item)
    (behind : Space space) (before : Space next) (others : Passes .items items) :
    Passes .items (item ++ (space ++ ',' :: (next ++ items))) := by
  intro steps lead rest enough blank
  obtain ⟨steps, rfl⟩ := Nat.exists_eq_add_one_of_ne_zero (Nat.ne_zero_of_lt enough)
  simp only [List.length_append, List.length_cons] at enough
  have remaining := others steps next rest (by omega) before
  have goes : (skipItems (steps + 1)).Takes
      (lead ++ item ++ (space ++ [','] ++ (next ++ (items ++ [']'])))) rest () :=
    takes_next passes (by omega) blank behind (by decide) remaining
  simpa only [List.append_assoc, List.cons_append, List.nil_append] using goes

theorem takes_skipKey {lead behind : List Char} (blank : Space lead) (name : List Glyph)
    (follows : Space behind) :
    skipKey.Takes (lead ++ (spelt name ++ (behind ++ [':']))) rest () :=
  .peekToken_cons blank (by decide) ((takes_skipString name).bind (takes_colon follows))

theorem passes_lastMember {name : List Glyph} {behind before value : List Char}
    (follows : Space behind) (leads : Space before) (passes : Passes .value value)
    (ends : Space space) :
    Passes (.members [⟨name, value⟩])
      (spelt name ++ (behind ++ ':' :: (before ++ (value ++ space)))) := by
  intro steps lead rest enough blank
  obtain ⟨steps, rfl⟩ := Nat.exists_eq_add_one_of_ne_zero (Nat.ne_zero_of_lt enough)
  simp only [List.length_append, List.length_cons] at enough
  have goes : (skipMembers (steps + 1)).Takes
      (lead ++ (spelt name ++ (behind ++ [':'])) ++ (before ++ value ++ (space ++ ['\x7d'])))
      rest () :=
    (takes_skipKey blank name follows).bind
      (takes_last passes (by omega) leads ends (by decide) (by decide))
  simpa only [List.append_assoc, List.cons_append, List.nil_append] using goes

theorem passes_nextMember {name : List Glyph} {all : List Member}
    {behind before value next members : List Char} (follows : Space behind) (leads : Space before)
    (passes : Passes .value value) (ends : Space space) (starts : Space next)
    (others : Passes (.members all) members) :
    Passes (.members (⟨name, value⟩ :: all))
      (spelt name ++
        (behind ++ ':' :: (before ++ (value ++ (space ++ ',' :: (next ++ members)))))) := by
  intro steps lead rest enough blank
  obtain ⟨steps, rfl⟩ := Nat.exists_eq_add_one_of_ne_zero (Nat.ne_zero_of_lt enough)
  simp only [List.length_append, List.length_cons] at enough
  have remaining := others steps next rest (by omega) starts
  have goes : (skipMembers (steps + 1)).Takes
      (lead ++ (spelt name ++ (behind ++ [':'])) ++
        (before ++ value ++ (space ++ [','] ++ (next ++ (members ++ ['\x7d']))))) rest () :=
    (takes_skipKey blank name follows).bind
      (takes_next passes (by omega) leads ends (by decide) remaining)
  simpa only [List.append_assoc, List.cons_append, List.nil_append] using goes

theorem passes (written : Written phrase text) : Passes phrase text := by
  induction written with
  | null =>
      refine passes_value (List.cons_ne_nil _ _) fun _ _ _ _ blank _ => ?_
      exact .peekToken_cons blank (by decide) (.skip_bind (takes_word _))
  | true =>
      refine passes_value (List.cons_ne_nil _ _) fun _ _ _ _ blank _ => ?_
      exact .peekToken_cons blank (by decide) (.skip_bind (takes_word _))
  | false =>
      refine passes_value (List.cons_ne_nil _ _) fun _ _ _ _ blank _ => ?_
      exact .peekToken_cons blank (by decide) (.skip_bind (takes_word _))
  | number numeral => exact passes_number numeral
  | string glyphs =>
      refine passes_value (List.cons_ne_nil _ _) fun _ _ _ _ blank _ => ?_
      exact .peekToken_cons blank (by decide) (takes_skipString glyphs)
  | emptyArray inside =>
      refine passes_value (List.cons_ne_nil _ _) fun _ _ _ _ blank _ => ?_
      refine .peekToken_cons blank (by decide) (.skip_bind ?_)
      exact .peekToken_cons inside (by decide) .skip
  | array inside written ih => exact passes_array inside written ih
  | emptyObject inside =>
      refine passes_value (List.cons_ne_nil _ _) fun _ _ _ _ blank _ => ?_
      refine .peekToken_cons blank (by decide) (.skip_bind ?_)
      exact .peekToken_cons inside (by decide) .skip
  | object inside written ih => exact passes_object inside written ih
  | lastItem _ behind ih => exact passes_lastItem ih behind
  | nextItem _ behind before _ ih others => exact passes_nextItem ih behind before others
  | lastMember _ follows leads _ ends ih => exact passes_lastMember follows leads ih ends
  | nextMember _ follows leads _ ends starts _ ih others =>
      exact passes_nextMember follows leads ih ends starts others

theorem takes_skipValue {value : List Char} (written : Written .value value) (blank : Space space)
    (closed : Closed rest) : skipValue.Takes (space ++ value) rest () := by
  refine .get_bind fun _ => passes written _ space rest ?_ blank closed
  simp only [List.length_append]
  omega

end Reader

end PageWatch.Json
