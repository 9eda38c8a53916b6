import PageWatch.Json.Reader
import PageWatch.Proofs.Json.Grammar

/-!
# What readers take

A reader takes a text, whatever stands behind it, and leaves what stands behind it.  Readers in a
row take texts in a row.  From there on each piece of the grammar has the reader that takes it.
-/

namespace PageWatch.Json

/-! ## What comes next -/

section Next

variable {text rest : List Char}

/-- The next character is no white space. -/
def Dense (text : List Char) : Prop := ∀ c ∈ text.head?, ¬ IsSpace c

theorem dense_nil : Dense [] := nofun

theorem dense_cons {c : Char} (dense : ¬ IsSpace c) : Dense (c :: text) := by
  rintro _ ⟨⟩
  exact dense

/-- The next character is no digit. -/
def NoDigit (text : List Char) : Prop := ∀ c ∈ text.head?, ¬ c.isDigit

/-- A number does not go on with this character. -/
def Closes (c : Char) : Prop := ¬ c.isDigit ∧ c ≠ '.' ∧ c ≠ 'e' ∧ c ≠ 'E'

instance : DecidablePred Closes := fun _ => inferInstanceAs (Decidable (_ ∧ _))

/-- The next character is none that a number could go on with. -/
def Closed (text : List Char) : Prop := ∀ c ∈ text.head?, Closes c

theorem Closed.noDigit (closed : Closed rest) : NoDigit rest := fun c next => (closed c next).1

theorem Exponent.noDigit (exponent : Exponent text) (closed : Closed rest) :
    NoDigit (text ++ rest) := by
  rcases exponent with rfl | ⟨mark, sign, digits, rfl | rfl, _, _, rfl⟩
  · exact closed.noDigit
  · rintro c ⟨⟩; decide
  · rintro c ⟨⟩; decide

theorem Fraction.noDigit (fraction : Fraction text) (stops : NoDigit rest) :
    NoDigit (text ++ rest) := by
  rcases fraction with rfl | ⟨digits, _, rfl⟩
  · exact stops
  · rintro c ⟨⟩; decide

theorem Digits.eq_cons (digits : Digits text) :
    ∃ first others, text = first :: others ∧ first.isDigit := by
  obtain ⟨first, others, rfl⟩ := List.exists_cons_of_ne_nil digits.1
  exact ⟨first, others, rfl, digits.2 first (.head _)⟩

theorem Whole.eq_cons (whole : Whole text) :
    ∃ first others, text = first :: others ∧ first.isDigit := by
  rcases whole with rfl | ⟨digits, -⟩
  · exact ⟨'0', [], rfl, by decide⟩
  · exact digits.eq_cons

theorem ne_of_isDigit {c other : Char} (isDigit : c.isDigit) (no : ¬ other.isDigit) :
    c ≠ other := by
  rintro rfl
  exact no isDigit

end Next

namespace Reader

variable {α β : Type} {text more rest : List Char} {value : α} {result : β} {c : Char}

theorem bind_apply (reader : Reader α) (next : α → Reader β) (cursor : Cursor) :
    (reader >>= next) cursor =
      match reader cursor with
      | (.ok value, after) => next value after
      | (.error failure, after) => (.error failure, after) := by
  change ExceptT.bindCont next (reader cursor).1 (reader cursor).2 = _
  rcases reader cursor with ⟨_ | _, after⟩ <;> rfl

/-- The reader takes this text in front of that rest, with this value.  Where the text stands in
its file only counts for failures. -/
def Takes (reader : Reader α) (text rest : List Char) (value : α) : Prop :=
  ∀ place, ∃ after, reader ⟨text ++ rest, place⟩ = (.ok value, ⟨rest, after⟩)

/-! ## Readers in a row -/

namespace Takes

theorem fst {reader : Reader α} {place : Position} (takes : reader.Takes text [] value) :
    (reader ⟨text, place⟩).1 = .ok value := by
  obtain ⟨after, takes_eq⟩ := takes place
  rw [List.append_nil] at takes_eq
  exact congrArg Prod.fst takes_eq

theorem bind {reader : Reader α} {next : α → Reader β}
    (first : reader.Takes text (more ++ rest) value)
    (second : (next value).Takes more rest result) :
    (reader >>= next).Takes (text ++ more) rest result := by
  intro place
  obtain ⟨middle, first_eq⟩ := first place
  obtain ⟨after, second_eq⟩ := second middle
  refine ⟨after, ?_⟩
  rw [List.append_assoc, bind_apply, first_eq]
  exact second_eq

/-- The second reader need not take anything. -/
theorem bind_nil {reader : Reader α} {next : α → Reader β}
    (first : reader.Takes text rest value) (second : (next value).Takes [] rest result) :
    (reader >>= next).Takes text rest result := by
  have both := bind first second
  rwa [List.append_nil] at both

theorem pure (value : α) : (Pure.pure value : Reader α).Takes [] rest value :=
  fun place => ⟨place, rfl⟩

theorem get_bind {next : Cursor → Reader β}
    (goes : ∀ place, (next ⟨text ++ rest, place⟩).Takes text rest result) :
    (get >>= next).Takes text rest result :=
  fun place => goes place place

theorem peek_bind {next : Option Char → Reader β}
    (goes : (next (text ++ rest).head?).Takes text rest result) :
    (peek >>= next).Takes text rest result :=
  goes

/-- Whoever sets the text to read leaves the rest of it. -/
theorem set (place : Position) : (set (Cursor.mk rest place) : Reader Unit).Takes text rest () :=
  fun _ => ⟨place, rfl⟩

theorem peek_nil {next : Option Char → Reader β} (goes : (next rest.head?).Takes [] rest result) :
    (peek >>= next).Takes [] rest result :=
  goes

theorem peek_cons {next : Option Char → Reader β}
    (goes : (next (some c)).Takes (c :: text) rest result) :
    (peek >>= next).Takes (c :: text) rest result :=
  goes

theorem skip : skip.Takes [c] rest () := fun place => ⟨place.next c, rfl⟩

theorem skip_bind {next : Unit → Reader β} (goes : (next ()).Takes text rest result) :
    (Reader.skip >>= next).Takes (c :: text) rest result :=
  bind skip goes

/-- A failure would get its place here, but there is none. -/
theorem located {reader : Reader α} (takes : reader.Takes text rest value) :
    reader.located.Takes text rest value := by
  intro place
  obtain ⟨after, takes_eq⟩ := takes place
  exact ⟨after, by rw [Reader.located, takes_eq]⟩

theorem thenClose {body : Reader α} {close : Reader Unit}
    (inside : body.Takes text (more ++ rest) value) (closes : close.Takes more rest ()) :
    (body.thenClose close).Takes (text ++ more) rest value := by
  intro place
  obtain ⟨middle, inside_eq⟩ := inside place
  obtain ⟨after, closes_eq⟩ := closes middle
  refine ⟨after, ?_⟩
  simp only [List.append_assoc, Reader.thenClose, inside_eq, closes_eq]

theorem discard {reader : Reader α} (takes : reader.Takes text rest value) :
    (Functor.discard reader).Takes text rest () := by
  change (reader >>= fun _ => Pure.pure ()).Takes text rest ()
  exact takes.bind_nil (.pure ())

/-- A sign that may be there, in front of a character that is none. -/
theorem sign_bind {IsSign : Option Char → Prop} [DecidablePred IsSign] {sign others : List Char}
    {first : Char} {next : Unit → Reader β}
    (signed : sign = [] ∨ ∃ c, sign = [c] ∧ IsSign (some c)) (unsigned : ¬ IsSign (some first))
    (goes : (next ()).Takes (first :: others) rest result) :
    (peek >>= fun c => if IsSign c then Reader.skip >>= next else next ()).Takes
      (sign ++ first :: others) rest result := by
  rcases signed with rfl | ⟨c, rfl, isSign⟩
  · refine .peek_cons ?_
    rwa [if_neg unsigned]
  · refine .peek_cons ?_
    rw [if_pos isSign]
    exact .skip_bind goes

end Takes

theorem takes_word (letters : List Char) : (word letters).Takes letters rest () := by
  induction letters with
  | nil => exact .pure ()
  | cons c letters ih =>
      refine .peek_cons ?_
      simp only [if_true]
      exact .skip_bind ih

/-! ## White space -/

theorem dropSpace_append {space text : List Char} (blank : Space space) (dense : Dense text)
    (place : Position) : ∃ after, dropSpace (space ++ text) place = ⟨text, after⟩ := by
  induction space generalizing place with
  | nil =>
      cases text with
      | nil => exact ⟨place, rfl⟩
      | cons c text => exact ⟨place, if_neg (dense c rfl)⟩
  | cons c space ih =>
      obtain ⟨after, drops⟩ := ih (fun d mem => blank d (.tail c mem)) (place.next c)
      exact ⟨after, (if_pos (blank c (.head space))).trans drops⟩

theorem takes_peekToken {space : List Char} (blank : Space space) (dense : Dense rest) :
    peekToken.Takes space rest rest.head? := by
  intro place
  obtain ⟨after, drops⟩ := dropSpace_append blank dense place
  refine ⟨after, ?_⟩
  change (Except.ok (dropSpace (space ++ rest) place).rest.head?,
    dropSpace (space ++ rest) place) = _
  rw [drops]

theorem Takes.peekToken_bind {next : Option Char → Reader β} {space : List Char}
    (blank : Space space) (dense : Dense (text ++ rest))
    (goes : (next (text ++ rest).head?).Takes text rest result) :
    (peekToken >>= next).Takes (space ++ text) rest result :=
  (takes_peekToken blank dense).bind goes

theorem Takes.peekToken_cons {next : Option Char → Reader β} {space : List Char}
    (blank : Space space) (dense : ¬ IsSpace c)
    (goes : (next (some c)).Takes (c :: text) rest result) :
    (peekToken >>= next).Takes (space ++ c :: text) rest result :=
  .peekToken_bind blank (dense_cons dense) goes

theorem takes_colon {space : List Char} (blank : Space space) :
    colon.Takes (space ++ [':']) rest () :=
  .peekToken_cons blank (by decide) .skip

/-! ## Strings -/

theorem takes_hexEscape (a b c d : HexDigit) :
    hexEscape.Takes [a.1, b.1, c.1, d.1] rest (Glyph.unit a b c d) := by
  have digit (digit : HexDigit) : Text.hexValue? digit.1 = some digit.value :=
    (Option.some_get digit.2).symm
  have value : hexValue4? a.1 b.1 c.1 d.1 = some (Glyph.unit a b c d) := by
    simp only [hexValue4?, digit, Glyph.unit]
    refine congrArg some ?_
    omega
  refine .get_bind fun _ => ?_
  simp only [List.cons_append, List.nil_append, value]
  exact .bind_nil (.set _) (.pure _)

theorem shortEscape?_eq {letter meant : Char} (known : (letter, meant) ∈ shortEscapes) :
    letter ≠ 'u' ∧ shortEscape? letter = some meant := by
  have all : ∀ escape ∈ shortEscapes, escape.1 ≠ 'u' ∧ shortEscape? escape.1 = some escape.2 := by
    decide
  exact all _ known

/-! ### The body of a string -/

section StringBody

variable {escape : Reader Char} {bytes steps : Nat} {seen name : List Char}

theorem takes_closingQuote :
    (stringBody escape bytes (steps + 1) seen).Takes ['"'] rest seen.reverse :=
  .peek_cons (.skip_bind (.pure _))

theorem takes_plain (ordinary : IsOrdinary c)
    (goes : (stringBody escape bytes steps (c :: seen)).Takes text rest name) :
    (stringBody escape bytes (steps + 1) seen).Takes (c :: text) rest name := by
  obtain ⟨visible, noQuote, noEscape⟩ := ordinary
  refine .peek_cons ?_
  simp only [Nat.not_lt.mpr visible, if_false]
  exact .skip_bind goes

theorem takes_escaped (escapes : escape.Takes more (text ++ rest) c)
    (goes : (stringBody escape bytes steps (c :: seen)).Takes text rest name) :
    (stringBody escape bytes (steps + 1) seen).Takes ('\\' :: (more ++ text)) rest name :=
  .peek_cons (.skip_bind (escapes.bind goes))

end StringBody

/-! ### A string that is read -/

section Escapes

variable {letter meant : Char} {a b c d e f g h : HexDigit}

theorem takes_shortEscape (known : (letter, meant) ∈ shortEscapes) :
    escape.Takes [letter] rest meant := by
  obtain ⟨noUnit, means⟩ := shortEscape?_eq known
  refine .peek_cons ?_
  simp only [means]
  exact .skip_bind (.pure meant)

theorem takes_codeEscape (notHigh : ¬ Glyph.IsHigh (Glyph.unit a b c d))
    (notLow : ¬ Glyph.IsLow (Glyph.unit a b c d)) :
    escape.Takes ['u', a.1, b.1, c.1, d.1] rest (Char.ofNat (Glyph.unit a b c d)) := by
  simp only [Glyph.IsHigh, Glyph.IsLow] at notHigh notLow
  refine .peek_cons (.skip_bind ?_)
  refine (takes_hexEscape a b c d).bind_nil ?_
  rw [if_neg notLow, if_pos (by omega)]
  exact .pure _

/-- A pair of surrogates is one escape to the program. -/
theorem takes_pairEscape (high : Glyph.IsHigh (Glyph.unit a b c d))
    (low : Glyph.IsLow (Glyph.unit e f g h)) :
    escape.Takes ['u', a.1, b.1, c.1, d.1, '\\', 'u', e.1, f.1, g.1, h.1] rest
      (Char.ofNat (0x10000 +
        ((Glyph.unit a b c d - 0xD800) * 0x400 + (Glyph.unit e f g h - 0xDC00)))) := by
  simp only [Glyph.IsHigh, Glyph.IsLow] at high low
  refine .peek_cons (.skip_bind ?_)
  refine (takes_hexEscape a b c d).bind ?_
  rw [if_neg (by omega), if_neg (by omega)]
  refine .peek_cons (.skip_bind (.peek_cons (.skip_bind ?_)))
  refine (takes_hexEscape e f g h).bind_nil ?_
  rw [if_neg (by omega), Nat.add_comm]
  exact .pure _

end Escapes

/-- Each step reads a character, which one piece of the string means, or two. -/
theorem takes_stringBody {bytes : Nat} {glyphs : List Glyph} {name seen : List Char} {steps : Nat}
    (means : Glyph.meaning glyphs = some name) (enough : glyphs.length < steps) :
    (stringBody escape bytes steps seen).Takes (glyphs.flatMap Glyph.text ++ ['"']) rest
      (seen.reverseAux name) := by
  induction steps generalizing glyphs name seen with
  | zero => exact absurd enough (Nat.not_lt_zero _)
  | succ steps ih =>
      revert means
      fun_cases Glyph.meaning glyphs with
      | case1 =>
          rintro ⟨⟩
          exact takes_closingQuote
      | case2 c ordinary glyphs =>
          intro means
          obtain ⟨name, others, rfl⟩ := Option.map_eq_some_iff.mp means
          rw [List.flatMap_cons, List.append_assoc]
          exact takes_plain ordinary (ih others (Nat.lt_of_succ_lt_succ enough))
      | case3 letter meant known glyphs =>
          intro means
          obtain ⟨name, others, rfl⟩ := Option.map_eq_some_iff.mp means
          rw [List.flatMap_cons, List.append_assoc]
          exact takes_escaped (takes_shortEscape known) (ih others (Nat.lt_of_succ_lt_succ enough))
      | case4 a b c d e f g h glyphs high low offset =>
          -- Both halves of a pair are taken in one step.
          intro means
          obtain ⟨name, others, rfl⟩ := Option.map_eq_some_iff.mp means
          rw [List.flatMap_cons, List.flatMap_cons, ← List.append_assoc, List.append_assoc]
          have enough : glyphs.length < steps :=
            Nat.lt_of_succ_lt_succ (Nat.lt_of_succ_lt enough)
          exact takes_escaped (takes_pairEscape high low) (ih others enough)
      | case7 a b c d e f g h glyphs notHigh notLow =>
          intro means
          obtain ⟨name, others, rfl⟩ := Option.map_eq_some_iff.mp means
          rw [List.flatMap_cons, List.append_assoc]
          exact takes_escaped (takes_codeEscape notHigh notLow)
            (ih others (Nat.lt_of_succ_lt_succ enough))
      | case9 a b c d glyphs _ half =>
          intro means
          obtain ⟨name, others, rfl⟩ := Option.map_eq_some_iff.mp means
          rw [List.flatMap_cons, List.append_assoc]
          rw [not_or] at half
          exact takes_escaped (takes_codeEscape half.1 half.2)
            (ih others (Nat.lt_of_succ_lt_succ enough))
      | _ => exact nofun

/-- Each piece is written with one character at least. -/
theorem length_lt_steps (glyphs : List Glyph) (rest : List Char) :
    glyphs.length < (glyphs.flatMap Glyph.text ++ ['"'] ++ rest).length + 1 := by
  induction glyphs with
  | nil => exact Nat.succ_pos _
  | cons glyph glyphs ih =>
      have written : 1 ≤ glyph.text.length := by cases glyph <;> exact Nat.succ_pos _
      simp only [List.flatMap_cons, List.length_append, List.length_cons] at ih ⊢
      omega

theorem takes_string {glyphs : List Glyph} {name : List Char}
    (means : Glyph.meaning glyphs = some name) :
    string.Takes (spelt glyphs) rest (String.ofList name) :=
  .skip_bind (.get_bind fun _ =>
    .bind_nil (takes_stringBody means (length_lt_steps glyphs rest)) (.pure _))

/-! ### A string that is passed -/

theorem takes_skipShort {letter meant : Char} (known : (letter, meant) ∈ shortEscapes) :
    skipEscape.Takes [letter] rest letter := by
  obtain ⟨noUnit, means⟩ := shortEscape?_eq known
  refine .peek_cons ?_
  simp only [means, Option.isSome_some, if_true]
  exact .skip_bind (.pure letter)

theorem takes_skipCode (a b c d : HexDigit) :
    skipEscape.Takes ['u', a.1, b.1, c.1, d.1] rest 'u' :=
  .peek_cons (.skip_bind ((takes_hexEscape a b c d).bind_nil (.pure _)))

/-- A string that is passed may mean nothing. -/
theorem takes_passedBody {bytes : Nat} {glyphs : List Glyph} {seen : List Char} {steps : Nat}
    (enough : glyphs.length < steps) :
    ∃ passed, (stringBody skipEscape bytes steps seen).Takes
      (glyphs.flatMap Glyph.text ++ ['"']) rest passed := by
  induction glyphs generalizing seen steps with
  | nil =>
      cases steps with
      | zero => exact absurd enough (Nat.not_lt_zero _)
      | succ steps => exact ⟨_, takes_closingQuote⟩
  | cons glyph glyphs ih =>
      cases steps with
      | zero => exact absurd enough (Nat.not_lt_zero _)
      | succ steps =>
          rw [List.flatMap_cons, List.append_assoc]
          have remain : glyphs.length < steps := Nat.lt_of_succ_lt_succ enough
          cases glyph with
          | plain c ordinary => exact (ih remain).imp fun _ goes => takes_plain ordinary goes
          | short letter meant known =>
              exact (ih remain).imp fun _ goes => takes_escaped (takes_skipShort known) goes
          | code a b c d =>
              exact (ih remain).imp fun _ goes => takes_escaped (takes_skipCode a b c d) goes

theorem takes_skipString (glyphs : List Glyph) : skipString.Takes (spelt glyphs) rest () := by
  refine .skip_bind (.get_bind fun _ => ?_)
  obtain ⟨passed, takes⟩ := takes_passedBody (length_lt_steps glyphs rest)
  exact takes.bind_nil (.pure _)

/-! ## Numbers -/

theorem takes_digits (all : ∀ c ∈ text, c.isDigit) (stops : NoDigit rest) :
    digits.Takes text rest text := by
  have stop : rest.takeWhile Char.isDigit = [] ∧ rest.dropWhile Char.isDigit = rest := by
    cases rest with
    | nil => exact ⟨rfl, rfl⟩
    | cons c rest => simp [stops c rfl]
  have split : splitDigits (text ++ rest) = (text, rest) := by
    simp only [splitDigits, List.takeWhile_append_of_pos all, List.dropWhile_append_of_pos all,
      stop, List.append_nil]
  refine .get_bind fun _ => ?_
  simp only [split]
  exact .bind_nil (.set _) (.pure _)

theorem takes_skipExponent {mark : Char} {sign digits : List Char}
    (signed : sign = [] ∨ sign = ['+'] ∨ sign = ['-']) (present : Digits digits)
    (stops : NoDigit rest) : skipExponent.Takes (mark :: (sign ++ digits)) rest () := by
  have passes := (takes_digits present.2 stops).discard
  obtain ⟨first, others, rfl, isDigit⟩ := present.eq_cons
  have unsigned : ¬ (some first = some '+' ∨ some first = some '-') := by
    simp only [Option.some.injEq, not_or]
    exact ⟨ne_of_isDigit isDigit (by decide), ne_of_isDigit isDigit (by decide)⟩
  refine .skip_bind (.sign_bind ?_ unsigned (.peek_cons ?_))
  · rcases signed with rfl | rfl | rfl
    · exact .inl rfl
    · exact .inr ⟨'+', rfl, .inl rfl⟩
    · exact .inr ⟨'-', rfl, .inr rfl⟩
  · simp only [isDigit, if_true]
    exact passes

theorem takes_skipFraction {digits exponent : List Char} (present : Digits digits)
    (scaled : Exponent exponent) (closed : Closed rest) :
    skipFraction.Takes ('.' :: (digits ++ exponent)) rest () := by
  have notEmpty : ¬ digits.isEmpty := by simpa using present.1
  refine .skip_bind ((takes_digits present.2 (Exponent.noDigit scaled closed)).bind ?_)
  rw [if_neg notEmpty]
  rcases scaled with rfl | ⟨mark, sign, digits, mark_eq, signed, present, rfl⟩
  · refine .peek_nil ?_
    split
    · exact absurd rfl (closed 'e' ‹_›).2.2.1
    · exact absurd rfl (closed 'E' ‹_›).2.2.2
    · exact .pure ()
  · refine .peek_cons ?_
    have passes : skipExponent.Takes (mark :: (sign ++ digits)) rest () :=
      takes_skipExponent signed present closed.noDigit
    rcases mark_eq with rfl | rfl
    · exact passes
    · exact passes

/-- What may follow the whole part of a number that is passed. -/
def skipNumberEnd : Reader Unit := do
  match ← peek with
  | some '.' => skipFraction
  | some 'e' | some 'E' => skipExponent
  | _ => return ()

theorem takes_skipNumberEnd {fraction exponent : List Char} (places : Fraction fraction)
    (scaled : Exponent exponent) (closed : Closed rest) :
    skipNumberEnd.Takes (fraction ++ exponent) rest () := by
  rcases places with rfl | ⟨digits, present, rfl⟩
  · rcases scaled with rfl | ⟨mark, sign, digits, mark_eq, signed, present, rfl⟩
    · refine .peek_nil ?_
      split
      · exact absurd rfl (closed '.' ‹_›).2.1
      · exact absurd rfl (closed 'e' ‹_›).2.2.1
      · exact absurd rfl (closed 'E' ‹_›).2.2.2
      · exact .pure ()
    · refine .peek_cons ?_
      have passes : skipExponent.Takes (mark :: (sign ++ digits)) rest () :=
        takes_skipExponent signed present closed.noDigit
      rcases mark_eq with rfl | rfl
      · exact passes
      · exact passes
  · exact .peek_cons (takes_skipFraction present scaled closed)

theorem takes_skipNumber {number : List Char} (numeral : Numeral number) (closed : Closed rest) :
    skipNumber.Takes number rest () := by
  obtain ⟨sign, whole, fraction, exponent, signed, isWhole, places, scaled, rfl⟩ := numeral
  have ends := takes_skipNumberEnd places scaled closed
  have stops : NoDigit (fraction ++ exponent ++ rest) := by
    rw [List.append_assoc]
    exact Fraction.noDigit places (Exponent.noDigit scaled closed)
  obtain ⟨first, others, rfl, isDigit⟩ := Whole.eq_cons isWhole
  refine .sign_bind ?_ ?_ (.peek_cons ?_)
  · exact signed.imp_right fun minus => ⟨'-', minus, rfl⟩
  · exact fun minus => ne_of_isDigit isDigit (by decide) (Option.some.inj minus)
  simp only [isDigit, if_true]
  rcases isWhole with zero | ⟨digits, notZero⟩
  · -- Behind a leading zero the program makes sure that there is no digit.
    obtain ⟨rfl, rfl⟩ := List.cons.inj zero
    refine .skip_bind (.peek_bind ?_)
    split
    · have noDigit := stops _ ‹_›
      rw [if_neg noDigit]
      exact ends
    · exact ends
  · have notZero : first ≠ '0' := fun zero => notZero (congrArg some zero)
    simp only [notZero, if_false]
    exact (takes_digits digits.2 stops).discard.bind ends

end Reader

end PageWatch.Json
