import Mathlib.Data.List.Infix
import PageWatch.Page.Probe
import PageWatch.Script.Lexeme

/-!
# Selectors inside page scripts

The script for a live page holds the selector as a quoted text.  It is written by the rules of
one grammar, that of JSON, and read by those of another, that of scripts.  Here the words of the
page script are read: the text ends where it was meant to end, it is the selector, and all other
words are the same for every selector.
-/

namespace PageWatch

open Text

namespace Text.Units

/-- Texts one after the other are their units one after the other. -/
theorem concat_eq (texts : List Units) :
    concat texts = ⟨(texts.flatMap (·.units.toList)).toArray⟩ := by
  have appended (all : Array UInt16) :
      texts.foldl (fun all text => all ++ text.units) all =
        all ++ (texts.flatMap (·.units.toList)).toArray := by
    induction texts generalizing all with
    | nil => simp
    | cons text texts ih =>
        rw [List.foldl_cons, ih, Array.append_assoc]
        exact congrArg (all ++ ·) (Array.ext' (by simp))
  rw [concat, appended]
  simp

/-- A text is put together from its characters. -/
theorem concat_singletons (text : List Char) :
    concat (text.map fun c => ofList [c]) = ofList text := by
  simp [concat_eq, ofList, List.flatMap_map]

/-! ## Back to characters -/

theorem toNat_toUInt16 {code : Nat} (small : code < 0x10000) : code.toUInt16.toNat = code :=
  Nat.mod_eq_of_lt small

/-- A unit of the first plane is a character of its own. -/
theorem isHigh_toUInt16 {code : Nat} (small : code < 0x10000) :
    isHigh code.toUInt16 = (decide (0xD800 ≤ code) && decide (code ≤ 0xDBFF)) := by
  simp only [isHigh, UInt16.le_iff_toNat_le, toNat_toUInt16 small]
  rfl

theorem isLow_toUInt16 {code : Nat} (small : code < 0x10000) :
    isLow code.toUInt16 = (decide (0xDC00 ≤ code) && decide (code ≤ 0xDFFF)) := by
  simp only [isLow, UInt16.le_iff_toNat_le, toNat_toUInt16 small]
  rfl

/-- A unit that begins no pair is a code point of its own. -/
theorem codePointsOf_single {unit : UInt16} (single : isHigh unit = false) (rest : List UInt16) :
    codePointsOf (unit :: rest) = unit.toNat :: codePointsOf rest := by
  cases rest with
  | nil => rfl
  | cons next rest => simp [codePointsOf, single]

/-- A pair stands for one code point. -/
theorem codePointsOf_pair {high low : UInt16} (pair : (isHigh high && isLow low) = true)
    (rest : List UInt16) :
    codePointsOf (high :: low :: rest) = joinPair high low :: codePointsOf rest := by
  rw [codePointsOf, if_pos pair]

theorem joinPair_eq {high low : Nat} (highSmall : high < 0x10000) (lowSmall : low < 0x10000) :
    joinPair high.toUInt16 low.toUInt16 =
      0x10000 + (high - 0xD800) * 0x400 + (low - 0xDC00) := by
  unfold joinPair
  rw [toNat_toUInt16 highSmall, toNat_toUInt16 lowSmall]

theorem codePointsOf_ofChar (c : Char) (rest : List UInt16) :
    codePointsOf (ofChar c ++ rest) = c.toNat :: codePointsOf rest := by
  by_cases plane : c.toNat < 0x10000
  · have valid : c.toNat < 0xD800 ∨ 0xDFFF < c.toNat := by
      rcases c.valid with below | above
      · exact .inl below
      · exact .inr above.1
    have single : isHigh c.toNat.toUInt16 = false := by
      rw [isHigh_toUInt16 plane]
      simp
      lia
    simp [ofChar, plane, codePointsOf_single single, Nat.mod_eq_of_lt plane]
  · have last : c.toNat < 0x110000 := by
      rcases c.valid with below | above
      · exact Nat.lt_trans below (by decide)
      · exact above.2
    have high : 0xD800 + (c.toNat - 0x10000) / 0x400 < 0x10000 := by lia
    have low : 0xDC00 + (c.toNat - 0x10000) % 0x400 < 0x10000 := by lia
    have isPair : (isHigh (0xD800 + (c.toNat - 0x10000) / 0x400).toUInt16 &&
        isLow (0xDC00 + (c.toNat - 0x10000) % 0x400).toUInt16) = true := by
      rw [isHigh_toUInt16 high, isLow_toUInt16 low]
      simp only [Bool.and_eq_true, decide_eq_true_eq]
      omega
    simp only [ofChar, plane, if_false, List.cons_append, List.nil_append]
    have whole : 0x10000 + (0xD800 + (c.toNat - 0x10000) / 0x400 - 0xD800) * 0x400 +
        (0xDC00 + (c.toNat - 0x10000) % 0x400 - 0xDC00) = c.toNat := by omega
    rw [codePointsOf_pair isPair, joinPair_eq high low, whole]

theorem codePoints_ofList (text : List Char) : (ofList text).codePoints = text.map Char.toNat := by
  induction text with
  | nil => rfl
  | cons c text ih =>
    rw [List.map_cons, ← ih]
    exact codePointsOf_ofChar c _

/-- A character is no surrogate, so it is written out as itself. -/
theorem writeCodePoint_toNat (c : Char) : writeCodePoint c.toNat = [c] := by
  have valid : ¬ (0xD800 ≤ c.toNat ∧ c.toNat ≤ 0xDFFF) := by
    rcases c.valid with below | above
    · exact fun within => Nat.not_le.mpr below within.1
    · exact fun within => Nat.not_le.mpr above.1 within.2
  simp [writeCodePoint, valid, Char.ofNat_toNat]

/-- A text of characters holds no surrogate without its partner. -/
theorem write_ofString (text : String) : (ofString text).write = text := by
  rw [write, ofString, codePoints_ofList, List.flatMap_map]
  simp [writeCodePoint_toNat]

end Text.Units

/-- No character is left out, whatever follows. -/
theorem Json.length_lt_escape (text rest : List Char) :
    text.length < (text.flatMap escape ++ rest).length + 1 := by
  have spelt (c : Char) : 1 ≤ (escape c).length := by
    unfold escape
    split_ifs <;> simp
  induction text with
  | nil => exact Nat.succ_pos _
  | cons c text ih =>
      rw [List.flatMap_cons, List.append_assoc, List.length_append, List.length_cons,
        Nat.add_comm, Nat.add_assoc]
      exact Nat.add_lt_add_of_le_of_lt (spelt c) ih

namespace Script.Lexeme

/-! ## One character -/

theorem readHex_four {a b c d : Char} {code : Nat} (rest : List Char)
    (digits : [a, b, c, d].all (Number.isDigitOf 16) = true)
    (value : Number.ofDigits 16 [a, b, c, d] = code) :
    readHex 4 (a :: b :: c :: d :: rest) = some (code, rest) := by
  simp only [readHex, List.take, List.drop, digits, value]
  rfl

/-- A control character is written with four digits, the first two of them zero. -/
theorem readEscape_control {code : Nat} (control : code < 32) (rest : List Char) :
    readEscape false ('u' :: '0' :: '0' :: Json.hexDigit (code / 16) ::
      Json.hexDigit (code % 16) :: rest) = some (Units.ofCodePoint code, rest) := by
  have read : ∀ code < 32,
      ['0', '0', Json.hexDigit (code / 16), Json.hexDigit (code % 16)].all
          (Number.isDigitOf 16) = true ∧
        Number.ofDigits 16 ['0', '0', Json.hexDigit (code / 16), Json.hexDigit (code % 16)] =
          code := by
    decide
  obtain ⟨digits, value⟩ := read code control
  change (readHex 4 _).map _ = _
  rw [readHex_four rest digits value]
  rfl

theorem ofCodePoint_toNat {c : Char} (control : c.toNat < 32) :
    Units.ofCodePoint c.toNat = Units.ofList [c] := by
  have small : c.toNat < 0x10000 := Nat.lt_trans control (by decide)
  simp [Units.ofCodePoint, Units.ofList, Units.ofChar, small]

theorem readText_backslash {rest behind : List Char} {piece : Units}
    (read : readEscape false rest = some (piece, behind)) (steps : Nat) (pieces : List Units) :
    readText '"' (steps + 1) ('\\' :: rest) pieces =
      readText '"' steps behind (piece :: pieces) := by
  simp [readText, read]

/-- However a character is spelt inside a quoted text, a script reads it as that character. -/
theorem readText_escape (c : Char) (steps : Nat) (rest : List Char) (pieces : List Units) :
    readText '"' (steps + 1) (Json.escape c ++ rest) pieces =
      readText '"' steps rest (Units.ofList [c] :: pieces) := by
  -- The escapes are those that scripts have too; only the order of the questions differs.
  have short {code : Nat} (same : c.toNat = code) : c = Char.ofNat code := by
    rw [← same, Char.ofNat_toNat]
  rw [Json.escape]
  split_ifs with quote backslash backspace tab feed form return_ control
  · subst quote; rfl
  · subst backslash; rfl
  · rw [short backspace]; rfl
  · rw [short tab]; rfl
  · rw [short feed]; rfl
  · rw [short form]; rfl
  · rw [short return_]; rfl
  · rw [← ofCodePoint_toNat control]
    exact readText_backslash (readEscape_control control rest) steps pieces
  · have notFeed : c ≠ '\n' := fun same => feed (same ▸ rfl)
    have notReturn : c ≠ '\r' := fun same => return_ (same ▸ rfl)
    simp [readText, quote, backslash, notFeed, notReturn]

/-! ## The text -/

/-- A script reads a quoted text as what was quoted, and ends it at the closing quote. -/
theorem readText_quoted (text rest : List Char) {steps : Nat} (enough : text.length < steps)
    (pieces : List Units) :
    readText '"' steps (text.flatMap Json.escape ++ '"' :: rest) pieces =
      some (Units.concat (pieces.reverse ++ text.map fun c => Units.ofList [c]), rest) := by
  induction text generalizing steps pieces with
  | nil =>
      obtain ⟨steps, rfl⟩ := Nat.exists_eq_add_one.mpr enough
      simp [readText]
  | cons c text ih =>
      obtain ⟨steps, rfl⟩ := Nat.exists_eq_add_one.mpr (Nat.zero_lt_of_lt enough)
      rw [List.flatMap_cons, List.append_assoc, readText_escape, ih (Nat.lt_of_succ_lt_succ enough)]
      simp

/-- A double quote begins a text. -/
theorem readWord_quote (previous : Word) (inTemplate : Bool) (rest : List Char) :
    readWord previous inTemplate '"' rest =
      (readText '"' (rest.length + 1) rest []).map fun read => (.text read.1, read.2) := by
  have reads : readWord previous inTemplate '"' rest =
      (readText '"' (rest.length + 1) rest []).bind fun read => some (.text read.1, read.2) := rfl
  rw [reads, Option.map_eq_bind]
  rfl

theorem nextBraces_text (braces : List Bool) (value : Units) :
    nextBraces braces (.text value) = braces := rfl

/-- Reading goes on behind a text. -/
theorem readAll_quote (steps : Nat) (previous : Word) (braces : List Bool) (line : Bool)
    (rest : List Char) :
    readAll (steps + 1) previous braces line ('"' :: rest) =
      (readWord previous (braces.head? == some true) '"' rest).bind fun read =>
        (readAll steps read.1 (nextBraces braces read.1) false read.2).bind fun others =>
          some (⟨read.1, line, '"' :: rest, read.2⟩ :: others) := by
  exact rfl

/-! ## All words of a page script -/

/-- A word, and whether a line ends before it. -/
def shown (lexeme : Lexeme) : Word × Bool := (lexeme.word, lexeme.afterLine)

/-- Words in front of others, if there are others. -/
def prepend (front : List Lexeme) (rest : Option (List Lexeme)) : Option (List Lexeme) :=
  front.foldr (fun lexeme rest => do return lexeme :: (← rest)) rest

theorem prepend_some (front rest : List Lexeme) :
    prepend front (some rest) = some (front ++ rest) := by
  induction front with
  | nil => rfl
  | cons lexeme front ih =>
      change (prepend front (some rest)).bind _ = _
      rw [ih]
      rfl

/-- The words up to the selector, each with where it begins and where it ends. -/
def openingWords : List ((Word × Bool) × Nat × Nat) :=
  [((.sign "(", false), 0, 1), ((.sign "(", false), 1, 2), ((.sign ")", false), 2, 3),
   ((.sign "=>", false), 4, 6), ((.sign "\x7b", false), 7, 8),
   ((.name "const" false, true), 21, 26), ((.name "elements" false, false), 27, 35),
   ((.sign "=", false), 36, 37), ((.name "document" false, false), 38, 46),
   ((.sign ".", false), 46, 47), ((.name "querySelectorAll" false, false), 47, 63),
   ((.sign "(", false), 63, 64)]

/-- The words up to the selector, at their places in a text that begins with them. -/
def openingLexemes (rest : List Char) : List Lexeme :=
  openingWords.map fun ((word, afterLine), start, stop) =>
    let text := Probe.opening.toList ++ rest
    ⟨word, afterLine, text.drop start, text.drop stop⟩

theorem shown_openingLexemes (rest : List Char) :
    (openingLexemes rest).map shown = openingWords.map (·.1) := by
  simp only [openingLexemes, List.map_map]
  rfl

-- Reading takes one step for each blank and each word: for the opening, thirty of them.
set_option maxRecDepth 100000 in
theorem readAll_opening (steps : Nat) (rest : List Char) :
    readAll (steps + 64) .finish [] false (Probe.opening.toList ++ rest) =
      prepend (openingLexemes rest) (readAll (steps + 34) (.sign "(") [false] false rest) := by
  exact rfl

set_option maxRecDepth 100000 in
theorem exists_readAll_closing : ∃ lexemes, ∀ steps selector,
    readAll (steps + 224) (.text selector) [false] false Probe.closing.toList = some lexemes :=
  ⟨(readAll 224 .finish [false] false Probe.closing.toList).getD [], fun _ _ => rfl⟩

end Script.Lexeme

namespace Probe

open Script

theorem toList_script (selector : String) :
    (script selector).toList =
      opening.toList ++ '"' :: (selector.toList.flatMap Json.escape ++ '"' :: closing.toList) := by
  simp [script, Json.quote, Json.quoted]

/-- The word at the opening quote is the selector, and what follows it is the fixed end. -/
theorem readWord_selector (selector : String) (previous : Word) (inTemplate : Bool) :
    Lexeme.readWord previous inTemplate '"'
        (selector.toList.flatMap Json.escape ++ '"' :: closing.toList) =
      some (.text (Units.ofString selector), closing.toList) := by
  have enough := Json.length_lt_escape selector.toList ('"' :: closing.toList)
  rw [Lexeme.readWord_quote, Lexeme.readText_quoted selector.toList closing.toList enough,
    List.reverse_nil, List.nil_append, Units.concat_singletons, Option.map_some, Units.ofString]

theorem length_opening : opening.toList.length = 64 := by decide +kernel

theorem length_closing : closing.toList.length = 223 := by decide +kernel

/-- Nothing in front of a page script is passed over. -/
theorem ofText_script (selector : String) :
    Lexeme.ofText (script selector) =
      Lexeme.readAll ((script selector).toList.length + 1) .finish [] false
        (script selector).toList := by
  rw [Lexeme.ofText, toList_script]
  exact rfl

/-- The words of a page script: those before the selector and those after it are the same for
every selector. -/
theorem exists_words : ∃ front back, ∀ selector,
    (Lexeme.ofText (script selector)).map (·.map Lexeme.shown) =
      some (front ++ (.text (Units.ofString selector), false) :: back) := by
  obtain ⟨lexemes, closes⟩ := Lexeme.exists_readAll_closing
  refine ⟨Lexeme.openingWords.map (·.1), lexemes.map Lexeme.shown, fun selector => ?_⟩
  let literal := selector.toList.flatMap Json.escape ++ '"' :: closing.toList
  -- Every word and every blank takes a step, and there are more characters than that.
  obtain ⟨steps, length_eq⟩ : ∃ steps, literal.length = steps + 224 := by
    refine Nat.exists_eq_add_of_le' ?_
    rw [List.length_append, List.length_cons, length_closing]
    exact Nat.le_add_left 224 _
  have fuel_eq : (script selector).toList.length + 1 = steps + 226 + 64 := by
    rw [toList_script, List.length_append, List.length_cons, length_opening]
    lia
  have literal_eq : Lexeme.readAll (steps + 226 + 34) (.sign "(") [false] false ('"' :: literal) =
      (Lexeme.readAll (steps + 35 + 224) (.text (Units.ofString selector)) [false] false
        closing.toList).bind fun others => some
          (⟨.text (Units.ofString selector), false, '"' :: literal, closing.toList⟩ :: others) := by
    have steps_eq : steps + 226 + 34 = steps + 35 + 224 + 1 := by lia
    rw [steps_eq, Lexeme.readAll_quote, readWord_selector, Option.bind_some, Lexeme.nextBraces_text]
  rw [ofText_script, fuel_eq, toList_script, Lexeme.readAll_opening, literal_eq, closes,
    Option.bind_some, Lexeme.prepend_some, Option.map_some, List.map_append,
    Lexeme.shown_openingLexemes]
  rfl

/-- No selector adds code to a page script.  The script is a fixed opening, a quoted text and a
fixed closing.  A reader that begins at the opening quote reads the selector, and what it leaves
is the closing; the words of the script are the same for all selectors but for that text; and
different selectors have different scripts. -/
theorem selector_sealed :
    "document.querySelectorAll(".toList <:+ opening.toList ∧
      ")".toList <+: closing.toList ∧
      (∀ selector, ∃ literal,
        (script selector).toList = opening.toList ++ '"' :: (literal ++ '"' :: closing.toList) ∧
        (∀ previous inTemplate,
          Lexeme.readWord previous inTemplate '"' (literal ++ '"' :: closing.toList) =
            some (.text (Units.ofString selector), closing.toList)) ∧
        (Units.ofString selector).write = selector) ∧
      (∃ front back, ∀ selector, (Lexeme.ofText (script selector)).map (·.map Lexeme.shown) =
        some (front ++ (.text (Units.ofString selector), false) :: back)) ∧
      Function.Injective script := by
  refine ⟨by decide +kernel, by decide +kernel, fun selector => ?_, exists_words, ?_⟩
  · exact ⟨selector.toList.flatMap Json.escape, toList_script selector,
      readWord_selector selector, Units.write_ofString selector⟩
  · intro first second same
    have literals := congrArg String.toList same
    rw [toList_script, toList_script] at literals
    have read := readWord_selector first .finish false
    rw [List.tail_eq_of_cons_eq (List.append_cancel_left literals),
      readWord_selector second .finish false] at read
    have units : Units.ofString second = Units.ofString first := by
      simpa using read
    rw [← Units.write_ofString first, ← units, Units.write_ofString]

end Probe

end PageWatch
