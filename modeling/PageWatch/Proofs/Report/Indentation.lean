import Mathlib.Data.List.DropRight
import PageWatch.Report

/-!
# Printed lines in a report

A report shows what the script has printed, each line behind two spaces.  So the lines without
such an indentation are the report's own.

White space at the very end of a report is dropped.  If nothing stands behind the printed lines,
that takes blank lines away from among them, down to the heading if all are blank.  It never
leaves a line with only a part of its indentation, and nothing but blank characters is lost.
-/

namespace PageWatch

namespace Text

variable {before after : List Char}

/-! ## Trimming -/

theorem trimRight_eq (text : List Char) : trimRight text = text.rdropWhile isBlank := rfl

theorem trimRight_append_of_blank (before : List Char) (blank : ∀ c ∈ after, isBlank c) :
    trimRight (before ++ after) = trimRight before := by
  induction after using List.reverseRecOn with
  | nil => rw [List.append_nil]
  | append_singleton after c ih =>
      rw [← List.append_assoc, trimRight_eq, List.rdropWhile_concat_pos _ _ _ (blank c (by simp))]
      exact ih fun c member => blank c (List.mem_append_left _ member)

theorem blank_lineFeed : ∀ c ∈ ['\n'], isBlank c := List.forall_mem_singleton.mpr (by decide)

theorem trimRight_append_of_ne_nil (before : List Char) (stays : trimRight after ≠ []) :
    trimRight (before ++ after) = before ++ trimRight after := by
  induction after using List.reverseRecOn with
  | nil => exact absurd rfl stays
  | append_singleton after c ih =>
      rw [← List.append_assoc]
      by_cases blank : isBlank c
      · have dropped (text : List Char) : trimRight (text ++ [c]) = trimRight text :=
          List.rdropWhile_concat_pos _ _ _ blank
        rw [dropped] at stays ⊢
        rw [dropped, ih stays]
      · have kept (text : List Char) : trimRight (text ++ [c]) = text ++ [c] :=
          List.rdropWhile_concat_neg _ _ _ blank
        rw [kept, kept, List.append_assoc]

theorem trimRight_eq_nil_iff {text : List Char} :
    trimRight text = [] ↔ ∀ c ∈ text, isBlank c :=
  List.rdropWhile_eq_nil_iff

/-- What is trimmed is blank. -/
theorem exists_trimmed (text : List Char) :
    ∃ trimmed, (∀ c ∈ trimmed, isBlank c) ∧ trimRight text ++ trimmed = text :=
  ⟨text.rtakeWhile isBlank, fun _ => List.mem_rtakeWhile_imp, List.rdropWhile_append_rtakeWhile⟩

/-! ## Lines and line feeds -/

/-- A line without the carriage return that stands at its end. -/
def withoutReturn (line : List Char) : List Char :=
  if line.getLast? = some '\r' then line.dropLast else line

/-- What line feeds end, without the carriage returns right before them, and what stands behind
the last line feed, unless nothing does. -/
def endedLines (text : List Char) : List (List Char) :=
  let pieces := text.splitOn '\n'
  pieces.dropLast.map withoutReturn ++ (pieces.getLast?.filter (· ≠ [])).toList

theorem withoutReturn_cons {c : Char} {line : List Char} (more : c = '\r' → line ≠ []) :
    withoutReturn (c :: line) = c :: withoutReturn line := by
  cases line with
  | nil =>
      have other : c ≠ '\r' := fun same => more same rfl
      simp [withoutReturn, other]
  | cons next line =>
      simp only [withoutReturn, List.getLast?_cons_cons, List.dropLast_cons_cons]
      split <;> rfl

/-- A character that is no line feed stands before the first of the lines behind it. -/
theorem endedLines_cons {c : Char} {rest first : List Char} {more : List (List Char)}
    (feed : c ≠ '\n') (alone : c = '\r' → ∀ behind, rest ≠ '\n' :: behind)
    (ended : endedLines rest = first :: more) : endedLines (c :: rest) = (c :: first) :: more := by
  have whole : ['\n'].intercalate (rest.splitOn '\n') = rest := List.intercalate_splitOn '\n'
  have split : (c :: rest).splitOn '\n' = (rest.splitOn '\n').modifyHead (c :: ·) := by
    rw [List.splitOn_cons_eq_if_modifyHead, if_neg (by simpa using feed)]
  rw [endedLines] at ended ⊢
  rw [split]
  match pieces : rest.splitOn '\n' with
  | [] => exact absurd pieces (List.splitOn_ne_nil _ _)
  | [piece] =>
      rw [pieces] at ended
      by_cases empty : piece = [] <;> simp_all [Option.filter]
  | piece :: next :: others =>
      have kept : c = '\r' → piece ≠ [] := by
        rintro return_ rfl
        rw [pieces, List.intercalate_cons_cons] at whole
        exact alone return_ _ whole.symm
      simp_all [withoutReturn_cons kept]

theorem lines_eq_endedLines (text : List Char) : lines text = endedLines text := by
  fun_induction lines text with
  | case1 => rfl
  | case2 rest ih | case3 rest ih =>
      obtain ⟨piece, pieces, split⟩ := List.exists_cons_of_ne_nil (List.splitOn_ne_nil '\n' rest)
      simp [endedLines, List.splitOn_cons_eq_if_modifyHead, ih, split, withoutReturn]
  | case4 c rest feed return_ none_left ih =>
      obtain rfl : rest = [] := lines_eq_nil_iff.mp none_left
      have other : c ≠ '\n' := fun same => feed same
      simp [endedLines, List.splitOn_cons_eq_if_modifyHead, other, Option.filter]
  | case5 c rest feed return_ first more some_left ih =>
      have alone : c = '\r' → ∀ behind, rest ≠ '\n' :: behind := fun same behind eq =>
        return_ behind same eq
      exact (endedLines_cons (fun same => feed same) alone (ih.symm.trans some_left)).symm

/-- No line has a line feed in it. -/
theorem not_mem_of_mem_lines (text : List Char) : ∀ line ∈ lines text, '\n' ∉ line := by
  fun_induction lines text with
  | case1 => simp
  | case2 rest ih | case3 rest ih => exact List.forall_mem_cons.mpr ⟨List.not_mem_nil, ih⟩
  | case4 c rest feed return_ none_left ih =>
      simpa using fun same : '\n' = c => feed same.symm
  | case5 c rest feed return_ first more some_left ih =>
      rw [some_left, List.forall_mem_cons] at ih
      refine List.forall_mem_cons.mpr ⟨?_, ih.2⟩
      simpa [ih.1] using fun same : '\n' = c => feed same.symm

end Text

namespace Report

open Text

variable {report : Report}

/-! ## The lines of a report -/

/-- How the run ended and how long it took. -/
def status (report : Report) : String :=
  let elapsed := toString report.elapsedMs
  let covered := toString report.virtualMs
  if report.success then s!"Script completed in {elapsed}ms ({covered}ms of timer time)"
  else s!"Script failed in {elapsed}ms"

/-- What stands in a report behind the printed lines. -/
def ending (report : Report) : List Char := report.errorLine ++ report.pendingLine

/-- A printed line as it stands in a report. -/
def indented (line : List Char) : List Char := ' ' :: ' ' :: line

/-- Printed lines as they stand in a report, each with its end. -/
def block (printed : List (List Char)) : List Char :=
  printed.flatMap fun line => indented line ++ ['\n']

/-- What stands before the printed lines, without the last line feed. -/
def head (report : Report) : List Char := report.status.toList ++ '\n' :: "Output:".toList

/-- The lines of a text that do not begin with two spaces. -/
def unindented (text : List Char) : List (List Char) :=
  (text.splitOn '\n').filter fun line => !List.isPrefixOf [' ', ' '] line

theorem not_mem_toDigits (n : Nat) : '\n' ∉ Nat.toDigits 10 n := fun member =>
  absurd (Nat.isDigit_of_mem_toDigits (by decide) (by decide) member) (by decide)

theorem statusLine_eq (report : Report) :
    report.statusLine = report.status.toList ++ ['\n'] := by
  rw [status, statusLine]
  split <;> simp [toString]

theorem not_mem_status (report : Report) : '\n' ∉ report.status.toList := by
  rw [status]
  split <;> simp [toString, not_mem_toDigits]

/-- A report that shows printed lines, before white space is dropped from its end. -/
theorem format_eq (printed : report.output ≠ "") :
    report.format.toList =
      trimRight (report.head ++ '\n' :: (block (lines report.output.toList) ++ report.ending)) := by
  have shown : report.output.toList.isEmpty = false := by simpa using printed
  rw [format, String.toList_ofList, statusLine_eq, outputLines, shown]
  simp [head, block, indented, ending]

/-- The heading ends in a character that is not blank. -/
theorem trimRight_head (report : Report) : trimRight report.head = report.head := by
  rw [head, trimRight_append_of_ne_nil _ (by decide)]
  rfl

/-! ## Lines of the whole text -/

theorem splitOn_head (rest : List Char) :
    (report.head ++ '\n' :: rest).splitOn '\n' =
      report.status.toList :: "Output:".toList :: rest.splitOn '\n' := by
  rw [head, List.append_assoc, List.cons_append,
    List.splitOn_append_cons_self_of_not_mem report.not_mem_status,
    List.splitOn_append_cons_self_of_not_mem (by decide)]

theorem splitOn_block {printed : List (List Char)} (feedless : ∀ line ∈ printed, '\n' ∉ line)
    (rest : List Char) :
    (block printed ++ rest).splitOn '\n' = printed.map indented ++ rest.splitOn '\n' := by
  induction printed with
  | nil => rfl
  | cons line printed ih =>
      obtain ⟨first, others⟩ := List.forall_mem_cons.mp feedless
      have feedlessLine : '\n' ∉ indented line := by simpa [indented] using first
      rw [block, List.flatMap_cons, List.append_assoc, List.append_assoc, List.singleton_append,
        List.splitOn_append_cons_self_of_not_mem feedlessLine, List.map_cons, List.cons_append,
        ← ih others]
      rfl

/-- Printed lines are no lines of the report's own. -/
theorem unindented_block {printed : List (List Char)} (feedless : ∀ line ∈ printed, '\n' ∉ line)
    (before rest : List Char) :
    unindented (before ++ '\n' :: (block printed ++ rest)) =
      unindented (before ++ '\n' :: rest) := by
  have hidden : (printed.map indented).filter
      (fun line => !List.isPrefixOf [' ', ' '] line) = [] := by
    simp [indented]
  simp only [unindented, List.splitOn_append_cons_self, splitOn_block feedless,
    List.filter_append, hidden, List.nil_append]

/-- A line that is trimmed keeps its indentation, unless all of it is dropped. -/
theorem trimRight_indented {line : List Char} (stays : trimRight line ≠ []) :
    trimRight (indented line ++ ['\n']) = indented (trimRight line) := by
  rw [trimRight_append_of_blank _ blank_lineFeed]
  exact trimRight_append_of_ne_nil [' ', ' '] stays

theorem unindented_append_indented (before : List Char) {line : List Char}
    (feedless : '\n' ∉ line) :
    unindented (before ++ '\n' :: indented line) = unindented before := by
  have whole : (indented line).splitOn '\n' = [indented line] :=
    List.splitOn_eq_singleton (by simpa [indented] using feedless)
  rw [unindented, unindented, List.splitOn_append_cons_self, whole, List.filter_append]
  simp [indented]

/-- If the printed lines stand at the end of a text, some of them may be trimmed, but nothing
before them. -/
theorem unindented_trimRight {before : List Char} (ends : trimRight before = before)
    {printed : List (List Char)} (feedless : ∀ line ∈ printed, '\n' ∉ line) :
    unindented (trimRight (before ++ '\n' :: block printed)) = unindented before := by
  induction printed using List.reverseRecOn with
  | nil => rw [block, List.flatMap_nil, trimRight_append_of_blank _ blank_lineFeed, ends]
  | append_singleton printed line ih =>
      obtain ⟨others, last⟩ := List.forall_mem_append.mp feedless
      have feedlessLine : '\n' ∉ line := last line (.head _)
      have last_eq : before ++ '\n' :: block (printed ++ [line]) =
          (before ++ '\n' :: block printed) ++ (indented line ++ ['\n']) := by
        simp [block]
      rw [last_eq]
      by_cases stays : trimRight line = []
      · have blank : ∀ c ∈ indented line ++ ['\n'], isBlank c := by
          have blankLine := trimRight_eq_nil_iff.mp stays
          simp only [indented, List.cons_append, List.forall_mem_cons, List.forall_mem_append]
          exact ⟨by decide, by decide, blankLine, by decide, fun c member => nomatch member⟩
        rw [trimRight_append_of_blank _ blank, ih others]
      · have feedlessTrimmed : '\n' ∉ trimRight line := fun member =>
          feedlessLine ((List.rdropWhile_prefix isBlank line).subset member)
        have trimmed : trimRight (indented line ++ ['\n']) ≠ [] := by
          rw [trimRight_indented stays]
          exact List.cons_ne_nil _ _
        rw [trimRight_append_of_ne_nil _ trimmed, trimRight_indented stays, List.append_assoc,
          List.cons_append, unindented_block others, unindented_append_indented _ feedlessTrimmed]

/-! ## Reports -/

/-- The lines of a report that are not indented do not depend on what was printed. -/
theorem unindented_format (printed : report.output ≠ "") :
    unindented report.format.toList =
      unindented (trimRight (report.head ++ '\n' :: report.ending)) := by
  have feedless := not_mem_of_mem_lines report.output.toList
  rw [format_eq printed]
  by_cases stays : trimRight report.ending = []
  · have blank : ∀ c ∈ report.ending, isBlank c := trimRight_eq_nil_iff.mp stays
    have blankEnd : ∀ c ∈ '\n' :: report.ending, isBlank c :=
      List.forall_mem_cons.mpr ⟨by decide, blank⟩
    rw [← List.cons_append, ← List.append_assoc, trimRight_append_of_blank _ blank,
      unindented_trimRight report.trimRight_head feedless,
      trimRight_append_of_blank _ blankEnd, trimRight_head]
  · have endStays (between : List Char) :
        trimRight (report.head ++ '\n' :: (between ++ report.ending)) =
          report.head ++ '\n' :: (between ++ trimRight report.ending) := by
      rw [← List.cons_append, ← List.append_assoc, trimRight_append_of_ne_nil _ stays]
      simp
    have endAlone := endStays []
    simp only [List.nil_append] at endAlone
    rw [endStays, endAlone, unindented_block feedless]

/-- What a script prints cannot pass for a line of its report.  The lines that do not begin with
two spaces are the same whatever was printed, so the status, the error and the pending waits are
told in the same words in the same places.  And the whole text is known: between the heading and
the report's ending stand the printed lines, in order, each behind two spaces, and all that a
report lacks of that is blank and at its end. -/
theorem output_stays_indented (report : Report) (first second : String) (printed : first ≠ "")
    (otherPrinted : second ≠ "") :
    let one : Report := { report with output := first }
    let other : Report := { report with output := second }
    unindented one.format.toList = unindented other.format.toList ∧
      ∃ trimmed, (∀ c ∈ trimmed, isBlank c) ∧
        (one.format.toList ++ trimmed).splitOn '\n' =
          report.status.toList :: "Output:".toList ::
            ((endedLines first.toList).map indented ++
              (report.errorLine ++ report.pendingLine).splitOn '\n') := by
  intro one other
  have onePrinted : one.output ≠ "" := printed
  have otherPrinted : other.output ≠ "" := otherPrinted
  refine ⟨?_, ?_⟩
  · rw [unindented_format onePrinted, unindented_format otherPrinted]
    rfl
  · obtain ⟨trimmed, blank, whole⟩ := exists_trimmed
      (one.head ++ '\n' :: (block (lines first.toList) ++ one.ending))
    refine ⟨trimmed, blank, ?_⟩
    rw [format_eq onePrinted, whole, splitOn_head, splitOn_block (not_mem_of_mem_lines _),
      lines_eq_endedLines]
    rfl

theorem output_stays_indented_forged :
    let report : Report := ⟨true, "", none, 5, 0, 0⟩
    let forged := "Error: none\nPending: 3"
    forged ≠ "" ∧ "\n \r\n" ≠ "" ∧
      unindented { report with output := forged }.format.toList =
        ["Script completed in 0ms (5ms of timer time)".toList, "Output:".toList] := by
  intro report forged
  obtain ⟨same, -⟩ := output_stays_indented report forged "\n \r\n" (by decide) (by decide)
  exact ⟨by decide, by decide, same.trans (by decide +kernel)⟩

end Report

end PageWatch
