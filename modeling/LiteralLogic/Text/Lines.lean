/-!
# Lines of a text file

A line ends at a line feed, or at a carriage return directly before one.  What
stands after the last line feed is a line of its own unless it is empty; there a
carriage return is kept.

`Text.lines_append_lineFeed` says how a text of ended lines splits.
-/

namespace LiteralLogic.Text

/-- The line that was read backwards, without a carriage return at its end. -/
def endedLine : List Char → List Char
  | '\r' :: read => read.reverse
  | read => read.reverse

/-- The lines of the rest of a text, after the lines `done` (latest first) and
the characters `read` of the current line (latest first). -/
def linesAfter (done : List (List Char)) (read : List Char) : List Char → List (List Char)
  | [] => (if read = [] then done else read.reverse :: done).reverse
  | c :: rest =>
    if c = '\n' then linesAfter (endedLine read :: done) [] rest
    else linesAfter done (c :: read) rest

/-- The lines of a text. -/
def lines (text : List Char) : List (List Char) :=
  linesAfter [] [] text

theorem linesAfter_append (line rest : List Char) (h : '\n' ∉ line) (done : List (List Char))
    (read : List Char) :
    linesAfter done read (line ++ '\n' :: rest) =
      linesAfter (endedLine (line.reverse ++ read) :: done) [] rest := by
  induction line generalizing read with
  | nil => simp [linesAfter]
  | cons c line ih =>
    simp only [List.mem_cons, not_or] at h
    simp [linesAfter, Ne.symm h.1, ih h.2]

theorem linesAfter_done (done : List (List Char)) (read text : List Char) :
    linesAfter done read text = done.reverse ++ linesAfter [] read text := by
  induction text generalizing done read with
  | nil => by_cases h : read = [] <;> simp [linesAfter, h]
  | cons c rest ih =>
    by_cases h : c = '\n'
    · simp [linesAfter, h, ih (endedLine read :: done), ih [endedLine read]]
    · simp [linesAfter, h, ih done (c :: read)]

/-- A line that holds no line feed and does not end in a carriage return is read
back when it is ended by a line feed. -/
theorem lines_append_lineFeed {line : List Char} (rest : List Char) (lf : '\n' ∉ line)
    (cr : line.getLast? ≠ some '\r') : lines (line ++ '\n' :: rest) = line :: lines rest := by
  have ended : endedLine line.reverse = line := by
    rw [List.getLast?_eq_head?_reverse] at cr
    unfold endedLine
    split
    · rename_i read hrev
      simp [hrev] at cr
    · simp
  rw [lines, linesAfter_append line rest lf, linesAfter_done]
  simp [ended, lines]

end LiteralLogic.Text
