import Mathlib.Data.String.Basic
import Taskweave.Text.Blank

/-!
# The lines of a text

What the lines of a text are is said without the way in which it is read (`Text.HasLines`): a text is
its lines with their ends between them, and there is one such list of lines only, the one that
`Text.lines` gives (`Text.lines_eq_iff`).
-/

namespace Taskweave.Text

/-- The lines of a text. A line feed ends a line, and takes with it the carriage return before it; what
follows the last one is a line unless it is empty. -/
inductive HasLines : List Char → List (List Char) → Prop where
  | nil : HasLines [] []
  | last {line : List Char} : line ≠ [] → '\n' ∉ line → HasLines line [line]
  | feed {line rest : List Char} {lines : List (List Char)} : '\n' ∉ line →
      line.getLast? ≠ some '\r' → HasLines rest lines →
      HasLines (line ++ '\n' :: rest) (line :: lines)
  | returnFeed {line rest : List Char} {lines : List (List Char)} : '\n' ∉ line →
      HasLines rest lines → HasLines (line ++ '\r' :: '\n' :: rest) (line :: lines)

section
variable {s : String} {read : List String} {cs line rest : List Char} {lines : List (List Char)}

/-- Up to the next line feed characters are added to the line. -/
theorem linesFrom_append (h : '\n' ∉ cs) :
    linesFrom read line (cs ++ rest) = linesFrom read (cs.reverse ++ line) rest := by
  induction cs generalizing line with
  | nil => rfl
  | cons c cs ih =>
    obtain ⟨hc, hcs⟩ := List.ne_and_not_mem_of_not_mem_cons h
    rw [List.cons_append, linesFrom, ih hcs, List.reverse_cons, List.append_assoc]
    · rfl
    · exact fun heq => hc heq.symm

/-- A line that ends in a carriage return and a line feed is read without either. -/
theorem finishLine_append_return (line : List Char) :
    finishLine (line ++ ['\r']).reverse = String.ofList line := by
  rw [List.reverse_append, List.reverse_singleton, List.singleton_append, finishLine,
    List.reverse_reverse]

/-- One that ends in a line feed alone is read as it is. -/
theorem finishLine_of_getLast? (h : line.getLast? ≠ some '\r') :
    finishLine line.reverse = String.ofList line := by
  rw [← List.head?_reverse] at h
  rw [finishLine.eq_2 line.reverse fun rest heq => h (by rw [heq]; rfl), List.reverse_reverse]

/-- The lines of a text are what is read. -/
theorem HasLines.linesFrom_eq (h : HasLines cs lines) (read : List String) :
    linesFrom read [] cs = read.reverse ++ lines.map String.ofList := by
  induction h generalizing read with
  | nil => simp [linesFrom]
  | @last line hne hline =>
    have hlast : linesFrom read [] (line ++ []) = linesFrom read (line.reverse ++ []) [] :=
      linesFrom_append hline
    rw [List.append_nil, List.append_nil] at hlast
    rw [hlast, linesFrom, if_neg (by simpa using hne)]
    simp
  | @feed line rest lines hline hreturn _ ih =>
    rw [linesFrom_append hline, List.append_nil, linesFrom, ih, finishLine_of_getLast? hreturn]
    simp
  | @returnFeed line rest lines hline _ ih =>
    have hline' : '\n' ∉ line ++ ['\r'] := by simpa using hline
    have hcut : line ++ '\r' :: '\n' :: rest = (line ++ ['\r']) ++ '\n' :: rest := by simp
    rw [hcut, linesFrom_append hline', List.append_nil, linesFrom, ih, finishLine_append_return]
    simp

/-- Every text has lines. -/
theorem exists_hasLines (cs : List Char) : ∃ lines, HasLines cs lines := by
  by_cases hfeed : '\n' ∈ cs
  · obtain ⟨line, rest, hcs, hline⟩ := List.eq_append_cons_of_mem hfeed
    have : rest.length < cs.length := by
      rw [hcs, List.length_append, List.length_cons]
      omega
    obtain ⟨lines, hlines⟩ := exists_hasLines rest
    rw [hcs]
    by_cases hreturn : line.getLast? = some '\r'
    · obtain ⟨line, rfl⟩ := List.getLast?_eq_some_iff.1 hreturn
      have hline : '\n' ∉ line := fun hmem => hline (List.mem_append_left _ hmem)
      exact ⟨line :: lines, by simpa using HasLines.returnFeed hline hlines⟩
    · exact ⟨line :: lines, .feed hline hreturn hlines⟩
  · by_cases hnil : cs = []
    · exact ⟨[], hnil ▸ .nil⟩
    · exact ⟨[cs], .last hnil hfeed⟩
termination_by cs.length

/-- The lines of a text are those that `HasLines` says it has. -/
theorem lines_eq_iff : Text.lines s = lines.map String.ofList ↔ HasLines s.toList lines := by
  constructor
  · intro h
    obtain ⟨lines', hlines'⟩ := exists_hasLines s.toList
    have heq : lines.map String.ofList = lines'.map String.ofList :=
      h.symm.trans (hlines'.linesFrom_eq [])
    rwa [List.map_injective_iff.2 (fun _ _ => String.ofList_injective) heq]
  · exact fun h => h.linesFrom_eq []

/-- There is one list of lines only. -/
theorem HasLines.eq_map (h : HasLines s.toList lines) : lines = (Text.lines s).map String.toList := by
  rw [lines_eq_iff.2 h, List.map_map]
  exact (List.map_id'' (fun _ => String.toList_ofList) lines).symm

theorem hasLines_lines (s : String) : HasLines s.toList ((Text.lines s).map String.toList) := by
  obtain ⟨lines, hlines⟩ := exists_hasLines s.toList
  rwa [← hlines.eq_map]

end

end Taskweave.Text
