import SpatialQuery.CommandLine.Report
import SpatialQuery.Proofs.Text.Spacing

/-!
# Lines of input and lines of output

`Lined` says how a text falls into lines, each of which is ended by a line feed or by a carriage
return and a line feed; only the last line can do without. `lines_eq_iff` says that these are the
lines that are found. `queriesOf_of_writtenIn` says that queries are found again when they are
written line by line, with whichever ends of lines and with blank lines anywhere.

Output goes the other way: lines that are printed one after another are the pieces between line
feeds.
-/

namespace SpatialQuery.CommandLine

/-- Ends every line with a line feed. -/
def printed (lines : List Text) : Text := lines.flatMap (· ++ ['\n'])

theorem splitOn_of_not_mem {line : Text} (h : '\n' ∉ line) : line.splitOn '\n' = [line] := by
  rw [List.splitOn_eq_splitOnP]
  apply List.splitOnP_eq_singleton
  intro c hc
  apply beq_false_of_ne
  rintro rfl
  exact h hc

theorem splitOn_append_cons {line : Text} (h : '\n' ∉ line) (rest : Text) :
    (line ++ '\n' :: rest).splitOn '\n' = line :: rest.splitOn '\n' := by
  rw [List.splitOn_append_cons_self, splitOn_of_not_mem h]
  rfl

theorem printed_cons (line : Text) (lines : List Text) :
    printed (line :: lines) = line ++ '\n' :: printed lines := by
  simp [printed]

/-- Lines that are printed can be told apart. -/
theorem splitOn_printed {lines : List Text} (h : ∀ line ∈ lines, '\n' ∉ line) :
    (printed lines).splitOn '\n' = lines ++ [[]] := by
  induction lines with
  | nil => rfl
  | cons line lines ih =>
      have hline := h line List.mem_cons_self
      rw [printed_cons, splitOn_append_cons hline,
        ih fun other hother => h other (List.mem_cons_of_mem _ hother)]
      rfl

section Input

variable {line rest t : Text}

/-- A text falls into the given lines. -/
inductive Lined : Text → List Text → Prop
  | nil : Lined [] []
  | last {line : Text} (hne : line ≠ []) (h : '\n' ∉ line) : Lined line [line]
  | feed {line rest : Text} {lines : List Text} (h : '\n' ∉ line)
      (hreturn : line.getLast? ≠ some '\r') (tail : Lined rest lines) :
      Lined (line ++ '\n' :: rest) (line :: lines)
  | returnFeed {line rest : Text} {lines : List Text} (h : '\n' ∉ line)
      (tail : Lined rest lines) : Lined (line ++ '\r' :: '\n' :: rest) (line :: lines)

theorem lineFeed_not_mem_of_lined {ls : List Text} (h : Lined t ls) :
    ∀ line ∈ ls, '\n' ∉ line := by
  induction h with
  | nil =>
      intro line hline
      cases hline
  | last _ h =>
      intro line hline
      obtain rfl := List.mem_singleton.1 hline
      exact h
  | feed h _ _ ih => exact List.forall_mem_cons.2 ⟨h, ih⟩
  | returnFeed h _ ih => exact List.forall_mem_cons.2 ⟨h, ih⟩

theorem lines_append_cons (h : '\n' ∉ line) (rest : Text) :
    lines (line ++ '\n' :: rest) = dropReturn line :: lines rest := by
  unfold lines
  rw [splitOn_append_cons h]
  cases hpieces : rest.splitOn '\n' with
  | nil => exact absurd hpieces (List.splitOn_ne_nil '\n' rest)
  | cons piece pieces => simp [List.getLast?_cons]

theorem lines_of_not_mem (hne : line ≠ []) (h : '\n' ∉ line) : lines line = [line] := by
  unfold lines
  rw [splitOn_of_not_mem h]
  simp [hne]

theorem dropReturn_eq_self (h : line.getLast? ≠ some '\r') : dropReturn line = line := if_neg h

theorem dropReturn_concat (line : Text) : dropReturn (line ++ ['\r']) = line := by
  simp [dropReturn]

theorem lines_eq_of_lined {ls : List Text} (h : Lined t ls) : lines t = ls := by
  induction h with
  | nil => rfl
  | last hne h => exact lines_of_not_mem hne h
  | feed h hreturn _ ih => rw [lines_append_cons h, dropReturn_eq_self hreturn, ih]
  | @returnFeed line rest _ h _ ih =>
      have hline : '\n' ∉ line ++ ['\r'] := List.not_mem_append h (by decide)
      have happend : line ++ '\r' :: '\n' :: rest = (line ++ ['\r']) ++ '\n' :: rest := by simp
      rw [happend, lines_append_cons hline, dropReturn_concat, ih]

theorem lined_lines (t : Text) : Lined t (lines t) := by
  induction hn : t.length using Nat.strongRecOn generalizing t with
  | ind n ih =>
      by_cases hfeed : '\n' ∈ t
      · obtain ⟨line, rest, rfl, hline⟩ := List.eq_append_cons_of_mem hfeed
        have hlength : rest.length < n := by
          rw [← hn, List.length_append, List.length_cons]
          omega
        have htail := ih rest.length hlength rest rfl
        rw [lines_append_cons hline]
        by_cases hreturn : line.getLast? = some '\r'
        · obtain ⟨start, rfl⟩ := List.getLast?_eq_some_iff.1 hreturn
          rw [dropReturn_concat, List.append_assoc]
          exact .returnFeed (fun h => hline (List.mem_append_left _ h)) htail
        · rw [dropReturn_eq_self hreturn]
          exact .feed hline hreturn htail
      · by_cases hne : t = []
        · subst hne
          exact .nil
        · rw [lines_of_not_mem hne hfeed]
          exact .last hne hfeed

theorem lines_eq_iff {ls : List Text} : lines t = ls ↔ Lined t ls := by
  constructor
  · rintro rfl
    exact lined_lines t
  · exact lines_eq_of_lined

theorem lined_printed {ls : List Text} (hfeed : ∀ line ∈ ls, '\n' ∉ line)
    (hreturn : ∀ line ∈ ls, '\r' ∉ line) : Lined (printed ls) ls := by
  induction ls with
  | nil => exact .nil
  | cons line ls ih =>
      obtain ⟨hline, hfeeds⟩ := List.forall_mem_cons.1 hfeed
      obtain ⟨hend, hreturns⟩ := List.forall_mem_cons.1 hreturn
      rw [printed_cons]
      exact .feed hline (fun h => hend (List.mem_of_mem_getLast? h)) (ih hfeeds hreturns)

theorem queriesOf_eq (t : Text) : queriesOf t = (lines t).filter (·.trim ≠ []) := by
  apply List.filter_congr
  intro line _
  cases hblank : line.isAllBlank with
  | false => simp [Text.trim_eq_nil_iff, hblank]
  | true => simp [Text.trim_eq_nil_iff, hblank]

/-- Lines are written one after another, each with one of the two ends of a line; the last one can
do without. -/
inductive WrittenIn : Text → List Text → Prop
  | nil : WrittenIn [] []
  | last (line : Text) : WrittenIn line [line]
  | ended {line ending rest : Text} {lines : List Text}
      (hending : ending = ['\n'] ∨ ending = ['\r', '\n']) (tail : WrittenIn rest lines) :
      WrittenIn (line ++ ending ++ rest) (line :: lines)

theorem isAllBlank_dropReturn (h : line.isAllBlank = true) :
    (dropReturn line).isAllBlank = true := by
  unfold dropReturn
  split
  · exact List.all_eq_true.2 fun c hc => List.all_eq_true.1 h c (List.mem_of_mem_dropLast hc)
  · exact h

/-- A line is found as it is, or it is blank and what is found of it is blank, too. -/
theorem filter_dropReturn (h : line.trim ≠ [] → line.getLast? ≠ some '\r') :
    [dropReturn line].filter (·.trim ≠ []) = [line].filter (·.trim ≠ []) := by
  by_cases hblank : line.trim = []
  · have hdropped : (dropReturn line).trim = [] :=
      Text.trim_eq_nil_iff.2 (isAllBlank_dropReturn (Text.trim_eq_nil_iff.1 hblank))
    simp [hblank, hdropped]
  · rw [dropReturn_eq_self (h hblank)]

theorem queriesOf_append {ending : Text} (hending : ending = ['\n'] ∨ ending = ['\r', '\n'])
    (h : '\n' ∉ line) (hreturn : line.trim ≠ [] → line.getLast? ≠ some '\r') (rest : Text) :
    queriesOf (line ++ ending ++ rest) = [line].filter (·.trim ≠ []) ++ queriesOf rest := by
  rw [queriesOf_eq, queriesOf_eq]
  rcases hending with rfl | rfl
  · have happend : line ++ ['\n'] ++ rest = line ++ '\n' :: rest := by simp
    rw [happend, lines_append_cons h, ← filter_dropReturn hreturn]
    exact List.filter_append [_] _
  · have hline : '\n' ∉ line ++ ['\r'] := List.not_mem_append h (by decide)
    have happend : line ++ ['\r', '\n'] ++ rest = (line ++ ['\r']) ++ '\n' :: rest := by simp
    rw [happend, lines_append_cons hline, dropReturn_concat]
    exact List.filter_append [_] _

/-- The lines that hold anything but blanks are found again, unless an end of the line could be
taken to begin in such a line. -/
theorem queriesOf_of_writtenIn {ls : List Text} (h : WrittenIn t ls)
    (hfeed : ∀ line ∈ ls, '\n' ∉ line)
    (hreturn : ∀ line ∈ ls, line.trim ≠ [] → line.getLast? ≠ some '\r') :
    queriesOf t = ls.filter (·.trim ≠ []) := by
  induction h with
  | nil => rfl
  | last line =>
      rw [queriesOf_eq]
      by_cases hne : line = []
      · subst hne
        rfl
      · rw [lines_of_not_mem hne (hfeed line List.mem_cons_self)]
  | @ended line ending rest lines hending _ ih =>
      rw [queriesOf_append hending (hfeed line List.mem_cons_self)
        (hreturn line List.mem_cons_self), ih
          (fun other hother => hfeed other (List.mem_cons_of_mem _ hother))
          (fun other hother => hreturn other (List.mem_cons_of_mem _ hother))]
      exact (List.filter_append [_] _).symm

end Input

end SpatialQuery.CommandLine
