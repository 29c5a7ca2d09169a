import SpatialQuery.Proofs.CommandLine.Modes

/-!
# Canonical texts as input

The canonical texts that a run reports can be given to the command again. Each is one line that is
no blank line, is read as the query it was printed from, and passes validation if that query did;
so the second run reports all of them unchanged and nothing fails.
-/

namespace SpatialQuery.CommandLine

/-- The queries that a command line and an input put to the command, and the options for them. -/
inductive Checks (arguments : List Text) (input : ByteArray) (options : Options) :
    List Text → Prop
  | arguments {queries : List Text} (hne : queries ≠ [])
      (h : Invocation.ofArguments arguments = .ok (.check options queries)) :
      Checks arguments input options queries
  | input {t : Text} {ls : List Text} (hinput : input = t.utf8Encode) (hlines : Lined t ls)
      (h : Invocation.ofArguments arguments = .ok (.check options [])) :
      Checks arguments input options (ls.filter (·.trim ≠ []))
  | notUtf8 (hinput : ¬input.IsValidUTF8)
      (h : Invocation.ofArguments arguments = .ok (.check options [])) :
      Checks arguments input options []

/-- The canonical text that a line reports. -/
def canonical? : Text → Option Text
  | 'o' :: 'k' :: '\t' :: t => some t
  | _ => none

variable {options : Options} {queries lines ts : List Text}

/-- The lines on queries are determined by the queries. -/
theorem lines_unique {validates : Bool} {others : List Text}
    (h : List.Forall₂ (Line validates) queries lines)
    (h' : List.Forall₂ (Line validates) queries others) : lines = others :=
  List.right_unique_forall₂' (fun _ _ _ hline hother => hline.unique hother) h h'

theorem exists_lines (validates : Bool) (queries : List Text) :
    ∃ line : Text → Text, (∀ query, Line validates query (line query)) ∧
      List.Forall₂ (Line validates) queries (queries.map line) := by
  choose line hline using exists_line validates
  exact ⟨line, hline, List.forall₂_map_right_iff.2 (List.forall₂_same.2 fun query _ => hline query)⟩

theorem output_of_forall₂ (h : List.Forall₂ (Line options.validate) queries lines)
    (hquiet : options.quiet = false) :
    (Report.onQueries options queries).output = printed lines := by
  obtain ⟨line, hline, hlines⟩ := exists_lines options.validate queries
  rw [onQueries_eq, flatMap_lineOn fun query _ => hline query, hquiet, lines_unique h hlines]
  rfl

/-- Queries that pass are reported unchanged when they are canonical. -/
theorem onQueries_of_canonical (h : ∀ t ∈ ts, Line options.validate t ("ok\t".toList ++ t))
    (hquiet : options.quiet = false) :
    Report.onQueries options ts = ⟨0, printed (ts.map ("ok\t".toList ++ ·)), []⟩ := by
  have hfailed : ts.countP (fails options) = 0 := by
    rw [countP_fails h]
    apply List.countP_eq_zero.2
    intro line hline
    obtain ⟨t, _, rfl⟩ := List.mem_map.1 hline
    rw [isErrorLine_ok]
    decide
  rw [onQueries_eq, hfailed, flatMap_lineOn h, hquiet]
  rfl

/-- The line on a canonical text that was reported repeats it. -/
theorem Line.exists_of_canonical? {validates : Bool} {query line t : Text}
    (h : Line validates query line) (ht : canonical? line = some t) :
    ∃ q : Query Shape, t = q.text ∧ Line validates q.text ("ok\t".toList ++ q.text) := by
  cases h with
  | @ok q hparse hvalid =>
      obtain rfl := Option.some.inj ht
      have hread := Query.parse_text_of_wellFormed (Query.scoreRule_of_parse hparse)
        (Query.wellFormed_of_parse hparse)
      exact ⟨q, rfl, .ok hread hvalid⟩
  | refused _ => cases ht
  | invalid _ _ _ => cases ht

theorem exists_of_mem_canonical {t : Text}
    (h : List.Forall₂ (Line options.validate) queries lines)
    (ht : t ∈ lines.filterMap canonical?) :
    ∃ q : Query Shape, t = q.text ∧ Line options.validate q.text ("ok\t".toList ++ q.text) := by
  induction h with
  | nil => cases ht
  | cons hline _ ih =>
      obtain ⟨line, hmem, hcanonical⟩ := List.mem_filterMap.1 ht
      rcases List.mem_cons.1 hmem with rfl | hmem
      · exact hline.exists_of_canonical? hcanonical
      · exact ih (List.mem_filterMap.2 ⟨line, hmem, hcanonical⟩)

/-- Canonical texts that are printed line by line are found again as queries. -/
theorem queriesOf_printed (h : ∀ t ∈ ts, ∃ q : Query Shape, t = q.text) :
    queriesOf (printed ts) = ts := by
  have hfeed : ∀ t ∈ ts, '\n' ∉ t := by
    intro t ht
    obtain ⟨q, rfl⟩ := h t ht
    exact q.lineFeed_not_mem_text
  have hreturn : ∀ t ∈ ts, '\r' ∉ t := by
    intro t ht
    obtain ⟨q, rfl⟩ := h t ht
    exact q.blank_not_mem_text rfl (by decide)
  rw [queriesOf_eq, lines_eq_of_lined (lined_printed hfeed hreturn)]
  apply List.filter_eq_self.2
  intro t ht
  obtain ⟨q, rfl⟩ := h t ht
  exact decide_eq_true q.text_trim_ne_nil

variable {arguments : List Text} {input : ByteArray}

theorem exists_lines_of_checks (h : Checks arguments input options queries)
    (hquiet : options.quiet = false) :
    ∃ lines, List.Forall₂ (Line options.validate) queries lines ∧
      (Report.onArguments arguments input).output = printed lines := by
  obtain ⟨line, _, hlines⟩ := exists_lines options.validate queries
  refine ⟨_, hlines, ?_⟩
  cases h with
  | arguments hne harguments =>
      rw [onArguments_of_ne_nil harguments hne]
      exact output_of_forall₂ hlines hquiet
  | input hinput hlined harguments =>
      rw [hinput, onArguments_of_utf8 harguments, queriesOf_eq, lines_eq_of_lined hlined]
      exact output_of_forall₂ hlines hquiet
  | notUtf8 hinput harguments =>
      rw [onArguments_of_not_utf8 harguments hinput]
      rfl

/-- A run that is not quiet prints one line for each query. When the canonical texts among these
lines are given to the command as the lines of its input, with the same options, each of them is
one line that is no blank line, passes and is reported unchanged, and nothing else is printed. -/
theorem onArguments_printed_canonical (hchecks : Checks arguments input options queries)
    (hquiet : options.quiet = false) :
    ∃ lines, List.Forall₂ (Line options.validate) queries lines ∧
      (Report.onArguments arguments input).output = printed lines ∧
      let canonical := lines.filterMap canonical?
      (∀ t ∈ canonical, '\n' ∉ t ∧ t.trim ≠ [] ∧
        Line options.validate t ("ok\t".toList ++ t)) ∧
      ∀ again, Invocation.ofArguments again = .ok (.check options []) →
        Report.onArguments again (printed canonical).utf8Encode =
          ⟨0, printed (canonical.map ("ok\t".toList ++ ·)), []⟩ := by
  obtain ⟨lines, hlines, houtput⟩ := exists_lines_of_checks hchecks hquiet
  refine ⟨lines, hlines, houtput, fun t ht => ?_, fun again hagain => ?_⟩
  · obtain ⟨q, rfl, hline⟩ := exists_of_mem_canonical hlines ht
    exact ⟨q.lineFeed_not_mem_text, q.text_trim_ne_nil, hline⟩
  · have hline : ∀ t ∈ lines.filterMap canonical?,
        Line options.validate t ("ok\t".toList ++ t) := by
      intro t ht
      obtain ⟨q, rfl, hline⟩ := exists_of_mem_canonical hlines ht
      exact hline
    have hqueries : queriesOf (printed (lines.filterMap canonical?)) = lines.filterMap canonical? :=
      queriesOf_printed fun t ht => (exists_of_mem_canonical hlines ht).imp fun _ h => h.1
    rw [onArguments_of_utf8 hagain, hqueries]
    exact onQueries_of_canonical hline hquiet

theorem onArguments_printed_canonical_of_nan :
    let query := "IsWithin(0,0 1,1)max=-0 min=nan".toList
    let text := "IsWithin(ENVELOPE(0 0 1 1)) min=NaN max=-0".toList
    (Report.onArguments ["--validate".toList, "foo".toList, query] ⟨#[]⟩).output =
        printed ["error\tfoo\tmissing parens: foo".toList, "ok\t".toList ++ text] ∧
      Report.onArguments ["--validate".toList] (printed [text]).utf8Encode =
        ⟨0, printed ["ok\t".toList ++ text], []⟩ := by
  intro query text
  let foo := "foo".toList
  let one : Binary64 := .ofRank false (1023 * 2 ^ 52)
  let q : Query Shape := ((Query.new .isWithin (.rectangle ⟨.zero, .zero, one, one⟩)).withMin
    (some .nan)).withMax (some (.finite true ⟨0, by decide⟩))
  have hrefused : Query.parse Shape.read foo = .error (.malformed foo) := by decide +kernel
  have hquery : Query.parse Shape.read query = .ok q := by decide +kernel
  have htext : q.text = text := by decide +kernel
  have hvalid : q.validate = .ok () := by decide +kernel
  have hfoo : Line true foo "error\tfoo\tmissing parens: foo".toList := .refused hrefused
  have hok : Line true query ("ok\t".toList ++ text) := by
    rw [← htext]
    exact .ok hquery fun _ => hvalid
  have hchecks : Checks ["--validate".toList, foo, query] ⟨#[]⟩ ⟨true, false⟩ [foo, query] :=
    .arguments (by decide) (by decide)
  obtain ⟨lines, hlines, houtput, _, hagain⟩ := onArguments_printed_canonical hchecks rfl
  obtain rfl := lines_unique hlines (.cons hfoo (.cons hok .nil))
  exact ⟨houtput, hagain _ (by decide)⟩

end SpatialQuery.CommandLine
