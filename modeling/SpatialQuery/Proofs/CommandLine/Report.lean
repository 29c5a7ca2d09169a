import SpatialQuery.Proofs.CommandLine.Lines
import SpatialQuery.Proofs.Query.Wording

/-!
# What is reported on the queries of the input

`Line` says what the line on a query has to be, by what comes of reading the query and of
validating it. `onArguments_input` says that a run on the input prints exactly these lines, one for
each query and in the order of the queries, that keeping quiet leaves out the lines of the queries
that pass, and that the exit code and the line on the standard error tell how many failed.
-/

namespace SpatialQuery.CommandLine

variable {options : Options} {query : Text}

/-- The line on a query, when queries are validated or not. -/
inductive Line (validates : Bool) (query : Text) : Text → Prop
  | ok {q : Query Shape} (hparse : Query.parse Shape.read query = .ok q)
      (hvalid : validates = true → q.validate = .ok ()) :
      Line validates query ("ok\t".toList ++ q.text)
  | refused {cause : ParseError ShapeError}
      (hparse : Query.parse Shape.read query = .error cause) :
      Line validates query
        ("error\t".toList ++ query ++ '\t' :: cause.message ShapeError.message)
  | invalid {q : Query Shape} {cause : AreaRequired} (hchosen : validates = true)
      (hparse : Query.parse Shape.read query = .ok q) (hvalid : q.validate = .error cause) :
      Line validates query ("error\t".toList ++ query ++ '\t' :: cause.message)

/-- A line tells that a query failed. -/
def isErrorLine (line : Text) : Bool := "error\t".toList.isPrefixOf line

theorem isErrorLine_append (query t : Text) :
    isErrorLine ("error\t".toList ++ query ++ t) = true := by
  apply List.isPrefixOf_iff_prefix.2
  rw [List.append_assoc]
  exact List.prefix_append _ _

theorem isErrorLine_ok (t : Text) : isErrorLine ("ok\t".toList ++ t) = false := rfl

section Check

variable {q : Query Shape}

theorem check_of_parse (hparse : Query.parse Shape.read query = .ok q) :
    check options query =
      if options.validate then (q.validate.mapError .invalid).map fun _ => q else .ok q := by
  unfold check
  rw [hparse]
  cases options.validate with
  | false => rfl
  | true =>
      change (q.validate.mapError Failure.invalid >>= fun _ => .ok q) = _
      cases q.validate <;> rfl

theorem check_of_ok (hparse : Query.parse Shape.read query = .ok q)
    (hvalid : options.validate = true → q.validate = .ok ()) : check options query = .ok q := by
  rw [check_of_parse hparse]
  split
  · next hchosen =>
      rw [hvalid hchosen]
      rfl
  · rfl

theorem check_of_refused {cause : ParseError ShapeError}
    (hparse : Query.parse Shape.read query = .error cause) :
    check options query = .error (.parse cause) := by
  unfold check
  rw [hparse]
  rfl

theorem check_of_invalid {cause : AreaRequired} (hchosen : options.validate = true)
    (hparse : Query.parse Shape.read query = .ok q) (hvalid : q.validate = .error cause) :
    check options query = .error (.invalid cause) := by
  rw [check_of_parse hparse, if_pos hchosen, hvalid]
  rfl

/-- Validation asks for nothing but area where the operation needs it. -/
theorem validate_eq_error_iff {cause : AreaRequired} :
    q.validate = .error cause ↔
      cause = ⟨q.operation⟩ ∧ q.operation.targetNeedsArea = true ∧
        Geometry.hasArea q.shape = false := by
  unfold Query.validate
  cases q.operation.targetNeedsArea <;> cases Geometry.hasArea q.shape <;> simp [eq_comm]

end Check

theorem exists_line (validates : Bool) (query : Text) : ∃ line, Line validates query line := by
  cases hparse : Query.parse Shape.read query with
  | error cause => exact ⟨_, .refused hparse⟩
  | ok q =>
      cases validates with
      | false => exact ⟨_, .ok hparse (fun h => nomatch h)⟩
      | true =>
          cases hvalid : q.validate with
          | ok _ => exact ⟨_, .ok hparse fun _ => hvalid⟩
          | error cause => exact ⟨_, .invalid rfl hparse hvalid⟩

/-- There is only one line that can be reported on a query. -/
theorem Line.unique {validates : Bool} {line other : Text} (h : Line validates query line)
    (h' : Line validates query other) : line = other := by
  cases h with
  | ok hparse hvalid =>
      cases h' with
      | ok hparse' _ =>
          obtain rfl := Except.ok.inj (hparse.symm.trans hparse')
          rfl
      | refused hparse' => cases hparse.symm.trans hparse'
      | invalid hchosen hparse' hvalid' =>
          obtain rfl := Except.ok.inj (hparse.symm.trans hparse')
          cases (hvalid hchosen).symm.trans hvalid'
  | refused hparse =>
      cases h' with
      | ok hparse' _ => cases hparse.symm.trans hparse'
      | refused hparse' =>
          obtain rfl := Except.error.inj (hparse.symm.trans hparse')
          rfl
      | invalid _ hparse' _ => cases hparse.symm.trans hparse'
  | invalid hchosen hparse hvalid =>
      cases h' with
      | ok hparse' hvalid' =>
          obtain rfl := Except.ok.inj (hparse.symm.trans hparse')
          cases hvalid.symm.trans (hvalid' hchosen)
      | refused hparse' => cases hparse.symm.trans hparse'
      | invalid _ hparse' hvalid' =>
          obtain rfl := Except.ok.inj (hparse.symm.trans hparse')
          obtain rfl := Except.error.inj (hvalid.symm.trans hvalid')
          rfl

section Lines

variable {line : Text}

/-- A query fails when the line on it tells so. -/
theorem fails_eq_isErrorLine (h : Line options.validate query line) :
    fails options query = isErrorLine line := by
  unfold fails
  cases h with
  | ok hparse hvalid => rw [check_of_ok hparse hvalid, isErrorLine_ok]
  | refused hparse => rw [check_of_refused hparse, isErrorLine_append]
  | invalid hchosen hparse hvalid =>
      rw [check_of_invalid hchosen hparse hvalid, isErrorLine_append]

/-- The line on a query is printed, unless it passes and the run is quiet. -/
theorem lineOn_eq (h : Line options.validate query line) :
    lineOn options query = if options.quiet && !isErrorLine line then [] else line ++ ['\n'] := by
  unfold lineOn
  cases h with
  | ok hparse hvalid =>
      rw [check_of_ok hparse hvalid, isErrorLine_ok]
      cases options.quiet <;> rfl
  | refused hparse =>
      rw [check_of_refused hparse, isErrorLine_append, Bool.not_true, Bool.and_false]
      rfl
  | invalid hchosen hparse hvalid =>
      rw [check_of_invalid hchosen hparse hvalid, isErrorLine_append, Bool.not_true,
        Bool.and_false]
      rfl

/-- A line on a query of one line is one line. -/
theorem lineFeed_not_mem_of_line {validates : Bool} (h : Line validates query line)
    (hquery : '\n' ∉ query) : '\n' ∉ line := by
  have herror : '\n' ∉ "error\t".toList ++ query := List.not_mem_append (by decide) hquery
  cases h with
  | ok _ _ => exact List.not_mem_append (by decide) (Query.lineFeed_not_mem_text _)
  | refused hparse =>
      have horigin := Query.comesFrom_of_parse_error hparse
      exact List.not_mem_append herror (List.not_mem_cons_of_ne_of_not_mem (by decide)
        (ParseError.lineFeed_not_mem_message horigin hquery))
  | invalid _ _ _ =>
      exact List.not_mem_append herror (List.not_mem_cons_of_ne_of_not_mem (by decide)
        (AreaRequired.lineFeed_not_mem_message _))

end Lines

/-- Validation leaves the lines of refused queries alone, and of the other queries it refuses those
whose operation needs a shape with area and has none. -/
theorem validated_line {plain validated : Text} (hplain : Line false query plain)
    (hvalidated : Line true query validated) :
    (isErrorLine plain = true → validated = plain) ∧
      (isErrorLine plain = false →
        (isErrorLine validated = true ↔
          ∃ q, Query.parse Shape.read query = .ok q ∧ q.operation.targetNeedsArea = true ∧
            Geometry.hasArea q.shape = false)) ∧
      (isErrorLine validated = false → validated = plain) := by
  cases hplain with
  | @ok q hparse _ =>
      have hpasses : ¬isErrorLine ("ok\t".toList ++ q.text) = true := by
        rw [isErrorLine_ok]
        decide
      cases hvalidated with
      | ok hparse' hvalid' =>
          obtain rfl := Except.ok.inj (hparse.symm.trans hparse')
          refine ⟨fun _ => rfl, fun _ => ⟨fun h => absurd h hpasses, ?_⟩, fun _ => rfl⟩
          rintro ⟨r, hr, harea⟩
          obtain rfl := Except.ok.inj (hparse.symm.trans hr)
          cases (hvalid' rfl).symm.trans (validate_eq_error_iff.2 ⟨rfl, harea⟩)
      | refused hparse' => cases hparse.symm.trans hparse'
      | invalid _ hparse' hvalid' =>
          obtain rfl := Except.ok.inj (hparse.symm.trans hparse')
          rw [isErrorLine_append]
          refine ⟨fun h => absurd h hpasses, fun _ => ⟨fun _ => ?_, fun _ => rfl⟩, ?_⟩
          · exact ⟨q, hparse, (validate_eq_error_iff.1 hvalid').2⟩
          · intro h
            cases h
  | refused hparse =>
      obtain rfl := Line.unique (.refused hparse) hvalidated
      rw [isErrorLine_append]
      refine ⟨fun _ => rfl, fun h => ?_, fun _ => rfl⟩
      cases h
  | invalid hchosen _ _ => cases hchosen

section Reports

variable {queries : List Text} {line : Text → Text}

theorem countP_fails (hline : ∀ query ∈ queries, Line options.validate query (line query)) :
    queries.countP (fails options) = (queries.map line).countP isErrorLine := by
  rw [List.countP_map]
  apply List.countP_congr
  intro query hquery
  rw [fails_eq_isErrorLine (hline query hquery)]
  rfl

theorem flatMap_lineOn (hline : ∀ query ∈ queries, Line options.validate query (line query)) :
    queries.flatMap (lineOn options) =
      printed (if options.quiet then (queries.map line).filter isErrorLine
        else queries.map line) := by
  induction queries with
  | nil => cases options.quiet <;> rfl
  | cons query queries ih =>
      rw [List.flatMap_cons, lineOn_eq (hline query List.mem_cons_self),
        ih fun other hother => hline other (List.mem_cons_of_mem _ hother)]
      cases options.quiet <;> cases herror : isErrorLine (line query) <;>
        simp [printed, herror]

theorem onQueries_eq (options : Options) (queries : List Text) :
    Report.onQueries options queries =
      ⟨if queries.countP (fails options) = 0 then 0 else 1, queries.flatMap (lineOn options),
        if queries.countP (fails options) = 0 then []
        else failureCount (queries.countP (fails options)) queries.length⟩ := by
  unfold Report.onQueries
  split
  · next h => simp only [h, if_true]
  · next h => simp only [h, if_false]

/-- The report on queries of one line, by the lines on the queries. -/
theorem onQueries_of_line (hline : ∀ query ∈ queries, Line options.validate query (line query))
    (hfeed : ∀ query ∈ queries, '\n' ∉ query) :
    let lines := queries.map line
    let failed := lines.countP isErrorLine
    let report := Report.onQueries options queries
    report.output.splitOn '\n' =
        (if options.quiet then lines.filter isErrorLine else lines) ++ [[]] ∧
      report.exitCode = (if failed = 0 then 0 else 1) ∧
      report.errors = if failed = 0 then [] else failureCount failed queries.length := by
  intro lines failed report
  have hlines : ∀ l ∈ lines, '\n' ∉ l := by
    intro l hl
    obtain ⟨query, hquery, rfl⟩ := List.mem_map.1 hl
    exact lineFeed_not_mem_of_line (hline query hquery) (hfeed query hquery)
  have hfailed : queries.countP (fails options) = failed := countP_fails hline
  have hreport : report = _ := onQueries_eq options queries
  rw [hreport, hfailed, flatMap_lineOn hline]
  refine ⟨splitOn_printed ?_, rfl, rfl⟩
  split
  · exact fun l hl => hlines l (List.mem_of_mem_filter hl)
  · exact hlines

end Reports

theorem fromUTF8?_utf8Encode (t : Text) :
    String.fromUTF8? t.utf8Encode = some (String.ofList t) := by
  unfold String.fromUTF8?
  rw [dif_pos ⟨t, rfl⟩]
  apply congrArg some
  apply String.toByteArray_inj.1
  rw [String.toByteArray_ofList]
  rfl

section Runs

variable {arguments : List Text} {input : ByteArray}

theorem onArguments_of_not_utf8
    (harguments : Invocation.ofArguments arguments = .ok (.check options []))
    (h : ¬input.IsValidUTF8) : Report.onArguments arguments input = .notUtf8 := by
  unfold Report.onArguments
  rw [harguments]
  change Report.onInput options input = _
  unfold Report.onInput String.fromUTF8?
  rw [dif_neg h]

theorem onArguments_of_utf8
    (harguments : Invocation.ofArguments arguments = .ok (.check options [])) (t : Text) :
    Report.onArguments arguments t.utf8Encode = .onQueries options (queriesOf t) := by
  unfold Report.onArguments
  rw [harguments]
  change Report.onInput options t.utf8Encode = _
  unfold Report.onInput
  rw [fromUTF8?_utf8Encode]
  simp only [String.toList_ofList]

end Runs

/-- Input that is not UTF-8 is refused as a whole. Of other input each line that holds anything but
blanks is a query, and the output has one line for each query in their order; when the run is quiet
only the lines of the queries that fail are left. The exit code and the line on the standard error
tell how many failed. -/
theorem onArguments_input (input : ByteArray) :
    (¬input.IsValidUTF8 →
      ∀ arguments options, Invocation.ofArguments arguments = .ok (.check options []) →
        (Report.onArguments arguments input).output = [] ∧
          (Report.onArguments arguments input).exitCode = 1) ∧
    ∀ (t : Text) (ls : List Text), input = t.utf8Encode → Lined t ls →
      let queries := ls.filter (·.trim ≠ [])
      ∃ line : Bool → Text → Text,
        (∀ query ∈ queries,
          Line false query (line false query) ∧ Line true query (line true query) ∧
            (isErrorLine (line false query) = true → line true query = line false query) ∧
            (isErrorLine (line false query) = false →
              (isErrorLine (line true query) = true ↔
                ∃ q, Query.parse Shape.read query = .ok q ∧ q.operation.targetNeedsArea = true ∧
                  Geometry.hasArea q.shape = false)) ∧
            (isErrorLine (line true query) = false → line true query = line false query)) ∧
        ∀ arguments options, Invocation.ofArguments arguments = .ok (.check options []) →
          let lines := queries.map (line options.validate)
          let failed := lines.countP isErrorLine
          let report := Report.onArguments arguments input
          report.output.splitOn '\n' =
              (if options.quiet then lines.filter isErrorLine else lines) ++ [[]] ∧
            report.exitCode = (if failed = 0 then 0 else 1) ∧
            report.errors = if failed = 0 then [] else
              "Error: ".toList ++ Text.ofNat failed ++ " of ".toList ++
                Text.ofNat queries.length ++ " queries failed".toList := by
  constructor
  · intro hinput arguments options harguments
    rw [onArguments_of_not_utf8 harguments hinput]
    exact ⟨rfl, rfl⟩
  · intro t ls hinput hlines queries
    choose line hline using exists_line
    refine ⟨line, fun query _ => ?_, fun arguments options harguments => ?_⟩
    · exact ⟨hline false query, hline true query,
        validated_line (hline false query) (hline true query)⟩
    · have hqueries : queriesOf t = queries := by
        rw [queriesOf_eq, lines_eq_of_lined hlines]
      have hfeed : ∀ query ∈ queries, '\n' ∉ query := fun query hquery =>
        lineFeed_not_mem_of_lined hlines query (List.mem_of_mem_filter hquery)
      rw [hinput, onArguments_of_utf8 harguments, hqueries]
      exact onQueries_of_line (fun query _ => hline options.validate query) hfeed

theorem onArguments_input_of_point :
    let t := "IsWithin(0 0)\r\n \nfoo".toList
    let validating := ["--validate".toList]
    (Report.onArguments validating ⟨#[0xFF]⟩).output = [] ∧
      (Report.onArguments [] t.utf8Encode).output.splitOn '\n' =
        ["ok\tIsWithin(POINT(0 0))".toList, "error\tfoo\tmissing parens: foo".toList, []] ∧
      (Report.onArguments validating t.utf8Encode).errors =
        "Error: 2 of 2 queries failed".toList := by
  intro t validating
  let point := "IsWithin(0 0)".toList
  let foo := "foo".toList
  have hvalidating : Invocation.ofArguments validating = .ok (.check ⟨true, false⟩ []) := by decide
  have hinput : ¬ByteArray.IsValidUTF8 ⟨#[0xFF]⟩ := by
    rw [← ByteArray.validateUTF8_eq_true_iff]
    decide +kernel
  have hpoint : Query.parse Shape.read point = .ok (.new .isWithin (.point ⟨.zero, .zero⟩)) := by
    decide +kernel
  have hfoo : Query.parse Shape.read foo = .error (.malformed foo) := by decide +kernel
  have hlast : Lined foo [foo] := .last (by decide) (by decide)
  have hblank : Lined ([' '] ++ '\n' :: foo) [[' '], foo] := .feed (by decide) (by decide) hlast
  have hpointed : '\n' ∉ point := by decide
  have hlined : Lined t [point, [' '], foo] := .returnFeed hpointed hblank
  obtain ⟨line, hline, hreport⟩ := (onArguments_input t.utf8Encode).2 t _ rfl hlined
  have hqueries : [point, [' '], foo].filter (Text.trim · ≠ []) = [point, foo] := by decide
  rw [hqueries] at hline hreport
  obtain ⟨hpassed, _, _, hvalidated, _⟩ := hline point List.mem_cons_self
  obtain ⟨hrefused, _, hsame, _⟩ := hline foo (by decide)
  have hok : line false point = "ok\tIsWithin(POINT(0 0))".toList := by
    rw [hpassed.unique (.ok hpoint fun h => nomatch h)]
    decide +kernel
  have herror : line false foo = "error\tfoo\tmissing parens: foo".toList :=
    hrefused.unique (.refused hfoo)
  refine ⟨((onArguments_input _).1 hinput _ _ hvalidating).1, ?_, ?_⟩
  · have hplain : _ = [line false point, line false foo] ++ [[]] := (hreport [] .plain rfl).1
    rwa [hok, herror] at hplain
  · have harea : isErrorLine (line true point) = true :=
      (hvalidated (by rw [hok]; rfl)).2 ⟨_, hpoint, rfl, rfl⟩
    have hfails : isErrorLine (line true foo) = true := by
      rw [hsame (by rw [herror]; rfl), herror]
      rfl
    have hcount : [line true point, line true foo].countP isErrorLine = 2 := by
      simp only [List.countP_cons, harea, hfails]
      rfl
    have herrors := (hreport _ _ hvalidating).2.2
    rw [List.map_cons, List.map_cons, List.map_nil, hcount] at herrors
    rw [herrors]
    decide

end SpatialQuery.CommandLine
