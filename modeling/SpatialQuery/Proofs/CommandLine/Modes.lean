import SpatialQuery.Proofs.CommandLine.Report

/-!
# Queries among the arguments and queries in the input

Queries can be handed over behind `--` or as lines of the input. `onArguments_eq_of_writtenIn` says
that the report is the same, whichever ends the lines have and wherever blank lines stand between
them, and that nothing in the input matters when the queries are among the arguments.
-/

namespace SpatialQuery.CommandLine

/-- A run over arguments each of which chooses an option that was not chosen before. -/
inductive Chosen : Options → List Text → Options → Prop
  | done (options : Options) : Chosen options [] options
  | validate {options final : Options} {rest : List Text} (h : options.validate = false)
      (tail : Chosen { options with validate := true } rest final) :
      Chosen options ("--validate".toList :: rest) final
  | quiet {options final : Options} {argument : Text} {rest : List Text}
      (h : options.quiet = false) (hargument : argument = "--quiet".toList ∨ argument = "-q".toList)
      (tail : Chosen { options with quiet := true } rest final) :
      Chosen options (argument :: rest) final

namespace Invocation

variable {options final : Options} {flags queries : List Text}

theorem ofArgumentsAfter_validate (h : options.validate = false) (rest : List Text) :
    ofArgumentsAfter options queries ("--validate".toList :: rest) =
      ofArgumentsAfter { options with validate := true } queries rest := by
  have hadd : options.addName "validate".toList =
      .ok (.options { options with validate := true }) := by
    change options.add .validate = _
    simp only [Options.add, h, Bool.false_eq_true, if_false]
  change options.addName "validate".toList >>= _ = _
  rw [hadd]
  rfl

theorem ofArgumentsAfter_quiet {argument : Text} (h : options.quiet = false)
    (hargument : argument = "--quiet".toList ∨ argument = "-q".toList) (rest : List Text) :
    ofArgumentsAfter options queries (argument :: rest) =
      ofArgumentsAfter { options with quiet := true } queries rest := by
  have hadd : options.add .quiet = .ok (.options { options with quiet := true }) := by
    simp only [Options.add, h, Bool.false_eq_true, if_false]
  rcases hargument with rfl | rfl
  · have hname : options.addName "quiet".toList =
        .ok (.options { options with quiet := true }) := hadd
    change options.addName "quiet".toList >>= _ = _
    rw [hname]
    rfl
  · have hletters : options.addLetters "q".toList =
        .ok (.options { options with quiet := true }) := by
      change (options.add .quiet >>= _) = _
      rw [hadd]
      rfl
    change options.addLetters "q".toList >>= _ = _
    rw [hletters]
    rfl

theorem ofArgumentsAfter_append (h : Chosen options flags final) (rest : List Text) :
    ofArgumentsAfter options queries (flags ++ rest) = ofArgumentsAfter final queries rest := by
  induction h with
  | done options => rfl
  | validate h _ ih => rw [List.cons_append, ofArgumentsAfter_validate h, ih]
  | quiet h hargument _ ih => rw [List.cons_append, ofArgumentsAfter_quiet h hargument, ih]

theorem ofArguments_of_chosen (h : Chosen .plain flags options) :
    ofArguments flags = .ok (.check options []) := by
  rw [← List.append_nil flags]
  exact ofArgumentsAfter_append h []

/-- Behind two dashes every argument is a query. -/
theorem ofArguments_separated (h : Chosen .plain flags options) (queries : List Text) :
    ofArguments (flags ++ "--".toList :: queries) = .ok (.check options queries) :=
  ofArgumentsAfter_append h _

end Invocation

/-- Queries among the arguments are reported on without a look at the input. -/
theorem onArguments_of_ne_nil {arguments queries : List Text} {options : Options}
    (harguments : Invocation.ofArguments arguments = .ok (.check options queries))
    (hne : queries ≠ []) (input : ByteArray) :
    Report.onArguments arguments input = .onQueries options queries := by
  unfold Report.onArguments
  rw [harguments]
  obtain ⟨query, queries, rfl⟩ := List.exists_cons_of_ne_nil hne
  rfl

/-- It makes no difference to the report whether queries are given behind two dashes, with whatever
input, or line by line in the input, with blank lines anywhere. -/
theorem onArguments_eq_of_writtenIn {flags flags' queries ls : List Text} {options : Options}
    {t : Text} (hflags : Chosen .plain flags options) (hflags' : Chosen .plain flags' options)
    (hne : queries ≠ []) (hwritten : WrittenIn t ls)
    (hqueries : ls.filter (·.trim ≠ []) = queries) (hfeed : ∀ line ∈ ls, '\n' ∉ line)
    (hreturn : ∀ query ∈ queries, query.getLast? ≠ some '\r') (input : ByteArray) :
    Report.onArguments (flags ++ "--".toList :: queries) input =
      Report.onArguments flags' t.utf8Encode := by
  have hfound : queriesOf t = queries := by
    rw [← hqueries]
    apply queriesOf_of_writtenIn hwritten hfeed
    intro line hline hblank
    apply hreturn
    rw [← hqueries]
    exact List.mem_filter.2 ⟨hline, decide_eq_true hblank⟩
  rw [onArguments_of_ne_nil (Invocation.ofArguments_separated hflags queries) hne,
    onArguments_of_utf8 (Invocation.ofArguments_of_chosen hflags'), hfound]

theorem onArguments_eq_of_blank_lines :
    Report.onArguments ["--quiet".toList, "--validate".toList, "--".toList, "foo".toList,
        "-q".toList] ⟨#[0xFF]⟩ =
      Report.onArguments ["--validate".toList, "-q".toList]
        " \r\r\nfoo\r\n\n-q".toList.utf8Encode := by
  have hflags : Chosen .plain ["--quiet".toList, "--validate".toList] ⟨true, true⟩ :=
    .quiet rfl (.inl rfl) (.validate rfl (.done _))
  have hflags' : Chosen .plain ["--validate".toList, "-q".toList] ⟨true, true⟩ :=
    .validate rfl (.quiet rfl (.inr rfl) (.done _))
  have hlast : WrittenIn ([] ++ ['\n'] ++ "-q".toList) [[], "-q".toList] :=
    .ended (.inl rfl) (.last _)
  have hfoo : WrittenIn ("foo".toList ++ ['\r', '\n'] ++ "\n-q".toList)
      ["foo".toList, [], "-q".toList] := .ended (.inr rfl) hlast
  have hwritten : WrittenIn (" \r".toList ++ ['\r', '\n'] ++ "foo\r\n\n-q".toList)
      [" \r".toList, "foo".toList, [], "-q".toList] := .ended (.inr rfl) hfoo
  exact onArguments_eq_of_writtenIn hflags hflags' (by decide) hwritten (by decide) (by decide)
    (by decide) _

end SpatialQuery.CommandLine
