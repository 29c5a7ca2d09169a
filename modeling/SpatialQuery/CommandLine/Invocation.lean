import SpatialQuery.Text.Basic

/-!
# What a command line asks for

The arguments are looked at from left to right. Options and queries may be mixed, single-letter
options may be joined behind one dash, and after `--` everything is a query. Asking for help or for
the version ends the search, and so does the first argument that makes no sense.
-/

namespace SpatialQuery.CommandLine

/-- What can be chosen for checking queries. -/
structure Options where
  /-- Shapes without area are refused where the operation needs one. -/
  validate : Bool
  /-- Only failures are reported. -/
  quiet : Bool
deriving DecidableEq

/-- Nothing is chosen. -/
def Options.plain : Options := ⟨false, false⟩

/-- An option that can be given. -/
inductive Flag where
  /-- Validates the queries. -/
  | validate
  /-- Keeps quiet about queries that pass. -/
  | quiet
  /-- Asks for help. -/
  | help
  /-- Asks for the version. -/
  | version
deriving DecidableEq

/-- The flag of a name behind two dashes. -/
def Flag.ofName? (name : Text) : Option Flag :=
  if name = "validate".toList then some validate
  else if name = "quiet".toList then some quiet
  else if name = "help".toList then some help
  else if name = "version".toList then some version
  else Option.none

/-- The flag of a letter behind one dash. -/
def Flag.ofLetter? (letter : Char) : Option Flag :=
  if letter = 'q' then some quiet
  else if letter = 'h' then some help
  else if letter = 'V' then some version
  else Option.none

/-- The name of a flag with its dashes. -/
def Flag.text : Flag → Text
  | validate => "--validate".toList
  | quiet => "--quiet".toList
  | help => "--help".toList
  | version => "--version".toList

/-- An argument by its outer form. -/
inductive Argument where
  /-- Two dashes and nothing else. -/
  | separator
  /-- A name behind two dashes. -/
  | name (name : Text)
  /-- Letters behind one dash, at least one. -/
  | letters (letters : Text)
  /-- Anything else, also a single dash. -/
  | query (query : Text)
deriving DecidableEq

/-- The outer form of an argument. -/
def Argument.ofText : Text → Argument
  | ['-', '-'] => separator
  | '-' :: '-' :: word => name word
  | '-' :: c :: rest => letters (c :: rest)
  | t => query t

/-- What a command line asks for. -/
inductive Invocation where
  /-- Queries are to be checked; without queries, the lines of the input are. -/
  | check (options : Options) (queries : List Text)
  /-- The help is to be shown. -/
  | help
  /-- The version is to be shown. -/
  | version
deriving DecidableEq

/-- A cause for which a command line is refused. -/
inductive UsageError where
  /-- There is no such option. -/
  | unknownOption (option : Text)
  /-- An option is given again. -/
  | repeatedOption (flag : Flag)
deriving DecidableEq

/-- The wording of a cause. -/
def UsageError.message : UsageError → Text
  | unknownOption option => "unexpected argument '".toList ++ option ++ ['\'']
  | repeatedOption flag => "the argument '".toList ++ flag.text ++ "' is given twice".toList

/-- What is known after some of the arguments: either the options so far, or the answer. -/
inductive Progress where
  /-- The options so far; there may be more. -/
  | options (options : Options)
  /-- The command line asks for this, whatever follows. -/
  | done (invocation : Invocation)
deriving DecidableEq

namespace Options

/-- Takes a flag into the options. -/
def add (options : Options) : Flag → Except UsageError Progress
  | .validate =>
    if options.validate then .error (.repeatedOption .validate)
    else .ok (.options { options with validate := true })
  | .quiet =>
    if options.quiet then .error (.repeatedOption .quiet)
    else .ok (.options { options with quiet := true })
  | .help => .ok (.done .help)
  | .version => .ok (.done .version)

/-- Takes the flag of a name into the options. -/
def addName (options : Options) (name : Text) : Except UsageError Progress :=
  match Flag.ofName? name with
  | some flag => options.add flag
  | Option.none => .error (.unknownOption ('-' :: '-' :: name))

/-- Takes the flags of joined letters into the options, one letter after another. -/
def addLetters (options : Options) : Text → Except UsageError Progress
  | [] => .ok (.options options)
  | letter :: rest =>
    match Flag.ofLetter? letter with
    | Option.none => .error (.unknownOption ['-', letter])
    | some flag => do
      match ← options.add flag with
      | .options options => options.addLetters rest
      | .done invocation => return .done invocation

end Options

namespace Invocation

/-- What a command line asks for, after the options and queries that were found before. -/
def ofArgumentsAfter (options : Options) (queries : List Text) :
    List Text → Except UsageError Invocation
  | [] => .ok (check options queries)
  | argument :: rest =>
    let continued : Progress → Except UsageError Invocation
      | .options options => ofArgumentsAfter options queries rest
      | .done invocation => .ok invocation
    match Argument.ofText argument with
    | .separator => .ok (check options (queries ++ rest))
    | .name name => options.addName name >>= continued
    | .letters letters => options.addLetters letters >>= continued
    | .query query => ofArgumentsAfter options (queries ++ [query]) rest

/-- What a command line asks for. -/
def ofArguments (arguments : List Text) : Except UsageError Invocation :=
  ofArgumentsAfter .plain [] arguments

/-- The input is read only for queries, and only if none is among the arguments. -/
def readsInput : Invocation → Bool
  | check _ [] => true
  | _ => false

end Invocation

end SpatialQuery.CommandLine
