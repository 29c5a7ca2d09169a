import SpatialQuery.CommandLine.Invocation
import SpatialQuery.Query.Parse

/-!
# Reports on queries

Every query is reported on one line: with its canonical text if it passes, and otherwise as it was
given and with the reason for which it fails. The exit code tells whether all of them passed.

The lines of the input are queries, except for blank lines. Input that is not UTF-8 is refused as
a whole.
-/

namespace SpatialQuery.CommandLine

/-- What a run answers. -/
structure Report where
  /-- Zero when all went well. -/
  exitCode : Nat
  /-- The text for the standard output. -/
  output : Text
  /-- The line for the standard error, if it is not empty. -/
  errors : Text
deriving DecidableEq

/-- A cause for which a query fails. -/
inductive Failure where
  /-- The text is no query. -/
  | parse (cause : ParseError ShapeError)
  /-- The query is not valid. -/
  | invalid (cause : AreaRequired)
deriving DecidableEq

/-- The wording of a cause. -/
def Failure.message : Failure → Text
  | parse cause => cause.message ShapeError.message
  | invalid cause => cause.message

/-- Reads a query and, if that is chosen, validates it. -/
def check (options : Options) (query : Text) : Except Failure (Query Shape) := do
  let q ← (Query.parse Shape.read query).mapError .parse
  if options.validate then q.validate.mapError .invalid
  return q

/-- The line on a query; there is none on a query that passes when the run is quiet. -/
def lineOn (options : Options) (query : Text) : Text :=
  match check options query with
  | .ok q => if options.quiet then [] else "ok\t".toList ++ q.text ++ ['\n']
  | .error failure => "error\t".toList ++ query ++ '\t' :: failure.message ++ ['\n']

/-- The query fails. -/
def fails (options : Options) (query : Text) : Bool :=
  match check options query with
  | .ok _ => false
  | .error _ => true

/-- The line on the standard error when some queries failed. -/
def failureCount (failed total : Nat) : Text :=
  "Error: ".toList ++ Text.ofNat failed ++ " of ".toList ++ Text.ofNat total ++
    " queries failed".toList

/-- The report on a list of queries. -/
def Report.onQueries (options : Options) (queries : List Text) : Report :=
  let failed := queries.countP (fails options)
  let output := queries.flatMap (lineOn options)
  if failed = 0 then ⟨0, output, []⟩
  else ⟨1, output, failureCount failed queries.length⟩

/-- The report on input that is not UTF-8. -/
def Report.notUtf8 : Report :=
  ⟨1, [], "Error: stream did not contain valid UTF-8".toList⟩

/-- Drops a carriage return at the end of a line. -/
def dropReturn (line : Text) : Text :=
  if line.getLast? = some '\r' then line.dropLast else line

/-- The lines of a text. Each ends with a line feed or with a carriage return and a line feed; what
follows the last line feed is a line of its own unless it is empty. -/
def lines (t : Text) : List Text :=
  let pieces := t.splitOn '\n'
  pieces.dropLast.map dropReturn ++ (pieces.getLast?.toList.filter fun last => !last.isEmpty)

/-- The queries of the input are its lines that hold anything but blanks. -/
def queriesOf (input : Text) : List Text := (lines input).filter fun line => !line.isAllBlank

/-- The report on the queries of the input. -/
def Report.onInput (options : Options) (input : ByteArray) : Report :=
  match String.fromUTF8? input with
  | none => notUtf8
  | some s => onQueries options (queriesOf s.toList)

/-- The name of the command, as it is called. -/
def commandName : Text := "spatial-args".toList

/-- The lines of the help. -/
def helpLines : List Text :=
  ["Check spatial query arguments, one per argument or per line of stdin".toList,
    [],
    "Usage: ".toList ++ commandName ++ " [OPTIONS] [QUERIES]...".toList,
    [],
    "Arguments:".toList,
    "  [QUERIES]...  Queries such as `Intersects(POINT(30 10)) cache=false`".toList,
    [],
    "Options:".toList,
    "      --validate  Also require an area-bearing shape where the operation needs one".toList,
    "  -q, --quiet     Only report failures".toList,
    "  -h, --help      Print help".toList,
    "  -V, --version   Print version".toList]

/-- The text of the help. -/
def helpText : Text := helpLines.flatMap (· ++ ['\n'])

/-- The text of the version. -/
def versionText : Text := commandName ++ " 0.1.0\n".toList

/-- The report on what a command line asks for. -/
def Report.onInvocation (input : ByteArray) : Invocation → Report
  | .help => ⟨0, helpText, []⟩
  | .version => ⟨0, versionText, []⟩
  | .check options [] => onInput options input
  | .check options queries => onQueries options queries

/-- The report on a command line and the bytes of the standard input. -/
def Report.onArguments (arguments : List Text) (input : ByteArray) : Report :=
  match Invocation.ofArguments arguments with
  | .ok invocation => onInvocation input invocation
  | .error e => ⟨2, [], "error: ".toList ++ e.message⟩

end SpatialQuery.CommandLine
