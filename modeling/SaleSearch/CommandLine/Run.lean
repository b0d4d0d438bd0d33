import SaleSearch.CommandLine.Help
import SaleSearch.Files.Directory
import SaleSearch.History
import SaleSearch.Json.Reader
import SaleSearch.Json.Writer
import SaleSearch.Settings.Load
import SaleSearch.Sql.Emission
import SaleSearch.Verification

/-!
# Running the program

What the program prints and how it ends, given its arguments, the files that it can read and the
time. A failure is reported with the chain of its causes.

* `Report` is a failure, and `Report.text` what is printed of it.
* `run` is the program.
-/

namespace SaleSearch.CommandLine

open Sql

/-- What a run leaves behind: its exit code, and what it has printed to either stream. -/
structure Outcome where
  code : Nat
  out : String
  err : String
  deriving DecidableEq, Repr

/-- What went wrong, and the causes of it, the nearest first. -/
structure Report where
  message : String
  causes : List String := []
  deriving DecidableEq, Repr

namespace Report

/-- A text whose lines after the first are indented. -/
def hanging (indentation : String) (text : String) : String :=
  String.ofList (text.toList.flatMap fun c => if c = '\n' then '\n' :: indentation.toList else [c])

/-- The number of a cause, set to the right. -/
def ordinal (n : Nat) : String :=
  String.ofList (List.replicate (5 - n.repr.length) ' ') ++ n.repr ++ ": "

/-- Causes on lines of their own, numbered from `next`. -/
def numbered (next : Nat) : List String → String
  | [] => ""
  | cause :: rest => "\n" ++ ordinal next ++ hanging "       " cause ++ numbered (next + 1) rest

/-- A single cause is indented, several are numbered. -/
def causesText : List String → String
  | [] => ""
  | [cause] => "\n\nCaused by:\n    " ++ hanging "    " cause
  | causes => "\n\nCaused by:" ++ numbered 0 causes

/-- A failure as it is printed, with the chain of its causes. -/
def text (r : Report) : String :=
  "Error: " ++ r.message ++ causesText r.causes ++ "\n"

/-- The settings could not be loaded. -/
def ofLoadError (path : String) (e : Settings.LoadError) : Report where
  message := "loading " ++ path
  causes := e.message :: match e with
    | .unreadable _ fault => [fault.message]
    | .malformed => []

/-- A file could not be read. -/
def ofFault (path : String) (fault : Files.Fault) : Report where
  message := "reading " ++ path
  causes := [fault.message]

/-- A request was refused when it was compiled. -/
def ofRejection (r : Rejection) : Report where
  message := r.message
  causes := r.cause?.toList

/-- A request was refused by verification, which is reported with the status. -/
def ofVerdict (r : Rejection) : Report where
  message := r.message ++ " (" ++ r.status.repr ++ ")"

end Report

/-- The settings of a run: those of the file that an option names, or the defaults. -/
def settings (read : Files.Reader) (options : Options) : Except Report Settings :=
  match options.config with
  | none => .ok {}
  | some path => (Settings.load read path).mapError (Report.ofLoadError path)

/-- The known values in a reference file. -/
def knownSets (read : Files.Reader) (path : String) :
    Except Report (Catalog.Kind → List String) := do
  let text ← (read path).mapError (Report.ofFault path)
  match Catalog.setsOfYaml? text with
  | some sets => .ok sets
  | none => .error { message := "Invalid YAML" }

/-- The request of a query, verified if known values are given. -/
def request (read : Files.Reader) (options : Options) (settings : Settings) (query : String) :
    Except Report Request := do
  let request := Request.ofQuery query
  match options.reference with
  | none => return request
  | some path =>
      let sets ← knownSets read path
      (Verification.decide sets (Verification.checks request settings)).mapError Report.ofVerdict
      return request

/-- A statement on a line, and each value beside it on a line of its own. -/
def compiledText (options : Options) (compiled : Compiled) : String :=
  if options.json then Json.pretty compiled.toJson ++ "\n"
  else
    let line (b : Binding) := "  " ++ b.httpPair.1 ++ "=" ++ b.httpPair.2 ++ "\n"
    compiled.sql ++ "\n" ++ String.join (compiled.bindings.map line)

/-- What is printed of a compilation. -/
def compiled (options : Options) (result : Except Rejection Compiled) : Except Report String :=
  (result.mapError Report.ofRejection).map (compiledText options)

/-- The series of a file that holds rows as JSON. -/
def fold (read : Files.Reader) (path : String) : Except Report String := do
  let text ← (read path).mapError (Report.ofFault path)
  match (Json.read? text).bind History.rows? with
  | none => .error { message := "Invalid rows" }
  | some rows =>
      let series := History.fold rows Window.daySeconds
      return Json.pretty (.array (series.map History.Series.toJson)) ++ "\n"

/-- What a command prints. The settings are loaded first, whether they are used or not. -/
def execute (read : Files.Reader) (now : Int) (options : Options) (command : Command) :
    Except Report String := do
  let settings ← settings read options
  match command with
  | .record query =>
      let request ← request read options settings query
      compiled options (Listing.compile request settings)
  | .aggregate query history time =>
      let request ← request read options settings query
      let mode := if history then AggregateMode.history else AggregateMode.point
      compiled options (Summary.compile request mode settings (time.getD now))
  | .verify query =>
      let _ ← request read options settings query
      return "ok\n"
  | .fold path => fold read path

/-- The program: what it prints and how it ends. -/
def run (read : Files.Reader) (now : Int) (arguments : List String) : Outcome :=
  match Ask.ofArguments arguments with
  | .run options command =>
      match execute read now options command with
      | .ok out => { code := 0, out, err := "" }
      | .error report => { code := 1, out := "", err := report.text }
  | .version => { code := 0, out := versionText, err := "" }
  | .help topic => { code := 0, out := helpText topic, err := "" }
  | .misuse => { code := 2, out := "", err := helpText .program }

end SaleSearch.CommandLine
