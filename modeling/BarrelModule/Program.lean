import BarrelModule.CommandLine.Arguments
import BarrelModule.CommandLine.Completion
import BarrelModule.CommandLine.Help
import BarrelModule.Diagnostic
import BarrelModule.LogFilter
import BarrelModule.Report

namespace BarrelModule

open CommandLine

/-- A run of the program that has ended. The lines on standard error bear no times. -/
structure Finished where
  exitCode : Nat
  output : String
  errors : String
  files : FileSystem

namespace Program

def versionLine : String := "barrel 0.1.0"

def programSource : String := "barrel::ops::build"

def buildingEvent (o : BuildOptions) : Event :=
  ⟨.info, programSource, "building barrel", [("directory", o.scan.directory.display)]⟩

def reported (fs : FileSystem) (o : BuildOptions) : Run × Except BuildError Report :=
  let run := build fs o
  ({ run with events := buildingEvent o :: run.events }, run.result.map (Report.ofOutcome o))

def text (lines : List String) : String :=
  String.join (lines.map (· ++ "\n"))

def logLines (filter : LogFilter) (events : List Event) : List String :=
  (events.filter filter.shows).map Event.line

def runBuild (fs : FileSystem) (filter : LogFilter) (o : BuildOptions) : Finished :=
  let (run, report) := reported fs o
  let log := logLines filter run.events
  match report with
  | .error e => ⟨1, "", text (log ++ Diagnostic.lines e), run.files⟩
  | .ok report =>
    ⟨0, text (report.items.filterMap ReportItem.outputLine?),
      text (log ++ report.items.filterMap ReportItem.errorLine?), run.files⟩

def usageLines : UsageError → List String
  | .unknownArgument => ["error: unexpected argument found"]
  | .invalidValue => ["error: a value is missing or not allowed"]
  | .argumentConflict => ["error: an argument cannot be used multiple times"]
  | .valueValidation => ["error: invalid regular expression"]
  | .tooManyValues => ["error: unexpected value for an argument that takes none"]
  | .invalidSubcommand => ["error: unrecognized subcommand"]
  | .missingSubcommand => ["error: a subcommand is required but was not provided"]
  | .missingRequiredArgument => ["error: a required argument was not provided"]
  | .nothingGiven => Help.lines .top

def stopped (fs : FileSystem) : Stop → Finished
  | .help page => ⟨0, text (Help.lines page), "", fs⟩
  | .version => ⟨0, text [versionLine], "", fs⟩
  | .usage e => ⟨2, "", text (usageLines e), fs⟩

def run (fs : FileSystem) (logFilter : Option String) (args : List String) : Finished :=
  match parse args with
  | .error stop => stopped fs stop
  | .ok ⟨verbosity, .build o⟩ => runBuild fs (LogFilter.choose logFilter verbosity) o
  | .ok ⟨_, .completions shell⟩ => ⟨0, text (Completion.script shell), "", fs⟩

end Program

end BarrelModule
