import BarrelModule.Barrel
import BarrelModule.Discovery
import BarrelModule.Log

namespace BarrelModule

open Text

structure BuildOptions where
  scan : Scan
  output : Path
  key : Option String
  denyDuplicates : Bool

inductive BuildError where
  | unreadable (directory : Path) (fault : ScanFault)
  | unresolvable (path : Path) (fault : Fault)
  | duplicate (d : Duplicate)
  | unwritable (path : Path) (fault : Fault)
  deriving DecidableEq, Repr

inductive Destination where
  | returned (text : String)
  | written (path : Path)
  deriving DecidableEq, Repr

structure Outcome where
  definitions : List Definition
  warnings : List Warning
  destination : Destination
  deriving DecidableEq, Repr

structure Run where
  events : List Event
  result : Except BuildError Outcome
  files : FileSystem

namespace Build

def discoverySource : String := "barrelgen_codegen::discovery"

def buildSource : String := "barrelgen_codegen::generator"

def foundEvent (file : Path) : Event :=
  ⟨.debug, discoverySource, "found meta definition file", [("path", file.display)]⟩

def finishedEvent (scan : Scan) (count : Nat) : Event :=
  ⟨.debug, discoverySource, "discovery finished",
    [("directory", scan.directory.display), ("count", toString count),
      ("recursive", if scan.recursive then "true" else "false")]⟩

def resolvedEvent (d : Definition) : Event :=
  ⟨.debug, buildSource, "resolved barrel entry",
    [("import_name", d.binding), ("import_path", d.specifier)]⟩

def warningEvent (w : Warning) : Event := ⟨.warn, buildSource, w.message, []⟩

def wroteEvent (path : Path) (count : Nat) : Event :=
  ⟨.info, buildSource, "wrote barrel", [("path", path.display), ("entries", toString count)]⟩

/-- Each file is told of as it is found, also where the search fails afterwards. -/
def discover (fs : FileSystem) (scan : Scan) : Journaled BuildError (List Path) :=
  let search := Discovery.search fs scan
  let found := search.files.map foundEvent
  match search.refusal? with
  | some ⟨path, fault⟩ => ⟨found, .error (.unreadable path fault)⟩
  | none => .noting search.files (found ++ [finishedEvent scan search.files.length])

def importBase (output : Path) : Path :=
  match output.parent? with
  | some directory => if directory.bytes = [] then ⟨Path.dot⟩ else directory
  | none => ⟨Path.dot⟩

def specifier (base file : Location) : String :=
  "./" ++ (Location.relative base file).forwardSlashes

def pathBelow (directory file : Path) : Path :=
  (file.below? directory).getD file

def define (workingDirectory base : Location) (directory file : Path) : Definition :=
  ⟨file, importName (pathBelow directory file).forwardSlashes,
    specifier base (file.absolute workingDirectory)⟩

def definitionsOf (workingDirectory : Location) (o : BuildOptions) (files : List Path) : List Definition :=
  files.map (define workingDirectory ((importBase o.output).absolute workingDirectory) o.scan.directory)

def barrelOf (fs : FileSystem) (o : BuildOptions) (files : List Path) : Journaled BuildError Barrel :=
  match fs.workingLocation with
  | .error fault => .error (.unresolvable (importBase o.output) fault)
  | .ok workingDirectory =>
    let definitions := definitionsOf workingDirectory o files
    .noting ⟨definitions, o.key⟩ (definitions.map resolvedEvent)

def collect (fs : FileSystem) (o : BuildOptions) : Journaled BuildError Barrel :=
  (discover fs o.scan).bind (barrelOf fs o)

def deliver (fs : FileSystem) (o : BuildOptions) (b : Barrel) : Run :=
  match if o.denyDuplicates then b.duplicate? else none with
  | some d => ⟨[], .error (.duplicate d), fs⟩
  | none =>
    let warned := b.warnings.map warningEvent
    if o.output.bytes = [] then
      ⟨warned, .ok ⟨b.definitions, b.warnings, .returned b.render⟩, fs⟩
    else match fs.writeFile o.output (encode b.render) with
      | .error fault => ⟨warned, .error (.unwritable o.output fault), fs⟩
      | .ok files =>
        ⟨warned ++ [wroteEvent o.output b.definitions.length],
          .ok ⟨b.definitions, b.warnings, .written o.output⟩, files⟩

end Build

def build (fs : FileSystem) (o : BuildOptions) : Run :=
  let collected := Build.collect fs o
  match collected.result with
  | .error e => ⟨collected.events, .error e, fs⟩
  | .ok b =>
    let run := Build.deliver fs o b
    { run with events := collected.events ++ run.events }

end BarrelModule
