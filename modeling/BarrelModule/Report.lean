import BarrelModule.Build

namespace BarrelModule

inductive ReportItem where
  | section (title : String)
  | keyValue (key value : String)
  | addedItem (text : String)
  | warning (message : String)
  | preformatted (text : String)
  | newline
  deriving DecidableEq, Repr

structure Report where
  directory : Path
  key : Option String
  warnings : List String
  definitions : List (String × String)
  destination : Destination
  deriving DecidableEq, Repr

namespace Report

def ofOutcome (o : BuildOptions) (outcome : Outcome) : Report where
  directory := o.scan.directory
  key := o.key
  warnings := outcome.warnings.map Warning.message
  definitions := outcome.definitions.map fun d => (d.binding, d.file.display)
  destination := outcome.destination

def exportShape : Option String → String
  | none => "array"
  | some key => "object keyed by " ++ quoted key

def listing (r : Report) : List ReportItem :=
  if r.definitions.isEmpty then
    [.preformatted ("No meta definition files found in " ++ r.directory.display)]
  else
    .section ("Definitions (" ++ toString r.definitions.length ++ ")") ::
      r.definitions.map fun (name, file) => .addedItem (name ++ " (" ++ file ++ ")")

def items (r : Report) : List ReportItem :=
  r.warnings.map .warning ++
    match r.destination with
    | .returned text => [.preformatted text]
    | .written path =>
      [.keyValue "Generated" path.display, .keyValue "Export" (exportShape r.key), .newline] ++ r.listing

end Report

namespace ReportItem

def outputLine? : ReportItem → Option String
  | .section title => some (title ++ ":")
  | .keyValue key value => some (key ++ ": " ++ value)
  | .addedItem text => some ("  + " ++ text)
  | .warning _ => none
  | .preformatted text => some text
  | .newline => some ""

def errorLine? : ReportItem → Option String
  | .warning message => some ("warning: " ++ message)
  | _ => none

end ReportItem

end BarrelModule
