import BarrelModule.Build

namespace BarrelModule

namespace ScanFault

def message : ScanFault → String
  | .refused fault => fault.message
  | .notADirectory => "not a directory"

def causes (directory : Path) : ScanFault → List String
  | .refused fault =>
    ["IO error for operation on " ++ directory.display ++ ": " ++ fault.message, fault.message]
  | .notADirectory => ["not a directory"]

end ScanFault

namespace BuildError

def message : BuildError → String
  | .unreadable directory _ => "failed to read directory " ++ quoted directory.display
  | .unresolvable path _ =>
    "failed to resolve " ++ quoted path.display ++ " against the working directory"
  | .duplicate d => "import name " ++ quoted d.name ++ " is derived from more than one file"
  | .unwritable path _ => "failed to write barrel to " ++ quoted path.display

def code : BuildError → String
  | .unreadable _ _ => "barrel::discovery"
  | .unresolvable _ _ => "barrel::resolve"
  | .duplicate _ => "barrel::duplicate_import"
  | .unwritable _ _ => "barrel::write"

def help? : BuildError → Option String
  | .unreadable _ _ => some "check that --directory points to an existing, readable directory"
  | .unresolvable _ _ => none
  | .duplicate d =>
    some ("rename either " ++ quoted d.first.display ++ " or " ++ quoted d.second.display ++
      " so their import names differ")
  | .unwritable _ _ =>
    some "make sure the parent directory of --outputPath exists and is writable"

def causes : BuildError → List String
  | .unreadable directory fault => fault.causes directory
  | .unresolvable _ fault => [fault.message]
  | .duplicate _ => []
  | .unwritable _ fault => [fault.message]

end BuildError

namespace Diagnostic

def newline (c : Char) : Bool := c == '\n'

def hanging (first further text : String) : List String :=
  match (Text.fields newline text.toList).map String.ofList with
  | [] => [first]
  | line :: lines => (first ++ line) :: lines.map (further ++ ·)

def causeLines : List String → List String
  | [] => []
  | [cause] => hanging "  ╰─▶ " "      " cause
  | cause :: causes => hanging "  ├─▶ " "  │   " cause ++ causeLines causes

def lines (e : BuildError) : List String :=
  [e.code, ""] ++ hanging "  × " "  │ " e.message ++ causeLines e.causes ++
    (match e.help? with
      | some help => hanging "  help: " "        " help
      | none => []) ++ [""]

end Diagnostic

end BarrelModule
