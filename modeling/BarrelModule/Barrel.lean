import BarrelModule.ImportName
import BarrelModule.Path
import BarrelModule.Statement

namespace BarrelModule

structure Definition where
  file : Path
  binding : String
  specifier : String
  deriving DecidableEq, Repr

inductive Warning where
  | emptyName (file : Path)
  | invalidName (file : Path) (name : String)
  | sharedName (file earlier : Path) (name : String)
  deriving DecidableEq, Repr

def quoted (s : String) : String := "'" ++ s ++ "'"

def Warning.message : Warning → String
  | .emptyName file => quoted file.display ++ " produces an empty import name"
  | .invalidName file name =>
    quoted file.display ++ " produces " ++ quoted name ++ ", which is not a valid identifier"
  | .sharedName file earlier name =>
    quoted file.display ++ " and " ++ quoted earlier.display ++ " both import as " ++ quoted name

structure Duplicate where
  name : String
  first : Path
  second : Path
  deriving DecidableEq, Repr

structure Barrel where
  definitions : List Definition
  key : Option String
  deriving DecidableEq, Repr

namespace Barrel

/-- The latest definition of a name among those already seen, the latest of them in front. -/
def lastNamed? (name : String) (seen : List Definition) : Option Definition :=
  seen.find? fun d => d.binding == name

def nameWarning? (d : Definition) : Option Warning :=
  if d.binding = "" then some (.emptyName d.file)
  else if !isIdentifier d.binding then some (.invalidName d.file d.binding)
  else none

def sharedWarning? (seen : List Definition) (d : Definition) : Option Warning :=
  (lastNamed? d.binding seen).map fun earlier => .sharedName d.file earlier.file d.binding

def warningsAfter (seen : List Definition) : List Definition → List Warning
  | [] => []
  | d :: ds => (nameWarning? d).toList ++ (sharedWarning? seen d).toList ++ warningsAfter (d :: seen) ds

def warnings (b : Barrel) : List Warning := warningsAfter [] b.definitions

def duplicateAfter? (seen : List Definition) : List Definition → Option Duplicate
  | [] => none
  | d :: ds =>
    match lastNamed? d.binding seen with
    | some earlier => some ⟨d.binding, earlier.file, d.file⟩
    | none => duplicateAfter? (d :: seen) ds

def duplicate? (b : Barrel) : Option Duplicate := duplicateAfter? [] b.definitions

def literal (b : Barrel) : Literal :=
  match b.key with
  | some key => .object (b.definitions.map fun d => (d.binding ++ "." ++ key, d.binding))
  | none => .array (b.definitions.map Definition.binding)

def imports (b : Barrel) : List Statement :=
  b.definitions.map fun d => .importDefault d.binding d.specifier

def written (b : Barrel) : CodeWriter :=
  (b.imports.foldl CodeWriter.emit CodeWriter.empty).pushBlank.emit (.exportDefault b.literal)

def withoutFinalNewline (s : String) : String :=
  if s.toList.getLast? = some '\n' then String.ofList s.toList.dropLast else s

def render (b : Barrel) : String := withoutFinalNewline b.written.text

end Barrel

end BarrelModule
