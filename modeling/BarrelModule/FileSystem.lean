import BarrelModule.FileSystem.Node
import BarrelModule.FileSystem.Fault

namespace BarrelModule

open Text

/-- A directory that a program stands in: below a location, and as many removed directories deeper
as `removed` says. -/
structure Place where
  location : Location
  removed : Nat
  deriving DecidableEq, Repr

namespace Place

def root : Place := ⟨[], 0⟩

def up : Place → Place
  | ⟨location, 0⟩ => ⟨location.dropLast, 0⟩
  | ⟨location, n + 1⟩ => ⟨location, n⟩

def down (p : Place) (n : FileName) : Place := { p with location := p.location ++ [n] }

end Place

structure FileSystem where
  nodes : List Node
  workingDirectory : Place

inductive Found where
  | directory (place : Place)
  | node (parent : Location) (node : Node)
  | missing (parent : Location) (name : FileName)

inductive Ending where
  | follow
  | stay
  | create
  deriving DecidableEq, Repr

namespace FileSystem

def empty : FileSystem := ⟨[], Place.root⟩

def nodesIn (fs : FileSystem) (place : Place) : List Node :=
  if place.removed = 0 then (Node.nodesAt? place.location fs.nodes).getD [] else []

def longestName : Nat := 255

def lookup (fs : FileSystem) (place : Place) (n : FileName) : Except Fault (Option Node) :=
  if place.removed ≠ 0 then .error .notFound
  else if n.length > longestName then .error .nameTooLong
  else .ok (Node.find? (fs.nodesIn place) n)

/-- Takes the segments of a path one by one. Each link that has to be followed is handed on, with the
segments that are still to come. -/
def descend (fs : FileSystem) (ending : Ending)
    (follow : List Bytes → Bool → Place → Except Fault Found) (slashAtEnd : Bool) :
    List Bytes → Place → Except Fault Found
  | [], place => .ok (.directory place)
  | s :: rest, place =>
    if s = Path.dot then descend fs ending follow slashAtEnd rest place
    else if s = Path.dotDot then descend fs ending follow slashAtEnd rest place.up
    else if ending = .create && rest = [] && slashAtEnd then .error .isADirectory
    else match fs.lookup place s with
      | .error fault => .error fault
      | .ok none => if rest = [] then .ok (.missing place.location s) else .error .notFound
      | .ok (some (.directory _ _)) => descend fs ending follow slashAtEnd rest (place.down s)
      | .ok (some (.file n content)) =>
        if rest = [] && !slashAtEnd then .ok (.node place.location (.file n content))
        else .error .notADirectory
      | .ok (some (.link n target)) =>
        if rest = [] && !slashAtEnd && ending = .stay then .ok (.node place.location (.link n target))
        else follow (target.segments ++ rest) (slashAtEnd || (rest = [] && target.endsInSlash))
          (if target.isAbsolute then Place.root else place)

def descendWithin (fs : FileSystem) (ending : Ending) :
    Nat → List Bytes → Bool → Place → Except Fault Found
  | 0, segments, slashAtEnd, place =>
    descend fs ending (fun _ _ _ => .error .tooManyLinks) slashAtEnd segments place
  | links + 1, segments, slashAtEnd, place =>
    descend fs ending (descendWithin fs ending links) slashAtEnd segments place

def mostLinks : Nat := 40

def startOf (fs : FileSystem) (p : Path) : Place :=
  if p.isAbsolute then Place.root else fs.workingDirectory

def lead (fs : FileSystem) (ending : Ending) (p : Path) : Except Fault Found :=
  descendWithin fs ending mostLinks p.segments p.endsInSlash (fs.startOf p)

def longestPath : Nat := 4095

def refusal? (p : Path) : Option Fault :=
  if p.bytes.contains 0 then some .nulInPath
  else if p.bytes = [] then some .notFound
  else if p.bytes.length > longestPath then some .nameTooLong
  else none

def resolve (fs : FileSystem) (ending : Ending) (p : Path) : Except Fault Found :=
  match refusal? p with
  | some fault => .error fault
  | none => fs.lead ending p

def directoryNodes (fs : FileSystem) (ending : Ending) (p : Path) : Except Fault (Option (List Node)) :=
  match fs.resolve ending p with
  | .error fault => .error fault
  | .ok (.missing _ _) => .error .notFound
  | .ok (.directory place) => .ok (some (fs.nodesIn place))
  | .ok (.node _ _) => .ok none

def listingFault? (fs : FileSystem) (p : Path) : Option Fault :=
  match fs.directoryNodes .follow p with
  | .error fault => some fault
  | .ok (some _) => none
  | .ok none => some .notADirectory

/-- The working directory with its links resolved; a removed one has no location. -/
def workingLocation (fs : FileSystem) : Except Fault Location :=
  if fs.workingDirectory.removed = 0 then .ok fs.workingDirectory.location else .error .notFound

def changed (fs : FileSystem) (location : Location) (f : List Node → List Node) : FileSystem :=
  { fs with nodes := Node.changeAt f location fs.nodes }

def writeFile (fs : FileSystem) (p : Path) (content : Bytes) : Except Fault FileSystem :=
  match fs.resolve .create p with
  | .error fault => .error fault
  | .ok (.directory _) => .error .isADirectory
  | .ok (.missing parent n) => .ok (fs.changed parent (Node.put (.file n content)))
  | .ok (.node parent node) => .ok (fs.changed parent (Node.put (.file node.name content)))

def contentAt (fs : FileSystem) (p : Path) : Except Fault Bytes :=
  match fs.resolve .follow p with
  | .error fault => .error fault
  | .ok (.directory _) => .error .isADirectory
  | .ok (.node _ (.file _ content)) => .ok content
  | .ok _ => .error .notFound

end FileSystem

end BarrelModule
