import BarrelModule.FileSystem
import BarrelModule.Filter

namespace BarrelModule

structure Scan where
  directory : Path
  filter : Filter
  recursive : Bool

inductive ScanFault where
  | refused (fault : Fault)
  | notADirectory
  deriving DecidableEq, Repr

structure Refusal where
  path : Path
  fault : ScanFault
  deriving DecidableEq, Repr

structure Search where
  files : List Path
  refusal? : Option Refusal
  deriving DecidableEq, Repr

/-- Something that a walk comes to, by its names from the scanned directory down. Directories are gone
into, and links are not. -/
structure Visit where
  location : Location
  isDirectory : Bool
  deriving DecidableEq, Repr

def Visit.below (n : FileName) (v : Visit) : Visit := { v with location := n :: v.location }

namespace Discovery

def insertNamed {α : Type} (named : FileName × List α) : List (FileName × List α) → List (FileName × List α)
  | [] => [named]
  | other :: rest => if named.1 ≤ other.1 then named :: other :: rest else other :: insertNamed named rest

def sortNamed {α : Type} (below : List (FileName × List α)) : List (FileName × List α) :=
  below.foldr insertNamed []

def inOrder {α : Type} (below : List (FileName × List α)) : List α :=
  (sortNamed below).flatMap Prod.snd

mutual
def visits (deep : Bool) : Node → List Visit
  | .file n _ => [⟨[n], false⟩]
  | .link n _ => [⟨[n], false⟩]
  | .directory n nodes =>
    if deep then ⟨[n], true⟩ :: (inOrder (visitsOf deep nodes)).map (Visit.below n) else []

def visitsOf (deep : Bool) : List Node → List (FileName × List Visit)
  | [] => []
  | node :: nodes => (node.name, visits deep node) :: visitsOf deep nodes
end

def taken (filter : Filter) (l : Location) : Bool :=
  l.getLast?.any fun n => filter.accepts (Text.decode n)

/-- The nodes of the directory to scan. It may be given through links, but not as one. -/
def rootNodes (fs : FileSystem) (directory : Path) : Except ScanFault (List Node) :=
  match fs.directoryNodes .stay directory with
  | .error fault => .error (.refused fault)
  | .ok (some nodes) => .ok nodes
  | .ok none =>
    match fs.directoryNodes .follow directory with
    | .error fault => .error (.refused fault)
    | .ok _ => .error .notADirectory

/-- Takes what a walk comes to one by one. Each directory is listed by its path, which is that of the
scanned directory with names put behind it, and the first one that cannot be listed ends the search. -/
def gather (fs : FileSystem) (scan : Scan) : List Visit → Search
  | [] => ⟨[], none⟩
  | ⟨l, true⟩ :: rest =>
    match fs.listingFault? (scan.directory.childOf l) with
    | some fault => ⟨[], some ⟨scan.directory.childOf l, .refused fault⟩⟩
    | none => gather fs scan rest
  | ⟨l, false⟩ :: rest =>
    let search := gather fs scan rest
    if taken scan.filter l then { search with files := scan.directory.childOf l :: search.files } else search

def search (fs : FileSystem) (scan : Scan) : Search :=
  match rootNodes fs scan.directory with
  | .error fault => ⟨[], some ⟨scan.directory, fault⟩⟩
  | .ok nodes => gather fs scan (inOrder (visitsOf scan.recursive nodes))

def find (fs : FileSystem) (scan : Scan) : Except Refusal (List Path) :=
  match (search fs scan).refusal? with
  | some refusal => .error refusal
  | none => .ok (search fs scan).files

end Discovery

end BarrelModule
