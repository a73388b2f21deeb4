import BarrelModule.FileSystem

namespace BarrelModule

open Text

inductive Last where
  | root
  | current
  | parent
  | name (n : FileName)
  deriving DecidableEq, Repr

namespace Place

def without (removed : Location) (place : Place) : Place :=
  if place.location = removed then ⟨removed.dropLast, place.removed + 1⟩ else place

def moved (old new : Location) (place : Place) : Place :=
  if old.isPrefixOf place.location then { place with location := new ++ place.location.drop old.length }
  else place

end Place

namespace FileSystem

def locate (fs : FileSystem) (p : Path) : Except Fault (Place × Last) :=
  match refusal? p, p.segments.getLast? with
  | some fault, _ => .error fault
  | none, none => .ok (Place.root, .root)
  | none, some s =>
    match descendWithin fs .follow mostLinks p.segments.dropLast true (fs.startOf p) with
    | .error fault => .error fault
    | .ok (.directory place) =>
      .ok (place, if s = Path.dot then .current else if s = Path.dotDot then .parent else .name s)
    | .ok (.missing _ _) => .error .notFound
    | .ok (.node _ _) => .error .notADirectory

def changeDirectory (fs : FileSystem) (p : Path) : Except Fault FileSystem :=
  match fs.resolve .follow p with
  | .error fault => .error fault
  | .ok (.directory place) => .ok { fs with workingDirectory := place }
  | .ok (.missing _ _) => .error .notFound
  | .ok (.node _ _) => .error .notADirectory

def makeDirectory (fs : FileSystem) (p : Path) : Except Fault FileSystem := do
  match ← fs.locate p with
  | (place, .name n) =>
    match ← fs.lookup place n with
    | some _ => .error .alreadyExists
    | none => .ok (fs.changed place.location (Node.put (.directory n [])))
  | _ => .error .alreadyExists

/-- The path of the link is looked at after its target, except that neither may hold a NUL. -/
def makeLink (fs : FileSystem) (p target : Path) : Except Fault FileSystem := do
  if p.bytes.contains 0 then .error .nulInPath
  else if let some fault := refusal? target then .error fault
  else match ← fs.locate p with
    | (place, .name n) =>
      match ← fs.lookup place n with
      | some _ => .error .alreadyExists
      | none =>
        if p.endsInSlash then .error .notFound
        else .ok (fs.changed place.location (Node.put (.link n target)))
    | _ => .error .alreadyExists

def removeFile (fs : FileSystem) (p : Path) : Except Fault FileSystem := do
  match ← fs.locate p with
  | (place, .name n) =>
    match ← fs.lookup place n with
    | none => .error .notFound
    | some (.directory _ _) => .error .isADirectory
    | some _ =>
      if p.endsInSlash then .error .notADirectory
      else .ok (fs.changed place.location (Node.erase n))
  | _ => .error .isADirectory

def removeDirectory (fs : FileSystem) (p : Path) : Except Fault FileSystem := do
  match ← fs.locate p with
  | (_, .root) => .error .busy
  | (_, .current) => .error .invalidArgument
  | (_, .parent) => .error .directoryNotEmpty
  | (place, .name n) =>
    match ← fs.lookup place n with
    | none => .error .notFound
    | some (.directory _ []) =>
      .ok { fs.changed place.location (Node.erase n) with
        workingDirectory := Place.without (place.down n).location fs.workingDirectory }
    | some (.directory _ _) => .error .directoryNotEmpty
    | some _ => .error .notADirectory

def renameNode (fs : FileSystem) (oldPath newPath : Path) : Except Fault FileSystem := do
  if newPath.bytes.contains 0 then .error .nulInPath
  else match ← fs.locate oldPath, ← fs.locate newPath with
  | (oldPlace, .name oldName), (newPlace, .name newName) =>
    let some node ← fs.lookup oldPlace oldName | .error .notFound
    let replaced ← fs.lookup newPlace newName
    let old := (oldPlace.down oldName).location
    let new := (newPlace.down newName).location
    if !node.isDirectory && (oldPath.endsInSlash || newPath.endsInSlash) then .error .notADirectory
    else if node.isDirectory && old.isPrefixOf newPlace.location then .error .invalidArgument
    else if replaced.isSome && new.isPrefixOf oldPlace.location then .error .directoryNotEmpty
    else if old = new then .ok fs
    else
      let moved : FileSystem :=
        { (fs.changed oldPlace.location (Node.erase oldName)).changed newPlace.location
            (fun nodes => Node.put (node.rename newName) (Node.erase newName nodes)) with
          workingDirectory := Place.moved old new (Place.without new fs.workingDirectory) }
      match replaced, node.isDirectory with
      | none, _ => .ok moved
      | some (.directory _ []), true => .ok moved
      | some (.directory _ _), true => .error .directoryNotEmpty
      | some _, true => .error .notADirectory
      | some (.directory _ _), false => .error .isADirectory
      | some _, false => .ok moved
  | _, _ => .error .busy

end FileSystem

end BarrelModule
