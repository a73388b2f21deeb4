import BarrelModule.Build

namespace BarrelModule

namespace Disk

def withDirectories : Location → List Node → List Node
  | [], nodes => nodes
  | n :: ns, nodes =>
    match Node.find? nodes n with
    | some (.directory _ inner) => Node.put (.directory n (withDirectories ns inner)) nodes
    | _ => Node.put (.directory n (withDirectories ns [])) nodes

def withNode (l : Location) (node : Node) (nodes : List Node) : List Node :=
  if node.isDirectory then withDirectories (l ++ [node.name]) nodes
  else Node.changeAt (Node.put node) l (withDirectories l nodes)

def locationOf (path : String) : Location := (Path.ofString path).absolute []

/-- A link to where it leads. One that leads nowhere is taken to name what is missing beside it, and
one that leads back to itself to name itself. -/
def linkAt (e : IO.FS.DirEntry) : IO Node := do
  let name := Text.encode e.fileName
  match ← e.path.metadata.toBaseIO with
  | .ok _ => return .link name (Path.ofString (← IO.FS.realPath e.path).toString)
  | .error (.noFileOrDirectory ..) => return .link name (Path.ofString (e.fileName ++ "~"))
  | .error _ => return .link name ⟨name⟩

partial def nodeAt (deep : Bool) (e : IO.FS.DirEntry) : IO Node := do
  let name := Text.encode e.fileName
  match (← e.path.symlinkMetadata).type with
  | .dir =>
    let inner ← if deep then (← e.path.readDir).toList.mapM (nodeAt deep) else pure []
    return .directory name inner
  | .symlink => linkAt e
  | _ => return .file name []

def trace (nodes : List Node) (directory : String) : List String → IO (List Node × Option String)
  | [] => return (withDirectories (locationOf directory) nodes, some directory)
  | s :: rest => do
    let e : IO.FS.DirEntry := ⟨directory, s⟩
    match ← e.path.symlinkMetadata.toBaseIO with
    | .error _ => return (nodes, none)
    | .ok _ =>
      let nodes ←
        if s = "." || s = ".." then pure nodes
        else pure (withNode (locationOf directory) (← nodeAt false e) nodes)
      match ← (IO.FS.realPath e.path).toBaseIO with
      | .error _ => return (nodes, none)
      | .ok real =>
        if ← real.isDir then trace nodes real.toString rest
        else return (withNode (locationOf real.toString).dropLast
          (.file ((locationOf real.toString).getLastD []) []) nodes, none)

def tracePath (nodes : List Node) (workingDirectory : String) (p : Path) : IO (List Node × Option String) :=
  trace nodes (if p.isAbsolute then "/" else workingDirectory) (p.segments.map Text.decode)

def snapshot (o : BuildOptions) : IO FileSystem := do
  match ← IO.currentDir.toBaseIO with
  | .error _ => return ⟨[], ⟨[], 1⟩⟩
  | .ok here =>
    let (nodes, found) ← tracePath [] here.toString o.scan.directory
    let nodes ← match found with
      | none => pure nodes
      | some directory =>
        let e : IO.FS.DirEntry := ⟨directory, "."⟩
        let scanned ← (← e.path.readDir).toList.mapM (nodeAt o.scan.recursive)
        pure (Node.changeAt (fun _ => scanned) (locationOf directory) nodes)
    let (nodes, _) ← tracePath nodes here.toString o.output
    let here := locationOf here.toString
    return ⟨withDirectories here nodes, ⟨here, 0⟩⟩

def store (fs : FileSystem) (p : Path) : IO Unit := do
  match fs.contentAt p with
  | .ok content => IO.FS.writeBinFile p.display ⟨content.toArray⟩
  | .error _ => pure ()

end Disk

end BarrelModule
