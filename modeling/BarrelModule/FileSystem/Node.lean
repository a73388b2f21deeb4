import BarrelModule.Path.Lexical

namespace BarrelModule

open Text

inductive Node where
  | file (name : FileName) (content : Bytes)
  | link (name : FileName) (target : Path)
  | directory (name : FileName) (nodes : List Node)

namespace Node

def name : Node → FileName
  | .file n _ => n
  | .link n _ => n
  | .directory n _ => n

def isDirectory : Node → Bool
  | .directory _ _ => true
  | _ => false

def rename (n : FileName) : Node → Node
  | .file _ content => .file n content
  | .link _ target => .link n target
  | .directory _ nodes => .directory n nodes

def find? (nodes : List Node) (n : FileName) : Option Node :=
  List.find? (fun node => node.name == n) nodes

def put (node : Node) (nodes : List Node) : List Node :=
  if (find? nodes node.name).isSome then nodes.map fun other => if other.name = node.name then node else other
  else nodes ++ [node]

def erase (n : FileName) (nodes : List Node) : List Node :=
  nodes.filter fun node => node.name ≠ n

def nodesAt? : Location → List Node → Option (List Node)
  | [], nodes => some nodes
  | n :: ns, nodes =>
    match find? nodes n with
    | some (.directory _ inner) => nodesAt? ns inner
    | _ => none

def changeAt (f : List Node → List Node) : Location → List Node → List Node
  | [], nodes => f nodes
  | n :: ns, nodes => nodes.map fun
    | .directory m inner => if m = n then .directory m (changeAt f ns inner) else .directory m inner
    | other => other

end Node

end BarrelModule
