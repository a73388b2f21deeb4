import BarrelModule.FileSystem

namespace BarrelModule

namespace Node

def before (a b : FileName × List (Location × Node)) : Bool := a.1 ≤ b.1

mutual
def listing : Node → List (Location × Node)
  | .file n content => [([n], .file n content)]
  | .link n target => [([n], .link n target)]
  | .directory n nodes =>
    ([n], .directory n nodes) ::
      (((listings nodes).mergeSort before).flatMap Prod.snd).map fun (l, node) => (n :: l, node)

def listings : List Node → List (FileName × List (Location × Node))
  | [] => []
  | node :: nodes => (node.name, node.listing) :: listings nodes
end

end Node

def FileSystem.listingAt (fs : FileSystem) (l : Location) : List (Location × Node) :=
  ((Node.listings (fs.nodesIn ⟨l, 0⟩)).mergeSort Node.before).flatMap Prod.snd

end BarrelModule
