namespace BarrelModule

inductive Fragment where
  | line (text : String)
  | block (header : String) (body : List Fragment) (close : Option String)

namespace Fragment

mutual
def flatten (depth : Nat) : Fragment → List (Nat × String)
  | .line text => [(depth, text)]
  | .block header body close =>
    (depth, header) :: flattenAll (depth + 1) body ++ close.toList.map (depth, ·)

def flattenAll (depth : Nat) : List Fragment → List (Nat × String)
  | [] => []
  | f :: fs => flatten depth f ++ flattenAll depth fs
end

end Fragment

end BarrelModule
