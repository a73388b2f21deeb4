import BarrelModule.Path

namespace BarrelModule

abbrev Location := List FileName

namespace Location

def extend (l : Location) : Component → Location
  | .root => l
  | .current => l
  | .parent => l.dropLast
  | .name n => l ++ [n]

def dropCommon : Location → Location → Location × Location
  | m :: ms, n :: ns => if m = n then dropCommon ms ns else (m :: ms, n :: ns)
  | ms, ns => (ms, ns)

def relative (start target : Location) : Path :=
  let (up, down) := dropCommon start target
  ⟨Text.join Path.slash (up.map (fun _ => Path.dotDot) ++ down)⟩

end Location

/-- Where a path leads from a working directory when links are left out of account. -/
def Path.absolute (workingDirectory : Location) (p : Path) : Location :=
  p.components.foldl Location.extend (if p.isAbsolute then [] else workingDirectory)

end BarrelModule
