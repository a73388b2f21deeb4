import BarrelModule.Text.Fields
import BarrelModule.Text.Utf8

namespace BarrelModule

open Text

structure Path where
  bytes : Bytes
  deriving DecidableEq, Repr

abbrev FileName := Bytes

inductive Component where
  | root
  | current
  | parent
  | name (n : FileName)
  deriving DecidableEq, Repr

namespace Path

def slash : UInt8 := 0x2F

def dot : Bytes := [0x2E]

def dotDot : Bytes := [0x2E, 0x2E]

def ofString (s : String) : Path := ⟨encode s⟩

def display (p : Path) : String := decode p.bytes

def forwardSlashes (p : Path) : String :=
  String.ofList (p.display.toList.map fun c => if c = '\\' then '/' else c)

def isAbsolute (p : Path) : Bool := p.bytes.head? == some slash

def endsInSlash (p : Path) : Bool := p.bytes.getLast? == some slash

def segments (p : Path) : List Bytes :=
  (fields (· == slash) p.bytes).filter (· ≠ [])

def component (segment : Bytes) : Component :=
  if segment = dot then .current else if segment = dotDot then .parent else .name segment

/-- The components by which paths are compared: repeated slashes do not count, nor does a dot
other than the one that opens a relative path. -/
def components (p : Path) : List Component :=
  if p.isAbsolute then .root :: (p.segments.filter (· ≠ dot)).map component
  else match p.segments with
    | [] => []
    | s :: ss => component s :: (ss.filter (· ≠ dot)).map component

def child (directory : Path) (n : FileName) : Path :=
  if directory.bytes = [] || directory.endsInSlash then ⟨directory.bytes ++ n⟩
  else ⟨directory.bytes ++ slash :: n⟩

def childOf (directory : Path) (names : List FileName) : Path :=
  names.foldl child directory

def opening (p : Path) : Bytes :=
  if p.isAbsolute then [slash]
  else match fields (· == slash) p.bytes with
    | s :: _ => if s = dot then dot else []
    | [] => []

def trimEnd (fs : List Bytes) : List Bytes :=
  (fs.reverse.dropWhile fun f => f = [] || f = dot).reverse

def parent? (p : Path) : Option Path :=
  let body := trimEnd (fields (· == slash) (p.bytes.drop p.opening.length))
  match body with
  | [] => if p.opening = dot then some ⟨[]⟩ else none
  | _ :: _ => some ⟨p.opening ++ join slash (trimEnd body.dropLast)⟩

def below? (p directory : Path) : Option Path :=
  if directory.components.isPrefixOf p.components then
    some ⟨join slash ((p.components.drop directory.components.length).map fun
      | .root => [slash]
      | .current => dot
      | .parent => dotDot
      | .name n => n)⟩
  else none

end Path

end BarrelModule
