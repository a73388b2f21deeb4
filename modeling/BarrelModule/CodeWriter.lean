import BarrelModule.Fragment

namespace BarrelModule

structure CodeWriter where
  level : Nat
  text : String
  deriving DecidableEq, Repr

namespace CodeWriter

def empty : CodeWriter := ⟨0, ""⟩

def indentation : Nat → String
  | 0 => ""
  | n + 1 => "    " ++ indentation n

def pushLine (w : CodeWriter) (line : String) : CodeWriter :=
  { w with text := w.text ++ (indentation w.level ++ line ++ "\n") }

def pushBlank (w : CodeWriter) : CodeWriter :=
  { w with text := w.text ++ "\n" }

def deeper (w : CodeWriter) : CodeWriter :=
  { w with level := w.level + 1 }

def shallower (w : CodeWriter) : CodeWriter :=
  { w with level := w.level - 1 }

mutual
def push (w : CodeWriter) : Fragment → CodeWriter
  | .line text => w.pushLine text
  | .block header body close =>
    let inner := ((w.pushLine header).deeper.pushAll body).shallower
    match close with
    | some line => inner.pushLine line
    | none => inner

def pushAll (w : CodeWriter) : List Fragment → CodeWriter
  | [] => w
  | f :: fs => (w.push f).pushAll fs
end

end CodeWriter

end BarrelModule
