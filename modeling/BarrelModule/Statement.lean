import BarrelModule.CodeWriter

namespace BarrelModule

inductive Literal where
  | array (elements : List String)
  | object (properties : List (String × String))
  deriving DecidableEq, Repr

namespace Literal

def opening : Literal → String
  | .array _ => "["
  | .object _ => "\x7b"

def closing : Literal → String
  | .array _ => "]"
  | .object _ => "\x7d"

def items : Literal → List String
  | .array elements => elements
  | .object properties => properties.map fun (key, value) => "[" ++ key ++ "]: " ++ value

end Literal

def separated : List String → List String
  | [] => []
  | [item] => [item]
  | item :: items => (item ++ ",") :: separated items

inductive Statement where
  | importDefault (binding specifier : String)
  | exportDefault (literal : Literal)
  deriving DecidableEq, Repr

namespace Statement

def fragments : Statement → List Fragment
  | .importDefault binding specifier => [.line ("import " ++ binding ++ " from \"" ++ specifier ++ "\"")]
  | .exportDefault literal =>
    let header := "export default " ++ literal.opening
    match literal.items with
    | [] => [.line (header ++ literal.closing)]
    | items => [.block header ((separated items).map .line) (some literal.closing)]

end Statement

def CodeWriter.emit (w : CodeWriter) (s : Statement) : CodeWriter :=
  w.pushAll s.fragments

end BarrelModule
