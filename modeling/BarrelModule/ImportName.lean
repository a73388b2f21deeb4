import BarrelModule.Text.Fields
import BarrelModule.Unicode.Uppercase

namespace BarrelModule

def isWordChar (c : Char) : Bool :=
  c.isAlphanum || c == '_'

def capitalizeFirst : List Char → List Char
  | [] => []
  | c :: cs => Unicode.uppercase c ++ cs

def endsInWord (path : List Char) : Bool :=
  match path.getLast? with
  | some c => isWordChar c
  | none => false

/-- The words of a path from which its import name is made: a word at the very end of the path is its
extension and is left out. -/
def nameWords (path : List Char) : List (List Char) :=
  let words := (Text.fields (fun c => !isWordChar c) path).filter (· ≠ [])
  if endsInWord path then words.dropLast else words

def importName (path : String) : String :=
  String.ofList ((nameWords path.toList).flatMap capitalizeFirst)

def isIdentifier (name : String) : Bool :=
  match name.toList with
  | [] => false
  | c :: cs => (c.isAlpha || c == '_' || c == '$') && cs.all fun c => isWordChar c || c == '$'

end BarrelModule
