import BarrelModule.Pattern.Parser

namespace BarrelModule

structure Filter where
  opening : String
  ending : String
  pattern : Option Pattern

namespace Filter

def all : Filter := ⟨"", "", none⟩

def accepts (f : Filter) (name : String) : Bool :=
  match f.pattern with
  | some p => p.occursIn name
  | none => f.opening.toList.isPrefixOf name.toList && f.ending.toList.isSuffixOf name.toList

end Filter

end BarrelModule
