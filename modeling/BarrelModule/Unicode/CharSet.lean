import BarrelModule.Unicode.Category
import BarrelModule.Unicode.Folding

namespace BarrelModule.Unicode

inductive CharSet where
  | empty
  | runs (rs : Runs)
  | union (s t : CharSet)
  | inter (s t : CharSet)
  | complement (s : CharSet)
  | caseless (s : CharSet)
  | asciiCaseless (s : CharSet)
  deriving DecidableEq, Repr

namespace CharSet

def otherCase (c : Char) : Char :=
  if c.isUpper then c.toLower else c.toUpper

/-- A caseless set holds every character with a case variant in the set that it is made from. -/
def contains : CharSet → Char → Bool
  | .empty, _ => false
  | .runs rs, c => rs.contains c.toNat
  | .union s t, c => s.contains c || t.contains c
  | .inter s t, c => s.contains c && t.contains c
  | .complement s, c => !s.contains c
  | .caseless s, c => (caseVariants c).any s.contains
  | .asciiCaseless s, c => s.contains c || s.contains (otherCase c)

def range (first last : Char) : CharSet := .runs [(first.toNat, last.toNat, 1)]

def single (c : Char) : CharSet := range c c

def ofList (cs : List Char) : CharSet := .runs (cs.map fun c => (c.toNat, c.toNat, 1))

def difference (s t : CharSet) : CharSet := .inter s (.complement t)

def symmetricDifference (s t : CharSet) : CharSet := .union (difference s t) (difference t s)

def unions : List CharSet → CharSet
  | [] => .empty
  | [s] => s
  | s :: ss => .union s (unions ss)

def ofCategories (cs : List Category) : CharSet := unions (cs.map fun c => .runs c.runs)

end CharSet

end BarrelModule.Unicode
