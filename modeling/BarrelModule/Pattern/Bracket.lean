import BarrelModule.Pattern.Atom

namespace BarrelModule.Pattern

open Unicode

structure SetTree where
  set : CharSet
  depth : Nat

inductive SetOperator where
  | intersection
  | difference
  | symmetricDifference
  deriving DecidableEq, Repr

namespace SetTree

def union : List SetTree → SetTree
  | [] => ⟨.empty, 0⟩
  | [t] => t
  | ts => ⟨CharSet.unions (ts.map SetTree.set), (ts.foldl (fun d t => max d t.depth) 0) + 1⟩

def combine (fs : Flags) (operator : SetOperator) (l r : SetTree) : SetTree :=
  let s := fs.close l.set
  let t := fs.close r.set
  let set := match operator with
    | .intersection => .inter s t
    | .difference => CharSet.difference s t
    | .symmetricDifference => CharSet.symmetricDifference s t
  ⟨set, max l.depth r.depth + 1⟩

def finish (fs : Flags) (pending : Option (SetOperator × SetTree)) (right : SetTree) : SetTree :=
  match pending with
  | none => right
  | some (operator, left) => combine fs operator left right

end SetTree

namespace Reader

/-- A named set of ASCII characters between colons; anything else there is an ordinary set. -/
def asciiClass : Reader (Option (CharSet × Bool)) := do
  match ← rest with
  | '[' :: ':' :: cs =>
    let (negated, cs) := match cs with
      | '^' :: more => (true, more)
      | _ => (false, cs)
    let name := cs.takeWhile (· ≠ ':')
    match cs.drop name.length, AsciiSet.named.lookup (String.ofList name) with
    | ':' :: ']' :: more, some set =>
      setRest more
      return some (set, negated)
    | _, _ => return none
  | _ => return none

def asSet (a : Atom) : Reader CharSet := do
  match a with
  | .set s => return s
  | .literal c byte =>
    let fs ← flags
    require (fs.unicode || c.toNat ≤ 0x7F)
    lift (fs.literal c byte)
  | .assertion _ => failure

def asLiteral (a : Atom) : Reader Char := do
  match a with
  | .literal c _ =>
    require ((← flags).unicode || c.toNat ≤ 0x7F)
    return c
  | _ => failure

def setAtom : Reader Atom := do
  match ← current with
  | '\\' => escape
  | c =>
    bump
    return .literal c false

def peekPast : Reader (Option Char) := do
  let cs := (← rest).tail
  return if (← flags).spaced then (afterSpace false cs).head? else cs.head?

def setRange : Reader SetTree := do
  let first ← setAtom
  skipSpace
  let c ← current
  let next ← peekPast
  if c ≠ '-' || next = some ']' || next = some '-' then return ⟨← asSet first, 0⟩
  else
    bumpToNext
    let last ← setAtom
    let a ← asLiteral first
    let b ← asLiteral last
    require (a ≤ b)
    return ⟨.range a b, 0⟩

def leadingHyphens : Nat → Reader (List SetTree)
  | 0 => pure []
  | fuel + 1 => do
    if (← current) = '-' then
      bumpToNext
      return ⟨.single '-', 0⟩ :: (← leadingHyphens fuel)
    else pure []

def setOperator? : List Char → Option SetOperator
  | '&' :: '&' :: _ => some .intersection
  | '-' :: '-' :: _ => some .difference
  | '~' :: '~' :: _ => some .symmetricDifference
  | _ => none

mutual
def bracket : Nat → Reader SetTree
  | 0 => failure
  | fuel + 1 => do
    bumpToNext
    let negated := (← current) = '^'
    if negated then bumpToNext
    let hyphens ← leadingHyphens fuel
    let front ←
      if hyphens.isEmpty && (← current) = ']' then do
        bumpToNext
        pure [⟨.single ']', 0⟩]
      else pure hyphens
    let inner ← setItems fuel none front.reverse
    let fs ← flags
    return ⟨← lift (fs.negate negated (fs.close inner.set)), inner.depth + 1⟩

def setItems : Nat → Option (SetOperator × SetTree) → List SetTree → Reader SetTree
  | 0, _, _ => failure
  | fuel + 1, pending, items => do
    skipSpace
    let fs ← flags
    match ← current with
    | ']' =>
      bump
      return SetTree.finish fs pending (SetTree.union items.reverse)
    | '[' =>
      match ← asciiClass with
      | some (set, negated) =>
        setItems fuel pending (⟨← lift (fs.negate negated (fs.close set)), 0⟩ :: items)
      | none => setItems fuel pending ((← bracket fuel) :: items)
    | _ =>
      match setOperator? (← rest) with
      | some operator =>
        bump
        bump
        setItems fuel (some (operator, SetTree.finish fs pending (SetTree.union items.reverse))) []
      | none => setItems fuel pending ((← setRange) :: items)
end

end Reader

end BarrelModule.Pattern
