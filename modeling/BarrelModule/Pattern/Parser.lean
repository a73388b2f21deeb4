import BarrelModule.Pattern.Bracket
import BarrelModule.Pattern.Matching

namespace BarrelModule.Pattern

open Unicode

structure Tree where
  expression : Expression CharSet Assertion
  depth : Nat
  repeatable : Bool

namespace Tree

def deepest (ts : List Tree) : Nat := ts.foldl (fun d t => max d t.depth) 0

def concat : List Tree → Tree
  | [] => ⟨.nothing, 0, false⟩
  | [t] => t
  | ts => ⟨.sequence (ts.map Tree.expression), deepest ts + 1, true⟩

def alternation : List Tree → Tree
  | [] => ⟨.nothing, 0, false⟩
  | [t] => t
  | ts => ⟨.choice (ts.map Tree.expression), deepest ts + 1, true⟩

def group (t : Tree) : Tree := ⟨t.expression, t.depth + 1, true⟩

def repetition (t : Tree) (least : Nat) (most : Option Nat) : Tree :=
  ⟨.repeated t.expression least most, t.depth + 1, true⟩

def setting : Tree := ⟨.nothing, 0, false⟩

end Tree

namespace Reader

def ofAtom (a : Atom) : Reader Tree := do
  match a with
  | .literal c byte => return ⟨.step (← lift ((← flags).literal c byte)), 0, true⟩
  | .set s => return ⟨.step s, 0, true⟩
  | .assertion c => return ⟨.check c, 0, true⟩

def repeatedPart : List Tree → Reader (Tree × List Tree)
  | t :: ts => do
    require t.repeatable
    return (t, ts)
  | [] => failure

def lazyMark : Reader Unit := do
  if (← peek?) = some '?' then bump

def dropBlanks : Nat → Reader Unit
  | 0 => pure ()
  | fuel + 1 => do
    match ← peek? with
    | some c =>
      if isSpace c then
        bump
        dropBlanks fuel
    | none => pure ()

def greatestCount : Nat := 0xFFFFFFFF

def count? : Reader (Option Nat) := do
  dropBlanks (← rest).length
  let digits ← takeAllWhile Char.isDigit
  dropBlanks (← rest).length
  if digits.isEmpty then return none
  else
    let n := digits.foldl (fun n c => n * 10 + (c.toNat - '0'.toNat)) 0
    require (n ≤ greatestCount)
    return some n

def counts : Reader (Nat × Option Nat) := do
  bumpToNext
  let least ← count?
  let (least, most) ←
    if (← current) = ',' then do
      bumpToNext
      if (← current) = '\x7d' then
        pure (← lift least, none)
      else do
        let most ← lift (← count?)
        pure (least.getD 0, some most)
    else do
      let n ← lift least
      pure (n, some n)
  require ((← current) = '\x7d')
  bumpAndSkip
  require (most.all (least ≤ ·))
  return (least, most)

def isNameStart (c : Char) : Bool := c = '_' || CharSet.alphabetic.contains c

def isNameChar (c : Char) : Bool :=
  isNameStart c || c = '.' || c = '[' || c = ']' || CharSet.numeric.contains c

def groupName : Reader Unit := do
  let name := (← rest).takeWhile (· ≠ '>')
  setRest ((← rest).drop name.length)
  require ((← peek?) = some '>')
  bump
  match name with
  | [] => failure
  | c :: cs => require (isNameStart c && cs.all isNameChar)
  require (!(← get).groupNames.contains name)
  modify fun r => { r with groupNames := name :: r.groupNames }

def flagLetters : List Char := ['i', 'm', 's', 'U', 'u', 'R', 'x']

def setFlag (value : Bool) (letter : Char) (fs : Flags) : Flags :=
  match letter with
  | 'i' => { fs with caseless := value }
  | 'm' => { fs with multiline := value }
  | 's' => { fs with dotAll := value }
  | 'u' => { fs with unicode := value }
  | 'R' => { fs with crlf := value }
  | 'x' => { fs with spaced := value }
  | _ => fs

def applyFlags (letters : List Char) (fs : Flags) : Flags :=
  let set := letters.takeWhile (· ≠ '-')
  let cleared := letters.drop (set.length + 1)
  cleared.foldl (fun fs c => setFlag false c fs) (set.foldl (fun fs c => setFlag true c fs) fs)

def flagGroup : Reader (List Char) := do
  let letters := (← rest).takeWhile fun c => c ≠ ':' && c ≠ ')'
  setRest ((← rest).drop letters.length)
  let _ ← current
  require (letters.all fun c => c = '-' || flagLetters.contains c)
  require letters.Nodup
  require (letters.getLast? ≠ some '-')
  return letters

mutual
def branches : Nat → Reader (List Tree)
  | 0 => failure
  | fuel + 1 => do
    let branch := Tree.concat (← parts fuel []).reverse
    if (← peek?) = some '|' then
      bump
      return branch :: (← branches fuel)
    else return [branch]

def parts : Nat → List Tree → Reader (List Tree)
  | 0, _ => failure
  | fuel + 1, before => do
    skipSpace
    match ← peek? with
    | none => return before
    | some ')' => return before
    | some '|' => return before
    | some '(' => parts fuel ((← group fuel) :: before)
    | some '[' =>
      let t ← bracket fuel
      parts fuel (⟨.step t.set, t.depth, true⟩ :: before)
    | some '?' =>
      let (t, ts) ← repeatedPart before
      bump
      lazyMark
      parts fuel (t.repetition 0 (some 1) :: ts)
    | some '*' =>
      let (t, ts) ← repeatedPart before
      bump
      lazyMark
      parts fuel (t.repetition 0 none :: ts)
    | some '+' =>
      let (t, ts) ← repeatedPart before
      bump
      lazyMark
      parts fuel (t.repetition 1 none :: ts)
    | some '\x7b' =>
      let (t, ts) ← repeatedPart before
      let (least, most) ← counts
      lazyMark
      parts fuel (t.repetition least most :: ts)
    | some _ => parts fuel ((← ofAtom (← atom)) :: before)

def group : Nat → Reader Tree
  | 0 => failure
  | fuel + 1 => do
    bump
    skipSpace
    let outer ← flags
    if (← bumpIf ['?', 'P', '<']) then
      groupName
      groupBody fuel outer
    else if (← bumpIf ['?', '<']) then
      groupName
      groupBody fuel outer
    else if (← bumpIf ['?']) then
      let letters ← flagGroup
      let close ← current
      bump
      setFlags (applyFlags letters outer)
      if close = ')' then
        require (letters ≠ [])
        return Tree.setting
      else groupBody fuel outer
    else groupBody fuel outer

/-- The inside of a group; the flags set in it end with it. -/
def groupBody : Nat → Flags → Reader Tree
  | 0, _ => failure
  | fuel + 1, outer => do
    let t := Tree.alternation (← branches fuel)
    require ((← peek?) = some ')')
    setFlags outer
    bump
    return t.group
end

def deepestNesting : Nat := 250

def whole (source : List Char) : Reader Tree := do
  let t := Tree.alternation (← branches (4 * source.length + 8))
  require ((← peek?) = none)
  require (t.depth ≤ deepestNesting)
  return t

end Reader

end Pattern

structure Pattern where
  source : String
  expression : Pattern.Expression Unicode.CharSet Pattern.Assertion
  deriving Repr

namespace Pattern

def parse? (source : String) : Option Pattern :=
  (Reader.whole source.toList ⟨source.toList, {}, []⟩).map fun (t, _) => ⟨source, t.expression⟩

def occursIn (p : Pattern) (text : String) : Bool :=
  p.expression.occursIn text.toList

end Pattern

end BarrelModule
