import BarrelModule.Pattern.Expression

namespace BarrelModule.Pattern

open Unicode

structure Flags where
  caseless : Bool := false
  multiline : Bool := false
  dotAll : Bool := false
  crlf : Bool := false
  unicode : Bool := true
  spaced : Bool := false
  deriving DecidableEq, Repr

structure Reading where
  rest : List Char
  flags : Flags
  groupNames : List (List Char)

abbrev Reader := StateT Reading Option

namespace Reader

def isSpace (c : Char) : Bool := CharSet.whiteSpace.contains c

def afterSpace : Bool → List Char → List Char
  | _, [] => []
  | true, c :: cs => afterSpace (c ≠ '\n') cs
  | false, c :: cs =>
    if isSpace c then afterSpace false cs
    else if c = '#' then afterSpace true cs
    else c :: cs

def flags : Reader Flags := return (← get).flags

def rest : Reader (List Char) := return (← get).rest

def setRest (cs : List Char) : Reader Unit := modify fun r => { r with rest := cs }

def setFlags (fs : Flags) : Reader Unit := modify fun r => { r with flags := fs }

def require (condition : Bool) : Reader Unit := if condition then pure () else failure

def skipSpace : Reader Unit := do
  if (← flags).spaced then setRest (afterSpace false (← rest))

def peek? : Reader (Option Char) := return (← rest).head?

def current : Reader Char := do
  match ← peek? with
  | some c => pure c
  | none => failure

def bump : Reader Unit := do setRest (← rest).tail

def bumpToNext : Reader Unit := do
  bump
  skipSpace
  let _ ← current

def bumpAndSkip : Reader Unit := do
  bump
  skipSpace

def bumpIf (text : List Char) : Reader Bool := do
  let cs ← rest
  if text.isPrefixOf cs then
    setRest (cs.drop text.length)
    return true
  else return false

def takeWhile (test : Char → Bool) : Nat → Reader (List Char)
  | 0 => pure []
  | fuel + 1 => do
    match ← peek? with
    | some c =>
      if test c then
        bumpAndSkip
        return c :: (← takeWhile test fuel)
      else pure []
    | none => pure []

def takeAllWhile (test : Char → Bool) : Reader (List Char) := do
  takeWhile test (← rest).length

end Reader

end BarrelModule.Pattern
