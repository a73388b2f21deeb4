import BarrelModule.Pattern.Reader

namespace BarrelModule.Pattern

open Unicode

/-- The least parts of a pattern. A character written as two hexadecimal digits stands for a byte
where the pattern is not read as Unicode. -/
inductive Atom where
  | literal (c : Char) (byte : Bool)
  | set (s : CharSet)
  | assertion (a : Assertion)

namespace AsciiSet

def digit : CharSet := .range '0' '9'
def lower : CharSet := .range 'a' 'z'
def upper : CharSet := .range 'A' 'Z'
def alpha : CharSet := .union lower upper
def alnum : CharSet := .union alpha digit
def word : CharSet := .union alnum (.single '_')
def space : CharSet := .ofList ['\t', '\n', '\x0b', '\x0c', '\r', ' ']
def punct : CharSet := CharSet.unions
  [.range '!' '/', .range ':' '@', .range '[' (Char.ofNat 0x60), .range '\x7b' '~']

def named : List (String × CharSet) := [
  ("alnum", alnum), ("alpha", alpha), ("ascii", .range '\x00' '\x7f'), ("blank", .ofList ['\t', ' ']),
  ("cntrl", .union (.range '\x00' '\x1f') (.single '\x7f')), ("digit", digit), ("graph", .range '!' '~'),
  ("lower", lower), ("print", .range ' ' '~'), ("punct", punct), ("space", space), ("upper", upper),
  ("word", word), ("xdigit", CharSet.unions [digit, .range 'A' 'F', .range 'a' 'f'])]

end AsciiSet

namespace Flags

def wordSet (fs : Flags) : CharSet := if fs.unicode then .word else AsciiSet.word

def close (fs : Flags) (s : CharSet) : CharSet :=
  if fs.caseless then (if fs.unicode then .caseless s else .asciiCaseless s) else s

/-- Only sets of Unicode characters have a complement that is again a set of characters. -/
def negate (fs : Flags) (negated : Bool) (s : CharSet) : Option CharSet :=
  if negated then (if fs.unicode then some (.complement s) else none) else some s

def literal (fs : Flags) (c : Char) (byte : Bool) : Option CharSet :=
  if fs.unicode then some (fs.close (.single c))
  else if c.toNat ≤ 0x7F then some (fs.close (.single c))
  else if byte then none
  else some (.single c)

end Flags

namespace Reader

def lift {α : Type} (a : Option α) : Reader α := fun r => a.map (·, r)

def isMeta (c : Char) : Bool :=
  ['\\', '.', '+', '*', '?', '(', ')', '|', '[', ']', '\x7b', '\x7d', '^', '$', '#', '&', '-', '~'].contains c

def isEscapable (c : Char) : Bool :=
  isMeta c || (c.toNat ≤ 0x7F && !c.isAlphanum && c ≠ '<' && c ≠ '>')

def hexValue? (c : Char) : Option Nat :=
  if c.isDigit then some (c.toNat - '0'.toNat)
  else if 'a' ≤ c && c ≤ 'f' then some (c.toNat - 'a'.toNat + 10)
  else if 'A' ≤ c && c ≤ 'F' then some (c.toNat - 'A'.toNat + 10)
  else none

def charOfHex? (digits : List Char) : Option Char :=
  let n := digits.foldl (fun n c => n * 16 + (hexValue? c).getD 0) 0
  if Nat.isValidChar n then some (Char.ofNat n) else none

def hexDigit : Reader Char := do
  let c ← current
  require (hexValue? c).isSome
  return c

def hexDigits : Nat → Reader (List Char)
  | 0 => pure []
  | 1 => do
    let c ← hexDigit
    bumpAndSkip
    return [c]
  | n + 2 => do
    let c ← hexDigit
    bumpToNext
    return c :: (← hexDigits (n + 1))

def hexEscape (letter : Char) : Reader Atom := do
  bumpToNext
  if (← current) = '\x7b' then
    bumpToNext
    let digits ← takeAllWhile fun c => (hexValue? c).isSome
    require ((← current) = '\x7d')
    bumpAndSkip
    require (digits ≠ [])
    return .literal (← lift (charOfHex? digits)) false
  else
    let digits ← hexDigits (if letter = 'x' then 2 else if letter = 'u' then 4 else 8)
    return .literal (← lift (charOfHex? digits)) (letter = 'x')

def cutAt (separator : List Char) : List Char → Option (List Char × List Char)
  | [] => none
  | c :: cs =>
    if separator.isPrefixOf (c :: cs) then some ([], (c :: cs).drop separator.length)
    else (cutAt separator cs).map fun (front, back) => (c :: front, back)

def property? (name : List Char) : Option (CharSet × Bool) :=
  match cutAt ['!', '='] name with
  | some (p, v) => (Property.ofValue? p v).map (·, true)
  | none =>
    match cutAt [':'] name with
    | some (p, v) => (Property.ofValue? p v).map (·, false)
    | none =>
      match cutAt ['='] name with
      | some (p, v) => (Property.ofValue? p v).map (·, false)
      | none => (Property.ofName? name).map (·, false)

def propertyEscape (letter : Char) : Reader Atom := do
  bumpToNext
  let c ← current
  let (set, unequal) ←
    if c = '\x7b' then do
      bumpToNext
      let name ← takeAllWhile (· ≠ '\x7d')
      let _ ← current
      bump
      lift (property? name)
    else do
      require (c ≠ '\\')
      bumpAndSkip
      lift (property? [c])
  let fs ← flags
  require fs.unicode
  return .set (← lift (fs.negate ((letter = 'P') != unequal) (fs.close set)))

def classEscape (letter : Char) : Reader Atom := do
  let fs ← flags
  let set := match letter.toLower with
    | 'd' => if fs.unicode then CharSet.digit else AsciiSet.digit
    | 's' => if fs.unicode then CharSet.whiteSpace else AsciiSet.space
    | _ => fs.wordSet
  return .set (← lift (fs.negate letter.isUpper set))

/-- The special boundaries, written as a word between braces behind the escape of a boundary. What
else stands between braces there is a count. -/
def boundary : Reader Atom := do
  let word := (← flags).wordSet
  if (← peek?) = some '\x7b' then
    let before ← rest
    let isNameChar := fun (c : Char) => c.isAlpha || c = '-'
    bumpToNext
    if isNameChar (← current) then
      let name ← takeAllWhile isNameChar
      require ((← current) = '\x7d')
      bump
      match String.ofList name with
      | "start" => return .assertion (.wordStart word)
      | "end" => return .assertion (.wordEnd word)
      | "start-half" => return .assertion (.wordStartHalf word)
      | "end-half" => return .assertion (.wordEndHalf word)
      | _ => failure
    else
      setRest before
      return .assertion (.wordBoundary word)
  else return .assertion (.wordBoundary word)

def escape : Reader Atom := do
  bump
  let c ← current
  match c with
  | 'x' | 'u' | 'U' => hexEscape c
  | 'p' | 'P' => propertyEscape c
  | 'd' | 's' | 'w' | 'D' | 'S' | 'W' =>
    bump
    classEscape c
  | _ =>
    bump
    if isEscapable c then return .literal c false
    else match c with
      | 'a' => return .literal '\x07' false
      | 'f' => return .literal '\x0c' false
      | 't' => return .literal '\t' false
      | 'n' => return .literal '\n' false
      | 'r' => return .literal '\r' false
      | 'v' => return .literal '\x0b' false
      | 'A' => return .assertion .textStart
      | 'z' => return .assertion .textEnd
      | 'b' => boundary
      | 'B' => return .assertion (.notWordBoundary (← flags).wordSet)
      | '<' => return .assertion (.wordStart (← flags).wordSet)
      | '>' => return .assertion (.wordEnd (← flags).wordSet)
      | _ => failure

def dot : Reader Atom := do
  bump
  let fs ← flags
  require fs.unicode
  return .set (if fs.dotAll then .complement .empty
    else .complement (.ofList (if fs.crlf then ['\r', '\n'] else ['\n'])))

def lineStart : Reader Atom := do
  bump
  let fs ← flags
  return .assertion (if fs.multiline then .lineStart fs.crlf else .textStart)

def lineEnd : Reader Atom := do
  bump
  let fs ← flags
  return .assertion (if fs.multiline then .lineEnd fs.crlf else .textEnd)

def atom : Reader Atom := do
  match ← current with
  | '\\' => escape
  | '.' => dot
  | '^' => lineStart
  | '$' => lineEnd
  | c =>
    bump
    return .literal c false

end Reader

end BarrelModule.Pattern
