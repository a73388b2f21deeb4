import BarrelModule.Log
import BarrelModule.Text.Fields
import BarrelModule.Unicode.Property

namespace BarrelModule

/-- Up to which level events are shown: everywhere, or from sources whose name starts as given. A
directive about a span shows no event, since no event stands in one. -/
inductive Directive where
  | shown (source : Option String) (rank : Nat)
  | span
  deriving DecidableEq, Repr

abbrev LogFilter := List Directive

namespace Directive

def rankOfName? (name : List Char) : Option Nat :=
  match String.ofList (name.map Char.toLower) with
  | "off" | "0" => some 0
  | "error" | "1" => some 1
  | "warn" | "2" => some 2
  | "info" | "3" => some 3
  | "debug" | "4" => some 4
  | "trace" | "5" => some 5
  | _ => none

def isSourceChar (c : Char) : Bool :=
  c = ':' || c = '-' || Unicode.CharSet.word.contains c

def rankBehind? : List Char → Option Nat
  | [] | ['='] => some 5
  | '=' :: name => rankOfName? name
  | _ :: _ => none

def parse? (text : List Char) : Option Directive :=
  match rankOfName? text with
  | some rank => some (.shown none rank)
  | none =>
    let source := text.takeWhile isSourceChar
    match text.drop source.length with
    | '[' :: more =>
      match more.dropWhile (· ≠ ']') with
      | ']' :: level => (rankBehind? level).map fun _ => .span
      | _ => none
    | level =>
      if source.isEmpty then none
      else (rankBehind? level).map fun rank => .shown (some (String.ofList source)) rank

def closeness? (source : String) : Directive → Option (Nat × Nat)
  | .shown none rank => some (0, rank)
  | .shown (some start) rank =>
    if start.toList.isPrefixOf source.toList then some (start.length + 1, rank) else none
  | .span => none

end Directive

namespace LogFilter

def parse? (text : String) : Option LogFilter :=
  match (Text.fields (· == ',') text.toList).filter (· ≠ []) with
  | [] => some [.shown none Level.error.rank]
  | parts => parts.mapM Directive.parse?

def ofVerbosity : Nat → LogFilter
  | 0 => [.shown none Level.warn.rank]
  | 1 => [.shown none Level.info.rank]
  | _ => [.shown none Level.debug.rank]

def choose (text : Option String) (verbosity : Nat) : LogFilter :=
  (text.bind parse?).getD (ofVerbosity verbosity)

/-- The rank up to which a source is shown: the closest directive decides, the last one of those. -/
def rankFor (f : LogFilter) (source : String) : Nat :=
  (f.foldl (fun best d =>
    match d.closeness? source with
    | some (closeness, rank) => if best.1 ≤ closeness then (closeness, rank) else best
    | none => best) (0, 0)).2

def shows (f : LogFilter) (e : Event) : Bool :=
  e.level.rank ≤ f.rankFor e.source

end LogFilter

end BarrelModule
