import BarrelModule.Pattern.Expression

namespace BarrelModule.Pattern

open Unicode

abbrev Positions := Nat

namespace Positions

def ofPredicate : List Bool → Positions
  | [] => 0
  | b :: bs => 2 * ofPredicate bs + b.toNat

def firsts (n : Nat) : Positions := (1 <<< n) - 1

/-- A function applied a number of times; once it changes nothing, it changes nothing more. -/
def iterate (f : Positions → Positions) : Nat → Positions → Positions
  | 0, s => s
  | n + 1, s =>
    let t := f s
    if t = s then s else iterate f n t

def closure (f : Positions → Positions) (rounds : Nat) (s : Positions) : Positions :=
  iterate (fun t => t ||| f t) rounds s

end Positions

def neighbours : Option Char → List Char → List (Option Char × Option Char)
  | before, [] => [(before, none)]
  | before, c :: cs => (before, some c) :: neighbours (some c) cs

namespace Expression

/-- From the positions where a match may stand to those where it may end. Steps and checks are given
as the positions where they succeed. -/
def advance (length : Nat) : Expression Positions Positions → Positions → Positions
  | .nothing, s => s
  | .step p, s => (s &&& p) <<< 1
  | .check p, s => s &&& p
  | .seq e f, s => f.advance length (e.advance length s)
  | .either e f, s => e.advance length s ||| f.advance length s
  | .repeated e least most, s =>
    Positions.closure (e.advance length)
      (match most with
        | some n => n - least
        | none => length + 1)
      (Positions.iterate (e.advance length) least s)

def onText (text : List Char) (e : Expression CharSet Assertion) : Expression Positions Positions :=
  e.map (fun set => Positions.ofPredicate (text.map set.contains))
    (fun a => Positions.ofPredicate ((neighbours none text).map fun (before, after) => a.holds before after))

def occursIn (e : Expression CharSet Assertion) (text : List Char) : Bool :=
  (e.onText text).advance text.length (Positions.firsts (text.length + 1)) ≠ 0

end Expression

end BarrelModule.Pattern
