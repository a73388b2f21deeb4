import BarrelModule.Unicode.Property

namespace BarrelModule.Pattern

open Unicode

inductive Assertion where
  | textStart
  | textEnd
  | lineStart (crlf : Bool)
  | lineEnd (crlf : Bool)
  | wordBoundary (word : CharSet)
  | notWordBoundary (word : CharSet)
  | wordStart (word : CharSet)
  | wordEnd (word : CharSet)
  | wordStartHalf (word : CharSet)
  | wordEndHalf (word : CharSet)
  deriving DecidableEq, Repr

namespace Assertion

def within (word : CharSet) (c : Option Char) : Bool := c.any word.contains

def holds (before after : Option Char) : Assertion → Bool
  | .textStart => before.isNone
  | .textEnd => after.isNone
  | .lineStart false => before.isNone || before == some '\n'
  | .lineStart true => before.isNone || before == some '\n' || (before == some '\r' && after != some '\n')
  | .lineEnd false => after.isNone || after == some '\n'
  | .lineEnd true => after.isNone || after == some '\r' || (after == some '\n' && before != some '\r')
  | .wordBoundary word => within word before != within word after
  | .notWordBoundary word => within word before == within word after
  | .wordStart word => !within word before && within word after
  | .wordEnd word => within word before && !within word after
  | .wordStartHalf word => !within word before
  | .wordEndHalf word => !within word after

end Assertion

inductive Expression (Step Check : Type) where
  | nothing
  | step (s : Step)
  | check (c : Check)
  | seq (e f : Expression Step Check)
  | either (e f : Expression Step Check)
  | repeated (e : Expression Step Check) (least : Nat) (most : Option Nat)
  deriving Repr

namespace Expression

variable {Step Check Step' Check' : Type}

def map (f : Step → Step') (g : Check → Check') :
    Expression Step Check → Expression Step' Check'
  | .nothing => .nothing
  | .step s => .step (f s)
  | .check c => .check (g c)
  | .seq e e' => .seq (e.map f g) (e'.map f g)
  | .either e e' => .either (e.map f g) (e'.map f g)
  | .repeated e least most => .repeated (e.map f g) least most

def sequence : List (Expression Step Check) → Expression Step Check
  | [] => .nothing
  | [e] => e
  | e :: es => .seq e (sequence es)

def choice : List (Expression Step Check) → Expression Step Check
  | [] => .nothing
  | [e] => e
  | e :: es => .either e (choice es)

end Expression

end BarrelModule.Pattern
