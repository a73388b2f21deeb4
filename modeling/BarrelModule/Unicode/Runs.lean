namespace BarrelModule.Unicode

abbrev Runs := List (Nat × Nat × Nat)

namespace Runs

def contains (rs : Runs) (n : Nat) : Bool :=
  rs.any fun (first, last, step) => first ≤ n && n ≤ last && (n - first) % step == 0

end Runs

abbrev Shifts := List (Nat × Nat × Nat × Int)

namespace Shifts

def image? (ss : Shifts) (n : Nat) : Option Nat :=
  ss.findSome? fun (first, last, step, shift) =>
    if first ≤ n && n ≤ last && (n - first) % step == 0 then some (n + shift).toNat else none

def preimages (ss : Shifts) (n : Nat) : List Nat :=
  ss.filterMap fun (first, last, step, shift) =>
    let m := (n - shift).toNat
    if first ≤ m && m ≤ last && (m - first) % step == 0 && (m + shift).toNat == n then some m else none

end Shifts

end BarrelModule.Unicode
