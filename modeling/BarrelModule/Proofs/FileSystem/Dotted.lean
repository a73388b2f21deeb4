import BarrelModule.Proofs.FileSystem.Walking

namespace BarrelModule

open Text

namespace Path

def dotted : Nat → Path → Path
  | 0, p => p
  | n + 1, p => ⟨dot ++ slash :: (dotted n p).bytes⟩

variable {p : Path}

lemma length_dotted (n : Nat) (p : Path) : (dotted n p).bytes.length = 2 * n + p.bytes.length := by
  induction n with
  | zero => simp [dotted]
  | succ n ih =>
    rw [dotted, List.length_append, List.length_cons, ih]
    simp [dot]
    omega

lemma segments_dotted (n : Nat) (p : Path) : (dotted n p).segments = List.replicate n dot ++ p.segments := by
  induction n with
  | zero => rfl
  | succ n ih =>
    rw [dotted, segments_append_slash, ih, List.replicate_succ]
    rfl

lemma dotted_isAbsolute (hp : p.isAbsolute = false) (n : Nat) : (dotted n p).isAbsolute = false := by
  cases n with
  | zero => exact hp
  | succ n => rfl

lemma dotted_bytes_ne_nil (hp : p.bytes ≠ []) (n : Nat) : (dotted n p).bytes ≠ [] := by
  cases n with
  | zero => exact hp
  | succ n => simp [dotted]

lemma dotted_endsInSlash (hp : p.bytes ≠ []) (n : Nat) : (dotted n p).endsInSlash = p.endsInSlash := by
  induction n with
  | zero => rfl
  | succ n ih =>
    have hlast : (dot ++ slash :: (dotted n p).bytes).getLast? = (dotted n p).bytes.getLast? := by
      rw [List.getLast?_append_of_ne_nil _ (by simp), List.getLast?_cons_of_ne_nil (dotted_bytes_ne_nil hp n)]
    rw [← ih, endsInSlash, endsInSlash, dotted, hlast]

lemma Usable.dotted (hp : p.Usable) (n : Nat) : (dotted n p).Usable := by
  refine ⟨dotted_bytes_ne_nil hp.ne_nil n, ?_⟩
  induction n with
  | zero => exact hp.nul_notMem
  | succ n ih => simpa [Path.dotted, dot, slash] using ih

-- A long one must not be unfolded where two paths are compared.
attribute [irreducible] dotted

end Path

namespace FileSystem

lemma descendWithin_dot (fs : FileSystem) (ending : Ending) (links : Nat) (slash : Bool) (rest : List Bytes)
    (place : Place) : descendWithin fs ending links (Path.dot :: rest) slash place =
      descendWithin fs ending links rest slash place := by
  rw [descendWithin_eq, descendWithin_eq, descend, if_pos rfl]

lemma descendWithin_dots (fs : FileSystem) (ending : Ending) (links : Nat) (slash : Bool) (n : Nat)
    (rest : List Bytes) (place : Place) :
    descendWithin fs ending links (List.replicate n Path.dot ++ rest) slash place =
      descendWithin fs ending links rest slash place := by
  induction n with
  | zero => rfl
  | succ n ih => rw [List.replicate_succ, List.cons_append, descendWithin_dot, ih]

lemma lead_dotted (fs : FileSystem) (ending : Ending) {p : Path} (hp : p.bytes ≠ []) (ha : p.isAbsolute = false)
    (n : Nat) : fs.lead ending (Path.dotted n p) = fs.lead ending p := by
  rw [lead, lead, startOf, startOf, Path.dotted_isAbsolute ha, ha, Path.dotted_endsInSlash hp,
    Path.segments_dotted, descendWithin_dots]

lemma linkFree_dotted (fs : FileSystem) {p : Path} (ha : p.isAbsolute = false) (n : Nat) :
    fs.LinkFree (Path.dotted n p) ↔ fs.LinkFree p := by
  rw [LinkFree, LinkFree, startOf, startOf, Path.dotted_isAbsolute ha, ha, Path.segments_dotted]
  induction n with
  | zero => rfl
  | succ n ih => rw [List.replicate_succ, List.cons_append, linkFreeFrom_dot, ih]

end FileSystem

end BarrelModule
