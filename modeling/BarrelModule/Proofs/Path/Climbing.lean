import BarrelModule.Proofs.Path.Lexical
import Mathlib.Data.List.Infix

namespace BarrelModule

open Text

namespace Path

def descends (s : Bytes) : Bool := s ≠ dot && s ≠ dotDot

/-- Of no opening part of the segments the way up is longer than the way down, but for a depth that is
there at the start. -/
def ClimbsAtMost (depth : Nat) (segments : List Bytes) : Prop :=
  ∀ init, init <+: segments → init.count dotDot ≤ depth + init.countP descends

structure StaysBelow (p : Path) : Prop where
  relative : p.isAbsolute = false
  climbs : ClimbsAtMost 0 p.segments

instance (depth : Nat) (segments : List Bytes) : Decidable (ClimbsAtMost depth segments) :=
  decidable_of_iff (∀ init ∈ segments.inits, init.count dotDot ≤ depth + init.countP descends)
    (by simp [ClimbsAtMost])

instance (p : Path) : Decidable p.StaysBelow :=
  decidable_of_iff (p.isAbsolute = false ∧ ClimbsAtMost 0 p.segments) ⟨fun ⟨a, b⟩ => ⟨a, b⟩, fun ⟨a, b⟩ => ⟨a, b⟩⟩

lemma ClimbsAtMost.of_prefix {depth : Nat} {init segments : List Bytes} (h : ClimbsAtMost depth segments)
    (hi : init <+: segments) : ClimbsAtMost depth init :=
  fun start hs => h start (hs.trans hi)

lemma climbsAtMost_cons {depth : Nat} {s : Bytes} {rest : List Bytes} :
    ClimbsAtMost depth (s :: rest) ↔
      ∀ init, init <+: rest → (s :: init).count dotDot ≤ depth + (s :: init).countP descends := by
  constructor
  · intro h init hi
    exact h (s :: init) (List.cons_prefix_cons.mpr ⟨rfl, hi⟩)
  · intro h init hi
    cases init with
    | nil => simp
    | cons t init =>
      obtain ⟨rfl, ht⟩ := List.cons_prefix_cons.mp hi
      exact h init ht

lemma climbsAtMost_dot {depth : Nat} {rest : List Bytes} :
    ClimbsAtMost depth (dot :: rest) ↔ ClimbsAtMost depth rest := by
  have hd : dot ≠ dotDot := by decide
  have hn : ¬ descends dot = true := by decide
  simp only [climbsAtMost_cons, List.count_cons_of_ne hd, List.countP_cons_of_neg hn]
  rfl

lemma climbsAtMost_dotDot {depth : Nat} {rest : List Bytes} :
    ClimbsAtMost depth (dotDot :: rest) ↔ 0 < depth ∧ ClimbsAtMost (depth - 1) rest := by
  have hn : ¬ descends dotDot = true := by decide
  simp only [climbsAtMost_cons, List.count_cons_self, List.countP_cons_of_neg hn]
  constructor
  · intro h
    have hpos : 0 < depth := by simpa [Nat.succ_le_iff] using h [] List.nil_prefix
    refine ⟨hpos, fun init hi => ?_⟩
    have hinit := h init hi
    omega
  · rintro ⟨hpos, h⟩ init hi
    have hinit := h init hi
    omega

lemma climbsAtMost_name {depth : Nat} {s : Bytes} {rest : List Bytes} (hs : s ≠ dot) (hs' : s ≠ dotDot) :
    ClimbsAtMost depth (s :: rest) ↔ ClimbsAtMost (depth + 1) rest := by
  have hd : descends s = true := by simp [descends, hs, hs']
  rw [climbsAtMost_cons, ClimbsAtMost]
  refine forall₂_congr fun init _ => ?_
  rw [List.count_cons_of_ne hs', List.countP_cons_of_pos hd]
  omega

lemma climbsAtMost_filter {depth : Nat} {segments : List Bytes} :
    ClimbsAtMost depth (segments.filter (· ≠ dot)) ↔ ClimbsAtMost depth segments := by
  induction segments generalizing depth with
  | nil => rfl
  | cons s rest ih =>
    by_cases hs : s = dot
    · subst hs
      rw [List.filter_cons_of_neg (by simp), climbsAtMost_dot, ih]
    · rw [List.filter_cons_of_pos (by simpa using hs)]
      by_cases hs' : s = dotDot
      · subst hs'
        rw [climbsAtMost_dotDot, climbsAtMost_dotDot, ih]
      · rw [climbsAtMost_name hs hs', climbsAtMost_name hs hs', ih]

end Path

namespace Location

lemma dropLast_append_of_pos (l : Location) {m : Location} (h : 0 < m.length) :
    (l ++ m).dropLast = l ++ m.dropLast :=
  List.dropLast_append_of_ne_nil (List.length_pos_iff.mp h)

lemma foldl_step_append (l : Location) {segments : List Bytes} {m : Location}
    (h : Path.ClimbsAtMost m.length segments) :
    segments.foldl step (l ++ m) = l ++ segments.foldl step m := by
  induction segments generalizing m with
  | nil => rfl
  | cons s rest ih =>
    rw [List.foldl_cons, List.foldl_cons]
    by_cases hs : s = Path.dot
    · subst hs
      exact ih (Path.climbsAtMost_dot.mp h)
    · by_cases hs' : s = Path.dotDot
      · subst hs'
        obtain ⟨hpos, hrest⟩ := Path.climbsAtMost_dotDot.mp h
        rw [step_dotDot, step_dotDot, dropLast_append_of_pos l hpos]
        exact ih (by rwa [List.length_dropLast])
      · rw [step_name _ hs hs', step_name _ hs hs', List.append_assoc]
        exact ih (by simpa using (Path.climbsAtMost_name hs hs').mp h)

lemma dropCommon_append (l m n : Location) : dropCommon (l ++ m) (l ++ n) = dropCommon m n := by
  induction l with
  | nil => rfl
  | cons k l ih => rw [List.cons_append, List.cons_append, dropCommon, if_pos rfl, ih]

theorem relative_append (l m n : Location) : relative (l ++ m) (l ++ n) = relative m n := by
  rw [relative, relative, dropCommon_append]

end Location

theorem Path.StaysBelow.absolute {p : Path} (h : p.StaysBelow) (l : Location) :
    p.absolute l = l ++ p.absolute [] := by
  have hl := Location.foldl_step_append l (show ClimbsAtMost (List.length []) p.segments from h.climbs)
  rw [List.append_nil] at hl
  simp only [absolute_eq, h.relative, Bool.false_eq_true, if_false, hl]

end BarrelModule
