import BarrelModule.FileSystem
import BarrelModule.Proofs.Text.Fields
import Mathlib.Data.List.Basic

namespace BarrelModule

open Text

structure Path.Usable (p : Path) : Prop where
  ne_nil : p.bytes ≠ []
  nul_notMem : (0 : UInt8) ∉ p.bytes

def Path.Fits (p : Path) : Prop := p.bytes.length ≤ FileSystem.longestPath

structure Path.Accepted (p : Path) : Prop extends Path.Usable p where
  fits : p.Fits

structure Segment (s : Bytes) : Prop where
  ne_nil : s ≠ []
  slash_notMem : Path.slash ∉ s
  nul_notMem : (0 : UInt8) ∉ s

structure LookedUp (s : Bytes) : Prop where
  ne_dot : s ≠ Path.dot
  ne_dotDot : s ≠ Path.dotDot
  length_le : s.length ≤ FileSystem.longestName

structure FileName.Valid (n : FileName) : Prop extends Segment n, LookedUp n

structure FileName.Proper (n : FileName) : Prop extends Segment n where
  ne_dot : n ≠ Path.dot
  ne_dotDot : n ≠ Path.dotDot

lemma FileName.Valid.proper {n : FileName} (h : n.Valid) : n.Proper := ⟨h.toSegment, h.ne_dot, h.ne_dotDot⟩

instance (p : Path) : Decidable p.Usable :=
  decidable_of_iff (p.bytes ≠ [] ∧ (0 : UInt8) ∉ p.bytes) ⟨fun ⟨a, b⟩ => ⟨a, b⟩, fun ⟨a, b⟩ => ⟨a, b⟩⟩

instance (p : Path) : Decidable p.Fits := inferInstanceAs (Decidable (_ ≤ _))

instance (n : FileName) : Decidable n.Valid :=
  decidable_of_iff
    (n ≠ [] ∧ Path.slash ∉ n ∧ (0 : UInt8) ∉ n ∧ n ≠ Path.dot ∧ n ≠ Path.dotDot ∧
      n.length ≤ FileSystem.longestName)
    ⟨fun ⟨a, b, c, d, e, f⟩ => ⟨⟨a, b, c⟩, ⟨d, e, f⟩⟩, fun ⟨⟨a, b, c⟩, ⟨d, e, f⟩⟩ => ⟨a, b, c, d, e, f⟩⟩

instance (n : FileName) : Decidable n.Proper :=
  decidable_of_iff (n ≠ [] ∧ Path.slash ∉ n ∧ (0 : UInt8) ∉ n ∧ n ≠ Path.dot ∧ n ≠ Path.dotDot)
    ⟨fun ⟨a, b, c, d, e⟩ => ⟨⟨a, b, c⟩, d, e⟩, fun ⟨⟨a, b, c⟩, d, e⟩ => ⟨a, b, c, d, e⟩⟩

namespace Path

lemma fields_of_slash_notMem {bs : Bytes} (h : slash ∉ bs) : fields (· == slash) bs = [bs] := by
  apply fields_of_forall_not
  intro b hb
  have hne : b ≠ slash := fun he => h (he ▸ hb)
  simpa using hne

lemma Usable.segment {p : Path} (h : p.Usable) {s : Bytes} (hs : s ∈ p.segments) : Segment s := by
  obtain ⟨hf, hn⟩ := List.mem_filter.mp hs
  refine ⟨by simpa using hn, ?_, ?_⟩
  · intro hm
    simpa using (mem_of_mem_fields hf hm).2
  · intro hm
    exact h.nul_notMem (mem_of_mem_fields hf hm).1

lemma segments_append_slash (as bs : Bytes) :
    segments ⟨as ++ slash :: bs⟩ = segments ⟨as⟩ ++ segments ⟨bs⟩ := by
  rw [segments, fields_append_cons as (by simp), List.filter_append]
  rfl

lemma segments_of_segment {n : FileName} (hn : Segment n) : segments ⟨n⟩ = [n] := by
  rw [segments, fields_of_slash_notMem hn.slash_notMem]
  simp [hn.ne_nil]

variable (p : Path) {n : FileName}

lemma segments_child_append (bs : Bytes) : (p.child bs).segments = p.segments ++ segments ⟨bs⟩ := by
  rw [child]
  split
  case isTrue h =>
    rcases (Bool.or_eq_true _ _).mp h with h | h
    · have hb : p.bytes = [] := by simpa using h
      simp [segments, hb, fields]
    · have hl : p.bytes.getLast? = some slash := by simpa [endsInSlash] using h
      obtain ⟨as, hb⟩ := List.getLast?_eq_some_iff.mp hl
      have hp : p.segments = segments ⟨as⟩ := by
        rw [segments, hb, fields_append_cons as (by simp)]
        simp [segments, fields]
      simp only [hb, hp, List.append_assoc, List.singleton_append]
      exact segments_append_slash as bs
  case isFalse => exact segments_append_slash p.bytes bs

lemma segments_child (hn : Segment n) : (p.child n).segments = p.segments ++ [n] := by
  rw [segments_child_append, segments_of_segment hn]

lemma child_isAbsolute (hn : Segment n) : (p.child n).isAbsolute = p.isAbsolute := by
  cases hb : p.bytes with
  | nil =>
    have hh : n.head? ≠ some slash := fun h => hn.slash_notMem (List.mem_of_mem_head? h)
    simpa [child, isAbsolute, hb] using hh
  | cons b bs =>
    rw [child]
    split <;> simp [isAbsolute, hb]

lemma child_endsInSlash (hn : Segment n) : (p.child n).endsInSlash = false := by
  have hl : ∀ bs : Bytes, (bs ++ n).getLast? ≠ some slash := by
    intro bs h
    rw [List.getLast?_append_of_ne_nil _ hn.ne_nil] at h
    exact hn.slash_notMem (List.mem_of_getLast? h)
  rw [child]
  split
  · simpa [endsInSlash] using hl p.bytes
  · simpa [endsInSlash] using hl (p.bytes ++ [slash])

variable {p}

lemma Usable.child (hp : p.Usable) (hn : Segment n) : (p.child n).Usable := by
  rw [Path.child]
  split
  · exact ⟨by simp [hp.ne_nil], by simp [hp.nul_notMem, hn.nul_notMem]⟩
  · exact ⟨by simp, by simp [hp.nul_notMem, hn.nul_notMem, show (0 : UInt8) ≠ slash by decide]⟩

variable {names : List FileName}

lemma childOf_append (names' : List FileName) :
    p.childOf (names ++ names') = (p.childOf names).childOf names' :=
  List.foldl_append

lemma segments_childOf (h : ∀ n ∈ names, Segment n) : (p.childOf names).segments = p.segments ++ names := by
  induction names generalizing p with
  | nil => simp [childOf]
  | cons n names ih =>
    have hh := ih (p := p.child n) fun m hm => h m (List.mem_cons_of_mem _ hm)
    rw [segments_child p (h n List.mem_cons_self), List.append_assoc] at hh
    exact hh

lemma childOf_isAbsolute (h : ∀ n ∈ names, Segment n) : (p.childOf names).isAbsolute = p.isAbsolute := by
  induction names generalizing p with
  | nil => rfl
  | cons n names ih =>
    have hh := ih (p := p.child n) fun m hm => h m (List.mem_cons_of_mem _ hm)
    rwa [child_isAbsolute p (h n List.mem_cons_self)] at hh

lemma Usable.childOf (hp : p.Usable) (h : ∀ n ∈ names, Segment n) : (p.childOf names).Usable := by
  induction names generalizing p with
  | nil => exact hp
  | cons n names ih =>
    exact ih (hp.child (h n List.mem_cons_self)) fun m hm => h m (List.mem_cons_of_mem _ hm)

lemma childOf_endsInSlash (hn : names ≠ []) (h : ∀ n ∈ names, Segment n) :
    (p.childOf names).endsInSlash = false := by
  obtain ⟨init, last, rfl⟩ : ∃ init last, names = init ++ [last] :=
    ⟨names.dropLast, names.getLast hn, (List.dropLast_append_getLast hn).symm⟩
  rw [childOf_append]
  exact child_endsInSlash _ (h last (by simp))

lemma childOf_bytes (hp : p.bytes ≠ []) (hs : p.endsInSlash = false) (hn : names ≠ [])
    (h : ∀ n ∈ names, Segment n) : (p.childOf names).bytes = p.bytes ++ slash :: join slash names := by
  induction names generalizing p with
  | nil => exact absurd rfl hn
  | cons n names ih =>
    have hchild : (p.child n).bytes = p.bytes ++ slash :: n := by
      rw [child, if_neg (by simp [hp, hs])]
    by_cases he : names = []
    · simpa [he, childOf, join] using hchild
    · have hh := ih (p := p.child n) (by simp [hchild]) (child_endsInSlash p (h n List.mem_cons_self)) he
        fun m hm => h m (List.mem_cons_of_mem _ hm)
      rw [hchild] at hh
      rw [join_cons_of_ne_nil slash n he]
      simpa [childOf] using hh

lemma length_childOf (hp : p.bytes ≠ []) (hs : p.endsInSlash = false) (hn : names ≠ [])
    (h : ∀ n ∈ names, Segment n) :
    (p.childOf names).bytes.length = p.bytes.length + (names.flatMap (slash :: ·)).length := by
  rw [childOf_bytes hp hs hn h, cons_join slash hn, List.length_append]

lemma childOf_injective {names' : List FileName} (h : ∀ n ∈ names, Segment n)
    (h' : ∀ n ∈ names', Segment n) (he : p.childOf names = p.childOf names') : names = names' := by
  have hs := congrArg segments he
  rw [segments_childOf h, segments_childOf h'] at hs
  exact List.append_cancel_left hs

end Path

end BarrelModule
