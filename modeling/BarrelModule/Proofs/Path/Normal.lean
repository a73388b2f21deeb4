import BarrelModule.Proofs.Path.Climbing
import Mathlib.Data.List.Induction

/-! Locations made of names that go down: every path leads to one from one, the absolute path that spells
it leads back to it, and the relative path between two of them leads from the one to the other. -/

namespace BarrelModule

open Text

structure FileName.Normal (n : FileName) : Prop where
  ne_nil : n ≠ []
  slash_notMem : Path.slash ∉ n
  ne_dot : n ≠ Path.dot
  ne_dotDot : n ≠ Path.dotDot

instance (n : FileName) : Decidable n.Normal :=
  decidable_of_iff (n ≠ [] ∧ Path.slash ∉ n ∧ n ≠ Path.dot ∧ n ≠ Path.dotDot)
    ⟨fun ⟨a, b, c, d⟩ => ⟨a, b, c, d⟩, fun ⟨a, b, c, d⟩ => ⟨a, b, c, d⟩⟩

lemma FileName.Valid.normal {n : FileName} (h : n.Valid) : n.Normal :=
  ⟨h.ne_nil, h.slash_notMem, h.ne_dot, h.ne_dotDot⟩

namespace Path

lemma segments_join {names : List Bytes} (h : ∀ n ∈ names, n ≠ [] ∧ slash ∉ n) :
    segments ⟨join slash names⟩ = names := by
  by_cases hn : names = []
  · subst hn
    rfl
  · rw [segments, fields_join hn fun n hm => (h n hm).2, List.filter_eq_self]
    intro n hm
    simpa using (h n hm).1

lemma of_mem_segments {p : Path} {s : Bytes} (hs : s ∈ p.segments) : s ≠ [] ∧ slash ∉ s := by
  obtain ⟨hf, hn⟩ := List.mem_filter.mp hs
  refine ⟨by simpa using hn, fun hm => ?_⟩
  simpa using (mem_of_mem_fields hf hm).2

end Path

namespace Location

def Normal (l : Location) : Prop := ∀ n ∈ l, n.Normal

lemma Normal.foldl_step {l : Location} (h : l.Normal) {segments : List Bytes}
    (hs : ∀ s ∈ segments, s ≠ [] ∧ Path.slash ∉ s) : (segments.foldl step l).Normal := by
  induction segments generalizing l with
  | nil => exact h
  | cons s segments ih =>
    refine ih ?_ fun t ht => hs t (List.mem_cons_of_mem _ ht)
    by_cases hdot : s = Path.dot
    · rwa [hdot, step_dot]
    · by_cases hdotDot : s = Path.dotDot
      · rw [hdotDot, step_dotDot]
        exact fun n hn => h n (List.dropLast_subset l hn)
      · obtain ⟨hnil, hslash⟩ := hs s List.mem_cons_self
        rw [step_name l hdot hdotDot]
        intro n hn
        rcases List.mem_append.mp hn with hn | hn
        · exact h n hn
        · rw [List.mem_singleton.mp hn]
          exact ⟨hnil, hslash, hdot, hdotDot⟩

lemma Normal.absolute {l : Location} (h : l.Normal) (p : Path) : (p.absolute l).Normal := by
  rw [Path.absolute_eq]
  split
  · exact Normal.foldl_step (List.forall_mem_nil _) fun s hs => Path.of_mem_segments hs
  · exact h.foldl_step fun s hs => Path.of_mem_segments hs

def path (l : Location) : Path := ⟨Path.slash :: join Path.slash l⟩

lemma Normal.segments_path {l : Location} (h : l.Normal) : l.path.segments = l := by
  have hroot : l.path.segments = Path.segments ⟨[]⟩ ++ Path.segments ⟨join Path.slash l⟩ :=
    Path.segments_append_slash [] (join Path.slash l)
  rw [hroot, Path.segments_join fun n hn => ⟨(h n hn).ne_nil, (h n hn).slash_notMem⟩]
  rfl

lemma Normal.absolute_child_path {l : Location} (h : l.Normal) (wd : Location) {p : Path}
    (hp : p.isAbsolute = false) : (l.path.child p.bytes).absolute wd = p.absolute l := by
  have habsolute : (l.path.child p.bytes).isAbsolute = true := by
    rw [Path.child]
    split <;> simp [Path.isAbsolute, path]
  have hdown : l.foldl step [] = l := by
    simpa using foldl_step_names [] fun n hn => ⟨(h n hn).ne_dot, (h n hn).ne_dotDot⟩
  rw [Path.absolute_eq, Path.absolute_eq, if_pos habsolute, hp, Path.segments_child_append,
    h.segments_path, List.foldl_append, hdown]
  rfl

lemma foldl_step_dotDots (common up : Location) :
    (List.replicate up.length Path.dotDot).foldl step (common ++ up) = common := by
  induction up using List.reverseRecOn with
  | nil => simp
  | append_singleton up n ih =>
    rw [List.length_append, List.length_singleton, List.replicate_succ, List.foldl_cons, step_dotDot,
      ← List.append_assoc, List.dropLast_concat]
    exact ih

lemma segments_up_down (up : Location) {down : Location} (h : Normal down) :
    Path.segments ⟨join Path.slash (List.replicate up.length Path.dotDot ++ down)⟩ =
      List.replicate up.length Path.dotDot ++ down := by
  apply Path.segments_join
  intro n hn
  rcases List.mem_append.mp hn with hn | hn
  · rw [List.eq_of_mem_replicate hn]
    decide
  · exact ⟨(h n hn).ne_nil, (h n hn).slash_notMem⟩

lemma dropCommon_head (l m : Location) (n : FileName) (h : (dropCommon l m).1.head? = some n) :
    (dropCommon l m).2.head? ≠ some n := by
  induction l generalizing m with
  | nil => simp [dropCommon] at h
  | cons k l ih =>
    cases m with
    | nil => simp [dropCommon]
    | cons k' m =>
      by_cases hk : k = k'
      · rw [dropCommon, if_pos hk] at h ⊢
        exact ih m h
      · rw [dropCommon, if_neg hk] at h ⊢
        rw [List.head?_cons, Option.some.injEq] at h
        rw [List.head?_cons, Ne, Option.some.injEq, ← h]
        exact fun hn => hk hn.symm

lemma isPrefix_common_iff (common : Location) {up down : Location}
    (h : ∀ n, up.head? = some n → down.head? ≠ some n) (l : Location) :
    l <+: common ++ up ∧ l <+: common ++ down ↔ l <+: common := by
  constructor
  · rintro ⟨hup, hdown⟩
    induction common generalizing l with
    | nil =>
      cases l with
      | nil => exact List.nil_prefix
      | cons n l =>
        obtain ⟨ups, rfl⟩ := hup
        obtain ⟨downs, rfl⟩ := hdown
        exact absurd rfl (h n rfl)
    | cons k common ih =>
      cases l with
      | nil => exact List.nil_prefix
      | cons n l =>
        obtain ⟨rfl, hup'⟩ := List.cons_prefix_cons.mp hup
        exact List.cons_prefix_cons.mpr ⟨rfl, ih l hup' (List.cons_prefix_cons.mp hdown).2⟩
  · intro hl
    exact ⟨hl.trans (List.prefix_append _ _), hl.trans (List.prefix_append _ _)⟩

lemma relative_spec (start target : Location) :
    ∃ common up down : Location, start = common ++ up ∧ target = common ++ down ∧
      (∀ l, l <+: start ∧ l <+: target ↔ l <+: common) ∧
      relative start target = ⟨join Path.slash (List.replicate up.length Path.dotDot ++ down)⟩ := by
  obtain ⟨common, hstart, htarget⟩ := dropCommon_spec start target
  refine ⟨common, (dropCommon start target).1, (dropCommon start target).2, hstart, htarget, ?_, ?_⟩
  · intro l
    have hl := isPrefix_common_iff common (dropCommon_head start target) l
    rwa [← hstart, ← htarget] at hl
  · rw [← List.map_const']
    rfl

lemma Normal.foldl_step_up_down {common up down : Location} (h : Normal down) :
    (List.replicate up.length Path.dotDot ++ down).foldl step (common ++ up) = common ++ down := by
  rw [List.foldl_append, foldl_step_dotDots,
    foldl_step_names common fun n hn => ⟨(h n hn).ne_dot, (h n hn).ne_dotDot⟩]

lemma Normal.foldl_step_relative (start : Location) {target : Location} (h : target.Normal) :
    (relative start target).segments.foldl step start = target := by
  obtain ⟨common, up, down, rfl, rfl, -, hrelative⟩ := relative_spec start target
  have hdown : Normal down := fun n hn => h n (List.mem_append_right common hn)
  rw [hrelative, segments_up_down up hdown, hdown.foldl_step_up_down]

lemma Normal.relative_injective {start target target' : Location} (h : target.Normal) (h' : target'.Normal)
    (he : relative start target = relative start target') : target = target' := by
  rw [← h.foldl_step_relative start, he, h'.foldl_step_relative]

lemma relative_append_of_outside {start directory : Location} (h : ¬ directory <+: start) :
    ∃ front : List Bytes, front ≠ [] ∧
      ∀ m, relative start (directory ++ m) = ⟨join Path.slash (front ++ m)⟩ := by
  have hhead := dropCommon_head start directory
  obtain ⟨common, hstart, hdirectory⟩ := dropCommon_spec start directory
  generalize (dropCommon start directory).1 = up at hstart hhead
  generalize (dropCommon start directory).2 = down at hdirectory hhead
  subst hstart
  subst hdirectory
  cases down with
  | nil => exact absurd (by simp) h
  | cons d down =>
    refine ⟨up.map (fun _ => Path.dotDot) ++ d :: down, by simp, fun m => ?_⟩
    have hdrop : dropCommon (common ++ up) (common ++ d :: down ++ m) = (up, d :: down ++ m) := by
      rw [List.append_assoc, dropCommon_append]
      cases up with
      | nil => simp [dropCommon]
      | cons u up =>
        have hne : u ≠ d := fun hu => hhead u rfl (by simp [hu])
        rw [List.cons_append, dropCommon, if_neg hne]
    rw [relative, hdrop, List.append_assoc]

end Location

end BarrelModule
