import BarrelModule.Path.Lexical
import BarrelModule.Proofs.Path.Segments

namespace BarrelModule

open Text

namespace Location

def step (l : Location) (s : Bytes) : Location := l.extend (Path.component s)

lemma step_dot (l : Location) : l.step Path.dot = l := rfl

lemma step_dotDot (l : Location) : l.step Path.dotDot = l.dropLast := rfl

lemma step_name (l : Location) {s : Bytes} (h : s ≠ Path.dot) (h' : s ≠ Path.dotDot) :
    l.step s = l ++ [s] := by
  rw [step, Path.component, if_neg h, if_neg h']
  rfl

lemma foldl_step_filter (segments : List Bytes) (l : Location) :
    (segments.filter (· ≠ Path.dot)).foldl step l = segments.foldl step l := by
  induction segments generalizing l with
  | nil => rfl
  | cons s segments ih =>
    by_cases hs : s = Path.dot
    · subst hs
      rw [List.filter_cons_of_neg (by simp), List.foldl_cons, step_dot, ih]
    · rw [List.filter_cons_of_pos (by simpa using hs), List.foldl_cons, List.foldl_cons, ih]

lemma foldl_step_names (l : Location) {names : List FileName}
    (h : ∀ n ∈ names, n ≠ Path.dot ∧ n ≠ Path.dotDot) : names.foldl step l = l ++ names := by
  induction names generalizing l with
  | nil => simp
  | cons n names ih =>
    obtain ⟨hdot, hdotDot⟩ := h n List.mem_cons_self
    rw [List.foldl_cons, step_name l hdot hdotDot, ih _ fun m hm => h m (List.mem_cons_of_mem _ hm)]
    simp

lemma mem_of_mem_foldl_step {segments : List Bytes} {l : Location} {n : FileName}
    (h : n ∈ segments.foldl step l) : n ∈ l ∨ n ∈ segments := by
  induction segments generalizing l with
  | nil => exact Or.inl h
  | cons s segments ih =>
    rw [List.foldl_cons] at h
    rcases ih h with h | h
    · by_cases hd : s = Path.dot
      · rw [hd, step_dot] at h
        exact Or.inl h
      · by_cases hdd : s = Path.dotDot
        · rw [hdd, step_dotDot] at h
          exact Or.inl (List.dropLast_subset l h)
        · rw [step_name l hd hdd, List.mem_append, List.mem_singleton] at h
          rcases h with h | rfl
          · exact Or.inl h
          · exact Or.inr List.mem_cons_self
    · exact Or.inr (List.mem_cons_of_mem _ h)

lemma dropCommon_spec (l m : Location) :
    ∃ common, l = common ++ (dropCommon l m).1 ∧ m = common ++ (dropCommon l m).2 := by
  induction l generalizing m with
  | nil => exact ⟨[], by simp [dropCommon], by simp [dropCommon]⟩
  | cons n l ih =>
    cases m with
    | nil => exact ⟨[], by simp [dropCommon], by simp [dropCommon]⟩
    | cons k m =>
      by_cases hn : n = k
      · obtain ⟨common, hl, hm⟩ := ih m
        refine ⟨n :: common, ?_, ?_⟩
        · simpa [dropCommon, hn] using hl
        · simpa [dropCommon, hn] using hm
      · exact ⟨[], by simp [dropCommon, hn], by simp [dropCommon, hn]⟩

end Location

namespace Path

lemma foldl_extend_components (p : Path) (l : Location) :
    p.components.foldl Location.extend l = p.segments.foldl Location.step l := by
  have hmap : ∀ (segments : List Bytes) (l : Location),
      (segments.map component).foldl Location.extend l = segments.foldl Location.step l := by
    intro segments l
    rw [List.foldl_map]
    rfl
  rw [components]
  split
  · rw [List.foldl_cons, hmap, Location.foldl_step_filter]
    rfl
  · cases p.segments with
    | nil => rfl
    | cons s ss =>
      rw [List.foldl_cons, hmap, Location.foldl_step_filter]
      rfl

lemma absolute_eq (workingDirectory : Location) (p : Path) :
    p.absolute workingDirectory =
      p.segments.foldl Location.step (if p.isAbsolute then [] else workingDirectory) :=
  foldl_extend_components p _

lemma absolute_childOf (workingDirectory : Location) (p : Path) {names : List FileName}
    (h : ∀ n ∈ names, n.Valid) :
    (p.childOf names).absolute workingDirectory = p.absolute workingDirectory ++ names := by
  have hs : ∀ n ∈ names, Segment n := fun n hn => (h n hn).toSegment
  rw [absolute_eq, absolute_eq, segments_childOf hs, childOf_isAbsolute hs, List.foldl_append,
    Location.foldl_step_names _ fun n hn => ⟨(h n hn).ne_dot, (h n hn).ne_dotDot⟩]

end Path

end BarrelModule
