import BarrelModule.Proofs.Path.Segments

namespace BarrelModule.Path

open Text

variable {names : List FileName} (h : ∀ n ∈ names, n.Proper)
include h

lemma map_component_names : names.map component = names.map .name := by
  apply List.map_congr_left
  intro n hn
  rw [component, if_neg (h n hn).ne_dot, if_neg (h n hn).ne_dotDot]

lemma filter_dot_names : names.filter (· ≠ dot) = names :=
  List.filter_eq_self.mpr fun n hn => by simpa using (h n hn).ne_dot

lemma components_childOf (p : Path) : (p.childOf names).components = p.components ++ names.map .name := by
  have hs : ∀ n ∈ names, Segment n := fun n hn => (h n hn).toSegment
  rw [components, components, segments_childOf hs, childOf_isAbsolute hs, ← map_component_names h]
  split
  · rw [List.filter_append, filter_dot_names h, List.map_append, List.cons_append]
  · cases p.segments with
    | nil =>
      cases names with
      | nil => rfl
      | cons n names =>
        have hfilter := filter_dot_names fun m hm => h m (List.mem_cons_of_mem n hm)
        rw [List.nil_append, List.nil_append, List.map_cons]
        simp only [hfilter]
    | cons s ss =>
      simp only [List.cons_append, List.filter_append, filter_dot_names h, List.map_append]

theorem below?_childOf (p : Path) : (p.childOf names).below? p = some ⟨join slash names⟩ := by
  have hprefix : p.components.isPrefixOf (p.childOf names).components = true := by
    rw [components_childOf h, List.isPrefixOf_iff_prefix]
    exact List.prefix_append _ _
  rw [below?, if_pos hprefix, components_childOf h, List.drop_left, List.map_map]
  congr 2
  simp [Function.comp_def]

end BarrelModule.Path
