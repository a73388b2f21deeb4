import BarrelModule.Discovery
import BarrelModule.Proofs.FileSystem.WellFormed

namespace BarrelModule.Discovery

open Text

lemma visitsOf_eq_map (deep : Bool) (nodes : List Node) :
    visitsOf deep nodes = nodes.map fun node => (node.name, visits deep node) := by
  induction nodes with
  | nil => rfl
  | cons node nodes ih => rw [visitsOf, ih, List.map_cons]

lemma insertNamed_perm {α : Type} (named : FileName × List α) (below : List (FileName × List α)) :
    (insertNamed named below).Perm (named :: below) := by
  induction below with
  | nil => exact .refl _
  | cons other rest ih =>
    rw [insertNamed]
    split
    · exact .refl _
    · exact (ih.cons other).trans (.swap named other rest)

lemma sortNamed_perm {α : Type} (below : List (FileName × List α)) : (sortNamed below).Perm below := by
  induction below with
  | nil => exact .refl _
  | cons named below ih => exact (insertNamed_perm named _).trans (ih.cons named)

lemma insertNamed_sorted {α : Type} (named : FileName × List α) {below : List (FileName × List α)}
    (h : below.Pairwise fun p q => p.1 ≤ q.1) : (insertNamed named below).Pairwise fun p q => p.1 ≤ q.1 := by
  induction below with
  | nil => simp [insertNamed]
  | cons other rest ih =>
    obtain ⟨hother, hrest⟩ := List.pairwise_cons.mp h
    rw [insertNamed]
    split
    case isTrue hle =>
      refine List.pairwise_cons.mpr ⟨?_, h⟩
      exact List.forall_mem_cons.mpr ⟨hle, fun q hq => List.le_trans hle (hother q hq)⟩
    case isFalse hle =>
      refine List.pairwise_cons.mpr ⟨fun q hq => ?_, ih hrest⟩
      rcases List.mem_cons.mp ((insertNamed_perm named rest).mem_iff.mp hq) with rfl | hq
      · exact (List.le_total q.1 other.1).resolve_left hle
      · exact hother q hq

lemma sortNamed_sorted {α : Type} (below : List (FileName × List α)) :
    (sortNamed below).Pairwise fun p q => p.1 ≤ q.1 := by
  induction below with
  | nil => exact .nil
  | cons named below ih => exact insertNamed_sorted named ih

lemma mem_inOrder {α : Type} {below : List (FileName × List α)} {a : α} :
    a ∈ inOrder below ↔ ∃ p ∈ below, a ∈ p.2 := by
  simp [inOrder, (sortNamed_perm below).mem_iff]

lemma mem_inOrder_visitsOf {deep : Bool} {nodes : List Node} {v : Visit} :
    v ∈ inOrder (visitsOf deep nodes) ↔ ∃ node ∈ nodes, v ∈ visits deep node := by
  simp [mem_inOrder, visitsOf_eq_map]

lemma mem_map_below {n m : FileName} {l : Location} {d : Bool} {found : List Visit} :
    ⟨n :: l, d⟩ ∈ found.map (Visit.below m) ↔ n = m ∧ ⟨l, d⟩ ∈ found := by
  rw [List.mem_map]
  constructor
  · rintro ⟨⟨l', d'⟩, hv, he⟩
    cases he
    exact ⟨rfl, hv⟩
  · rintro ⟨rfl, hv⟩
    exact ⟨_, hv, rfl⟩

lemma mem_visits {deep : Bool} {node : Node} {n : FileName} {l : Location} {d : Bool} :
    ⟨n :: l, d⟩ ∈ visits deep node ↔ n = node.name ∧
      match node with
      | .directory _ inner =>
        deep = true ∧ (l = [] ∧ d = true ∨ ⟨l, d⟩ ∈ inOrder (visitsOf deep inner))
      | _ => l = [] ∧ d = false := by
  cases node with
  | file | link => simp [visits, and_assoc]
  | directory m inner =>
    cases deep with
    | false => simp [visits]
    | true => simp [visits, mem_map_below, and_assoc, and_or_left]

lemma nil_notMem_visits {deep : Bool} {node : Node} {v : Visit} (h : v ∈ visits deep node) :
    v.location ≠ [] := by
  cases node with
  | file | link => simp_all [visits]
  | directory m inner =>
    rw [visits] at h
    split at h
    case isFalse => cases h
    case isTrue =>
      rcases List.mem_cons.mp h with rfl | h
      · simp
      · obtain ⟨w, -, rfl⟩ := List.mem_map.mp h
        simp [Visit.below]

lemma exists_named_iff {nodes : List Node} (h : Node.AllWellFormed nodes) {n : FileName}
    {P : Node → Prop} :
    (∃ node ∈ nodes, n = node.name ∧ P node) ↔ ∃ node, Node.find? nodes n = some node ∧ P node := by
  constructor
  · rintro ⟨node, hm, rfl, hp⟩
    exact ⟨node, Node.find?_of_mem ((Node.allWellFormed_iff nodes).mp h).2 hm, hp⟩
  · rintro ⟨node, hf, hp⟩
    exact ⟨node, Node.find?_mem hf, (Node.find?_name hf).symm, hp⟩

lemma mem_walk {deep : Bool} {nodes : List Node} (h : Node.AllWellFormed nodes) {l : Location} {d : Bool} :
    ⟨l, d⟩ ∈ inOrder (visitsOf deep nodes) ↔
      l ≠ [] ∧ (deep = true ∨ l.length = 1 ∧ d = false) ∧
        ∃ e, Node.entryAt? l nodes = some e ∧ (d = true ↔ e = .directory) := by
  rw [mem_inOrder_visitsOf]
  induction l generalizing nodes with
  | nil =>
    simp only [ne_eq, not_true_eq_false, false_and, iff_false]
    rintro ⟨node, -, hv⟩
    exact nil_notMem_visits hv rfl
  | cons n ns ih =>
    simp only [mem_visits]
    rw [exists_named_iff h, Node.entryAt?]
    cases hf : Node.find? nodes n with
    | none => simp
    | some node =>
      cases node with
      | file m content => by_cases hns : ns = [] <;> cases d <;> simp [hns, Node.entry]
      | link m target => by_cases hns : ns = [] <;> cases d <;> simp [hns, Node.entry]
      | directory m inner =>
        have hh := ih (h.find? hf).2
        rw [← mem_inOrder_visitsOf] at hh
        by_cases hns : ns = []
        · subst hns
          cases d <;> simp [hh]
        · have hlength : (n :: ns).length ≠ 1 := by simpa using hns
          simp only [Option.some.injEq, exists_eq_left', hh, hns, hlength, ne_eq, reduceCtorEq,
            not_false_eq_true, false_and, false_or, or_false, true_and]
          grind

lemma cons_lt_cons_of_lt {m n : FileName} (h : m < n) (l l' : Location) : m :: l < n :: l' :=
  List.cons_lt_cons_iff.mpr (Or.inl h)

def Sorted (found : List Visit) : Prop := found.Pairwise fun v w => v.location < w.location

lemma inOrder_sorted {below : List (FileName × List Visit)} (hd : (below.map Prod.fst).Nodup)
    (hb : ∀ p ∈ below, Sorted p.2 ∧ ∀ v ∈ p.2, v.location.head? = some p.1) : Sorted (inOrder below) := by
  have hperm := sortNamed_perm below
  have hnodup : (sortNamed below).Pairwise fun p q => p.1 ≠ q.1 :=
    List.pairwise_map.mp ((hperm.map Prod.fst).nodup_iff.mpr hd)
  have hlt : (sortNamed below).Pairwise fun p q => p.1 < q.1 :=
    (sortNamed_sorted below).imp₂ (fun _ _ hle hne => Std.lt_of_le_of_ne hle hne) hnodup
  rw [Sorted, inOrder, List.pairwise_flatMap]
  refine ⟨fun p hp => (hb p (hperm.mem_iff.mp hp)).1, ?_⟩
  refine hlt.imp_of_mem ?_
  rintro p q hp hq hpq ⟨l, d⟩ hv ⟨l', d'⟩ hw
  have hh := (hb p (hperm.mem_iff.mp hp)).2 _ hv
  have hh' := (hb q (hperm.mem_iff.mp hq)).2 _ hw
  cases l with
  | nil => cases hh
  | cons n l =>
    cases l' with
    | nil => cases hh'
    | cons n' l' =>
      cases hh
      cases hh'
      exact cons_lt_cons_of_lt hpq l l'

lemma visits_head {deep : Bool} {node : Node} {v : Visit} (h : v ∈ visits deep node) :
    v.location.head? = some node.name := by
  obtain ⟨l, d⟩ := v
  cases l with
  | nil => exact absurd rfl (nil_notMem_visits h)
  | cons n l => rw [(mem_visits.mp h).1, List.head?_cons]

lemma walk_sorted_of_below {deep : Bool} {nodes : List Node} (h : Node.AllWellFormed nodes)
    (hb : ∀ p ∈ visitsOf deep nodes, Sorted p.2) : Sorted (inOrder (visitsOf deep nodes)) := by
  apply inOrder_sorted
  · simpa [visitsOf_eq_map, Function.comp_def] using ((Node.allWellFormed_iff nodes).mp h).2
  · intro p hp
    refine ⟨hb p hp, fun v hv => ?_⟩
    rw [visitsOf_eq_map] at hp
    obtain ⟨node, _, rfl⟩ := List.mem_map.mp hp
    exact visits_head hv

lemma Sorted.below {found : List Visit} (h : Sorted found) (n : FileName) :
    Sorted (found.map (Visit.below n)) := by
  rw [Sorted, List.pairwise_map]
  exact h.imp fun hl => List.cons_lt_cons_iff.mpr (Or.inr ⟨rfl, hl⟩)

mutual
theorem visits_sorted (deep : Bool) : ∀ node : Node, node.WellFormed → Sorted (visits deep node)
  | .file _ _, _ => by simp [visits, Sorted]
  | .link _ _, _ => by simp [visits, Sorted]
  | .directory n nodes, h => by
    rw [visits]
    split
    · refine List.pairwise_cons.mpr ⟨?_, (walk_sorted_of_below h.2 (visitsOf_sorted deep nodes h.2)).below n⟩
      intro v hv
      obtain ⟨w, hw, rfl⟩ := List.mem_map.mp hv
      obtain ⟨node, -, hw⟩ := mem_inOrder_visitsOf.mp hw
      obtain ⟨m, l, hl⟩ := List.exists_cons_of_ne_nil (nil_notMem_visits hw)
      rw [Visit.below, hl]
      exact List.cons_lt_cons_iff.mpr (Or.inr ⟨rfl, List.nil_lt_cons m l⟩)
    · exact .nil

theorem visitsOf_sorted (deep : Bool) : ∀ nodes : List Node, Node.AllWellFormed nodes →
    ∀ p ∈ visitsOf deep nodes, Sorted p.2
  | [], _ => by simp [visitsOf]
  | node :: nodes, h => by
    rw [visitsOf, List.forall_mem_cons]
    exact ⟨visits_sorted deep node h.1, visitsOf_sorted deep nodes h.2.2⟩
end

lemma walk_sorted (deep : Bool) {nodes : List Node} (h : Node.AllWellFormed nodes) :
    Sorted (inOrder (visitsOf deep nodes)) :=
  walk_sorted_of_below h (visitsOf_sorted deep nodes h)

end BarrelModule.Discovery
