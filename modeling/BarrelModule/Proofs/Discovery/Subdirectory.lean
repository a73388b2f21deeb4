import BarrelModule.Proofs.Discovery.Exact

namespace BarrelModule

open Text

namespace Node

lemma nodesAt?_append (l m : Location) (nodes : List Node) :
    nodesAt? (l ++ m) nodes = (nodesAt? l nodes).bind (nodesAt? m) := by
  induction l generalizing nodes with
  | nil => rfl
  | cons n l ih =>
    rw [List.cons_append, nodesAt?_cons, nodesAt?_cons n l]
    cases nodesAt? [n] nodes with
    | none => rfl
    | some inner => exact ih inner

end Node

namespace FileSystem

lemma find?_of_entryIn? {fs : FileSystem} {place : Place} {c : FileName}
    (hc : fs.entryIn? place c = some .directory) :
    Node.find? (fs.nodesIn place) c = some (.directory c (fs.nodesIn (place.down c))) := by
  have hp : place.removed = 0 := (entryIn?_eq_some_iff.mp hc).1
  have hp' : (place.down c).removed = 0 := hp
  have hdown : fs.nodesIn (place.down c) = ((Node.nodesAt? [c] (fs.nodesIn place))).getD [] := by
    rw [nodesIn, nodesIn, if_pos hp', if_pos hp, Place.down, Node.nodesAt?_append]
    cases Node.nodesAt? place.location fs.nodes <;> rfl
  rw [entryIn?_eq] at hc
  obtain ⟨node, hf, hn⟩ := Option.map_eq_some_iff.mp hc
  cases node with
  | file | link => cases hn
  | directory m inner =>
    obtain rfl : m = c := Node.find?_name hf
    rw [hdown, hf, Node.nodesAt?, hf]
    rfl

end FileSystem

namespace Discovery

lemma inOrder_split {α : Type} {below : List (FileName × List α)} (hd : (below.map Prod.fst).Nodup)
    {p : FileName × List α} (hp : p ∈ below) :
    ∃ before after : List (FileName × List α),
      inOrder below = before.flatMap Prod.snd ++ (p.2 ++ after.flatMap Prod.snd) ∧
        ∀ q ∈ before ++ after, q ∈ below ∧ q.1 ≠ p.1 := by
  have hperm := sortNamed_perm below
  obtain ⟨before, after, hs⟩ := List.append_of_mem (hperm.mem_iff.mpr hp)
  refine ⟨before, after, by rw [inOrder, hs, List.flatMap_append, List.flatMap_cons], ?_⟩
  have hnodup : ((before ++ p :: after).map Prod.fst).Nodup := by
    rw [← hs]
    exact (hperm.map Prod.fst).nodup_iff.mpr hd
  rw [List.map_append, List.map_cons, List.nodup_middle, ← List.map_append, List.nodup_cons] at hnodup
  intro q hq
  refine ⟨hperm.mem_iff.mp ?_, fun he => hnodup.1 (he ▸ List.mem_map_of_mem hq)⟩
  rw [hs]
  exact List.mem_append.mpr ((List.mem_append.mp hq).imp_right (List.mem_cons_of_mem p))

lemma walk_split {nodes inner : List Node} (h : Node.AllWellFormed nodes) {c : FileName}
    (hc : Node.find? nodes c = some (.directory c inner)) :
    ∃ before after : List Visit, inOrder (visitsOf true nodes) =
        before ++ (⟨[c], true⟩ :: (inOrder (visitsOf true inner)).map (Visit.below c) ++ after) ∧
      ∀ v ∈ before ++ after, ∃ n m, v.location = n :: m ∧ n ≠ c := by
  have hnames : ((visitsOf true nodes).map Prod.fst).Nodup := by
    simpa [visitsOf_eq_map, Function.comp_def] using ((Node.allWellFormed_iff nodes).mp h).2
  have hmem : (c, visits true (.directory c inner)) ∈ visitsOf true nodes := by
    rw [visitsOf_eq_map]
    exact List.mem_map.mpr ⟨_, Node.find?_mem hc, rfl⟩
  obtain ⟨before, after, hsplit, hothers⟩ := inOrder_split hnames hmem
  refine ⟨before.flatMap Prod.snd, after.flatMap Prod.snd, by simpa [visits] using hsplit, ?_⟩
  intro v hv
  rw [← List.flatMap_append] at hv
  obtain ⟨q, hq, hv⟩ := List.mem_flatMap.mp hv
  obtain ⟨hbelow, hne⟩ := hothers q hq
  rw [visitsOf_eq_map] at hbelow
  obtain ⟨node, -, rfl⟩ := List.mem_map.mp hbelow
  obtain ⟨n, m, hl⟩ := List.exists_cons_of_ne_nil (nil_notMem_visits hv)
  have hhead := visits_head hv
  rw [hl] at hhead
  exact ⟨n, m, hl, by rw [Option.some.inj hhead]; exact hne⟩

lemma taken_cons (filter : Filter) (c : FileName) {l : Location} (hl : l ≠ []) :
    taken filter (c :: l) = taken filter l := by
  obtain ⟨n, m, rfl⟩ := List.exists_cons_of_ne_nil hl
  rw [taken, taken, List.getLast?_cons_cons]

lemma chosen_append (scan : Scan) (found found' : List Visit) :
    chosen scan (found ++ found') = chosen scan found ++ chosen scan found' := by
  simp [chosen]

lemma chosen_below (scan : Scan) (c : FileName) {found : List Visit} (h : ∀ v ∈ found, v.location ≠ []) :
    chosen scan (found.map (Visit.below c)) = (chosen scan found).map (c :: ·) := by
  rw [chosen, chosen, List.filter_map, List.map_map, List.map_map]
  congr 1
  apply List.filter_congr
  intro v hv
  simp only [Function.comp_apply, Visit.below, taken_cons scan.filter c (h v hv)]

theorem locations_split {fs : FileSystem} (h : fs.WellFormed) {scan : Scan} (hr : scan.recursive = true)
    {place : Place} {c : FileName} (hc : fs.entryIn? place c = some .directory) :
    ∃ before after : List Location, locations scan (fs.nodesIn place) =
        before ++ ((locations scan (fs.nodesIn (place.down c))).map (c :: ·) ++ after) ∧
      ∀ l ∈ before ++ after, ∃ n m, l = n :: m ∧ n ≠ c := by
  obtain ⟨before, after, hwalk, hothers⟩ := walk_split (h.nodesIn place) (FileSystem.find?_of_entryIn? hc)
  have hbelow : ∀ v ∈ inOrder (visitsOf true (fs.nodesIn (place.down c))), v.location ≠ [] := by
    intro v hv
    obtain ⟨node, -, hv⟩ := mem_inOrder_visitsOf.mp hv
    exact nil_notMem_visits hv
  refine ⟨chosen scan before, chosen scan after, ?_, ?_⟩
  · rw [locations, locations, hr, hwalk, chosen_append, chosen_append, ← chosen_below scan c hbelow]
    rfl
  · intro l hl
    rw [← chosen_append] at hl
    exact hothers ⟨l, false⟩ (mem_chosen.mp hl).1

end Discovery

end BarrelModule
