import BarrelModule.Proofs.FileSystem.Entry
import BarrelModule.Proofs.Path.Segments
import Mathlib.Data.List.Nodup

/-! What the system promises of its directories: names that it takes, each of them once, links that
lead somewhere, and a working directory that stands in the tree. -/

namespace BarrelModule

open Text

namespace Node

mutual
def WellFormed : Node → Prop
  | .file n _ => n.Valid
  | .link n target => n.Valid ∧ target.Usable
  | .directory n nodes => n.Valid ∧ AllWellFormed nodes

def AllWellFormed : List Node → Prop
  | [] => True
  | node :: nodes => node.WellFormed ∧ (∀ other ∈ nodes, other.name ≠ node.name) ∧ AllWellFormed nodes
end

mutual
def decideWellFormed : (node : Node) → Decidable node.WellFormed
  | .file n _ => inferInstanceAs (Decidable n.Valid)
  | .link n target => inferInstanceAs (Decidable (n.Valid ∧ target.Usable))
  | .directory n nodes =>
    have := decideAllWellFormed nodes
    inferInstanceAs (Decidable (n.Valid ∧ AllWellFormed nodes))

def decideAllWellFormed : (nodes : List Node) → Decidable (AllWellFormed nodes)
  | [] => isTrue trivial
  | node :: nodes =>
    have := decideWellFormed node
    have := decideAllWellFormed nodes
    inferInstanceAs
      (Decidable (node.WellFormed ∧ (∀ other ∈ nodes, other.name ≠ node.name) ∧ AllWellFormed nodes))
end

instance : DecidablePred AllWellFormed := decideAllWellFormed

lemma WellFormed.name_valid {node : Node} (h : node.WellFormed) : node.name.Valid := by
  cases node with
  | file => exact h
  | link | directory => exact h.1

lemma allWellFormed_iff (nodes : List Node) :
    AllWellFormed nodes ↔ (∀ node ∈ nodes, node.WellFormed) ∧ (nodes.map name).Nodup := by
  induction nodes with
  | nil => simp [AllWellFormed]
  | cons node nodes ih =>
    simp only [AllWellFormed, ih, List.map_cons, List.nodup_cons, List.mem_map, List.forall_mem_cons]
    constructor
    · rintro ⟨hn, ho, hw, hd⟩
      exact ⟨⟨hn, hw⟩, fun ⟨other, hm, he⟩ => ho other hm he, hd⟩
    · rintro ⟨⟨hn, hw⟩, ho, hd⟩
      exact ⟨hn, fun other hm he => ho ⟨other, hm, he⟩, hw, hd⟩

lemma find?_of_mem {nodes : List Node} (h : (nodes.map name).Nodup) {node : Node} (hm : node ∈ nodes) :
    find? nodes node.name = some node := by
  have hs : (find? nodes node.name).isSome := List.find?_isSome.mpr ⟨node, hm, by simp⟩
  obtain ⟨other, ho⟩ := Option.isSome_iff_exists.mp hs
  rw [ho, List.inj_on_of_nodup_map h (find?_mem ho) hm (find?_name ho)]

lemma AllWellFormed.find? {nodes : List Node} (h : AllWellFormed nodes) {n : FileName} {node : Node}
    (hf : find? nodes n = some node) : node.WellFormed :=
  ((allWellFormed_iff nodes).mp h).1 node (find?_mem hf)

lemma AllWellFormed.nodesAt? {l : Location} {nodes inner : List Node} (h : AllWellFormed nodes)
    (hi : nodesAt? l nodes = some inner) : AllWellFormed inner := by
  induction l generalizing nodes with
  | nil => exact Option.some.inj hi ▸ h
  | cons n ns ih =>
    rw [Node.nodesAt?] at hi
    cases hf : Node.find? nodes n with
    | none => simp [hf] at hi
    | some node =>
      cases node with
      | directory m below => exact ih (h.find? hf).2 (by simpa [hf] using hi)
      | file | link => simp [hf] at hi

lemma put_allWellFormed {node : Node} {nodes : List Node} (hn : node.WellFormed)
    (h : AllWellFormed nodes) : AllWellFormed (put node nodes) := by
  rw [allWellFormed_iff] at h ⊢
  obtain ⟨hw, hd⟩ := h
  rw [put]
  split
  case isTrue =>
    have hnames : (nodes.map fun other => if other.name = node.name then node else other).map name =
        nodes.map name := by
      rw [List.map_map]
      apply List.map_congr_left
      intro other _
      by_cases ho : other.name = node.name <;> simp [ho]
    refine ⟨?_, hnames ▸ hd⟩
    intro other ho
    obtain ⟨old, hold, rfl⟩ := List.mem_map.mp ho
    split
    · exact hn
    · exact hw old hold
  case isFalse hs =>
    refine ⟨by simpa [or_imp, forall_and] using ⟨hw, hn⟩, ?_⟩
    rw [List.map_append, List.nodup_append]
    refine ⟨hd, by simp, ?_⟩
    intro m hm k hk he
    obtain ⟨other, ho, rfl⟩ := List.mem_map.mp hm
    obtain rfl : k = node.name := by simpa using hk
    exact hs (List.find?_isSome.mpr ⟨other, ho, by simpa using he⟩)

lemma erase_allWellFormed (n : FileName) {nodes : List Node} (h : AllWellFormed nodes) :
    AllWellFormed (erase n nodes) := by
  rw [allWellFormed_iff] at h ⊢
  refine ⟨fun node hm => h.1 node (List.mem_filter.mp hm).1, ?_⟩
  exact h.2.sublist (List.filter_sublist.map _)

lemma changeAt_allWellFormed {f : List Node → List Node} {l : Location} {nodes : List Node}
    (hf : ∀ inner, nodesAt? l nodes = some inner → AllWellFormed (f inner)) (h : AllWellFormed nodes) :
    AllWellFormed (changeAt f l nodes) := by
  induction l generalizing nodes with
  | nil => exact hf nodes rfl
  | cons n ns ih =>
    rw [changeAt_cons]
    have hnames : (nodes.map (changeIn f n ns)).map name = nodes.map name := by
      simp [Function.comp_def, changeIn_name]
    obtain ⟨hw, hd⟩ := (allWellFormed_iff nodes).mp h
    refine (allWellFormed_iff _).mpr ⟨?_, hnames ▸ hd⟩
    intro node hm
    obtain ⟨old, hold, rfl⟩ := List.mem_map.mp hm
    by_cases hn : old.name = n
    · cases old with
      | directory m inner =>
        obtain rfl : m = n := hn
        have hfind : find? nodes m = some (.directory m inner) := find?_of_mem hd hold
        rw [changeIn, if_pos rfl]
        exact ⟨(hw _ hold).1, ih (fun below hb => hf below (by simpa [nodesAt?, hfind] using hb)) (hw _ hold).2⟩
      | file | link => exact hw _ hold
    · rw [changeIn_other hn]
      exact hw old hold

end Node

namespace FileSystem

structure WellFormed (fs : FileSystem) : Prop where
  nodes : Node.AllWellFormed fs.nodes
  workingDirectory : fs.entryAt? fs.workingDirectory.location = some .directory

instance (fs : FileSystem) : Decidable fs.WellFormed :=
  decidable_of_iff
    (Node.AllWellFormed fs.nodes ∧ fs.entryAt? fs.workingDirectory.location = some .directory)
    ⟨fun ⟨a, b⟩ => ⟨a, b⟩, fun ⟨a, b⟩ => ⟨a, b⟩⟩

@[simp] lemma entryAt?_root (fs : FileSystem) : fs.entryAt? [] = some .directory := rfl

lemma entryAt?_above {fs : FileSystem} {l m : Location} {e : Entry} (hm : m ≠ [])
    (h : fs.entryAt? (l ++ m) = some e) : fs.entryAt? l = some .directory :=
  Node.entryAt?_above hm h

lemma entryAt?_dropLast {fs : FileSystem} {l : Location} (h : fs.entryAt? l = some .directory) :
    fs.entryAt? l.dropLast = some .directory := by
  by_cases hl : l = []
  · simp [hl]
  · rw [← List.dropLast_append_getLast hl] at h
    exact entryAt?_above (by simp) h

lemma entryAt?_concat {fs : FileSystem} {l : Location} {n : FileName} {e : Entry}
    (h : fs.entryAt? (l ++ [n]) = some e) :
    ∃ nodes node, Node.nodesAt? l fs.nodes = some nodes ∧ Node.find? nodes n = some node ∧
      node.name = n ∧ node.entry = e := by
  rw [entryAt?, Node.entryAt?_concat] at h
  obtain ⟨nodes, hn, h⟩ := Option.bind_eq_some_iff.mp h
  obtain ⟨node, hf, he⟩ := Option.map_eq_some_iff.mp h
  exact ⟨nodes, node, hn, hf, Node.find?_name hf, he⟩

variable {fs : FileSystem} (h : fs.WellFormed)
include h

lemma WellFormed.name_valid {l : Location} {n : FileName} {e : Entry}
    (he : fs.entryAt? (l ++ [n]) = some e) : n.Valid := by
  obtain ⟨nodes, node, hn, hf, rfl, _⟩ := entryAt?_concat he
  exact ((h.nodes.nodesAt? hn).find? hf).name_valid

lemma WellFormed.location_valid {l : Location} {e : Entry} (he : fs.entryAt? l = some e) :
    ∀ n ∈ l, n.Valid := by
  intro n hn
  obtain ⟨l₁, l₂, rfl⟩ := List.append_of_mem hn
  have hh : fs.entryAt? (l₁ ++ [n] ++ l₂) = some e := by simpa using he
  by_cases hl : l₂ = []
  · exact h.name_valid (l := l₁) (by simpa [hl] using hh)
  · exact h.name_valid (entryAt?_above hl hh)

lemma WellFormed.target_usable {l : Location} {target : Path}
    (he : fs.entryAt? l = some (.link target)) : target.Usable := by
  have hl : l ≠ [] := by
    rintro rfl
    simp at he
  rw [← List.dropLast_append_getLast hl] at he
  obtain ⟨nodes, node, hn, hf, _, hk⟩ := entryAt?_concat he
  have hw := (h.nodes.nodesAt? hn).find? hf
  cases node with
  | link m t =>
    cases hk
    exact hw.2
  | file | directory => cases hk

end FileSystem

end BarrelModule
