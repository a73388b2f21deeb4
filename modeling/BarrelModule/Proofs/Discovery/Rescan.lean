import BarrelModule.Proofs.Discovery.Exact
import BarrelModule.Proofs.FileSystem.Adding

/-! A scan after a file or a link has come to stand somewhere finds what it found before, and in its place
among the rest the file or the link itself where it is new and is one that the scan is after. -/

namespace BarrelModule.Discovery

open Text FileSystem

lemma exists_insertion {found found' : List Location} (h : found.Pairwise (· < ·))
    (h' : found'.Pairwise (· < ·)) {m : Location} (hm : m ∈ found')
    (hk : ∀ k, k ∈ found ↔ k ∈ found' ∧ k ≠ m) :
    ∃ init tail, found = init ++ tail ∧ found' = init ++ m :: tail := by
  obtain ⟨init, tail, rfl⟩ := List.append_of_mem hm
  refine ⟨init, tail, ?_, rfl⟩
  have hsub : (init ++ tail).Sublist (init ++ m :: tail) := by simp
  apply h.eq_of_mem_iff (h'.sublist hsub)
  have hnotMem : m ∉ init ++ tail := (List.nodup_cons.mp (List.nodup_middle.mp h'.nodup)).1
  intro k
  rw [hk]
  constructor
  · rintro ⟨hin, hne⟩
    simpa [hne] using hin
  · intro hin
    exact ⟨hsub.subset hin, fun he => hnotMem (he ▸ hin)⟩

section Sets

variable {fs fs' : FileSystem} {l : Location} {e : Entry} (hs : Sets fs fs' l e)
include hs

lemma wanted_of_sets {scan : Scan} {place : Place} {m : Location} :
    Wanted fs' scan place m ↔
      Wanted fs scan place m ∨ (place.removed = 0 ∧ Picks scan m ∧ place.location ++ m = l) := by
  rw [wanted_iff, wanted_iff]
  by_cases hm : place.location ++ m = l
  · have hleaf : ∃ e, fs'.entryAt? l = some e ∧ e ≠ .directory := ⟨e, hs.after, hs.leaf⟩
    simp only [hm, hleaf, and_true]
    exact ⟨Or.inr, fun h => h.elim (fun h => ⟨h.1, h.2.1⟩) id⟩
  · rw [hs.elsewhere _ hm]
    simp [hm]

lemma entered_of_sets {scan : Scan} {place : Place} {m : Location} :
    Entered fs' scan place m ↔ Entered fs scan place m := by
  have hdirectory : fs'.entryAt? (place.location ++ m) = some .directory ↔
      fs.entryAt? (place.location ++ m) = some .directory := by
    by_cases hm : place.location ++ m = l
    · rw [hm, hs.after]
      exact iff_of_false (fun he => hs.leaf (Option.some.inj he)) hs.before
    · rw [hs.elsewhere _ hm]
  exact ⟨fun ⟨hp, he, hd⟩ => ⟨hp, hdirectory.mp he, hd⟩, fun ⟨hp, he, hd⟩ => ⟨hp, hdirectory.mpr he, hd⟩⟩

lemma listable_of_sets {scan : Scan} {place : Place} (hl : Listable fs scan place) : Listable fs' scan place :=
  fun m hm => hl m ((entered_of_sets hs).mp hm)

variable (h : fs.WellFormed) (h' : fs'.WellFormed) {scan : Scan} {place : Place}
include h h'

lemma locations_of_sets (hn : ¬ (fs.entryAt? l = none ∧ Covers scan place.location l)) :
    locations scan (fs'.nodesIn place) = locations scan (fs.nodesIn place) := by
  apply (locations_sorted (h'.nodesIn _)).eq_of_mem_iff (locations_sorted (h.nodesIn _))
  intro m
  rw [mem_locations h', mem_locations h, wanted_of_sets hs]
  apply or_iff_left_of_imp
  rintro ⟨hp, hpicks, hm⟩
  obtain ⟨old, hold⟩ := Option.ne_none_iff_exists'.mp fun hnone => hn ⟨hnone, m, hm, hpicks⟩
  refine wanted_iff.mpr ⟨hp, hpicks, old, by rw [hm, hold], ?_⟩
  rintro rfl
  exact hs.before hold

lemma locations_insert_of_sets (hn : fs.entryAt? l = none) (hp : place.removed = 0) {m : Location}
    (hm : place.location ++ m = l) (hpicks : Picks scan m) :
    ∃ init tail, locations scan (fs.nodesIn place) = init ++ tail ∧
      locations scan (fs'.nodesIn place) = init ++ m :: tail := by
  apply exists_insertion (locations_sorted (h.nodesIn _)) (locations_sorted (h'.nodesIn _))
  · exact (mem_locations h').mpr ((wanted_of_sets hs).mpr (Or.inr ⟨hp, hpicks, hm⟩))
  · intro k
    rw [mem_locations h, mem_locations h', wanted_of_sets hs]
    constructor
    · intro hk
      refine ⟨Or.inl hk, ?_⟩
      rintro rfl
      obtain ⟨e, he, -⟩ := hk.leaf
      rw [hm, hn] at he
      cases he
    · rintro ⟨hk | ⟨-, -, hk⟩, hne⟩
      · exact hk
      · exact absurd (List.append_cancel_left (hk.trans hm.symm)) hne

end Sets

end BarrelModule.Discovery
