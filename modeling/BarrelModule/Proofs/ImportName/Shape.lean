import BarrelModule.ImportName
import BarrelModule.Proofs.Text.Fields

namespace BarrelModule

open Text

lemma isWordChar_ascii {c : Char} (h : isWordChar c = true) : c.toNat ≤ 0x7F := by
  have hword : isWordChar c = ((decide ('A'.val ≤ c.val ∧ c.val ≤ 'Z'.val) ||
      (decide ('a'.val ≤ c.val) && decide (c.val ≤ 'z'.val)) ||
      (decide ('0'.val ≤ c.val) && decide (c.val ≤ '9'.val))) || c == '_') := rfl
  have hc : c.toNat = c.val.toNat := rfl
  simp only [hword, Bool.or_eq_true, Bool.and_eq_true, decide_eq_true_eq, beq_iff_eq,
    UInt32.le_iff_toNat_le] at h
  rcases h with h | rfl
  · simp at h
    omega
  · decide

lemma wordChar_induction {P : Char → Prop} (h : ∀ n < 128, isWordChar (Char.ofNat n) = true → P (Char.ofNat n))
    {c : Char} (hc : isWordChar c = true) : P c := by
  have hn : c.toNat < 128 := Nat.lt_succ_of_le (isWordChar_ascii hc)
  rw [← Char.ofNat_toNat c] at hc ⊢
  exact h c.toNat hn hc

lemma isWordChar_toUpper {c : Char} (h : isWordChar c = true) : isWordChar c.toUpper = true := by
  apply wordChar_induction (P := fun c => isWordChar c.toUpper = true) _ h
  decide

lemma isLower_toUpper {c : Char} (h : isWordChar c = true) : c.toUpper.isLower = false := by
  apply wordChar_induction (P := fun c => c.toUpper.isLower = false) _ h
  decide

lemma toUpper_of_not_isLower {c : Char} (h : isWordChar c = true) (hc : c.isLower = false) : c.toUpper = c := by
  apply wordChar_induction (P := fun c => c.isLower = false → c.toUpper = c) _ h hc
  decide

lemma capitalizeFirst_of_wordChar {c : Char} (h : isWordChar c = true) (cs : List Char) :
    capitalizeFirst (c :: cs) = c.toUpper :: cs := by
  rw [capitalizeFirst, Unicode.uppercase, if_pos (isWordChar_ascii h)]
  rfl

lemma mem_nameWords {path w : List Char} (h : w ∈ nameWords path) :
    w ≠ [] ∧ ∀ c ∈ w, isWordChar c = true := by
  have hw : w ∈ (fields (fun c => !isWordChar c) path).filter (· ≠ []) := by
    rw [nameWords] at h
    split at h
    · exact List.dropLast_subset _ h
    · exact h
  obtain ⟨hf, hn⟩ := List.mem_filter.mp hw
  refine ⟨by simpa using hn, fun c hc => ?_⟩
  simpa using (mem_of_mem_fields hf hc).2

lemma isWordChar_of_mem_capitalizeFirst {w : List Char} (hw : ∀ c ∈ w, isWordChar c = true) :
    ∀ c ∈ capitalizeFirst w, isWordChar c = true := by
  cases w with
  | nil => simp [capitalizeFirst]
  | cons d ds =>
    obtain ⟨hd, hds⟩ := List.forall_mem_cons.mp hw
    rw [capitalizeFirst_of_wordChar hd]
    exact List.forall_mem_cons.mpr ⟨isWordChar_toUpper hd, hds⟩

lemma importName_isWordChar (path : String) : ∀ c ∈ (importName path).toList, isWordChar c = true := by
  intro c hc
  rw [importName, String.toList_ofList] at hc
  obtain ⟨w, hw, hcw⟩ := List.mem_flatMap.mp hc
  exact isWordChar_of_mem_capitalizeFirst (mem_nameWords hw).2 c hcw

lemma importName_head {path : String} {c : Char} (h : (importName path).toList.head? = some c) :
    c.isLower = false := by
  rw [importName, String.toList_ofList] at h
  cases hw : nameWords path.toList with
  | nil => simp [hw] at h
  | cons w ws =>
    obtain ⟨hn, hc⟩ := mem_nameWords (hw ▸ List.mem_cons_self)
    obtain ⟨d, ds, rfl⟩ := List.exists_cons_of_ne_nil hn
    have hd := hc d List.mem_cons_self
    rw [hw, List.flatMap_cons, capitalizeFirst_of_wordChar hd] at h
    obtain rfl : d.toUpper = c := by simpa using h
    exact isLower_toUpper hd

end BarrelModule
