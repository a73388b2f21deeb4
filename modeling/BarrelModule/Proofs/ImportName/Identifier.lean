import BarrelModule.Proofs.Barrel.Module
import BarrelModule.Proofs.ImportName.Derivation
import BarrelModule.Proofs.ImportName.Shape

namespace BarrelModule

open Text

lemma opens_eq_not_isDigit {c : Char} (h : isWordChar c = true) :
    (c.isAlpha || c == '_' || c == '$') = !c.isDigit := by
  apply wordChar_induction (P := fun c => (c.isAlpha || c == '_' || c == '$') = !c.isDigit) _ h
  decide

lemma isIdentifier_iff_of_wordChars {n : String} (h : ∀ c ∈ n.toList, isWordChar c = true) :
    isIdentifier n = true ↔ n ≠ "" ∧ (n.toList.head?.all fun c => !c.isDigit) = true := by
  have hempty : n ≠ "" ↔ n.toList ≠ [] := by simp
  rw [isIdentifier, hempty]
  cases hn : n.toList with
  | nil => simp
  | cons c cs =>
    rw [hn] at h
    obtain ⟨hc, hcs⟩ := List.forall_mem_cons.mp h
    have hall : (cs.all fun c => isWordChar c || c == '$') = true := by
      rw [List.all_eq_true]
      intro d hd
      rw [hcs d hd, Bool.true_or]
    simp [opens_eq_not_isDigit hc, hall]

lemma capitalizeFirst_of_capital {w : List Char} (hw : ∀ c ∈ w, isWordChar c = true)
    (h : ∀ c ∈ w.head?, c.isLower = false) : capitalizeFirst w = w := by
  cases w with
  | nil => rfl
  | cons c cs =>
    have hc := hw c List.mem_cons_self
    rw [capitalizeFirst_of_wordChar hc, toUpper_of_not_isLower hc (h c rfl)]

lemma importName_extension {n : String} (hw : ∀ c ∈ n.toList, isWordChar c = true) :
    (importName (n ++ ".js")).toList = capitalizeFirst n.toList := by
  have hdot : isWordChar '.' = false := by decide
  have hjs : nameWords ['j', 's'] = [] := rfl
  have hword : pathWords n.toList = [n.toList].filter (· ≠ []) := words_of_forall_not (by simpa using hw)
  have hlist : (n ++ ".js").toList = n.toList ++ '.' :: ['j', 's'] := by simp
  rw [toList_importName, hlist, nameWords_append_cons _ hdot, hjs, List.append_nil, hword,
    flatMap_capitalizeFirst_filter, List.flatMap_singleton]

/-- The name of a path is made of word characters and opens with no small letter, so no reserved word is
one; it is an identifier unless it is empty or opens with a digit; and it is the name of the file of that
name. -/
theorem importName_identifier (path : String) :
    (importName path).toList.all isWordChar = true ∧
      ((importName path).toList.head?.all fun c => !c.isLower) = true ∧
      importName path ∉ Script.reserved ∧
      (isIdentifier (importName path) = true ↔
        importName path ≠ "" ∧ ((importName path).toList.head?.all fun c => !c.isDigit) = true) ∧
      importName (importName path ++ ".js") = importName path := by
  have hwords := importName_isWordChar path
  have hhead : ∀ c ∈ (importName path).toList.head?, c.isLower = false := fun c hc => importName_head hc
  refine ⟨List.all_eq_true.mpr hwords, ?_, Barrel.notMem_reserved hhead, isIdentifier_iff_of_wordChars hwords, ?_⟩
  · rw [Option.all_eq_true]
    intro c hc
    rw [hhead c hc, Bool.not_false]
  · apply String.toList_inj.mp
    rw [importName_extension hwords, capitalizeFirst_of_capital hwords hhead]

end BarrelModule
