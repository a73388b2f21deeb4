import BarrelModule.ImportName
import BarrelModule.Proofs.Text.Runs

namespace BarrelModule

open Text

def pathWords (path : List Char) : List (List Char) :=
  (fields (fun c => !isWordChar c) path).filter (· ≠ [])

lemma nameWords_eq (path : List Char) :
    nameWords path = if endsInWord path then (pathWords path).dropLast else pathWords path := rfl

lemma pathWords_append_cons (as : List Char) {c : Char} (hc : isWordChar c = false) (bs : List Char) :
    pathWords (as ++ c :: bs) = pathWords as ++ pathWords bs := by
  apply words_append_cons as
  rw [hc, Bool.not_false]

lemma endsInWord_append_cons (as : List Char) {c : Char} (hc : isWordChar c = false) (bs : List Char) :
    endsInWord (as ++ c :: bs) = endsInWord bs := by
  rw [endsInWord, endsInWord, List.getLast?_append_of_ne_nil as (by simp)]
  cases bs with
  | nil => simp [hc]
  | cons b bs => rw [List.getLast?_cons_cons]

lemma pathWords_ne_nil {path : List Char} (h : endsInWord path = true) : pathWords path ≠ [] := by
  rw [endsInWord] at h
  split at h
  case h_1 c hc =>
    obtain ⟨f, hf, hm⟩ : ∃ f ∈ fields (fun c => !isWordChar c) path, c ∈ f := by
      apply exists_field_of_mem (List.mem_of_getLast? hc)
      rw [h, Bool.not_true]
    apply List.ne_nil_of_mem (a := f)
    apply List.mem_filter.mpr
    exact ⟨hf, by simpa using List.ne_nil_of_mem hm⟩
  case h_2 => cases h

theorem nameWords_append_cons (as : List Char) {c : Char} (hc : isWordChar c = false) (bs : List Char) :
    nameWords (as ++ c :: bs) = pathWords as ++ nameWords bs := by
  rw [nameWords_eq, nameWords_eq, endsInWord_append_cons as hc, pathWords_append_cons as hc]
  split
  case isTrue h => exact List.dropLast_append_of_ne_nil (pathWords_ne_nil h)
  case isFalse => rfl

lemma nameWords_run_append {run : List Char} (hr : ∀ c ∈ run, isWordChar c = false) (bs : List Char) :
    nameWords (run ++ bs) = nameWords bs := by
  induction run with
  | nil => rfl
  | cons c run ih =>
    obtain ⟨hc, hr⟩ := List.forall_mem_cons.mp hr
    rw [List.cons_append, ← ih hr]
    exact nameWords_append_cons [] hc (run ++ bs)

lemma nameWords_append_run (as : List Char) {run : List Char} (hn : run ≠ [])
    (hr : ∀ c ∈ run, isWordChar c = false) (bs : List Char) :
    nameWords (as ++ (run ++ bs)) = pathWords as ++ nameWords bs := by
  obtain ⟨c, run, rfl⟩ := List.exists_cons_of_ne_nil hn
  obtain ⟨hc, hr⟩ := List.forall_mem_cons.mp hr
  rw [List.cons_append, nameWords_append_cons as hc, nameWords_run_append hr]

lemma nameWords_concat (as : List Char) {c : Char} (hc : isWordChar c = false) :
    nameWords (as ++ [c]) = pathWords as := by
  have hnil : nameWords [] = [] := rfl
  rw [nameWords_append_cons as hc, hnil, List.append_nil]

end BarrelModule
