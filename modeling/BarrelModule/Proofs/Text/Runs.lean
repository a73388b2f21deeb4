import BarrelModule.Proofs.Text.Fields
import Mathlib.Data.List.Basic
import Mathlib.Tactic.SplitIfs

/-! A list divided at its maximal runs of separators, where `fields` divides it at each of them. Of the two
divisions the words are the same; in the first one only an end of the list can give an empty part. -/

namespace BarrelModule.Text

variable {α : Type} {separates : α → Bool}

/-- The parts of a list between its maximal runs of separators. A run that opens the list has an empty part
before it, one that ends it an empty part behind it. -/
def parts (separates : α → Bool) : List α → List (List α)
  | [] => [[]]
  | a :: as =>
    if separates a then
      if as.head?.any separates then parts separates as else [] :: parts separates as
    else match parts separates as with
      | [] => [[a]]
      | f :: fs => (a :: f) :: fs

/-- What it is to be divided at maximal runs: no part holds a separator, and between two parts stands a run
of separators with none next to it. -/
inductive Divided (separates : α → Bool) : List α → List (List α) → Prop
  | whole {f : List α} (hf : ∀ a ∈ f, separates a = false) : Divided separates f [f]
  | run {f r rest : List α} {fs : List (List α)} (hf : ∀ a ∈ f, separates a = false) (hn : r ≠ [])
      (hr : ∀ a ∈ r, separates a = true) (hm : ∀ a ∈ rest.head?, separates a = false)
      (h : Divided separates rest fs) : Divided separates (f ++ (r ++ rest)) (f :: fs)

lemma Divided.ne_nil {as : List α} {fs : List (List α)} (h : Divided separates as fs) : fs ≠ [] := by
  cases h <;> simp

lemma Divided.cons_of_not {a : α} (ha : separates a = false) {as f : List α} {fs : List (List α)}
    (h : Divided separates as (f :: fs)) : Divided separates (a :: as) ((a :: f) :: fs) := by
  cases h with
  | whole hf => exact .whole (List.forall_mem_cons.mpr ⟨ha, hf⟩)
  | run hf hn hr hm h => exact .run (f := a :: f) (List.forall_mem_cons.mpr ⟨ha, hf⟩) hn hr hm h

lemma Divided.cons_of_separates {a b : α} (ha : separates a = true) (hb : separates b = true) {as : List α}
    {fs : List (List α)} (h : Divided separates (b :: as) fs) : Divided separates (a :: b :: as) fs := by
  generalize he : b :: as = bs at h
  cases h with
  | whole hf =>
    have hb' := hf b (he ▸ List.mem_cons_self)
    rw [hb] at hb'
    cases hb'
  | @run f r rest fs hf hn hr hm h =>
    -- The first part is empty, so the new separator goes to the run behind it.
    cases f with
    | nil => exact .run (f := []) (r := a :: r) hf (by simp) (List.forall_mem_cons.mpr ⟨ha, hr⟩) hm h
    | cons c f =>
      obtain rfl : b = c := (List.cons.inj he).1
      rw [hf b List.mem_cons_self] at hb
      cases hb

lemma divided_parts (separates : α → Bool) (as : List α) : Divided separates as (parts separates as) := by
  induction as with
  | nil => exact .whole (by simp)
  | cons a as ih =>
    rw [parts]
    split_ifs with ha hm
    · obtain ⟨b, bs, rfl⟩ : ∃ b bs, as = b :: bs := by
        cases as with
        | nil => simp at hm
        | cons b bs => exact ⟨b, bs, rfl⟩
      exact ih.cons_of_separates ha (by simpa using hm)
    · refine .run (f := []) (r := [a]) (by simp) (by simp) (by simpa using ha) ?_ ih
      intro b hb
      simpa [Option.mem_def.mp hb] using hm
    · obtain ⟨f, fs, hf⟩ := List.exists_cons_of_ne_nil ih.ne_nil
      rw [hf] at ih ⊢
      exact ih.cons_of_not (by simpa using ha)

lemma parts_append_of_not {f rest g : List α} {gs : List (List α)} (hf : ∀ a ∈ f, separates a = false)
    (hg : parts separates rest = g :: gs) : parts separates (f ++ rest) = (f ++ g) :: gs := by
  induction f with
  | nil => exact hg
  | cons a f ih =>
    obtain ⟨ha, hf⟩ := List.forall_mem_cons.mp hf
    rw [List.cons_append, parts, if_neg (by simp [ha]), ih hf]
    rfl

lemma parts_append_run {run rest : List α} (hn : run ≠ []) (hr : ∀ a ∈ run, separates a = true)
    (hm : ∀ a ∈ rest.head?, separates a = false) :
    parts separates (run ++ rest) = [] :: parts separates rest := by
  induction run with
  | nil => exact absurd rfl hn
  | cons a run ih =>
    obtain ⟨ha, hr⟩ := List.forall_mem_cons.mp hr
    rw [List.cons_append, parts, if_pos ha]
    cases run with
    | nil =>
      have hopen : rest.head?.any separates = false := by
        rw [Option.any_eq_false]
        intro b hb
        simp [hm b hb]
      rw [List.nil_append, if_neg (by simp [hopen])]
    | cons b run =>
      rw [if_pos (by simpa using hr b List.mem_cons_self), ih (by simp) hr]

lemma Divided.parts_eq {as : List α} {fs : List (List α)} (h : Divided separates as fs) :
    parts separates as = fs := by
  induction h with
  | whole hf =>
    have hnil : parts separates [] = [[]] := rfl
    simpa using parts_append_of_not hf hnil
  | run hf hn hr hm h ih =>
    rw [parts_append_of_not hf (parts_append_run hn hr hm), ih, List.append_nil]

theorem divided_iff {as : List α} {fs : List (List α)} :
    Divided separates as fs ↔ parts separates as = fs :=
  ⟨Divided.parts_eq, fun h => h ▸ divided_parts separates as⟩

def words (separates : α → Bool) (as : List α) : List (List α) :=
  (fields separates as).filter (· ≠ [])

lemma words_append_cons (as : List α) {a : α} (ha : separates a = true) (bs : List α) :
    words separates (as ++ a :: bs) = words separates as ++ words separates bs := by
  rw [words, fields_append_cons as ha, List.filter_append, words, words]

lemma words_run_append {run : List α} (hr : ∀ a ∈ run, separates a = true) (bs : List α) :
    words separates (run ++ bs) = words separates bs := by
  induction run with
  | nil => rfl
  | cons a run ih =>
    obtain ⟨ha, hr⟩ := List.forall_mem_cons.mp hr
    rw [List.cons_append, ← ih hr]
    exact words_append_cons [] ha (run ++ bs)

lemma words_append_run (as : List α) {run : List α} (hn : run ≠ []) (hr : ∀ a ∈ run, separates a = true)
    (bs : List α) : words separates (as ++ (run ++ bs)) = words separates as ++ words separates bs := by
  obtain ⟨a, run, rfl⟩ := List.exists_cons_of_ne_nil hn
  obtain ⟨ha, hr⟩ := List.forall_mem_cons.mp hr
  rw [List.cons_append, words_append_cons as ha, words_run_append hr]

lemma words_of_forall_not {as : List α} (h : ∀ a ∈ as, separates a = false) :
    words separates as = [as].filter (· ≠ []) := by
  rw [words, fields_of_forall_not h]

lemma Divided.words_eq {as : List α} {fs : List (List α)} (h : Divided separates as fs) :
    words separates as = fs.filter (· ≠ []) := by
  induction h with
  | whole hf => exact words_of_forall_not hf
  | run hf hn hr hm h ih =>
    rw [words_append_run _ hn hr, words_of_forall_not hf, ih, ← List.filter_append, List.singleton_append]

lemma Divided.getLast?_any {as : List α} {fs : List (List α)} (h : Divided separates as fs) :
    (fs.getLast?.any (· ≠ [])) = as.getLast?.any fun a => !separates a := by
  induction h with
  | @whole f hf =>
    rcases List.eq_nil_or_concat' f with rfl | ⟨init, a, rfl⟩
    · rfl
    · have ha : separates a = false := hf a (by simp)
      simp [ha]
  | @run f r rest fs hf hn hr hm h ih =>
    obtain ⟨g, gs, rfl⟩ := List.exists_cons_of_ne_nil h.ne_nil
    rw [List.getLast?_cons_cons, ih]
    cases rest with
    | nil =>
      have hlast : separates (r.getLast hn) = true := hr _ (List.getLast_mem hn)
      rw [List.append_nil, List.getLast?_append_of_ne_nil f hn, List.getLast?_eq_getLast_of_ne_nil hn]
      simp [hlast]
    | cons b rest =>
      rw [← List.append_assoc, List.getLast?_append_of_ne_nil _ (by simp)]

lemma Divided.map_of_fixed {g : α → α} (hfix : ∀ a, separates a = false → g a = a)
    (hsep : ∀ a, separates a = true → separates (g a) = true) {as : List α} {fs : List (List α)}
    (h : Divided separates as fs) : Divided separates (as.map g) fs := by
  have hpart : ∀ f : List α, (∀ a ∈ f, separates a = false) → f.map g = f := by
    intro f hf
    exact (List.map_congr_left fun a ha => hfix a (hf a ha)).trans (List.map_id' f)
  induction h with
  | whole hf =>
    rw [hpart _ hf]
    exact .whole hf
  | @run f r rest fs hf hn hr hm h ih =>
    rw [List.map_append, List.map_append, hpart f hf]
    refine .run hf (by simpa using hn) ?_ ?_ ih
    · intro b hb
      obtain ⟨a, ha, rfl⟩ := List.mem_map.mp hb
      exact hsep a (hr a ha)
    · cases rest with
      | nil => simp
      | cons a rest =>
        have ha : separates a = false := hm a rfl
        simp [hfix a ha, ha]

end BarrelModule.Text
