import BarrelModule.Text.Fields
import Mathlib.Tactic.Lemma

namespace BarrelModule.Text

variable {α : Type}

lemma fields_cons_of_separates {separates : α → Bool} {a : α} (h : separates a = true) (as : List α) :
    fields separates (a :: as) = [] :: fields separates as := by
  rw [fields, if_pos h]

lemma fields_cons_of_not {separates : α → Bool} {a : α} (h : separates a = false) {as f : List α}
    {fs : List (List α)} (hf : fields separates as = f :: fs) :
    fields separates (a :: as) = (a :: f) :: fs := by
  rw [fields, if_neg (by simp [h]), hf]

lemma fields_eq_cons (separates : α → Bool) (as : List α) :
    ∃ f fs, fields separates as = f :: fs :=
  List.exists_cons_of_ne_nil (fields_ne_nil separates as)

lemma mem_of_mem_fields {separates : α → Bool} {as f : List α} (hf : f ∈ fields separates as) {a : α}
    (ha : a ∈ f) : a ∈ as ∧ separates a = false := by
  induction as generalizing f with
  | nil => simp_all [fields]
  | cons b bs ih =>
    cases hb : separates b with
    | true =>
      rw [fields_cons_of_separates hb] at hf
      rcases List.mem_cons.mp hf with rfl | hf
      · simp at ha
      · exact ⟨List.mem_cons_of_mem _ (ih hf ha).1, (ih hf ha).2⟩
    | false =>
      obtain ⟨g, gs, hg⟩ := fields_eq_cons separates bs
      rw [fields_cons_of_not hb hg] at hf
      rw [hg] at ih
      rcases List.mem_cons.mp hf with rfl | hf
      · rcases List.mem_cons.mp ha with rfl | ha
        · exact ⟨List.mem_cons_self, hb⟩
        · exact ⟨List.mem_cons_of_mem _ (ih List.mem_cons_self ha).1, (ih List.mem_cons_self ha).2⟩
      · have hh := ih (List.mem_cons_of_mem _ hf) ha
        exact ⟨List.mem_cons_of_mem _ hh.1, hh.2⟩

lemma exists_field_of_mem {separates : α → Bool} {as : List α} {a : α} (ha : a ∈ as)
    (h : separates a = false) : ∃ f ∈ fields separates as, a ∈ f := by
  induction as with
  | nil => cases ha
  | cons b bs ih =>
    cases hb : separates b with
    | true =>
      have hbs : a ∈ bs := by
        rcases List.mem_cons.mp ha with rfl | hbs
        · rw [h] at hb
          cases hb
        · exact hbs
      obtain ⟨f, hf, hm⟩ := ih hbs
      rw [fields_cons_of_separates hb]
      exact ⟨f, List.mem_cons_of_mem _ hf, hm⟩
    | false =>
      obtain ⟨g, gs, hg⟩ := fields_eq_cons separates bs
      rw [fields_cons_of_not hb hg]
      rcases List.mem_cons.mp ha with rfl | hbs
      · exact ⟨a :: g, List.mem_cons_self, List.mem_cons_self⟩
      · obtain ⟨f, hf, hm⟩ := ih hbs
        rcases List.mem_cons.mp (hg ▸ hf) with rfl | hf
        · exact ⟨b :: f, List.mem_cons_self, List.mem_cons_of_mem _ hm⟩
        · exact ⟨f, List.mem_cons_of_mem _ hf, hm⟩

lemma fields_append_of_forall_not {separates : α → Bool} {as bs f : List α} {fs : List (List α)}
    (h : ∀ a ∈ as, separates a = false) (hf : fields separates bs = f :: fs) :
    fields separates (as ++ bs) = (as ++ f) :: fs := by
  induction as with
  | nil => exact hf
  | cons a as ih =>
    exact fields_cons_of_not (h a List.mem_cons_self) (ih fun b hb => h b (List.mem_cons_of_mem _ hb))

lemma fields_of_forall_not {separates : α → Bool} {as : List α} (h : ∀ a ∈ as, separates a = false) :
    fields separates as = [as] := by
  have hnil : fields separates [] = [[]] := rfl
  simpa using fields_append_of_forall_not h hnil

lemma fields_append_cons {separates : α → Bool} (as : List α) {a : α} (h : separates a = true)
    (bs : List α) :
    fields separates (as ++ a :: bs) = fields separates as ++ fields separates bs := by
  induction as with
  | nil => simp [fields_cons_of_separates h, fields]
  | cons b as ih =>
    rw [List.cons_append]
    cases hb : separates b with
    | true => rw [fields_cons_of_separates hb, fields_cons_of_separates hb, ih, List.cons_append]
    | false =>
      obtain ⟨f, fs, hf⟩ := fields_eq_cons separates as
      have hh : fields separates (as ++ a :: bs) = f :: (fs ++ fields separates bs) := by rw [ih, hf]; rfl
      rw [fields_cons_of_not hb hh, fields_cons_of_not hb hf, List.cons_append]

lemma join_cons_of_ne_nil (separator : α) (f : List α) {fs : List (List α)} (h : fs ≠ []) :
    join separator (f :: fs) = f ++ separator :: join separator fs := by
  cases fs with
  | nil => exact absurd rfl h
  | cons => rfl

lemma join_append {separator : α} {fs gs : List (List α)} (hf : fs ≠ []) (hg : gs ≠ []) :
    join separator (fs ++ gs) = join separator fs ++ separator :: join separator gs := by
  induction fs with
  | nil => exact absurd rfl hf
  | cons f fs ih =>
    by_cases hn : fs = []
    · rw [hn, List.cons_append, List.nil_append, join_cons_of_ne_nil separator f hg, join]
    · rw [List.cons_append, join_cons_of_ne_nil separator f (by simp [hn]),
        join_cons_of_ne_nil separator f hn, ih hn]
      simp

lemma cons_join (separator : α) {fs : List (List α)} (hf : fs ≠ []) :
    separator :: join separator fs = fs.flatMap (separator :: ·) := by
  induction fs with
  | nil => exact absurd rfl hf
  | cons f fs ih =>
    by_cases hn : fs = []
    · simp [hn, join]
    · rw [join_cons_of_ne_nil separator f hn, ih hn, List.flatMap_cons, List.cons_append]

lemma join_isPrefix {separator : α} {fs gs : List (List α)} (h : fs <+: gs) :
    join separator fs <+: join separator gs := by
  obtain ⟨rest, rfl⟩ := h
  by_cases hf : fs = []
  · simp [hf, join]
  by_cases hr : rest = []
  · simp [hr]
  · rw [join_append hf hr]
    exact List.prefix_append _ _

lemma fields_join [BEq α] [LawfulBEq α] {separator : α} {fs : List (List α)} (hn : fs ≠ [])
    (h : ∀ f ∈ fs, separator ∉ f) : fields (· == separator) (join separator fs) = fs := by
  induction fs with
  | nil => exact absurd rfl hn
  | cons f fs ih =>
    have hf : fields (· == separator) f = [f] := by
      apply fields_of_forall_not
      intro a ha
      have hne : a ≠ separator := fun he => h f List.mem_cons_self (he ▸ ha)
      simpa using hne
    by_cases he : fs = []
    · simpa [he, join] using hf
    · rw [join_cons_of_ne_nil separator f he, fields_append_cons f (by simp), hf,
        ih he fun g hg => h g (List.mem_cons_of_mem _ hg)]
      rfl

lemma mem_join {separator : α} {fs : List (List α)} {a : α} (h : a ∈ join separator fs) :
    a = separator ∨ ∃ f ∈ fs, a ∈ f := by
  induction fs with
  | nil => simp [join] at h
  | cons f fs ih =>
    by_cases he : fs = []
    · exact Or.inr ⟨f, List.mem_cons_self, by simpa [he, join] using h⟩
    · rw [join_cons_of_ne_nil separator f he, List.mem_append, List.mem_cons] at h
      rcases h with h | h | h
      · exact Or.inr ⟨f, List.mem_cons_self, h⟩
      · exact Or.inl h
      · rcases ih h with h | ⟨g, hg, ha⟩
        · exact Or.inl h
        · exact Or.inr ⟨g, List.mem_cons_of_mem _ hg, ha⟩

end BarrelModule.Text
