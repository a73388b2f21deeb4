namespace BarrelModule.Text

def fields {α : Type} (separates : α → Bool) : List α → List (List α)
  | [] => [[]]
  | a :: as =>
    if separates a then [] :: fields separates as
    else match fields separates as with
      | [] => [[a]]
      | f :: fs => (a :: f) :: fs

theorem fields_ne_nil {α : Type} (separates : α → Bool) (as : List α) :
    fields separates as ≠ [] := by
  cases as with
  | nil => simp [fields]
  | cons a as =>
    simp only [fields]
    split
    · simp
    · split <;> simp

def join {α : Type} (separator : α) : List (List α) → List α
  | [] => []
  | [f] => f
  | f :: fs => f ++ separator :: join separator fs

theorem join_fields {α : Type} [DecidableEq α] (separator : α) (as : List α) :
    join separator (fields (· == separator) as) = as := by
  induction as with
  | nil => rfl
  | cons a as ih =>
    obtain ⟨f, fs, h⟩ := List.exists_cons_of_ne_nil (fields_ne_nil (· == separator) as)
    rw [h] at ih
    by_cases ha : a = separator
    · simp [fields, ha, h, join, ih]
    · cases fs with
      | nil => simp_all [fields, join]
      | cons g gs => simp_all [fields, join]

end BarrelModule.Text
