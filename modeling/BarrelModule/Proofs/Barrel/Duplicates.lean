import BarrelModule.Proofs.Barrel.Warnings

namespace BarrelModule

def Warning.isShared : Warning → Bool
  | .sharedName _ _ _ => true
  | _ => false

def Duplicate.warning (d : Duplicate) : Warning := .sharedName d.second d.first d.name

/-- A definition with the name of one before it, the first of its kind: all that precede it have names of
their own. -/
def FirstShared (ds : List Definition) (earlier later : Definition) : Prop :=
  earlier.binding = later.binding ∧ ∃ init mid tail, ds = (init ++ earlier :: mid) ++ later :: tail ∧
    ((init ++ earlier :: mid).map Definition.binding).Nodup

namespace Barrel

lemma isShared_nameWarning? {d : Definition} : ∀ w ∈ nameWarning? d, w.isShared = false := by
  intro w hw
  rw [nameWarning?] at hw
  split at hw
  · cases hw
    rfl
  · split at hw
    · cases hw
      rfl
    · cases hw

lemma find?_isShared_warningsAfter (seen ds : List Definition) :
    (warningsAfter seen ds).find? Warning.isShared = (duplicateAfter? seen ds).map Duplicate.warning := by
  induction ds generalizing seen with
  | nil => rfl
  | cons d ds ih =>
    have hname : (nameWarning? d).toList.find? Warning.isShared = none := by
      rw [List.find?_eq_none]
      intro w hw
      simp [isShared_nameWarning? w (Option.mem_toList.mp hw)]
    rw [warningsAfter, duplicateAfter?, List.append_assoc, List.find?_append, hname, Option.none_or,
      sharedWarning?]
    cases lastNamed? d.binding seen with
    | some earlier => rfl
    | none => exact ih (d :: seen)

lemma find?_isShared_warnings (b : Barrel) :
    b.warnings.find? Warning.isShared = b.duplicate?.map Duplicate.warning :=
  find?_isShared_warningsAfter [] b.definitions

lemma exists_isShared_iff (b : Barrel) : (∃ w ∈ b.warnings, w.isShared = true) ↔ b.duplicate? ≠ none := by
  rw [← not_iff_not, not_ne_iff, ← Option.map_eq_none_iff (f := Duplicate.warning),
    ← find?_isShared_warnings, List.find?_eq_none]
  push Not
  rfl

lemma duplicateAfter?_eq_some {init ds : List Definition} (hn : (init.map Definition.binding).Nodup)
    {d : Duplicate} (h : duplicateAfter? init.reverse ds = some d) :
    ∃ earlier later, FirstShared (init ++ ds) earlier later ∧
      d = ⟨later.binding, earlier.file, later.file⟩ := by
  induction ds generalizing init with
  | nil => cases h
  | cons later ds ih =>
    rw [duplicateAfter?] at h
    cases hl : lastNamed? later.binding init.reverse with
    | some earlier =>
      rw [hl] at h
      cases h
      obtain ⟨hb, before, mid, rfl, -⟩ := exists_split_of_lastNamed? hl
      exact ⟨earlier, later, ⟨hb, before, mid, ds, rfl, hn⟩, rfl⟩
    | none =>
      rw [hl] at h
      have hnew : later.binding ∉ init.map Definition.binding := by
        intro hm
        obtain ⟨e, he, heq⟩ := List.mem_map.mp hm
        exact lastNamed?_eq_none_iff.mp hl e (List.mem_reverse.mpr he) heq
      have hall : ((init ++ [later]).map Definition.binding).Nodup := by
        rw [List.map_append, List.map_singleton, ← List.concat_eq_append]
        exact hn.concat hnew
      have hh := ih hall (by simpa using h)
      rwa [List.append_assoc, List.singleton_append] at hh

lemma duplicate?_eq_some {b : Barrel} {d : Duplicate} (h : b.duplicate? = some d) :
    ∃ earlier later, FirstShared b.definitions earlier later ∧ d = ⟨later.binding, earlier.file, later.file⟩ := by
  have hnone : (([] : List Definition).map Definition.binding).Nodup := List.nodup_nil
  exact duplicateAfter?_eq_some hnone h

end Barrel

end BarrelModule
