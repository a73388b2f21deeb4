import BarrelModule.Barrel
import Mathlib.Data.List.Nodup

namespace BarrelModule.Barrel

lemma nameWarning?_eq_none_iff {d : Definition} :
    nameWarning? d = none ↔ isIdentifier d.binding = true := by
  rw [nameWarning?]
  split
  case isTrue h => simp [h, isIdentifier]
  case isFalse h => cases isIdentifier d.binding <;> simp

lemma lastNamed?_eq_none_iff {name : String} {seen : List Definition} :
    lastNamed? name seen = none ↔ ∀ d ∈ seen, d.binding ≠ name := by
  simp [lastNamed?]

lemma exists_split_of_lastNamed? {name : String} {before : List Definition} {earlier : Definition}
    (h : lastNamed? name before.reverse = some earlier) :
    earlier.binding = name ∧ ∃ init mid, before = init ++ earlier :: mid ∧ ∀ e ∈ mid, e.binding ≠ name := by
  rw [lastNamed?, List.find?_eq_some_iff_append] at h
  obtain ⟨he, front, back, hsplit, hfront⟩ := h
  refine ⟨by simpa using he, back.reverse, front.reverse, ?_, ?_⟩
  · rw [← List.reverse_reverse before, hsplit]
    simp
  · intro e hmem
    simpa using hfront e (List.mem_reverse.mp hmem)

lemma warningsAfter_eq_nil_iff {seen ds : List Definition} :
    warningsAfter seen ds = [] ↔ (∀ d ∈ ds, isIdentifier d.binding = true) ∧
      (ds.map Definition.binding).Nodup ∧ ∀ d ∈ ds, ∀ e ∈ seen, e.binding ≠ d.binding := by
  induction ds generalizing seen with
  | nil => simp [warningsAfter]
  | cons d ds ih =>
    have hname : (nameWarning? d).toList = [] ↔ isIdentifier d.binding = true := by
      rw [Option.toList_eq_nil_iff, nameWarning?_eq_none_iff]
    have hshared : (sharedWarning? seen d).toList = [] ↔ ∀ e ∈ seen, e.binding ≠ d.binding := by
      rw [Option.toList_eq_nil_iff, sharedWarning?, Option.map_eq_none_iff, lastNamed?_eq_none_iff]
    rw [warningsAfter, List.append_eq_nil_iff, List.append_eq_nil_iff, hname, hshared, ih]
    simp only [List.forall_mem_cons, List.map_cons, List.nodup_cons, List.mem_map, not_exists, not_and]
    constructor
    · rintro ⟨⟨hi, hs⟩, his, hn, hss⟩
      exact ⟨⟨hi, his⟩, ⟨fun e he heq => (hss e he).1 heq.symm, hn⟩, hs, fun e he => (hss e he).2⟩
    · rintro ⟨⟨hi, his⟩, ⟨hd, hn⟩, hs, hss⟩
      exact ⟨⟨hi, hs⟩, his, hn, fun e he => ⟨fun heq => hd e he heq.symm, hss e he⟩⟩

theorem warnings_eq_nil_iff {b : Barrel} :
    b.warnings = [] ↔ (∀ d ∈ b.definitions, isIdentifier d.binding = true) ∧
      (b.definitions.map Definition.binding).Nodup := by
  simp [warnings, warningsAfter_eq_nil_iff]

lemma duplicateAfter?_eq_none_iff {seen ds : List Definition} :
    duplicateAfter? seen ds = none ↔
      (ds.map Definition.binding).Nodup ∧ ∀ d ∈ ds, ∀ e ∈ seen, e.binding ≠ d.binding := by
  induction ds generalizing seen with
  | nil => simp [duplicateAfter?]
  | cons d ds ih =>
    rw [duplicateAfter?]
    cases hl : lastNamed? d.binding seen with
    | some earlier =>
      have hn : ¬ ∀ e ∈ seen, e.binding ≠ d.binding := by
        rw [← lastNamed?_eq_none_iff, hl]
        simp
      simp [hn]
    | none =>
      have hseen := lastNamed?_eq_none_iff.mp hl
      simp only [ih, List.map_cons, List.nodup_cons, List.mem_map, not_exists, not_and,
        List.forall_mem_cons]
      constructor
      · rintro ⟨hd, hs⟩
        exact ⟨⟨fun e he heq => (hs e he).1 heq.symm, hd⟩, hseen, fun e he => (hs e he).2⟩
      · rintro ⟨⟨hd, hn⟩, _, hs⟩
        exact ⟨hn, fun e he => ⟨fun heq => hd e he heq.symm, hs e he⟩⟩

theorem duplicate?_eq_none_iff {b : Barrel} :
    b.duplicate? = none ↔ (b.definitions.map Definition.binding).Nodup := by
  simp [duplicate?, duplicateAfter?_eq_none_iff]

end BarrelModule.Barrel
