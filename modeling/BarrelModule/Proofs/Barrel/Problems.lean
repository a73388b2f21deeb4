import BarrelModule.Proofs.Barrel.Warnings
import Mathlib.Data.Finset.Card
import Mathlib.Data.Finset.Lattice.Lemmas

namespace BarrelModule

inductive NameProblem (d : Definition) : List String → Prop where
  | empty (h : d.binding = "") :
    NameProblem d [quoted d.file.display ++ " produces an empty import name"]
  | invalid (hn : d.binding ≠ "") (hi : isIdentifier d.binding = false) :
    NameProblem d [quoted d.file.display ++ " produces " ++ quoted d.binding ++ ", which is not a valid identifier"]
  | valid (h : isIdentifier d.binding = true) : NameProblem d []

def collisionText (earlier later : Definition) : String :=
  quoted later.file.display ++ " and " ++ quoted earlier.file.display ++ " both import as " ++ quoted later.binding

/-- What there is to tell of a definition that comes after others: the latest of them with its name. -/
inductive Collision (before : List Definition) (d : Definition) : List String → Prop where
  | latest {init mid : List Definition} {earlier : Definition} (hb : before = init ++ earlier :: mid)
    (he : earlier.binding = d.binding) (hm : ∀ e ∈ mid, e.binding ≠ d.binding) :
    Collision before d [collisionText earlier d]
  | fresh (h : ∀ e ∈ before, e.binding ≠ d.binding) : Collision before d []

inductive Told : List Definition → List String → Prop where
  | nil : Told [] []
  | concat {ds : List Definition} {d : Definition} {texts named shared : List String} (h : Told ds texts)
    (hn : NameProblem d named) (hs : Collision ds d shared) : Told (ds ++ [d]) (texts ++ (named ++ shared))

def Warning.isSharedAs (name : String) : Warning → Bool
  | .sharedName _ _ n => n == name
  | _ => false

namespace Barrel

lemma nameProblem_iff {d : Definition} {texts : List String} :
    NameProblem d texts ↔ texts = (nameWarning? d).toList.map Warning.message := by
  constructor
  · rintro (h | ⟨hn, hi⟩ | h)
    · rw [nameWarning?, if_pos h]
      rfl
    · rw [nameWarning?, if_neg hn, if_pos (by simp [hi])]
      rfl
    · rw [nameWarning?_eq_none_iff.mpr h]
      rfl
  · rintro rfl
    rw [nameWarning?]
    by_cases h : d.binding = ""
    · rw [if_pos h]
      exact .empty h
    · rw [if_neg h]
      cases hi : isIdentifier d.binding with
      | false => exact .invalid h hi
      | true => exact .valid hi

lemma lastNamed?_split {name : String} {init mid : List Definition} {earlier : Definition}
    (he : earlier.binding = name) (hm : ∀ e ∈ mid, e.binding ≠ name) :
    lastNamed? name (init ++ earlier :: mid).reverse = some earlier := by
  rw [lastNamed?, List.find?_eq_some_iff_append]
  refine ⟨by simp [he], mid.reverse, init.reverse, by simp, ?_⟩
  intro e hmem
  simpa using hm e (List.mem_reverse.mp hmem)

lemma collision_iff {before : List Definition} {d : Definition} {texts : List String} :
    Collision before d texts ↔ texts = (sharedWarning? before.reverse d).toList.map Warning.message := by
  constructor
  · rintro (⟨rfl, he, hm⟩ | h)
    · rw [sharedWarning?, lastNamed?_split he hm]
      rfl
    · have hnone : lastNamed? d.binding before.reverse = none :=
        lastNamed?_eq_none_iff.mpr fun e hmem => h e (List.mem_reverse.mp hmem)
      rw [sharedWarning?, hnone]
      rfl
  · rintro rfl
    rw [sharedWarning?]
    cases hl : lastNamed? d.binding before.reverse with
    | none => exact .fresh fun e hmem => lastNamed?_eq_none_iff.mp hl e (List.mem_reverse.mpr hmem)
    | some earlier =>
      obtain ⟨he, init, mid, hb, hm⟩ := exists_split_of_lastNamed? hl
      exact .latest hb he hm

lemma warningsAfter_concat (seen ds : List Definition) (d : Definition) :
    warningsAfter seen (ds ++ [d]) =
      warningsAfter seen ds ++ ((nameWarning? d).toList ++ (sharedWarning? (ds.reverse ++ seen) d).toList) := by
  induction ds generalizing seen with
  | nil => simp [warningsAfter]
  | cons e ds ih =>
    rw [List.cons_append, warningsAfter, warningsAfter, ih]
    simp

lemma warningsAfter_nil_concat (ds : List Definition) (d : Definition) :
    warningsAfter [] (ds ++ [d]) =
      warningsAfter [] ds ++ ((nameWarning? d).toList ++ (sharedWarning? ds.reverse d).toList) := by
  rw [warningsAfter_concat, List.append_nil]

lemma told_iff {ds : List Definition} {texts : List String} :
    Told ds texts ↔ texts = (warningsAfter [] ds).map Warning.message := by
  constructor
  · intro h
    induction h with
    | nil => rfl
    | concat _ hn hs ih =>
      rw [warningsAfter_nil_concat, List.map_append, List.map_append, ← ih, ← nameProblem_iff.mp hn,
        ← collision_iff.mp hs]
  · rintro rfl
    -- the definitions seen lie in reverse, so those before the last one are a list of the same kind
    induction ds using List.reverseRecOn with
    | nil => exact .nil
    | append_singleton ds d ih =>
      rw [warningsAfter_nil_concat, List.map_append, List.map_append]
      exact .concat ih (nameProblem_iff.mpr rfl) (collision_iff.mpr rfl)

def named (name : String) (ds : List Definition) : List Definition := ds.filter fun d => d.binding == name

lemma lastNamed?_reverse_eq (name : String) (ds : List Definition) :
    lastNamed? name ds.reverse = (named name ds).getLast? := by
  rw [lastNamed?, named, List.getLast?_filter]

lemma filter_isSharedAs_nameWarning (name : String) (d : Definition) :
    (nameWarning? d).toList.filter (Warning.isSharedAs name) = [] := by
  rw [nameWarning?]
  split
  · rfl
  · split <;> rfl

lemma zipWith_tail_concat {α β : Type} (f : α → α → β) (as : List α) (a b : α) :
    List.zipWith f ((as ++ [a]) ++ [b]) ((as ++ [a]) ++ [b]).tail =
      List.zipWith f (as ++ [a]) (as ++ [a]).tail ++ [f a b] := by
  induction as with
  | nil => rfl
  | cons c as ih => cases as <;> simp_all

lemma filter_isSharedAs_shared (name : String) (ds : List Definition) (d : Definition) :
    ((sharedWarning? ds.reverse d).toList.filter (Warning.isSharedAs name)).map Warning.message =
      if d.binding = name then ((named name ds).getLast?.map fun e => collisionText e d).toList else [] := by
  rw [sharedWarning?]
  split
  case isTrue h =>
    rw [h, lastNamed?_reverse_eq]
    cases (named name ds).getLast? with
    | none => rfl
    | some e => simp [Warning.isSharedAs, Warning.message, collisionText, h]
  case isFalse h =>
    cases lastNamed? d.binding ds.reverse with
    | none => rfl
    | some e => simp [Warning.isSharedAs, h]

lemma filter_isSharedAs_warnings (name : String) (ds : List Definition) :
    ((warningsAfter [] ds).filter (Warning.isSharedAs name)).map Warning.message =
      List.zipWith collisionText (named name ds) (named name ds).tail := by
  -- on the last definition: it is told of with the last one of its name so far, which adds one pair
  induction ds using List.reverseRecOn with
  | nil => rfl
  | append_singleton ds d ih =>
    rw [warningsAfter_nil_concat, List.filter_append, List.filter_append, filter_isSharedAs_nameWarning,
      List.nil_append, List.map_append, ih, filter_isSharedAs_shared]
    have hnamed : named name (ds ++ [d]) = named name ds ++ if d.binding = name then [d] else [] := by
      by_cases h : d.binding = name <;> simp [named, h]
    rw [hnamed]
    split
    case isFalse => simp
    case isTrue =>
      rcases List.eq_nil_or_concat (named name ds) with hn | ⟨init, last, hn⟩
      · simp [hn]
      · rw [hn, List.concat_eq_append, zipWith_tail_concat]
        simp

lemma length_nameWarning (d : Definition) :
    (nameWarning? d).toList.length = if d.binding = "" ∨ isIdentifier d.binding = false then 1 else 0 := by
  rw [nameWarning?]
  by_cases h : d.binding = ""
  · simp [h]
  · cases hi : isIdentifier d.binding <;> simp [h]

lemma length_sharedWarning (ds : List Definition) (d : Definition) :
    (sharedWarning? ds.reverse d).toList.length =
      if d.binding ∈ ds.map Definition.binding then 1 else 0 := by
  rw [sharedWarning?]
  cases hl : lastNamed? d.binding ds.reverse with
  | none =>
    have hnot : d.binding ∉ ds.map Definition.binding := by
      intro hm
      obtain ⟨e, he, heq⟩ := List.mem_map.mp hm
      exact lastNamed?_eq_none_iff.mp hl e (List.mem_reverse.mpr he) heq
    rw [if_neg hnot]
    rfl
  | some e =>
    obtain ⟨he, init, mid, rfl, -⟩ := exists_split_of_lastNamed? hl
    rw [if_pos (List.mem_map.mpr ⟨e, by simp, he⟩)]
    rfl

lemma card_names_concat (ds : List Definition) (d : Definition) :
    ((ds ++ [d]).map Definition.binding).toFinset.card =
      (ds.map Definition.binding).toFinset.card + if d.binding ∈ ds.map Definition.binding then 0 else 1 := by
  have hinsert : ((ds ++ [d]).map Definition.binding).toFinset =
      insert d.binding (ds.map Definition.binding).toFinset := by
    ext n
    simp
  rw [hinsert, Finset.card_insert_eq_ite]
  simp only [List.mem_toFinset]
  split <;> rfl

lemma length_warningsAfter (ds : List Definition) :
    (warningsAfter [] ds).length + (ds.map Definition.binding).toFinset.card =
      ds.countP (fun d => d.binding = "" ∨ isIdentifier d.binding = false) + ds.length := by
  induction ds using List.reverseRecOn with
  | nil => rfl
  | append_singleton ds d ih =>
    rw [warningsAfter_nil_concat, List.length_append, List.length_append, length_nameWarning,
      length_sharedWarning, card_names_concat, List.countP_append, List.countP_singleton, List.length_append,
      List.length_singleton]
    simp only [decide_eq_true_eq]
    split <;> split <;> omega

theorem warnings_exact (b : Barrel) :
    (∀ texts, Told b.definitions texts ↔ texts = b.warnings.map Warning.message) ∧
      (∀ name, (b.warnings.filter (Warning.isSharedAs name)).map Warning.message =
        List.zipWith collisionText (named name b.definitions) (named name b.definitions).tail) ∧
      b.warnings.length + (b.definitions.map Definition.binding).toFinset.card =
        b.definitions.countP (fun d => d.binding = "" ∨ isIdentifier d.binding = false) +
          b.definitions.length ∧
      (b.warnings = [] ↔ (∀ d ∈ b.definitions, isIdentifier d.binding = true) ∧
        (b.definitions.map Definition.binding).Nodup) := by
  refine ⟨fun texts => told_iff, fun name => filter_isSharedAs_warnings name b.definitions,
    length_warningsAfter b.definitions, warnings_eq_nil_iff⟩

end Barrel

end BarrelModule
