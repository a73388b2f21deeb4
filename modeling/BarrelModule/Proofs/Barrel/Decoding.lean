import BarrelModule.Proofs.Barrel.Length
import Mathlib.Algebra.Group.Action.Defs

/-! The text of a module tells its barrel apart from every other: the imports end at the first empty line,
and the key is as long as the text leaves room for. -/

namespace BarrelModule.Barrel

open CodeWriter

structure Legible (b : Barrel) : Prop where
  binding : ∀ d ∈ b.definitions, ∀ c ∈ d.binding.toList, isWordChar c = true ∨ c = '$'
  specifier : ∀ d ∈ b.definitions, '\n' ∉ d.specifier.toList

instance (b : Barrel) : Decidable b.Legible :=
  decidable_of_iff
    ((b.definitions.all fun d => d.binding.toList.all fun c => isWordChar c || c == '$') = true ∧
      (b.definitions.all fun d => !d.specifier.toList.contains '\n') = true)
    ⟨fun h => ⟨by simpa using h.1, by simpa using h.2⟩,
      fun h => ⟨by simpa using h.binding, by simpa using h.specifier⟩⟩

lemma eq_of_append_cons {α : Type} {a : α} {xs ys us vs : List α} (hx : a ∉ xs) (hy : a ∉ ys)
    (h : xs ++ a :: us = ys ++ a :: vs) : xs = ys ∧ us = vs := by
  induction xs generalizing ys with
  | nil =>
    cases ys with
    | nil => exact ⟨rfl, (List.cons.inj h).2⟩
    | cons y ys =>
      obtain ⟨rfl, -⟩ := List.cons.inj h
      exact absurd List.mem_cons_self hy
  | cons x xs ih =>
    cases ys with
    | nil =>
      obtain ⟨rfl, -⟩ := List.cons.inj h
      exact absurd List.mem_cons_self hx
    | cons y ys =>
      obtain ⟨rfl, hrest⟩ := List.cons.inj h
      obtain ⟨rfl, rfl⟩ := ih (List.not_mem_of_not_mem_cons hx) (List.not_mem_of_not_mem_cons hy) hrest
      exact ⟨rfl, rfl⟩

lemma laid_importLine (d : Definition) (us : List Char) :
    laid (importLine d) ++ us = "import ".toList ++ (d.binding.toList ++ ' ' ::
      ("from \"".toList ++ ((d.specifier.toList ++ ['"']) ++ '\n' :: us))) := by
  simp [laid, importLine, indentation]

lemma space_notMem_binding {n : String} (h : ∀ c ∈ n.toList, isWordChar c = true ∨ c = '$') :
    ' ' ∉ n.toList := by
  intro hm
  exact absurd (h ' ' hm) (by decide)

lemma interface_eq_of_laid {d e : Definition} (hd : ' ' ∉ d.binding.toList) (he : ' ' ∉ e.binding.toList)
    (hd' : '\n' ∉ d.specifier.toList) (he' : '\n' ∉ e.specifier.toList) {us vs : List Char}
    (h : laid (importLine d) ++ us = laid (importLine e) ++ vs) : interface d = interface e ∧ us = vs := by
  rw [laid_importLine, laid_importLine] at h
  obtain ⟨hbinding, h⟩ := eq_of_append_cons hd he (List.append_cancel_left h)
  obtain ⟨hspecifier, h⟩ := eq_of_append_cons (by simpa using hd') (by simpa using he')
    (List.append_cancel_left h)
  refine ⟨?_, h⟩
  rw [interface, interface, String.toList_inj.mp hbinding,
    String.toList_inj.mp (List.append_cancel_right hspecifier)]

lemma interface_eq_of_imports {ds es : List Definition}
    (hd : ∀ d ∈ ds, ' ' ∉ d.binding.toList ∧ '\n' ∉ d.specifier.toList)
    (he : ∀ e ∈ es, ' ' ∉ e.binding.toList ∧ '\n' ∉ e.specifier.toList) {us vs : List Char}
    (h : (ds.map importLine).flatMap laid ++ '\n' :: us = (es.map importLine).flatMap laid ++ '\n' :: vs) :
    ds.map interface = es.map interface ∧ us = vs := by
  -- An import line opens with a letter, so it is not taken for the empty line.
  have hopen : ∀ d (us vs : List Char), laid (importLine d) ++ us ≠ '\n' :: vs := by
    intro d us vs heq
    rw [laid_importLine] at heq
    cases heq
  induction ds generalizing es with
  | nil =>
    cases es with
    | nil => exact ⟨rfl, (List.cons.inj h).2⟩
    | cons e es =>
      rw [List.map_cons, List.flatMap_cons, List.append_assoc] at h
      exact absurd h.symm (hopen e _ _)
  | cons d ds ih =>
    cases es with
    | nil =>
      rw [List.map_cons, List.flatMap_cons, List.append_assoc] at h
      exact absurd h (hopen d _ _)
    | cons e es =>
      rw [List.forall_mem_cons] at hd he
      rw [List.map_cons, List.map_cons, List.flatMap_cons, List.flatMap_cons, List.append_assoc,
        List.append_assoc] at h
      obtain ⟨hfirst, h⟩ := interface_eq_of_laid hd.1.1 he.1.1 hd.1.2 he.1.2 h
      obtain ⟨hrest, h⟩ := ih hd.2 he.2 h
      exact ⟨by rw [List.map_cons, List.map_cons, hfirst, hrest], h⟩

lemma Legible.imports {b : Barrel} (h : b.Legible) :
    ∀ d ∈ b.definitions, ' ' ∉ d.binding.toList ∧ '\n' ∉ d.specifier.toList :=
  fun d hd => ⟨space_notMem_binding (h.binding d hd), h.specifier d hd⟩

lemma export_opening (l : Literal) :
    ∃ rest, (exportLines l).flatMap laid ++ (lastLine l).toList =
      "export default ".toList ++ (l.opening.toList ++ rest) := by
  rw [exportLines, lastLine]
  cases l.items with
  | nil => exact ⟨l.closing.toList, by simp⟩
  | cons item items => exact ⟨_, by simp [laid, indentation]; rfl⟩

lemma export_first {l : Literal} {item : String} {items : List String} (h : l.items = item :: items) :
    ∃ rest, (exportLines l).flatMap laid ++ (lastLine l).toList =
      ("export default ".toList ++ l.opening.toList ++ "\n    ".toList) ++ (item.toList ++ rest) := by
  obtain ⟨comma, others, hs⟩ : ∃ comma others, separated (item :: items) = (item ++ comma) :: others := by
    cases items with
    | nil => exact ⟨"", [], by simp [separated]⟩
    | cons next items => exact ⟨",", _, rfl⟩
  rw [exportLines, lastLine, h]
  simp only [hs]
  exact ⟨_, by simp [laid, indentation]; rfl⟩

lemma export_eq {ds : List Definition} {key key' : Option String}
    (h : (⟨ds, key⟩ : Barrel).render = (⟨ds, key'⟩ : Barrel).render) :
    (exportLines (⟨ds, key⟩ : Barrel).literal).flatMap laid ++ (lastLine (⟨ds, key⟩ : Barrel).literal).toList =
      (exportLines (⟨ds, key'⟩ : Barrel).literal).flatMap laid ++
        (lastLine (⟨ds, key'⟩ : Barrel).literal).toList := by
  have hl := congrArg String.toList h
  rw [render_toList, render_toList] at hl
  exact (List.cons.inj (List.append_cancel_left hl)).2

lemma isSome_eq_of_render {ds : List Definition} {key key' : Option String}
    (h : (⟨ds, key⟩ : Barrel).render = (⟨ds, key'⟩ : Barrel).render) : key.isSome = key'.isSome := by
  obtain ⟨rest, hrest⟩ := export_opening (⟨ds, key⟩ : Barrel).literal
  obtain ⟨rest', hrest'⟩ := export_opening (⟨ds, key'⟩ : Barrel).literal
  have he := export_eq h
  rw [hrest, hrest'] at he
  have hopening := List.append_cancel_left he
  cases key with
  | none =>
    cases key' with
    | none => rfl
    | some => simp [literal, Literal.opening] at hopening
  | some =>
    cases key' with
    | none => simp [literal, Literal.opening] at hopening
    | some => rfl

lemma length_eq_of_render {d : Definition} {ds : List Definition} {k k' : String}
    (h : (⟨d :: ds, some k⟩ : Barrel).render = (⟨d :: ds, some k'⟩ : Barrel).render) :
    k.length = k'.length := by
  have hitem : ∀ (key : String) (e : Definition),
      (laid (importLine e)).length + ((itemText (some key) e).length + 6) =
        ((laid (importLine e)).length + 2 * e.binding.length + 11) + key.length := by
    intro key e
    have hopen : "[".length = 1 := rfl
    have hdot : ".".length = 1 := rfl
    have hclose : "]: ".length = 3 := rfl
    simp only [itemText, String.length_append, hopen, hdot, hclose]
    omega
  have hl := congrArg String.length h
  rw [length_render, length_render] at hl
  simp only [hitem, List.sum_map_add, List.map_const', List.sum_replicate, smul_eq_mul] at hl
  have hmul : (d :: ds).length * k.length = (d :: ds).length * k'.length := by omega
  exact Nat.eq_of_mul_eq_mul_left (by simp) hmul

lemma key_eq_of_render {d : Definition} {ds : List Definition} {key key' : Option String}
    (h : (⟨d :: ds, key⟩ : Barrel).render = (⟨d :: ds, key'⟩ : Barrel).render) : key = key' := by
  have hshape := isSome_eq_of_render h
  cases key with
  | none =>
    cases key' with
    | none => rfl
    | some => cases hshape
  | some k =>
    cases key' with
    | none => cases hshape
    | some k' =>
      obtain ⟨rest, hrest⟩ := export_first (literal_items ⟨d :: ds, some k⟩)
      obtain ⟨rest', hrest'⟩ := export_first (literal_items ⟨d :: ds, some k'⟩)
      have he := export_eq h
      rw [hrest, hrest'] at he
      have hitem := List.append_cancel_left he
      simp only [itemText, String.toList_append, List.append_assoc] at hitem
      have hkey := List.append_cancel_left (List.append_cancel_left (List.append_cancel_left hitem))
      have hlength : k.toList.length = k'.toList.length := by
        rw [String.length_toList, String.length_toList, length_eq_of_render h]
      rw [String.toList_inj.mp (List.append_inj_left hkey hlength)]

lemma render_of_nil {key key' : Option String} (h : key.isSome = key'.isSome) :
    (⟨[], key⟩ : Barrel).render = (⟨[], key'⟩ : Barrel).render := by
  cases key with
  | none =>
    cases key' with
    | none => rfl
    | some => cases h
  | some =>
    cases key' with
    | none => cases h
    | some => rfl

theorem render_eq_iff {b b' : Barrel} (h : b.Legible) (h' : b'.Legible) :
    b.render = b'.render ↔
      b.definitions.map (fun d => (d.binding, d.specifier)) =
          b'.definitions.map (fun d => (d.binding, d.specifier)) ∧
        b.key.isSome = b'.key.isSome ∧ (b.definitions ≠ [] → b.key = b'.key) := by
  constructor
  · intro hr
    have hl := congrArg String.toList hr
    rw [render_toList, render_toList] at hl
    have hinterface := (interface_eq_of_imports h.imports h'.imports hl).1
    have hsame : b'.render = (⟨b.definitions, b'.key⟩ : Barrel).render := render_congr rfl hinterface.symm
    have hkeys : (⟨b.definitions, b.key⟩ : Barrel).render = (⟨b.definitions, b'.key⟩ : Barrel).render :=
      hr.trans hsame
    refine ⟨hinterface, isSome_eq_of_render hkeys, fun hn => ?_⟩
    obtain ⟨d, ds, hds⟩ := List.exists_cons_of_ne_nil hn
    rw [hds] at hkeys
    exact key_eq_of_render hkeys
  · rintro ⟨hinterface, hshape, hkey⟩
    by_cases hn : b.definitions = []
    · have hn' : b'.definitions = [] := by simpa [hn] using hinterface.symm
      have hb : b = ⟨[], b.key⟩ := by rw [← hn]
      have hb' : b' = ⟨[], b'.key⟩ := by rw [← hn']
      rw [hb, hb', render_of_nil hshape]
    · exact render_congr (hkey hn) hinterface

def twofold : Barrel where
  definitions := [⟨Path.ofString "a.js", "A", "./a.js"⟩]
  key := some "id]: A,\n    [A.id"

def twice : Barrel where
  definitions := [⟨Path.ofString "a.js", "A", "./a.js"⟩, ⟨Path.ofString "a.js", "A", "./a.js"⟩]
  key := some "id"

theorem twofold_render_ne :
    (exportLines twofold.literal).flatMap laid = (exportLines twice.literal).flatMap laid ∧
      twofold.render ≠ twice.render := by
  have hlegible : twofold.Legible := by decide
  have hlegible' : twice.Legible := by decide
  refine ⟨by decide, fun h => ?_⟩
  obtain ⟨hsame, -, -⟩ := (render_eq_iff hlegible hlegible').mp h
  exact absurd hsame (by decide)

end BarrelModule.Barrel
