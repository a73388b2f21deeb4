import BarrelModule.Proofs.Barrel.Module
import Mathlib.Algebra.BigOperators.Group.List.Basic
import Mathlib.Algebra.GroupWithZero.Nat

namespace BarrelModule.Barrel

open CodeWriter

lemma length_laid (depth : Nat) (s : String) :
    (laid (depth, s)).length = (indentation depth).length + s.length + 1 := by
  simp only [laid, List.length_append, String.length_toList, List.length_singleton]

lemma length_item (item : String) : (laid (1, item)).length = item.length + 5 := by
  have hstep : (indentation 1).length = 4 := by decide
  rw [length_laid, hstep]
  omega

lemma length_separated (item : String) (items : List String) :
    (((separated (item :: items)).map (1, ·)).flatMap laid).length + 1 =
      ((item :: items).map fun i => i.length + 6).sum := by
  induction items generalizing item with
  | nil => simp [separated, length_item]
  | cons next items ih =>
    have hcomma : (item ++ ",").length = item.length + 1 := String.length_append item ","
    have hlines : separated (item :: next :: items) = (item ++ ",") :: separated (next :: items) := rfl
    rw [hlines, List.map_cons, List.flatMap_cons, List.length_append, length_item, hcomma, Nat.add_assoc,
      ih, List.map_cons, List.sum_cons, List.map_cons, List.sum_cons, List.map_cons, List.sum_cons]

lemma length_export (l : Literal) :
    ((exportLines l).flatMap laid).length + (lastLine l).length = (l.items.map fun i => i.length + 6).sum + 17 := by
  have hopen : ("export default " ++ l.opening).length = 16 := by cases l <;> rw [Literal.opening] <;> decide
  have hclose : l.closing.length = 1 := by cases l <;> rw [Literal.closing] <;> decide
  have hmargin : (indentation 0).length = 0 := rfl
  rw [exportLines, lastLine]
  cases l.items with
  | nil => simp only [String.length_append, hopen, hclose, List.flatMap_nil, List.length_nil, List.map_nil, List.sum_nil]
  | cons item items =>
    have hitems := length_separated item items
    simp only [List.flatMap_cons, List.length_append, length_laid, hopen, hmargin, hclose]
    omega

lemma length_render (b : Barrel) :
    b.render.length =
      (b.definitions.map fun d => (laid (importLine d)).length + ((itemText b.key d).length + 6)).sum + 18 := by
  have hexport := length_export b.literal
  rw [literal_items, List.map_map] at hexport
  rw [← String.length_toList, render_toList, List.length_append, List.length_cons, List.length_append,
    String.length_toList, hexport, List.length_flatMap, List.map_map, List.sum_map_add]
  simp only [Function.comp_def]
  omega

theorem length_render_lt {b b' : Barrel} (hk : b'.key = b.key) {init tail : List Definition} {d : Definition}
    (h : b.definitions = init ++ tail) (h' : b'.definitions = init ++ d :: tail) :
    b.render.length < b'.render.length := by
  rw [length_render, length_render, h, h', hk]
  simp only [List.map_append, List.map_cons, List.sum_append, List.sum_cons]
  omega

end BarrelModule.Barrel
