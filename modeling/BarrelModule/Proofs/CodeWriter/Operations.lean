import BarrelModule.Proofs.CodeWriter.Layout
import BarrelModule.Statement

namespace BarrelModule

namespace Fragment

mutual
theorem flatten_add (level depth : Nat) : ∀ f : Fragment,
    f.flatten (level + depth) = (f.flatten depth).map fun line => (level + line.1, line.2)
  | .line text => rfl
  | .block header body close => by
    have hbody := flattenAll_add level (depth + 1) body
    rw [flatten, flatten, Nat.add_assoc, hbody]
    cases close <;> simp

theorem flattenAll_add (level depth : Nat) : ∀ fs : List Fragment,
    flattenAll (level + depth) fs = (flattenAll depth fs).map fun line => (level + line.1, line.2)
  | [] => rfl
  | f :: fs => by
    rw [flattenAll, flattenAll, flatten_add level depth f, flattenAll_add level depth fs, List.map_append]
end

end Fragment

namespace CodeWriter

def indented (steps : Nat) (line : String) : String :=
  String.ofList (List.replicate (4 * steps) ' ') ++ line ++ "\n"

lemma toList_indentation (n : Nat) : (indentation n).toList = List.replicate (4 * n) ' ' := by
  induction n with
  | zero => rfl
  | succ n ih =>
    have hfour : "    ".toList = List.replicate 4 ' ' := by decide
    rw [indentation, String.toList_append, ih, hfour, List.replicate_append_replicate, Nat.mul_succ, Nat.add_comm]

lemma toList_indented (line : Nat × String) : (indented line.1 line.2).toList = laid line := by
  simp [indented, laid, toList_indentation]

def printed (level : Nat) (lines : List (Nat × String)) : String :=
  String.join (lines.map fun line => indented (level + line.1) line.2)

lemma toList_printed (level : Nat) (lines : List (Nat × String)) :
    (printed level lines).toList = (lines.map fun line => (level + line.1, line.2)).flatMap laid := by
  rw [printed, String.toList_join, List.flatMap_map, List.flatMap_map]
  congr 1
  funext line
  exact toList_indented (level + line.1, line.2)

lemma eq_of_spec {w : CodeWriter} {level : Nat} {text added : String} (hl : w.level = level)
    (ht : w.text.toList = text.toList ++ added.toList) : w = ⟨level, text ++ added⟩ := by
  have htext : w.text = text ++ added := by
    apply String.toList_inj.mp
    rw [ht, String.toList_append]
  rw [← hl, ← htext]

lemma push_eq (w : CodeWriter) (f : Fragment) :
    w.push f = ⟨w.level, w.text ++ printed w.level (f.flatten 0)⟩ := by
  obtain ⟨hlevel, htext⟩ := push_spec w f
  refine eq_of_spec hlevel ?_
  rw [toList_printed, ← Fragment.flatten_add w.level 0 f]
  exact htext

lemma pushAll_eq (w : CodeWriter) (fs : List Fragment) :
    w.pushAll fs = ⟨w.level, w.text ++ printed w.level (Fragment.flattenAll 0 fs)⟩ := by
  obtain ⟨hlevel, htext⟩ := pushAll_spec w fs
  refine eq_of_spec hlevel ?_
  rw [toList_printed, ← Fragment.flattenAll_add w.level 0 fs]
  exact htext

inductive Operation where
  | line (text : String)
  | blank
  | fragment (f : Fragment)
  | statement (s : Statement)
  | node (fragments : List Fragment)

def run (w : CodeWriter) : Operation → CodeWriter
  | .line text => w.pushLine text
  | .blank => w.pushBlank
  | .fragment f => w.push f
  | .statement s => w.emit s
  | .node fragments => w.pushAll fragments

lemma run_eq (w : CodeWriter) (o : Operation) :
    w.run o = ⟨w.level, w.text ++ ((⟨w.level, ""⟩ : CodeWriter).run o).text⟩ := by
  cases o with
  | line text => simp [run, pushLine]
  | blank => simp [run, pushBlank]
  | fragment f => simp [run, push_eq]
  | statement s => simp [run, emit, pushAll_eq]
  | node fragments => simp [run, pushAll_eq]

lemma foldl_run (w : CodeWriter) (os : List Operation) :
    os.foldl run w =
      ⟨w.level, w.text ++ String.join (os.map fun o => ((⟨w.level, ""⟩ : CodeWriter).run o).text)⟩ := by
  -- what an operation adds hangs on the level alone, and every operation keeps the level
  induction os generalizing w with
  | nil => simp
  | cons o os ih =>
    rw [List.foldl_cons, ih, run_eq w o]
    simp [String.append_assoc]

theorem prints_flattened :
    (∀ (w : CodeWriter) (f : Fragment), w.push f =
      ⟨w.level, w.text ++ String.join ((f.flatten 0).map fun line => indented (w.level + line.1) line.2)⟩) ∧
      ∀ os : List Operation,
        os.foldl run empty = ⟨0, String.join (os.map fun o => (empty.run o).text)⟩ := by
  constructor
  · intro w f
    exact push_eq w f
  · intro os
    simpa [empty] using foldl_run empty os

end CodeWriter

end BarrelModule
