import BarrelModule.CodeWriter
import Mathlib.Tactic.Lemma

namespace BarrelModule.CodeWriter

def laid (line : Nat × String) : List Char :=
  (indentation line.1).toList ++ line.2.toList ++ ['\n']

lemma pushLine_text (w : CodeWriter) (line : String) :
    (w.pushLine line).text.toList = w.text.toList ++ laid (w.level, line) := by
  simp [pushLine, laid]

mutual
theorem push_spec (w : CodeWriter) : ∀ f : Fragment,
    (w.push f).level = w.level ∧
      (w.push f).text.toList = w.text.toList ++ (f.flatten w.level).flatMap laid
  | .line text => ⟨rfl, by simp [push, Fragment.flatten, pushLine_text]⟩
  | .block header body close => by
    obtain ⟨hlevel, htext⟩ := pushAll_spec (w.pushLine header).deeper body
    have hinner : (((w.pushLine header).deeper.pushAll body).shallower).level = w.level := by
      rw [shallower, hlevel]
      exact Nat.add_sub_cancel w.level 1
    have hbody : (((w.pushLine header).deeper.pushAll body).shallower).text.toList =
        w.text.toList ++ laid (w.level, header) ++ (Fragment.flattenAll (w.level + 1) body).flatMap laid := by
      rw [← pushLine_text]
      exact htext
    cases close with
    | none => exact ⟨hinner, by simp [push, Fragment.flatten, hbody]⟩
    | some line =>
      refine ⟨hinner, ?_⟩
      rw [push, pushLine_text, hinner, hbody]
      simp [Fragment.flatten]

theorem pushAll_spec (w : CodeWriter) : ∀ fs : List Fragment,
    (w.pushAll fs).level = w.level ∧
      (w.pushAll fs).text.toList = w.text.toList ++ (Fragment.flattenAll w.level fs).flatMap laid
  | [] => ⟨rfl, by simp [pushAll, Fragment.flattenAll]⟩
  | f :: fs => by
    obtain ⟨hlevel, htext⟩ := push_spec w f
    obtain ⟨hlevels, htexts⟩ := pushAll_spec (w.push f) fs
    rw [pushAll, hlevels, htexts, htext, hlevel]
    simp [Fragment.flattenAll]
end

end BarrelModule.CodeWriter
