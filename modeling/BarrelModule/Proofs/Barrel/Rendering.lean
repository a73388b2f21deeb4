import BarrelModule.Barrel
import BarrelModule.Proofs.CodeWriter.Layout

namespace BarrelModule.Barrel

open CodeWriter

lemma foldl_emit_spec (w : CodeWriter) (ss : List Statement) :
    (ss.foldl emit w).level = w.level ∧
      (ss.foldl emit w).text.toList =
        w.text.toList ++ (ss.flatMap fun s => Fragment.flattenAll w.level s.fragments).flatMap laid := by
  induction ss generalizing w with
  | nil => simp
  | cons s ss ih =>
    obtain ⟨hlevel, htext⟩ := pushAll_spec w s.fragments
    obtain ⟨hlevels, htexts⟩ := ih (w.emit s)
    rw [List.foldl_cons, hlevels, htexts, emit, hlevel, htext]
    simp

def importLine (d : Definition) : Nat × String :=
  (0, "import " ++ d.binding ++ " from \"" ++ d.specifier ++ "\"")

def exportLines (l : Literal) : List (Nat × String) :=
  match l.items with
  | [] => []
  | items => (0, "export default " ++ l.opening) :: (separated items).map (1, ·)

def lastLine (l : Literal) : String :=
  match l.items with
  | [] => "export default " ++ l.opening ++ l.closing
  | _ => l.closing

lemma flattenAll_lines (depth : Nat) (lines : List String) :
    Fragment.flattenAll depth (lines.map .line) = lines.map (depth, ·) := by
  induction lines with
  | nil => rfl
  | cons line lines ih => rw [List.map_cons, Fragment.flattenAll, ih, Fragment.flatten]; rfl

lemma flatten_exportDefault (l : Literal) :
    Fragment.flattenAll 0 (Statement.exportDefault l).fragments = exportLines l ++ [(0, lastLine l)] := by
  rw [Statement.fragments, exportLines, lastLine]
  cases l.items with
  | nil => rfl
  | cons item items =>
    simp only [Fragment.flattenAll, Fragment.flatten, flattenAll_lines]
    simp

lemma written_text (b : Barrel) :
    b.written.text.toList = (b.definitions.map importLine).flatMap laid ++
      '\n' :: (exportLines b.literal ++ [(0, lastLine b.literal)]).flatMap laid := by
  obtain ⟨hlevel, htext⟩ := foldl_emit_spec CodeWriter.empty b.imports
  have himports : (b.imports.flatMap fun s => Fragment.flattenAll 0 s.fragments) =
      b.definitions.map importLine := by
    rw [imports, List.flatMap_map, List.map_eq_flatMap]
    rfl
  have hblank : (b.imports.foldl emit CodeWriter.empty).pushBlank.level = 0 := hlevel
  obtain ⟨-, hexport⟩ := pushAll_spec (b.imports.foldl emit CodeWriter.empty).pushBlank
    (Statement.exportDefault b.literal).fragments
  rw [written, emit, hexport, hblank, flatten_exportDefault]
  have hempty : CodeWriter.empty.level = 0 := rfl
  have hnone : CodeWriter.empty.text.toList = [] := rfl
  rw [pushBlank, String.toList_append, htext, hempty, himports, hnone]
  simp

lemma withoutFinalNewline_toList {s : String} {cs : List Char} (h : s.toList = cs ++ ['\n']) :
    (withoutFinalNewline s).toList = cs := by
  rw [withoutFinalNewline, if_pos (by simp [h])]
  simp [h]

theorem render_toList (b : Barrel) :
    b.render.toList = (b.definitions.map importLine).flatMap laid ++
      '\n' :: ((exportLines b.literal).flatMap laid ++ (lastLine b.literal).toList) := by
  apply withoutFinalNewline_toList
  rw [written_text]
  simp [laid, indentation]

def interface (d : Definition) : String × String := (d.binding, d.specifier)

lemma imports_eq_map (b : Barrel) :
    b.imports = (b.definitions.map interface).map fun p => .importDefault p.1 p.2 := by
  simp [imports, interface, Function.comp_def]

lemma bindings_eq_map (ds : List Definition) :
    ds.map Definition.binding = (ds.map interface).map Prod.fst := by
  simp [interface, Function.comp_def]

lemma literal_eq_map (b : Barrel) :
    b.literal = match b.key with
      | some key => .object (((b.definitions.map interface).map Prod.fst).map fun n => (n ++ "." ++ key, n))
      | none => .array ((b.definitions.map interface).map Prod.fst) := by
  rw [literal, ← bindings_eq_map]
  cases b.key <;> simp [Function.comp_def]

theorem render_congr {b b' : Barrel} (hk : b.key = b'.key)
    (h : b.definitions.map interface = b'.definitions.map interface) : b.render = b'.render := by
  have himports : b.imports = b'.imports := by rw [imports_eq_map, imports_eq_map, h]
  have hliteral : b.literal = b'.literal := by rw [literal_eq_map, literal_eq_map, h, hk]
  rw [render, render, written, written, himports, hliteral]

end BarrelModule.Barrel
