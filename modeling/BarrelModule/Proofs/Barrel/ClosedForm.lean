import BarrelModule.Proofs.Barrel.Rendering

namespace BarrelModule.Barrel

open CodeWriter

def enclosed (opening : String) (items : List String) (closing : String) : String :=
  if items = [] then opening ++ closing
  else opening ++ "\n    " ++ ",\n    ".intercalate items ++ "\n" ++ closing

lemma toList_laid_imports (ds : List Definition) :
    (ds.map importLine).flatMap laid =
      (String.join (ds.map fun d => "import " ++ d.binding ++ " from \"" ++ d.specifier ++ "\"\n")).toList := by
  rw [String.toList_join, List.flatMap_map, List.flatMap_map]
  congr 1
  funext d
  simp [laid, importLine, indentation]

lemma toList_laid_separated (item : String) (items : List String) :
    ((separated (item :: items)).map (1, ·)).flatMap laid =
      ("    " ++ ",\n    ".intercalate (item :: items) ++ "\n").toList := by
  induction items generalizing item with
  | nil => simp [separated, laid, indentation]
  | cons next items ih =>
    have hlines : separated (item :: next :: items) = (item ++ ",") :: separated (next :: items) := rfl
    rw [hlines, List.map_cons, List.flatMap_cons, ih, String.intercalate_cons_cons]
    simp [laid, indentation]

lemma toList_laid_export (l : Literal) :
    (exportLines l).flatMap laid ++ (lastLine l).toList =
      ("export default " ++ enclosed l.opening l.items l.closing).toList := by
  rw [exportLines, lastLine, enclosed]
  cases l.items with
  | nil => simp
  | cons item items =>
    simp only [List.flatMap_cons, toList_laid_separated]
    simp [laid, indentation]

lemma render_eq_enclosed (b : Barrel) :
    b.render =
      String.join (b.definitions.map fun d => "import " ++ d.binding ++ " from \"" ++ d.specifier ++ "\"\n") ++
        "\n" ++ "export default " ++ enclosed b.literal.opening b.literal.items b.literal.closing := by
  apply String.toList_inj.mp
  rw [render_toList, toList_laid_imports, toList_laid_export]
  simp

def exportText (key : Option String) (ds : List Definition) : String :=
  match key with
  | none => enclosed "[" (ds.map Definition.binding) "]"
  | some key => enclosed "\x7b" (ds.map fun d => "[" ++ d.binding ++ "." ++ key ++ "]: " ++ d.binding) "\x7d"

lemma enclosed_literal (b : Barrel) :
    enclosed b.literal.opening b.literal.items b.literal.closing = exportText b.key b.definitions := by
  rw [literal]
  cases b.key with
  | none => rfl
  | some key =>
    simp [exportText, Literal.opening, Literal.items, Literal.closing, Function.comp_def, String.append_assoc]

lemma exists_enclosed_eq_append (opening : String) (items : List String) (closing : String) :
    ∃ front, enclosed opening items closing = front ++ closing := by
  rw [enclosed]
  split
  · exact ⟨opening, rfl⟩
  · exact ⟨opening ++ "\n    " ++ ",\n    ".intercalate items ++ "\n", rfl⟩

lemma getLast?_exportText (key : Option String) (ds : List Definition) :
    (exportText key ds).toList.getLast? = some (if key.isNone then ']' else '}') := by
  cases key with
  | none =>
    obtain ⟨front, hfront⟩ := exists_enclosed_eq_append "[" (ds.map Definition.binding) "]"
    simp [exportText, hfront]
  | some key =>
    obtain ⟨front, hfront⟩ := exists_enclosed_eq_append "\x7b"
      (ds.map fun d => "[" ++ d.binding ++ "." ++ key ++ "]: " ++ d.binding) "\x7d"
    simp [exportText, hfront]

theorem render_closed (b : Barrel) :
    b.render =
        String.join (b.definitions.map fun d => "import " ++ d.binding ++ " from \"" ++ d.specifier ++ "\"\n") ++
          "\n" ++ "export default " ++ exportText b.key b.definitions ∧
      b.render.toList.getLast? = some (if b.key.isNone then ']' else '}') := by
  have hrender := render_eq_enclosed b
  rw [enclosed_literal] at hrender
  refine ⟨hrender, ?_⟩
  rw [hrender, String.toList_append, List.getLast?_append, getLast?_exportText, Option.some_or]

example : render ⟨[⟨Path.ofString "a.js", "A", "./a.js"⟩, ⟨Path.ofString "b.js", "B", "./b.js"⟩], some "id"⟩ =
    "import A from \"./a.js\"\nimport B from \"./b.js\"\n\nexport default \x7b\n    [A.id]: A,\n    [B.id]: B\n\x7d" := by
  decide

end BarrelModule.Barrel
