import BarrelModule.Proofs.ImportName.Concatenation

/-! One rule for the name of a path: of its parts between runs of separators the last one goes, and the others
are put together with capitals. What separators a path has and where words end at its end do not matter. -/

namespace BarrelModule

open Text

lemma toList_importName (path : String) :
    (importName path).toList = (nameWords path.toList).flatMap capitalizeFirst := by
  rw [importName, String.toList_ofList]

lemma endsInWord_eq (path : List Char) : endsInWord path = path.getLast?.any isWordChar := by
  rw [endsInWord]
  cases path.getLast? <;> rfl

lemma filter_dropLast {α : Type} (fs : List (List α)) :
    fs.dropLast.filter (· ≠ []) =
      if fs.getLast?.any (· ≠ []) then (fs.filter (· ≠ [])).dropLast else fs.filter (· ≠ []) := by
  rcases List.eq_nil_or_concat' fs with rfl | ⟨init, f, rfl⟩
  · rfl
  · by_cases hf : f = [] <;> simp [hf, List.filter_append]

lemma nameWords_of_divided {path : List Char} {fs : List (List Char)}
    (h : Divided (fun c => !isWordChar c) path fs) : nameWords path = fs.dropLast.filter (· ≠ []) := by
  have hwords : pathWords path = fs.filter (· ≠ []) := h.words_eq
  have hends : endsInWord path = fs.getLast?.any (· ≠ []) := by
    rw [endsInWord_eq, h.getLast?_any]
    simp
  rw [nameWords_eq, hwords, hends, filter_dropLast]

lemma flatMap_capitalizeFirst_filter (fs : List (List Char)) :
    (fs.filter (· ≠ [])).flatMap capitalizeFirst = fs.flatMap capitalizeFirst := by
  induction fs with
  | nil => rfl
  | cons f fs ih =>
    cases f with
    | nil =>
      have hnil : capitalizeFirst [] = [] := rfl
      rw [List.filter_cons_of_neg (by simp), ih, List.flatMap_cons, hnil, List.nil_append]
    | cons c cs => rw [List.filter_cons_of_pos (by simp), List.flatMap_cons, List.flatMap_cons, ih]

theorem importName_eq_parts (path : String) :
    (∀ fs, Divided (fun c => !isWordChar c) path.toList fs ↔ parts (fun c => !isWordChar c) path.toList = fs) ∧
      importName path =
        String.ofList ((parts (fun c => !isWordChar c) path.toList).dropLast.flatMap capitalizeFirst) := by
  refine ⟨fun fs => divided_iff, ?_⟩
  have hdivided := divided_parts (fun c => !isWordChar c) path.toList
  rw [importName, nameWords_of_divided hdivided, flatMap_capitalizeFirst_filter]

example : (parts (fun c => !isWordChar c) "./defs--it's.js..".toList).map String.ofList =
    ["", "defs", "it", "s", "js", ""] := by decide

def isSeparation (s : String) : Bool := s != "" && s.toList.all fun c => !isWordChar c

def isWord (s : String) : Bool := s != "" && s.toList.all isWordChar

lemma isSeparation_iff {s : String} :
    isSeparation s = true ↔ s.toList ≠ [] ∧ ∀ c ∈ s.toList, isWordChar c = false := by
  simp [isSeparation]

lemma forall_of_isWord {s : String} (h : isWord s = true) : ∀ c ∈ s.toList, isWordChar c = true := by
  rw [isWord, Bool.and_eq_true, List.all_eq_true] at h
  exact h.2

lemma nameWords_of_word {e : List Char} (he : ∀ c ∈ e, isWordChar c = true) : nameWords e = [] := by
  have hwhole : Divided (fun c => !isWordChar c) e [e] := .whole (by simpa using he)
  rw [nameWords_of_divided hwhole]
  rfl

lemma importName_push_append (a b : String) {c : Char} (hc : isWordChar c = false) :
    importName (a.push c ++ b) = importName (a.push c) ++ importName b := by
  apply String.toList_inj.mp
  rw [String.toList_append, toList_importName, toList_importName, toList_importName, String.toList_append,
    String.toList_push, List.append_assoc, List.singleton_append, nameWords_append_cons _ hc,
    nameWords_concat _ hc, List.flatMap_append]

lemma toList_importName_separation (a b : String) {r : String} (hr : isSeparation r = true) :
    (importName (a ++ r ++ b)).toList = (pathWords a.toList ++ nameWords b.toList).flatMap capitalizeFirst := by
  obtain ⟨hn, hr⟩ := isSeparation_iff.mp hr
  rw [toList_importName, String.toList_append, String.toList_append, List.append_assoc,
    nameWords_append_run _ hn hr]

lemma forwardSlash_of_wordChar {c : Char} (hc : isWordChar c = true) : (if c = '\\' then '/' else c) = c := by
  have hne : c ≠ '\\' := by
    rintro rfl
    cases hc
  rw [if_neg hne]

lemma forwardSlash_separates {c : Char} (hc : isWordChar c = false) :
    isWordChar (if c = '\\' then '/' else c) = false := by
  split
  · rfl
  · exact hc

lemma importName_map {g : Char → Char} (hfix : ∀ c, isWordChar c = true → g c = c)
    (hsep : ∀ c, isWordChar c = false → isWordChar (g c) = false) (path : String) :
    importName (path.map g) = importName path := by
  have hdivided := divided_parts (fun c => !isWordChar c) path.toList
  have hmapped := hdivided.map_of_fixed (g := g) (by simpa using hfix) (by simpa using hsep)
  rw [importName, String.toList_map, nameWords_of_divided hmapped, importName, nameWords_of_divided hdivided]

theorem importName_separations (a b : String) :
    (∀ c, isWordChar c = false → importName (a.push c ++ b) = importName (a.push c) ++ importName b) ∧
      (∀ r r', isSeparation r = true → isSeparation r' = true →
        importName (a ++ r ++ b) = importName (a ++ r' ++ b)) ∧
      (∀ r, isSeparation r = true → importName (r ++ b) = importName b) ∧
      (∀ c e e', isWordChar c = false → isWord e = true → isWord e' = true →
        importName (a.push c ++ e) = importName (a.push c ++ e')) ∧
      importName (a.map fun c => if c = '\\' then '/' else c) = importName a := by
  refine ⟨fun c => importName_push_append a b, ?between, ?front, ?extension, ?slashes⟩
  case between =>
    intro r r' hr hr'
    apply String.toList_inj.mp
    rw [toList_importName_separation a b hr, toList_importName_separation a b hr']
  case front =>
    intro r hr
    rw [importName, String.toList_append, nameWords_run_append (isSeparation_iff.mp hr).2, importName]
  case extension =>
    intro c e e' hc he he'
    have hnone : ∀ e, isWord e = true → importName e = "" := by
      intro e he
      rw [importName, nameWords_of_word (forall_of_isWord he)]
      rfl
    rw [importName_push_append a e hc, importName_push_append a e' hc, hnone e he, hnone e' he']
  case slashes => exact importName_map (fun c => forwardSlash_of_wordChar) (fun c => forwardSlash_separates) a

theorem importName_separations_mixed :
    (isWordChar '-' = false ∧ importName ("my".push '-' ++ "Button.node.js") =
        importName ("my".push '-') ++ importName "Button.node.js") ∧
      (isSeparation "\\" = true ∧ isSeparation " é/" = true ∧
        importName ("my" ++ "\\" ++ "Button.node.js") = importName ("my" ++ " é/" ++ "Button.node.js")) ∧
      (isSeparation "./" = true ∧ importName ("./" ++ "Button.node.js") = importName "Button.node.js") ∧
      (isWord "js" = true ∧ isWord "json5" = true ∧
        importName ("my".push '.' ++ "js") = importName ("my".push '.' ++ "json5")) := by
  have hdash : isWordChar '-' = false := by decide
  have hdot : isWordChar '.' = false := by decide
  have hbackslash : isSeparation "\\" = true := by decide
  have hslash : isSeparation " é/" = true := by decide
  have hfront : isSeparation "./" = true := by decide
  have hjs : isWord "js" = true := by decide
  have hjson : isWord "json5" = true := by decide
  obtain ⟨happend, hbetween, hopen, hextension, -⟩ := importName_separations "my" "Button.node.js"
  exact ⟨⟨hdash, happend '-' hdash⟩, ⟨hbackslash, hslash, hbetween _ _ hbackslash hslash⟩,
    ⟨hfront, hopen _ hfront⟩, hjs, hjson, hextension '.' _ _ hdot hjs hjson⟩

end BarrelModule
