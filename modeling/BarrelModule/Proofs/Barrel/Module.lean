import BarrelModule.Proofs.Barrel.Rendering
import BarrelModule.Proofs.Barrel.Warnings
import BarrelModule.Proofs.Script.Grammar

namespace BarrelModule

open Script Scanner

namespace Script

/-- The characters give the tokens, whatever comes after them that cannot go on with a name. -/
def Reads (f : Bool) (cs : List Char) (ls : List Lexeme) : Prop :=
  ∀ c ms s', continuesName c = false → start false c = some (ms, s') →
    Scans (between f) (cs ++ [c]) (ls ++ ms) s'

section Reads

variable {f g : Bool} {as cs : List Char} {ks ls : List Lexeme}

lemma Reads.identifier {n : String} (h : isIdentifier n = true) : Reads f n.toList [⟨.name n, f⟩] :=
  fun _ _ _ hc hs => Scans.identifier_end h hc hs

lemma Reads.after (h : Reads g cs ls) (ha : Scans (between f) as ks (between g)) :
    Reads f (as ++ cs) (ks ++ ls) := by
  intro c ms s' hc hs
  rw [List.append_assoc, List.append_assoc]
  exact ha.append (h c ms s' hc hs)

lemma Reads.line (h : Reads f cs ls) : Scans (between f) (cs ++ ['\n']) ls (between true) := by
  simpa using h '\n' [] (between true) (by decide) (by decide)

lemma Reads.comma (h : Reads f cs ls) :
    Scans (between f) (cs ++ [',', '\n']) (ls ++ [⟨.punctuator ',', false⟩]) (between true) := by
  have hc := h ',' [⟨.punctuator ',', false⟩] (between false) (by decide) (by decide)
  have hn : Scans (between false) ['\n'] [] (between true) := by decide
  simpa using hc.append hn

end Reads

lemma scans_indentation (f : Bool) (n : Nat) :
    Scans (between f) (CodeWriter.indentation n).toList [] (between f) := by
  induction n with
  | zero => exact Scans.nil _
  | succ n ih =>
    have hfour : Scans (between f) "    ".toList [] (between f) := by cases f <;> decide
    simpa [CodeWriter.indentation] using hfour.append ih

def commaed : List (List Lexeme) → List Lexeme
  | [] => []
  | [ls] => ls
  | ls :: lss => ls ++ ⟨.punctuator ',', false⟩ :: commaed lss

lemma scans_separated {α : Type} {text : α → String} {tokens : α → List Lexeme} {items : List α}
    (h : ∀ a ∈ items, Reads true (text a).toList (tokens a)) :
    Scans (between true) (((separated (items.map text)).map (1, ·)).flatMap CodeWriter.laid)
      (commaed (items.map tokens)) (between true) := by
  induction items with
  | nil => exact Scans.nil _
  | cons a items ih =>
    have ha := h a List.mem_cons_self
    have hin := scans_indentation true 1
    cases items with
    | nil => simpa [separated, commaed, CodeWriter.laid] using hin.append ha.line
    | cons b items =>
      have hrest := ih fun a ha => h a (List.mem_cons_of_mem _ ha)
      have hall := (hin.append ha.comma).append hrest
      simpa [separated, commaed, CodeWriter.laid] using hall

end Script

namespace Barrel

def module (b : Barrel) : Module where
  imports := b.definitions.map fun d => ⟨d.binding, d.specifier⟩
  exported :=
    match b.key with
    | none => .array (b.definitions.map Definition.binding)
    | some key => .object (b.definitions.map fun d => (d.binding, key, d.binding))

def importLexemes (d : Definition) : List Lexeme :=
  [⟨.name "import", true⟩, ⟨.name d.binding, false⟩, ⟨.name "from", false⟩, ⟨.text d.specifier, false⟩]

lemma scans_importLine {d : Definition} (h : isIdentifier d.binding = true) (hq : Quotable d.specifier) :
    Scans (between true) (CodeWriter.laid (importLine d)) (importLexemes d) (between true) := by
  have himport : Scans (between true) "import ".toList [⟨.name "import", true⟩] (between false) := by decide
  have hbinding : Scans (between false) (d.binding.toList ++ [' ']) [⟨.name d.binding, false⟩] (between false) :=
    Scans.identifier_end h (by decide) (by decide)
  have hfrom : Scans (between false) "from \"".toList [⟨.name "from", false⟩] ⟨false, .text []⟩ := by decide
  have hend : Scans (between false) ['\n'] [] (between true) := by decide
  have hall := himport.append (hbinding.append (hfrom.append ((Scans.quoted_end hq).append hend)))
  simpa [CodeWriter.laid, importLine, CodeWriter.indentation, importLexemes] using hall

def itemText (key : Option String) (d : Definition) : String :=
  match key with
  | none => d.binding
  | some k => "[" ++ (d.binding ++ "." ++ k) ++ "]: " ++ d.binding

def itemLexemes (key : Option String) (d : Definition) : List Lexeme :=
  match key with
  | none => [⟨.name d.binding, true⟩]
  | some k =>
    [⟨.punctuator '[', true⟩, ⟨.name d.binding, false⟩, ⟨.punctuator '.', false⟩, ⟨.name k, false⟩,
      ⟨.punctuator ']', false⟩, ⟨.punctuator ':', false⟩, ⟨.name d.binding, false⟩]

lemma literal_items (b : Barrel) : b.literal.items = b.definitions.map (itemText b.key) := by
  rw [literal]
  cases b.key with
  | none => rfl
  | some k => simp [Literal.items, itemText]

lemma reads_item {key : Option String} (hk : ∀ k ∈ key, isIdentifier k = true) {d : Definition}
    (h : isIdentifier d.binding = true) : Reads true (itemText key d).toList (itemLexemes key d) := by
  cases key with
  | none => exact Reads.identifier h
  | some k =>
    have hopen : Scans (between true) ['['] [⟨.punctuator '[', true⟩] (between false) := by decide
    have hbinding : Scans (between false) (d.binding.toList ++ ['.'])
        [⟨.name d.binding, false⟩, ⟨.punctuator '.', false⟩] (between false) :=
      Scans.identifier_end h (by decide) (by decide)
    have hkey : Scans (between false) (k.toList ++ [']']) [⟨.name k, false⟩, ⟨.punctuator ']', false⟩]
        (between false) :=
      Scans.identifier_end (hk k rfl) (by decide) (by decide)
    have hcolon : Scans (between false) [':', ' '] [⟨.punctuator ':', false⟩] (between false) := by decide
    have hall := (Reads.identifier h).after (hopen.append (hbinding.append (hkey.append hcolon)))
    simpa [itemText, itemLexemes] using hall

def openingOf (key : Option String) : Char := if key.isNone then '[' else '{'

def closingOf (key : Option String) : Char := if key.isNone then ']' else '}'

def exportLexemes (b : Barrel) : List Lexeme :=
  [⟨.name "export", true⟩, ⟨.name "default", false⟩, ⟨.punctuator (openingOf b.key), false⟩] ++
    commaed (b.definitions.map (itemLexemes b.key)) ++
    [⟨.punctuator (closingOf b.key), !b.definitions.isEmpty⟩]

lemma scans_export {b : Barrel} (hk : ∀ k ∈ b.key, isIdentifier k = true)
    (h : ∀ d ∈ b.definitions, isIdentifier d.binding = true) :
    Scans (between true) ((exportLines b.literal).flatMap CodeWriter.laid ++ (lastLine b.literal).toList)
      (exportLexemes b) (between false) := by
  have hitems := scans_separated fun d hd => reads_item hk (h d hd)
  obtain ⟨definitions, key⟩ := b
  cases definitions with
  | nil =>
    cases key with
    | none => decide
    | some k =>
      have hall : Scans (between true) "export default \x7b\x7d".toList [⟨.name "export", true⟩,
          ⟨.name "default", false⟩, ⟨.punctuator '{', false⟩, ⟨.punctuator '}', false⟩] (between false) := by
        decide
      simpa [exportLines, lastLine, literal, Literal.items, Literal.opening, Literal.closing,
        exportLexemes, commaed, openingOf, closingOf] using hall
  | cons d ds =>
    rw [exportLines, lastLine, literal_items]
    simp only [List.map_cons] at hitems ⊢
    cases key with
    | none =>
      have hheader : Scans (between true) "export default [\n".toList [⟨.name "export", true⟩,
          ⟨.name "default", false⟩, ⟨.punctuator '[', false⟩] (between true) := by decide
      have hlast : Scans (between true) [']'] [⟨.punctuator ']', true⟩] (between false) := by decide
      have hall := hheader.append (hitems.append hlast)
      simpa [CodeWriter.laid, CodeWriter.indentation, literal, Literal.opening, Literal.closing,
        exportLexemes, openingOf, closingOf] using hall
    | some k =>
      have hheader : Scans (between true) "export default \x7b\n".toList [⟨.name "export", true⟩,
          ⟨.name "default", false⟩, ⟨.punctuator '{', false⟩] (between true) := by decide
      have hlast : Scans (between true) ['}'] [⟨.punctuator '}', true⟩] (between false) := by decide
      have hall := hheader.append (hitems.append hlast)
      simpa [CodeWriter.laid, CodeWriter.indentation, literal, Literal.opening, Literal.closing,
        exportLexemes, openingOf, closingOf] using hall

lemma scans_imports {ds : List Definition} (h : ∀ d ∈ ds, isIdentifier d.binding = true)
    (hq : ∀ d ∈ ds, Quotable d.specifier) :
    Scans (between true) ((ds.map importLine).flatMap CodeWriter.laid) (ds.flatMap importLexemes)
      (between true) := by
  induction ds with
  | nil => exact Scans.nil _
  | cons d ds ih =>
    rw [List.map_cons, List.flatMap_cons, List.flatMap_cons]
    exact (scans_importLine (h d List.mem_cons_self) (hq d List.mem_cons_self)).append
      (ih (fun e he => h e (List.mem_cons_of_mem _ he)) fun e he => hq e (List.mem_cons_of_mem _ he))

lemma lexemes?_render {b : Barrel} (hk : ∀ k ∈ b.key, isIdentifier k = true)
    (h : ∀ d ∈ b.definitions, isIdentifier d.binding = true)
    (hq : ∀ d ∈ b.definitions, Quotable d.specifier) :
    lexemes? b.render = some (b.definitions.flatMap importLexemes ++ exportLexemes b) := by
  have hblank : Scans (between true) ['\n'] [] (between true) := by decide
  have hall := (scans_imports h hq).append (hblank.append (scans_export hk h))
  rw [Scans, List.nil_append, List.singleton_append, ← render_toList] at hall
  rw [lexemes?, hall]
  simp [finish, between]

lemma map_token_commaed (ls : List Lexeme) {lss : List (List Lexeme)} (h : lss ≠ []) :
    (commaed (ls :: lss)).map Lexeme.token =
      ls.map Lexeme.token ++ .punctuator ',' :: (commaed lss).map Lexeme.token := by
  obtain ⟨ms, mss, rfl⟩ := List.exists_cons_of_ne_nil h
  simp [commaed]

lemma elements?_commaed (ds : List Definition) :
    elements? ((commaed (ds.map (itemLexemes none))).map Lexeme.token ++ [.punctuator ']']) =
      some (ds.map Definition.binding) := by
  induction ds with
  | nil => rfl
  | cons d ds ih =>
    by_cases hn : ds = []
    · subst hn
      rfl
    · have hstep : ∀ rest, elements? ((itemLexemes none d).map Lexeme.token ++ .punctuator ',' :: rest) =
          (elements? rest).map (d.binding :: ·) := by simp [itemLexemes, elements?]
      rw [List.map_cons, map_token_commaed _ (by simpa using hn), List.append_assoc, List.cons_append,
        hstep, ih]
      rfl

lemma properties?_commaed (k : String) (ds : List Definition) :
    properties? ((commaed (ds.map (itemLexemes (some k)))).map Lexeme.token ++ [.punctuator '}']) =
      some (ds.map fun d => (d.binding, k, d.binding)) := by
  induction ds with
  | nil => rfl
  | cons d ds ih =>
    by_cases hn : ds = []
    · subst hn
      rfl
    · have hstep : ∀ rest,
          properties? ((itemLexemes (some k) d).map Lexeme.token ++ .punctuator ',' :: rest) =
            (properties? rest).map ((d.binding, k, d.binding) :: ·) := by simp [itemLexemes, properties?]
      rw [List.map_cons, map_token_commaed _ (by simpa using hn), List.append_assoc, List.cons_append,
        hstep, ih]
      rfl

lemma exported?_exportLexemes (b : Barrel) :
    exported? ((exportLexemes b).map Lexeme.token) = some b.module.exported := by
  obtain ⟨ds, key⟩ := b
  cases key with
  | none =>
    have hh := elements?_commaed ds
    simpa [exportLexemes, exported?, openingOf, closingOf, module] using hh
  | some k =>
    have hh := properties?_commaed k ds
    simpa [exportLexemes, exported?, openingOf, closingOf, module] using hh

lemma statements?_imports {ds : List Definition} {l : Lexeme} {ls : List Lexeme} {e : Export}
    (hl : l.opensLine = true) (h : statements? (l :: ls) = some ⟨[], e⟩) :
    statements? (ds.flatMap importLexemes ++ l :: ls) =
      some ⟨ds.map fun d => ⟨d.binding, d.specifier⟩, e⟩ := by
  induction ds with
  | nil => exact h
  | cons d ds ih =>
    obtain ⟨next, rest, hn, hr⟩ : ∃ next rest, next.opensLine = true ∧
        ds.flatMap importLexemes ++ l :: ls = next :: rest := by
      cases ds with
      | nil => exact ⟨l, ls, hl, rfl⟩
      | cons e es => exact ⟨_, _, rfl, rfl⟩
    rw [List.flatMap_cons, List.append_assoc, hr, importLexemes]
    rw [hr] at ih
    simp [statements?, hn, ih]

lemma statements?_render (b : Barrel) :
    statements? (b.definitions.flatMap importLexemes ++ exportLexemes b) = some b.module := by
  have hexport : statements? (exportLexemes b) = some ⟨[], b.module.exported⟩ := by
    have hh := exported?_exportLexemes b
    rw [exportLexemes] at hh ⊢
    simp only [List.cons_append, List.nil_append] at hh ⊢
    rw [statements?]
    · rw [hh]
      rfl
    · simp
  exact statements?_imports rfl hexport

lemma notMem_reserved {n : String} (h : ∀ c ∈ n.toList.head?, c.isLower = false) : n ∉ reserved := by
  have hall : reserved.all (fun m => m.toList.head?.any Char.isLower) = true := by decide
  intro hn
  obtain ⟨c, hc, hl⟩ := (Option.any_eq_true _ _).mp (List.all_eq_true.mp hall n hn)
  rw [h c hc] at hl
  cases hl

lemma module_admitted {b : Barrel} (hd : (b.definitions.map Definition.binding).Nodup)
    (hr : ∀ d ∈ b.definitions, d.binding ∉ reserved) : b.module.admitted = true := by
  have himports : b.module.imports.map Import.binding = b.definitions.map Definition.binding := by
    simp [module]
  have hreferences : ∀ n ∈ b.module.exported.references, ∃ d ∈ b.definitions, d.binding = n := by
    intro n hn
    rw [module] at hn
    cases hk : b.key with
    | none => simpa [hk, Export.references] using hn
    | some k =>
      rw [hk] at hn
      obtain ⟨p, hp, hn⟩ := List.mem_flatMap.mp hn
      obtain ⟨d, hd, rfl⟩ := List.mem_map.mp hp
      exact ⟨d, hd, by simpa [eq_comm] using hn⟩
  rw [Module.admitted, himports, Bool.and_eq_true, decide_eq_true_eq, List.all_eq_true]
  refine ⟨hd, fun n hn => ?_⟩
  obtain ⟨d, hd, rfl⟩ : ∃ d ∈ b.definitions, d.binding = n := by
    rcases List.mem_append.mp hn with hn | hn
    · exact List.mem_map.mp hn
    · exact hreferences n hn
  simpa using hr d hd

lemma backslash_notMem_identifier {n : String} (h : isIdentifier n = true) : '\\' ∉ n.toList := by
  rw [isIdentifier] at h
  cases hn : n.toList with
  | nil => simp
  | cons c cs =>
    simp only [hn, Bool.and_eq_true, List.all_eq_true] at h
    rw [List.mem_cons, not_or]
    constructor
    · rintro rfl
      exact absurd h.1 (by decide)
    · intro hm
      exact absurd (h.2 _ hm) (by decide)

lemma backslash_notMem_laid {line : Nat × String} (h : '\\' ∉ line.2.toList) :
    '\\' ∉ CodeWriter.laid line := by
  have hindentation : ∀ n, '\\' ∉ (CodeWriter.indentation n).toList := by
    intro n
    induction n with
    | zero => decide
    | succ n ih => simpa [CodeWriter.indentation] using ih
  simp [CodeWriter.laid, hindentation, h]

lemma backslash_notMem_separated {items : List String} (h : ∀ i ∈ items, '\\' ∉ i.toList) :
    ∀ l ∈ separated items, '\\' ∉ l.toList := by
  induction items with
  | nil => simp [separated]
  | cons i items ih =>
    have hrest := ih fun j hj => h j (List.mem_cons_of_mem _ hj)
    have hi := h i List.mem_cons_self
    cases items with
    | nil => simpa [separated] using hi
    | cons j items =>
      rw [separated, List.forall_mem_cons]
      · exact ⟨by simpa using hi, hrest⟩
      · simp

lemma backslash_notMem_export {l : Literal} (h : ∀ i ∈ l.items, '\\' ∉ i.toList) :
    (∀ line ∈ exportLines l, '\\' ∉ line.2.toList) ∧ '\\' ∉ (lastLine l).toList := by
  have hopening : '\\' ∉ l.opening.toList := by cases l <;> simp [Literal.opening]
  have hclosing : '\\' ∉ l.closing.toList := by cases l <;> simp [Literal.closing]
  rw [exportLines, lastLine]
  split
  case h_1 => simp [hopening, hclosing]
  case h_2 items hi =>
    rw [List.forall_mem_cons]
    refine ⟨⟨by simp [hopening], fun line hl => ?_⟩, hclosing⟩
    obtain ⟨t, ht, rfl⟩ := List.mem_map.mp hl
    exact backslash_notMem_separated h t ht

lemma backslash_notMem_render {b : Barrel} (hk : ∀ k ∈ b.key, isIdentifier k = true)
    (h : ∀ d ∈ b.definitions, isIdentifier d.binding = true)
    (hb : ∀ d ∈ b.definitions, '\\' ∉ d.specifier.toList) : '\\' ∉ b.render.toList := by
  have hitem : ∀ i ∈ b.literal.items, '\\' ∉ i.toList := by
    rw [literal_items]
    intro i hi
    obtain ⟨d, hd, rfl⟩ := List.mem_map.mp hi
    have hbinding := backslash_notMem_identifier (h d hd)
    cases hkey : b.key with
    | none => exact hbinding
    | some k =>
      have hk := backslash_notMem_identifier (hk k hkey)
      simp [itemText, hbinding, hk]
  obtain ⟨hlines, hlast⟩ := backslash_notMem_export hitem
  rw [render_toList]
  simp only [List.mem_append, List.mem_cons, List.mem_flatMap, List.mem_map, not_or, not_exists, not_and]
  refine ⟨?_, by decide, fun line hl => backslash_notMem_laid (hlines line hl), hlast⟩
  rintro _ ⟨d, hd, rfl⟩
  have hbinding := backslash_notMem_identifier (h d hd)
  exact backslash_notMem_laid (by simp [importLine, hbinding, hb d hd])

theorem module?_render_iff {b : Barrel} (hw : b.warnings = [])
    (hk : ∀ k ∈ b.key, isIdentifier k = true)
    (hc : ∀ d ∈ b.definitions, ∀ c ∈ d.binding.toList.head?, c.isLower = false)
    (hb : ∀ d ∈ b.definitions, '\\' ∉ d.specifier.toList) :
    module? b.render = some b.module ↔ ∀ d ∈ b.definitions, Quotable d.specifier := by
  obtain ⟨hi, hd⟩ := warnings_eq_nil_iff.mp hw
  constructor
  · intro h d hd
    exact module?_quotable (backslash_notMem_render hk hi hb) h (i := ⟨d.binding, d.specifier⟩)
      (List.mem_map_of_mem hd)
  · intro hq
    have hadmitted := module_admitted hd fun d hd => notMem_reserved (hc d hd)
    rw [module?, lexemes?_render hk hi hq, Option.bind_some, statements?_render]
    simp [Option.filter, hadmitted]

end Barrel

end BarrelModule
