import BarrelModule.Proofs.Script.Scanner

/-! Modules that import defaults and then export an array or an object with computed keys. A statement
ends where the text does or the next token opens a line. -/

namespace BarrelModule.Script

structure Import where
  binding : String
  specifier : String
  deriving DecidableEq, Repr

inductive Export where
  | array (elements : List String)
  | object (properties : List (String × String × String))
  deriving DecidableEq, Repr

structure Module where
  imports : List Import
  exported : Export
  deriving DecidableEq, Repr

def reserved : List String :=
  ["arguments", "await", "break", "case", "catch", "class", "const", "continue", "debugger", "default",
    "delete", "do", "else", "enum", "eval", "export", "extends", "false", "finally", "for", "function",
    "if", "implements", "import", "in", "instanceof", "interface", "let", "new", "null", "package",
    "private", "protected", "public", "return", "static", "super", "switch", "this", "throw", "true",
    "try", "typeof", "var", "void", "while", "with", "yield"]

def Export.references : Export → List String
  | .array elements => elements
  | .object properties => properties.flatMap fun (holder, _, value) => [holder, value]

def Module.admitted (m : Module) : Bool :=
  (m.imports.map Import.binding).Nodup &&
    (m.imports.map Import.binding ++ m.exported.references).all fun n => !reserved.contains n

def elements? : List Token → Option (List String)
  | [.punctuator ']'] => some []
  | [.name x, .punctuator ']'] => some [x]
  | .name x :: .punctuator ',' :: rest => (elements? rest).map (x :: ·)
  | _ => none

def properties? : List Token → Option (List (String × String × String))
  | [.punctuator '}'] => some []
  | [.punctuator '[', .name x, .punctuator '.', .name k, .punctuator ']', .punctuator ':', .name y,
      .punctuator '}'] => some [(x, k, y)]
  | .punctuator '[' :: .name x :: .punctuator '.' :: .name k :: .punctuator ']' :: .punctuator ':' ::
      .name y :: .punctuator ',' :: rest => (properties? rest).map ((x, k, y) :: ·)
  | _ => none

def exported? : List Token → Option Export
  | .name "export" :: .name "default" :: .punctuator '[' :: rest => (elements? rest).map .array
  | .name "export" :: .name "default" :: .punctuator '{' :: rest => (properties? rest).map .object
  | _ => none

def statements? : List Lexeme → Option Module
  | ⟨.name "import", _⟩ :: ⟨.name x, _⟩ :: ⟨.name "from", _⟩ :: ⟨.text s, _⟩ :: next :: rest =>
    if next.opensLine then
      (statements? (next :: rest)).map fun m => { m with imports := ⟨x, s⟩ :: m.imports }
    else none
  | ls => (exported? (ls.map Lexeme.token)).map fun e => ⟨[], e⟩

def module? (s : String) : Option Module :=
  ((lexemes? s).bind statements?).filter Module.admitted

lemma statements?_specifier {ls : List Lexeme} {m : Module} (h : statements? ls = some m) {i : Import}
    (hi : i ∈ m.imports) : ∃ f, ⟨.text i.specifier, f⟩ ∈ ls := by
  induction ls using statements?.induct generalizing m with
  | case1 f₁ x f₂ f₃ s f₄ next rest hn ih =>
    rw [statements?, if_pos hn] at h
    obtain ⟨m', hm, rfl⟩ := Option.map_eq_some_iff.mp h
    rcases List.mem_cons.mp hi with rfl | hi
    · exact ⟨f₄, by simp⟩
    · obtain ⟨f, hf⟩ := ih hm hi
      exact ⟨f, List.mem_append_right [_, _, _, _] hf⟩
  | case2 f₁ x f₂ f₃ s f₄ next rest hn =>
    rw [statements?, if_neg hn] at h
    cases h
  | case3 ls hne =>
    rw [statements?] at h
    · obtain ⟨e, -, rfl⟩ := Option.map_eq_some_iff.mp h
      cases hi
    · exact hne

lemma module?_quotable {t : String} (ht : '\\' ∉ t.toList) {m : Module} (h : module? t = some m)
    {i : Import} (hi : i ∈ m.imports) : Quotable i.specifier := by
  obtain ⟨h, -⟩ := Option.filter_eq_some_iff.mp h
  obtain ⟨ls, hls, hm⟩ := Option.bind_eq_some_iff.mp h
  obtain ⟨f, hf⟩ := statements?_specifier hm hi
  exact lexemes?_quotable ht hls hf

end BarrelModule.Script
