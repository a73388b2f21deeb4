import BarrelModule.ImportName
import BarrelModule.Unicode.Property
import Mathlib.Tactic.Lemma

/-! The lexical grammar of modules, as far as imports and exports need it: white space, line ends, names,
punctuators, and strings in double quotes. -/

namespace BarrelModule.Script

inductive Token where
  | name (s : String)
  | punctuator (c : Char)
  | text (value : String)
  deriving DecidableEq, Repr

structure Lexeme where
  token : Token
  opensLine : Bool
  deriving DecidableEq, Repr

inductive Pending where
  | nothing
  | name (read : List Char)
  | text (read : List Char)
  | escape (read : List Char)
  deriving DecidableEq, Repr

structure Scanner where
  opensLine : Bool
  pending : Pending
  deriving DecidableEq, Repr

def beyondAscii (s : Unicode.CharSet) (c : Char) : Bool := 0x7F < c.toNat && s.contains c

def opensName (c : Char) : Bool :=
  c.isAlpha || c == '_' || c == '$' || beyondAscii Unicode.CharSet.idStart c

def continuesName (c : Char) : Bool :=
  isWordChar c || c == '$' || beyondAscii Unicode.CharSet.idContinue c || c == '\u200C' || c == '\u200D'

def isPunctuator (c : Char) : Bool := ['[', ']', '{', '}', ',', '.', ':'].contains c

def endsLine (c : Char) : Bool := ['\n', '\r', '\u2028', '\u2029'].contains c

def isBlank (c : Char) : Bool :=
  [' ', '\t', '\u000B', '\u000C', '\uFEFF'].contains c ||
    beyondAscii (Unicode.CharSet.ofCategories [.spaceSeparator]) c

def escaped? : Char → Option Char
  | 'n' => some '\n'
  | 'r' => some '\r'
  | 't' => some '\t'
  | '"' => some '"'
  | '\'' => some '\''
  | '\\' => some '\\'
  | _ => none

namespace Scanner

def start (opensLine : Bool) (c : Char) : Option (List Lexeme × Scanner) :=
  if opensName c then some ([], ⟨opensLine, .name [c]⟩)
  else if isPunctuator c then some ([⟨.punctuator c, opensLine⟩], ⟨false, .nothing⟩)
  else if c = '"' then some ([], ⟨opensLine, .text []⟩)
  else if endsLine c then some ([], ⟨true, .nothing⟩)
  else if isBlank c then some ([], ⟨opensLine, .nothing⟩)
  else none

def step (s : Scanner) (c : Char) : Option (List Lexeme × Scanner) :=
  match s.pending with
  | .nothing => start s.opensLine c
  | .name read =>
    if continuesName c then some ([], ⟨s.opensLine, .name (read ++ [c])⟩)
    else (start false c).map fun r => (⟨.name (String.ofList read), s.opensLine⟩ :: r.1, r.2)
  | .text read =>
    if c = '"' then some ([⟨.text (String.ofList read), s.opensLine⟩], ⟨false, .nothing⟩)
    else if c = '\\' then some ([], ⟨s.opensLine, .escape read⟩)
    else if c = '\n' ∨ c = '\r' then none
    else some ([], ⟨s.opensLine, .text (read ++ [c])⟩)
  | .escape read => (escaped? c).map fun d => ([], ⟨s.opensLine, .text (read ++ [d])⟩)

def scan (s : Scanner) : List Char → Option (List Lexeme × Scanner)
  | [] => some ([], s)
  | c :: cs => (s.step c).bind fun r => (scan r.2 cs).map fun q => (r.1 ++ q.1, q.2)

def finish (s : Scanner) : Option (List Lexeme) :=
  match s.pending with
  | .nothing => some []
  | .name read => some [⟨.name (String.ofList read), s.opensLine⟩]
  | _ => none

def between (opensLine : Bool) : Scanner := ⟨opensLine, .nothing⟩

end Scanner

def lexemes? (s : String) : Option (List Lexeme) :=
  ((Scanner.between true).scan s.toList).bind fun r => r.2.finish.map (r.1 ++ ·)

def Quotable (s : String) : Prop := ∀ c ∈ s.toList, c ≠ '"' ∧ c ≠ '\\' ∧ c ≠ '\n' ∧ c ≠ '\r'

def Scans (s : Scanner) (cs : List Char) (ls : List Lexeme) (s' : Scanner) : Prop :=
  s.scan cs = some (ls, s')

instance (s : Scanner) (cs : List Char) (ls : List Lexeme) (s' : Scanner) : Decidable (Scans s cs ls s') :=
  inferInstanceAs (Decidable (_ = _))

namespace Scans

open Scanner

variable {s s' s'' : Scanner} {c : Char} {cs ds : List Char} {ls ms : List Lexeme}

lemma nil (s : Scanner) : Scans s [] [] s := rfl

lemma cons (h : s.step c = some (ls, s')) (h' : Scans s' cs ms s'') : Scans s (c :: cs) (ls ++ ms) s'' := by
  rw [Scans, scan, h, Option.bind_some, h', Option.map_some]

lemma append (h : Scans s cs ls s') (h' : Scans s' ds ms s'') : Scans s (cs ++ ds) (ls ++ ms) s'' := by
  induction cs generalizing s ls with
  | nil =>
    cases h
    exact h'
  | cons c cs ih =>
    rw [Scans, scan] at h
    obtain ⟨⟨ls₁, s₁⟩, hs, h⟩ := Option.bind_eq_some_iff.mp h
    obtain ⟨⟨ls₂, s₂⟩, ht, h⟩ := Option.map_eq_some_iff.mp h
    cases h
    rw [List.append_assoc]
    exact cons hs (ih ht)

lemma name {f : Bool} {read : List Char} (h : ∀ c ∈ cs, continuesName c = true) :
    Scans ⟨f, .name read⟩ cs [] ⟨f, .name (read ++ cs)⟩ := by
  induction cs generalizing read with
  | nil => simpa using nil _
  | cons c cs ih =>
    have hc : step ⟨f, .name read⟩ c = some ([], ⟨f, .name (read ++ [c])⟩) := by
      rw [step]
      simp only
      rw [if_pos (h c List.mem_cons_self)]
    rw [List.append_cons]
    exact cons hc (ih fun d hd => h d (List.mem_cons_of_mem _ hd))

lemma text {f : Bool} {read : List Char} (h : ∀ c ∈ cs, c ≠ '"' ∧ c ≠ '\\' ∧ c ≠ '\n' ∧ c ≠ '\r') :
    Scans ⟨f, .text read⟩ cs [] ⟨f, .text (read ++ cs)⟩ := by
  induction cs generalizing read with
  | nil => simpa using nil _
  | cons c cs ih =>
    obtain ⟨hq, hb, hn, hr⟩ := h c List.mem_cons_self
    have hc : step ⟨f, .text read⟩ c = some ([], ⟨f, .text (read ++ [c])⟩) := by
      simp [step, hq, hb, hn, hr]
    rw [List.append_cons]
    exact cons hc (ih fun d hd => h d (List.mem_cons_of_mem _ hd))

lemma identifier {f : Bool} {n : String} (h : isIdentifier n = true) :
    Scans (between f) n.toList [] ⟨f, .name n.toList⟩ := by
  rw [isIdentifier] at h
  cases hn : n.toList with
  | nil => simp [hn] at h
  | cons c cs =>
    simp only [hn, Bool.and_eq_true, List.all_eq_true] at h
    obtain ⟨hc, hcs⟩ := h
    have hopen : step (between f) c = some ([], ⟨f, .name [c]⟩) := by
      have ho : opensName c = true := by
        rw [opensName, hc, Bool.true_or]
      rw [step]
      exact if_pos ho
    refine cons hopen (name fun d hd => ?_)
    rw [continuesName, hcs d hd, Bool.true_or, Bool.true_or, Bool.true_or]

lemma name_end {f : Bool} {read : List Char} (hc : continuesName c = false)
    (hs : start false c = some (ls, s')) :
    Scans ⟨f, .name read⟩ [c] (⟨.name (String.ofList read), f⟩ :: ls) s' := by
  rw [← List.append_nil (_ :: ls)]
  refine cons ?_ (nil s')
  simp [step, hc, hs]

lemma identifier_end {f : Bool} {n : String} (h : isIdentifier n = true) (hc : continuesName c = false)
    (hs : start false c = some (ls, s')) : Scans (between f) (n.toList ++ [c]) (⟨.name n, f⟩ :: ls) s' := by
  have hend : Scans ⟨f, .name n.toList⟩ [c] (⟨.name n, f⟩ :: ls) s' := by
    rw [← String.ofList_toList (s := n), String.toList_ofList]
    exact name_end hc hs
  exact (identifier h).append hend

lemma quoted_end {f : Bool} {v : String} (h : Quotable v) :
    Scans ⟨f, .text []⟩ (v.toList ++ ['"']) [⟨.text v, f⟩] (between false) := by
  have hend : Scans ⟨f, .text v.toList⟩ ['"'] [⟨.text v, f⟩] (between false) := by
    rw [Scans, scan, step]
    simp [scan, between]
  exact (text h).append hend

end Scans

def Pending.Quotable : Pending → Prop
  | .text read => Script.Quotable (String.ofList read)
  | .escape _ => False
  | _ => True

lemma start_quotable {f : Bool} {c : Char} {ls : List Lexeme} {s' : Scanner}
    (h : Scanner.start f c = some (ls, s')) :
    s'.pending.Quotable ∧ ∀ v g, ⟨.text v, g⟩ ∉ ls := by
  rw [Scanner.start] at h
  split at h
  · cases h
    exact ⟨trivial, by simp⟩
  split at h
  · cases h
    exact ⟨trivial, by simp⟩
  split at h
  · cases h
    exact ⟨by simp [Pending.Quotable, Script.Quotable], by simp⟩
  split at h
  · cases h
    exact ⟨trivial, by simp⟩
  split at h
  · cases h
    exact ⟨trivial, by simp⟩
  · cases h

lemma step_quotable {s s' : Scanner} {c : Char} {ls : List Lexeme} (hc : c ≠ '\\')
    (hs : s.pending.Quotable) (h : s.step c = some (ls, s')) :
    s'.pending.Quotable ∧ ∀ v f, ⟨.text v, f⟩ ∈ ls → Quotable v := by
  obtain ⟨f, pending⟩ := s
  cases pending with
  | nothing =>
    obtain ⟨hp, hl⟩ := start_quotable h
    exact ⟨hp, fun v g hv => absurd hv (hl v g)⟩
  | name read =>
    simp only [Scanner.step] at h
    split at h
    · cases h
      exact ⟨trivial, by simp⟩
    · obtain ⟨⟨ms, s₁⟩, hstart, h⟩ := Option.map_eq_some_iff.mp h
      cases h
      obtain ⟨hp, hl⟩ := start_quotable hstart
      exact ⟨hp, fun v g hv => absurd (by simpa using hv) (hl v g)⟩
  | text read =>
    simp only [Scanner.step, if_neg hc] at h
    split at h
    · cases h
      refine ⟨trivial, fun v g hv => ?_⟩
      obtain ⟨rfl, -⟩ : v = String.ofList read ∧ g = f := by simpa using hv
      exact hs
    split at h
    · cases h
    case isFalse hq hl =>
      cases h
      refine ⟨?_, by simp⟩
      intro d hd
      rw [String.toList_ofList, List.mem_append, List.mem_singleton] at hd
      rcases hd with hd | rfl
      · exact hs d (by simpa using hd)
      · exact ⟨hq, hc, fun he => hl (Or.inl he), fun he => hl (Or.inr he)⟩
  | escape => cases hs

lemma scan_quotable {s s' : Scanner} {cs : List Char} {ls : List Lexeme} (hc : '\\' ∉ cs)
    (hs : s.pending.Quotable) (h : Scans s cs ls s') :
    s'.pending.Quotable ∧ ∀ v f, ⟨.text v, f⟩ ∈ ls → Quotable v := by
  induction cs generalizing s ls with
  | nil =>
    cases h
    exact ⟨hs, by simp⟩
  | cons c cs ih =>
    obtain ⟨hc, hcs⟩ := not_or.mp (mt List.mem_cons.mpr hc)
    rw [Scans, Scanner.scan] at h
    obtain ⟨⟨ls₁, s₁⟩, hstep, h⟩ := Option.bind_eq_some_iff.mp h
    obtain ⟨⟨ls₂, s₂⟩, hscan, h⟩ := Option.map_eq_some_iff.mp h
    cases h
    obtain ⟨hs₁, hl₁⟩ := step_quotable (Ne.symm hc) hs hstep
    obtain ⟨hs₂, hl₂⟩ := ih hcs hs₁ hscan
    refine ⟨hs₂, fun v f hv => ?_⟩
    rcases List.mem_append.mp hv with hv | hv
    · exact hl₁ v f hv
    · exact hl₂ v f hv

lemma lexemes?_eq_some {t : String} {ls : List Lexeme} (h : lexemes? t = some ls) :
    ∃ read s' rest, Scans (Scanner.between true) t.toList read s' ∧ s'.finish = some rest ∧
      ls = read ++ rest := by
  obtain ⟨⟨read, s'⟩, hscan, h⟩ := Option.bind_eq_some_iff.mp h
  obtain ⟨rest, hrest, rfl⟩ := Option.map_eq_some_iff.mp h
  exact ⟨read, s', rest, hscan, hrest, rfl⟩

lemma lexemes?_quotable {t : String} {ls : List Lexeme} (ht : '\\' ∉ t.toList)
    (h : lexemes? t = some ls) {v : String} {f : Bool} (hv : ⟨.text v, f⟩ ∈ ls) : Quotable v := by
  obtain ⟨read, ⟨g, pending⟩, rest, hscan, hrest, rfl⟩ := lexemes?_eq_some h
  have hs : (Scanner.between true).pending.Quotable := trivial
  obtain ⟨-, hl⟩ := scan_quotable ht hs hscan
  rcases List.mem_append.mp hv with hv | hv
  · exact hl v f hv
  · cases pending <;> simp [Scanner.finish] at hrest <;> subst hrest <;> simp at hv

end BarrelModule.Script
