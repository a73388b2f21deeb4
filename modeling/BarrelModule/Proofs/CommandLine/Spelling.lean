import BarrelModule.CommandLine.Arguments
import Mathlib.Tactic.Lemma

namespace BarrelModule.CommandLine

inductive Given where
  | setting (s : Setting) (value : String)
  | switch (s : Switch)
  deriving DecidableEq, Repr

def Given.meaning : Given → Meaning
  | .setting s _ => .setting s
  | .switch s => .switch s

def shortOption (letter : Char) : String := "-" ++ String.singleton letter

def longOption (name : String) : String := "--" ++ name

namespace Setting

def letter : Setting → Char
  | .outputPath => 'o'
  | .definitionKey => 'i'
  | .directory => 'd'
  | .opening => 'p'
  | .ending => 's'
  | .pattern => 'P'

def names : Setting → List String
  | .outputPath => ["outputPath", "output-path"]
  | .definitionKey => ["definitionKey", "definition-key"]
  | .directory => ["directory"]
  | .opening => ["prefix"]
  | .ending => ["suffix"]
  | .pattern => ["pattern"]

def options (s : Setting) : List String := shortOption s.letter :: s.names.map longOption

end Setting

namespace Switch

def letter? : Switch → Option Char
  | .recursive => some 'r'
  | .denyDuplicates => none

def name : Switch → String
  | .recursive => "recursive"
  | .denyDuplicates => "deny-duplicates"

def options (s : Switch) : List String := longOption s.name :: s.letter?.toList.map shortOption

end Switch

def Separable (value : String) : Prop :=
  value = "" ∨ value = "-" ∨ value.toList.head? ≠ some '-'

inductive Spelled : Given → List String → Prop
  | equals {s value option} (ho : option ∈ s.options) (hv : value ≠ "") :
      Spelled (.setting s value) [option ++ "=" ++ value]
  | joined {s value} (hv : value ≠ "") (he : value.toList.head? ≠ some '=') :
      Spelled (.setting s value) [shortOption s.letter ++ value]
  | separate {s value option} (ho : option ∈ s.options) (hv : Separable value) :
      Spelled (.setting s value) [option, value]
  | switch {s option} (ho : option ∈ s.options) : Spelled (.switch s) [option]

lemma exists_spelled (g : Given) : ∃ args, Spelled g args := by
  cases g with
  | switch s => exact ⟨_, .switch List.mem_cons_self⟩
  | setting s value =>
    by_cases hv : value = ""
    · exact ⟨_, .separate List.mem_cons_self (Or.inl hv)⟩
    · exact ⟨_, .equals List.mem_cons_self hv⟩

lemma toList_shortOption (letter : Char) : (shortOption letter).toList = ['-', letter] := by
  simp [shortOption]

lemma toList_longOption (name : String) : (longOption name).toList = '-' :: '-' :: name.toList := by
  simp [longOption]

structure Word (name : String) : Prop where
  ne_nil : name.toList ≠ []
  equals : '=' ∉ name.toList

namespace Setting

variable (s : Setting)

lemma short?_letter : Command.build.short? s.letter = some (.setting s) := by
  cases s <;> rfl

lemma letter_ne_hyphen : s.letter ≠ '-' := by
  cases s <;> decide

lemma word_of_mem_names : ∀ name ∈ s.names, Word name ∧ Command.build.long? name = some (.setting s) := by
  have hall : ∀ name ∈ s.names, (name.toList ≠ [] ∧ '=' ∉ name.toList) ∧
      Command.build.long? name = some (.setting s) := by
    cases s <;> decide
  intro name hn
  obtain ⟨⟨hne, he⟩, hl⟩ := hall name hn
  exact ⟨⟨hne, he⟩, hl⟩

end Setting

namespace Switch

variable (s : Switch)

lemma short?_of_letter? {letter : Char} (h : s.letter? = some letter) :
    letter ≠ '-' ∧ Command.build.short? letter = some (.switch s) := by
  cases s <;> cases h
  exact ⟨by decide, rfl⟩

lemma word_name : Word s.name := by
  cases s <;> exact ⟨by decide, by decide⟩

lemma long?_name : Command.build.long? s.name = some (.switch s) := by
  cases s <;> rfl

end Switch

namespace Draft

variable {c : Command} {d : Draft}

section Letters

lemma readShorts_setting {letter : Char} {s : Setting} (h : c.short? letter = some (.setting s)) :
    d.readShorts c [letter] = d.awaiting s := by
  simp only [readShorts, h]

lemma readShorts_equals {letter : Char} {s : Setting} (h : c.short? letter = some (.setting s))
    (value : List Char) : d.readShorts c (letter :: '=' :: value) = d.attached s (String.ofList value) := by
  simp only [readShorts, h]

lemma readShorts_attached {letter : Char} {s : Setting} (h : c.short? letter = some (.setting s))
    {value : List Char} (hn : value ≠ []) (he : value.head? ≠ some '=') :
    d.readShorts c (letter :: value) = d.attached s (String.ofList value) := by
  obtain ⟨first, value, rfl⟩ := List.exists_cons_of_ne_nil hn
  have hfirst : first ≠ '=' := by simpa using he
  simp only [readShorts, h]
  split
  case h_1 hv => cases hv
  case h_2 hv => exact absurd (List.cons.inj hv).1 hfirst
  case h_3 => rfl

lemma readShorts_switch {letter : Char} {s : Switch} (h : c.short? letter = some (.switch s)) :
    d.readShorts c [letter] = d.standalone c (.switch s) := by
  simp only [readShorts, h]
  cases d.standalone c (.switch s) <;> rfl

end Letters

section Names

variable {name : String} (hw : Word name)
include hw

lemma takeWhile_name (rest : List Char) (hr : ∀ a ∈ rest.head?, a = '=') :
    (name.toList ++ rest).takeWhile (· ≠ '=') = name.toList := by
  have hinside : ∀ a ∈ name.toList, decide (a ≠ '=') = true := by
    intro a ha
    rw [decide_eq_true_iff]
    rintro rfl
    exact hw.equals ha
  have hstop : rest.takeWhile (· ≠ '=') = [] := by
    cases rest with
    | nil => rfl
    | cons a rest => simp [hr a rfl]
  rw [List.takeWhile_append_of_pos hinside, hstop, List.append_nil]

lemma readLong_equals {s : Setting} (h : c.long? name = some (.setting s)) (value : List Char) :
    d.readLong c (name.toList ++ '=' :: value) = d.attached s (String.ofList value) := by
  have hkey := takeWhile_name hw ('=' :: value) (by simp)
  simp only [readLong, hkey, List.drop_left, String.ofList_toList, h]

lemma takeWhile_alone : name.toList.takeWhile (· ≠ '=') = name.toList := by
  simpa only [List.append_nil] using takeWhile_name hw [] (by simp)

lemma readLong_setting {s : Setting} (h : c.long? name = some (.setting s)) :
    d.readLong c name.toList = d.awaiting s := by
  simp only [readLong, takeWhile_alone hw, List.drop_length, String.ofList_toList, h]

lemma readLong_switch {s : Switch} (h : c.long? name = some (.switch s)) :
    d.readLong c name.toList = d.standalone c (.switch s) := by
  simp only [readLong, takeWhile_alone hw, List.drop_length, String.ofList_toList, h]

end Names

section Arguments

variable (ho : d.operandsOnly = false)
include ho

lemma read_long {arg : String} {name : List Char} (ha : arg.toList = '-' :: '-' :: name) (hn : name ≠ []) :
    d.read c arg = d.readLong c name := by
  obtain ⟨first, name, rfl⟩ := List.exists_cons_of_ne_nil hn
  simp only [read, ho, ha, Bool.false_eq_true, if_false]

lemma read_short {arg : String} {letter : Char} {letters : List Char} (ha : arg.toList = '-' :: letter :: letters)
    (hl : letter ≠ '-') : d.read c arg = d.readShorts c (letter :: letters) := by
  simp only [read, ho, ha, Bool.false_eq_true, if_false]
  split
  case h_1 h => simp [hl] at h
  case h_2 h => simp [hl] at h
  case h_3 h =>
    obtain ⟨-, hletter⟩ := List.cons.inj h
    rw [hletter]
  case h_4 h => exact absurd rfl (h letter letters)

lemma read_value {s : Setting} (hp : d.pending = some (.setting s none)) {value : String} (hv : Separable value) :
    d.read c value = .ok { d with pending := some (.setting s (some value)) } := by
  have hshape : ∀ letter letters, value.toList ≠ '-' :: letter :: letters := by
    intro letter letters hc
    rcases hv with rfl | rfl | hv
    · cases hc
    · simp at hc
    · simp [hc] at hv
  simp only [read, ho, hp, Bool.false_eq_true, if_false]
  split
  case h_1 h => exact absurd h (hshape _ _)
  case h_2 h => exact absurd h (hshape _ _)
  case h_3 h => exact absurd h (hshape _ _)
  case h_4 => rfl

lemma read_equals {s : Setting} {option : String} (h : option ∈ s.options) (value : String) :
    d.read .build (option ++ "=" ++ value) = d.attached s value := by
  rw [Setting.options, List.mem_cons, List.mem_map] at h
  rcases h with rfl | ⟨name, hn, rfl⟩
  · have ha : (shortOption s.letter ++ "=" ++ value).toList = '-' :: s.letter :: '=' :: value.toList := by
      simp [toList_shortOption]
    rw [read_short ho ha s.letter_ne_hyphen, readShorts_equals s.short?_letter, String.ofList_toList]
  · obtain ⟨hw, hl⟩ := s.word_of_mem_names name hn
    have ha : (longOption name ++ "=" ++ value).toList = '-' :: '-' :: (name.toList ++ '=' :: value.toList) := by
      simp [toList_longOption]
    rw [read_long ho ha (by simp), readLong_equals hw hl, String.ofList_toList]

lemma read_joined {s : Setting} {value : String} (hv : value ≠ "") (he : value.toList.head? ≠ some '=') :
    d.read .build (shortOption s.letter ++ value) = d.attached s value := by
  have ha : (shortOption s.letter ++ value).toList = '-' :: s.letter :: value.toList := by
    simp [toList_shortOption]
  have hn : value.toList ≠ [] := by simpa using hv
  rw [read_short ho ha s.letter_ne_hyphen, readShorts_attached s.short?_letter hn he, String.ofList_toList]

lemma read_option {s : Setting} {option : String} (h : option ∈ s.options) :
    d.read .build option = d.awaiting s := by
  rw [Setting.options, List.mem_cons, List.mem_map] at h
  rcases h with rfl | ⟨name, hn, rfl⟩
  · rw [read_short ho (toList_shortOption _) s.letter_ne_hyphen, readShorts_setting s.short?_letter]
  · obtain ⟨hw, hl⟩ := s.word_of_mem_names name hn
    rw [read_long ho (toList_longOption name) hw.ne_nil, readLong_setting hw hl]

lemma read_switch {s : Switch} {option : String} (h : option ∈ s.options) :
    d.read .build option = d.standalone .build (.switch s) := by
  rw [Switch.options, List.mem_cons, List.mem_map] at h
  rcases h with rfl | ⟨letter, hl, rfl⟩
  · rw [read_long ho (toList_longOption _) s.word_name.ne_nil, readLong_switch s.word_name s.long?_name]
  · obtain ⟨hne, hl⟩ := s.short?_of_letter? (Option.mem_toList.mp hl)
    rw [read_short ho (toList_shortOption _) hne, readShorts_switch hl]

end Arguments

end Draft

end BarrelModule.CommandLine
