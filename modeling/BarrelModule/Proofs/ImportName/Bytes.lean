import BarrelModule.Path
import BarrelModule.Proofs.ImportName.Derivation
import BarrelModule.Proofs.ImportName.Shape
import BarrelModule.Proofs.Text.Boundary

/-! The name of a path found in its bytes, none of them decoded. What is no character of ASCII is a separator,
however many characters or replacements the bytes of it are decoded to. -/

namespace BarrelModule

open Text Utf8

def isWordByte (b : UInt8) : Bool :=
  (0x30 ≤ b && b ≤ 0x39) || (0x41 ≤ b && b ≤ 0x5A) || (0x61 ≤ b && b ≤ 0x7A) || b == 0x5F

def capitalByte (b : UInt8) : UInt8 := if 0x61 ≤ b && b ≤ 0x7A then b - 0x20 else b

def capitalizeFirstByte : Bytes → Bytes
  | [] => []
  | b :: bs => capitalByte b :: bs

def endsInWordByte (path : Bytes) : Bool := path.getLast?.any isWordByte

def byteWords (path : Bytes) : List Bytes := words (fun b => !isWordByte b) path

def byteNameWords (path : Bytes) : List Bytes :=
  if endsInWordByte path then (byteWords path).dropLast else byteWords path

def byteName (path : Bytes) : Bytes := (byteNameWords path).flatMap capitalizeFirstByte

lemma byte_induction {P : UInt8 → Prop} (h : ∀ n < 256, P (UInt8.ofNat n)) (b : UInt8) : P b := by
  rw [← UInt8.ofNat_toNat (x := b)]
  exact h b.toNat b.toNat_lt

lemma isWordByte_ascii {b : UInt8} (h : isWordByte b = true) : b ≤ 0x7F := by
  apply byte_induction (P := fun b => isWordByte b = true → b ≤ 0x7F) _ b h
  decide +kernel

lemma isWordChar_byte {b : UInt8} (h : b ≤ 0x7F) : isWordChar (Char.ofNat b.toNat) = isWordByte b := by
  apply byte_induction (P := fun b => b ≤ 0x7F → isWordChar (Char.ofNat b.toNat) = isWordByte b) _ b h
  decide +kernel

lemma capitalByte_spec {b : UInt8} (h : isWordByte b = true) :
    isWordByte (capitalByte b) = true ∧ (Char.ofNat b.toNat).toUpper = Char.ofNat (capitalByte b).toNat := by
  apply byte_induction (P := fun b => isWordByte b = true → isWordByte (capitalByte b) = true ∧
    (Char.ofNat b.toNat).toUpper = Char.ofNat (capitalByte b).toNat) _ b h
  decide +kernel

lemma isWordChar_beyondAscii {v : Nat} (h : 0x80 ≤ v) : isWordChar (Char.ofNat v) = false := by
  by_contra hc
  rw [Bool.not_eq_false] at hc
  by_cases hv : v.isValidChar
  · have hle := isWordChar_ascii hc
    have hv : (Char.ofNat v).toNat = v := by
      rw [Char.ofNat, dif_pos hv]
      rfl
    omega
  · -- What is no character is read as the null character, which is no word character either.
    rw [Char.ofNat, dif_neg hv] at hc
    revert hc
    decide

lemma starts_separates {b : UInt8} {r : List Char × Pending} (h : Starts b r) (hb : isWordByte b = false) :
    ∀ c ∈ r.1, isWordChar c = false := by
  cases h with
  | ascii h =>
    rw [List.forall_mem_singleton, isWordChar_byte h]
    exact hb
  | stray =>
    rw [List.forall_mem_singleton]
    decide
  | lead => simp

lemma step_separates {p : Pending} (hp : p.BeyondAscii) {b : UInt8} (hb : isWordByte b = false) :
    ∀ c ∈ (step p b).1, isWordChar c = false := by
  cases p with
  | between => exact starts_separates (start_starts b) hb
  | inside lacking least greatest bits =>
    simp only [step]
    split
    case isTrue hc =>
      split
      case isTrue hl =>
        rw [List.forall_mem_singleton]
        apply isWordChar_beyondAscii
        have hle : least.toNat ≤ b.toNat := UInt8.le_iff_toNat_le.mp hc.1
        have hlacking : lacking - 1 = 0 := by omega
        rw [Pending.BeyondAscii, hlacking, Nat.pow_zero, Nat.mul_one] at hp
        omega
      case isFalse => simp
    case isFalse =>
      simp only [List.forall_mem_cons]
      exact ⟨by decide, starts_separates (start_starts b) hb⟩

lemma decodeFrom_separates {p : Pending} (hp : p.BeyondAscii) {bs : Bytes} (h : ∀ b ∈ bs, isWordByte b = false) :
    ∀ c ∈ decodeFrom p bs, isWordChar c = false := by
  induction bs generalizing p with
  | nil =>
    cases p with
    | between => simp [decodeFrom]
    | inside =>
      rw [decodeFrom, List.forall_mem_singleton]
      decide
  | cons b bs ih =>
    obtain ⟨hb, hbs⟩ := List.forall_mem_cons.mp h
    rw [decodeFrom, List.forall_mem_append]
    exact ⟨step_separates hp hb, ih (step_beyondAscii hp b) hbs⟩

lemma divided_decode {bs : Bytes} {fs : List Bytes} (h : Divided (fun b => !isWordByte b) bs fs) :
    Divided (fun c => !isWordChar c) (decodeFrom .between bs) (fs.map asciiText) := by
  have hascii : ∀ f : Bytes, (∀ b ∈ f, (!isWordByte b) = false) → ∀ b ∈ f, b ≤ 0x7F := by
    intro f hf b hb
    exact isWordByte_ascii (by simpa using hf b hb)
  have htext : ∀ f : Bytes, (∀ b ∈ f, (!isWordByte b) = false) → ∀ c ∈ asciiText f, (!isWordChar c) = false := by
    intro f hf c hc
    obtain ⟨b, hb, rfl⟩ := List.mem_map.mp hc
    rw [isWordChar_byte (hascii f hf b hb)]
    exact hf b hb
  induction h with
  | @whole f hf =>
    have hdecode := decodeFrom_ascii_append (hascii f hf) []
    rw [List.append_nil, decodeFrom, List.append_nil] at hdecode
    rw [hdecode]
    exact .whole (htext f hf)
  | @run f r rest fs hf hn hr hm h ih =>
    have hopen : ∀ b ∈ rest.head?, b ≤ 0x7F := fun b hb => isWordByte_ascii (by simpa using hm b hb)
    rw [decodeFrom_ascii_append (hascii f hf), decodeFrom_append_of_head r hopen]
    have hbetween : Pending.between.BeyondAscii := trivial
    refine .run (htext f hf) (decodeFrom_ne_nil hn) ?_ ?_ ih
    · intro c hc
      rw [decodeFrom_separates hbetween (by simpa using hr) c hc, Bool.not_false]
    · cases rest with
      | nil => simp [decodeFrom]
      | cons b rest =>
        rw [decodeFrom_cons_ascii (hopen b rfl)]
        simpa [isWordChar_byte (hopen b rfl)] using hm b rfl

lemma divided_forwardSlashes (p : Path) :
    Divided (fun c => !isWordChar c) p.forwardSlashes.toList
      ((parts (fun b => !isWordByte b) p.bytes).map asciiText) := by
  have hlist : p.forwardSlashes.toList =
      (decodeFrom .between p.bytes).map fun c => if c = '\\' then '/' else c := by
    rw [Path.forwardSlashes, Path.display, decode, String.toList_ofList, String.toList_ofList]
  rw [hlist]
  apply (divided_decode (divided_parts _ p.bytes)).map_of_fixed
  · intro c hc
    exact forwardSlash_of_wordChar (by simpa using hc)
  · intro c hc
    rw [forwardSlash_separates (by simpa using hc), Bool.not_false]

lemma asciiText_ne_nil_iff {w : Bytes} : asciiText w ≠ [] ↔ w ≠ [] := by
  rw [asciiText, ne_eq, List.map_eq_nil_iff]

lemma pathWords_forwardSlashes (p : Path) :
    pathWords p.forwardSlashes.toList = (byteWords p.bytes).map asciiText := by
  have hchars : pathWords p.forwardSlashes.toList = _ := (divided_forwardSlashes p).words_eq
  rw [hchars, byteWords, (divided_parts _ p.bytes).words_eq, List.filter_map]
  simp only [Function.comp_def, asciiText_ne_nil_iff]

lemma endsInWord_forwardSlashes (p : Path) : endsInWord p.forwardSlashes.toList = endsInWordByte p.bytes := by
  have hchars := (divided_forwardSlashes p).getLast?_any
  have hbytes := (divided_parts (fun b => !isWordByte b) p.bytes).getLast?_any
  simp only [Bool.not_not] at hchars hbytes
  rw [endsInWord_eq, ← hchars, endsInWordByte, ← hbytes, List.getLast?_map, Option.any_map]
  simp only [asciiText_ne_nil_iff]

lemma nameWords_forwardSlashes (p : Path) :
    nameWords p.forwardSlashes.toList = (byteNameWords p.bytes).map asciiText := by
  rw [nameWords_eq, pathWords_forwardSlashes, endsInWord_forwardSlashes, byteNameWords]
  split
  · rw [List.map_dropLast]
  · rfl

lemma mem_byteNameWords {path w : Bytes} (h : w ∈ byteNameWords path) : ∀ b ∈ w, isWordByte b = true := by
  have hw : w ∈ byteWords path := by
    rw [byteNameWords] at h
    split at h
    · exact List.dropLast_subset _ h
    · exact h
  intro b hb
  obtain ⟨hf, -⟩ := List.mem_filter.mp hw
  simpa using (mem_of_mem_fields hf hb).2

lemma isWordByte_capital {w : Bytes} (h : ∀ b ∈ w, isWordByte b = true) :
    ∀ b ∈ capitalizeFirstByte w, isWordByte b = true := by
  cases w with
  | nil => simp [capitalizeFirstByte]
  | cons b bs =>
    obtain ⟨hb, hbs⟩ := List.forall_mem_cons.mp h
    exact List.forall_mem_cons.mpr ⟨(capitalByte_spec hb).1, hbs⟩

lemma capitalizeFirst_asciiText {w : Bytes} (h : ∀ b ∈ w, isWordByte b = true) :
    capitalizeFirst (asciiText w) = asciiText (capitalizeFirstByte w) := by
  cases w with
  | nil => rfl
  | cons b bs =>
    have hb := h b List.mem_cons_self
    have hc : isWordChar (Char.ofNat b.toNat) = true := (isWordChar_byte (isWordByte_ascii hb)).trans hb
    rw [asciiText, List.map_cons, capitalizeFirst_of_wordChar hc, (capitalByte_spec hb).2]
    rfl

lemma flatMap_capitalizeFirst_asciiText {ws : List Bytes} (h : ∀ w ∈ ws, ∀ b ∈ w, isWordByte b = true) :
    (ws.map asciiText).flatMap capitalizeFirst = asciiText (ws.flatMap capitalizeFirstByte) := by
  induction ws with
  | nil => rfl
  | cons w ws ih =>
    obtain ⟨hw, hws⟩ := List.forall_mem_cons.mp h
    rw [List.map_cons, List.flatMap_cons, List.flatMap_cons, ih hws, capitalizeFirst_asciiText hw, asciiText,
      asciiText, asciiText, List.map_append]

lemma encode_asciiText {bs : Bytes} (h : ∀ b ∈ bs, isWordByte b = true) :
    encode (String.ofList (asciiText bs)) = bs := by
  rw [encode, String.toList_ofList]
  induction bs with
  | nil => rfl
  | cons b bs ih =>
    obtain ⟨hb, hbs⟩ := List.forall_mem_cons.mp h
    have hchar : String.utf8EncodeChar (Char.ofNat b.toNat) = [b] := by
      apply byte_induction (P := fun b => isWordByte b = true →
        String.utf8EncodeChar (Char.ofNat b.toNat) = [b]) _ b hb
      decide +kernel
    have htext : asciiText (b :: bs) = Char.ofNat b.toNat :: asciiText bs := rfl
    rw [htext, List.flatMap_cons, hchar, ih hbs]
    rfl

theorem importName_forwardSlashes (p : Path) :
    encode (importName p.forwardSlashes) = byteName p.bytes ∧
      pathWords p.forwardSlashes.toList = (byteWords p.bytes).map asciiText ∧
      endsInWord p.forwardSlashes.toList = endsInWordByte p.bytes := by
  refine ⟨?_, pathWords_forwardSlashes p, endsInWord_forwardSlashes p⟩
  have hwords : ∀ w ∈ byteNameWords p.bytes, ∀ b ∈ w, isWordByte b = true := fun w hw => mem_byteNameWords hw
  rw [importName, nameWords_forwardSlashes, flatMap_capitalizeFirst_asciiText hwords, byteName,
    encode_asciiText]
  intro b hb
  obtain ⟨w, hw, hbw⟩ := List.mem_flatMap.mp hb
  exact isWordByte_capital (hwords w hw) b hbw

example : byteName (encode "caf" ++ [0xC3] ++ encode "x\\\uFFFDé/1st_a.js") = encode "CafX1st_a" := rfl

end BarrelModule
