import BarrelModule.Proofs.Path.Lexical
import BarrelModule.Proofs.Text.Boundary
import BarrelModule.Proofs.Text.Utf8

namespace BarrelModule

open Text

namespace Text

lemma encode_append (s t : String) : encode (s ++ t) = encode s ++ encode t := by
  simp [encode]

lemma slash_notMem_encodeChar {c : Char} (h : c ≠ '/') : Path.slash ∉ String.utf8EncodeChar c := by
  have hn : c.val.toNat ≠ 0x2F := fun he => h (Char.toNat_inj.mp he)
  have hs : Path.slash.toNat = 0x2F := rfl
  intro hm
  simp only [String.utf8EncodeChar] at hm
  split_ifs at hm <;> simp only [List.mem_cons, List.not_mem_nil, or_false, ← UInt8.toNat_inj, hs,
    UInt8.toNat_ofNat'] at hm <;> omega

end Text

namespace Path

lemma forwardSlashes_append_slash (as bs : Bytes) :
    forwardSlashes ⟨as ++ slash :: bs⟩ = forwardSlashes ⟨as⟩ ++ "/" ++ forwardSlashes ⟨bs⟩ := by
  have hslash : slash ≤ 0x7F := by decide
  have htext : Char.ofNat slash.toNat = '/' := by decide
  apply String.toList_inj.mp
  simp only [forwardSlashes, display, decode_append_ascii as hslash bs, htext, String.toList_append,
    String.toList_ofList, List.map_append, List.map_cons]
  simp

def Plain (bs : Bytes) : Prop := ∃ s : String, bs = encode s ∧ '\\' ∉ s.toList

lemma plain_iff {bs : Bytes} :
    Plain bs ↔ ∃ cs : List Char, bs = cs.flatMap String.utf8EncodeChar ∧ '\\' ∉ cs := by
  constructor
  · rintro ⟨s, rfl, h⟩
    exact ⟨s.toList, rfl, h⟩
  · rintro ⟨cs, rfl, h⟩
    exact ⟨String.ofList cs, by simp [encode], by simpa using h⟩

lemma Plain.append {as bs : Bytes} (ha : Plain as) (hb : Plain bs) : Plain (as ++ bs) := by
  obtain ⟨cs, rfl, hc⟩ := plain_iff.mp ha
  obtain ⟨ds, rfl, hd⟩ := plain_iff.mp hb
  exact plain_iff.mpr ⟨cs ++ ds, by simp, by simp [hc, hd]⟩

lemma Plain.join {fs : List Bytes} (h : ∀ f ∈ fs, Plain f) : Plain (join slash fs) := by
  have hslash : Plain [slash] := ⟨"/", by decide, by decide⟩
  induction fs with
  | nil => exact ⟨"", by decide, by decide⟩
  | cons f fs ih =>
    by_cases he : fs = []
    · simpa [he, Text.join] using h f List.mem_cons_self
    · rw [join_cons_of_ne_nil slash f he]
      have hh := ih fun g hg => h g (List.mem_cons_of_mem _ hg)
      exact (h f List.mem_cons_self).append (hslash.append hh)

lemma fields_flatMap_encodeChar (cs : List Char) :
    fields (· == slash) (cs.flatMap String.utf8EncodeChar) =
      (fields (· == '/') cs).map fun f => f.flatMap String.utf8EncodeChar := by
  induction cs with
  | nil => rfl
  | cons c cs ih =>
    rw [List.flatMap_cons]
    by_cases hc : c = '/'
    · have he : String.utf8EncodeChar '/' = [slash] := by decide
      rw [hc, he, List.singleton_append, fields_cons_of_separates (by simp), ih,
        fields_cons_of_separates (by simp)]
      rfl
    · obtain ⟨f, fs, hf⟩ := fields_eq_cons (· == '/') cs
      rw [hf, List.map_cons] at ih
      rw [fields_append_of_forall_not ?_ ih, fields_cons_of_not (by simpa using hc) hf]
      · rfl
      · intro b hb
        have hne : b ≠ slash := fun he => slash_notMem_encodeChar hc (he ▸ hb)
        simpa using hne

lemma Plain.field {bs f : Bytes} (h : Plain bs) (hf : f ∈ fields (· == slash) bs) : Plain f := by
  obtain ⟨cs, rfl, hc⟩ := plain_iff.mp h
  rw [fields_flatMap_encodeChar] at hf
  obtain ⟨g, hg, rfl⟩ := List.mem_map.mp hf
  exact plain_iff.mpr ⟨g, rfl, fun hm => hc (mem_of_mem_fields hg hm).1⟩

lemma Plain.segment {p : Path} (h : Plain p.bytes) {s : Bytes} (hs : s ∈ p.segments) : Plain s :=
  h.field (List.mem_filter.mp hs).1

lemma Plain.absolute {workingDirectory : Location} (hw : ∀ n ∈ workingDirectory, Plain n) {p : Path}
    (h : Plain p.bytes) : ∀ n ∈ p.absolute workingDirectory, Plain n := by
  intro n hn
  rw [absolute_eq] at hn
  rcases Location.mem_of_mem_foldl_step hn with hn | hn
  · split at hn
    · cases hn
    · exact hw n hn
  · exact h.segment hn

lemma Plain.encode_forwardSlashes {p : Path} (h : Plain p.bytes) : encode p.forwardSlashes = p.bytes := by
  obtain ⟨s, hs, hb⟩ := h
  have hsame : ∀ c ∈ s.toList, (if c = '\\' then '/' else c) = id c := by
    intro c hc
    rw [if_neg]
    · rfl
    · rintro rfl
      exact hb hc
  have hmap := (List.map_congr_left hsame).trans (List.map_id s.toList)
  rw [forwardSlashes, display, hs, decode_encode, hmap, String.ofList_toList]

lemma exists_texts {fs : List Bytes} (h : ∀ f ∈ fs, Plain f) :
    ∃ texts : List String, fs = texts.map encode ∧ ∀ t ∈ texts, '\\' ∉ t.toList := by
  induction fs with
  | nil => exact ⟨[], rfl, by simp⟩
  | cons f fs ih =>
    obtain ⟨text, rfl, ht⟩ := h f List.mem_cons_self
    obtain ⟨texts, rfl, hts⟩ := ih fun g hg => h g (List.mem_cons_of_mem _ hg)
    exact ⟨text :: texts, rfl, List.forall_mem_cons.mpr ⟨ht, hts⟩⟩

lemma encode_intercalate (texts : List String) : encode ("/".intercalate texts) = join slash (texts.map encode) := by
  have hslash : encode "/" = [slash] := by decide
  induction texts with
  | nil => rfl
  | cons text texts ih =>
    by_cases hn : texts = []
    · simp [hn, join]
    · rw [String.intercalate_cons_of_ne_nil hn, encode_append, encode_append, hslash, ih, List.map_cons,
        join_cons_of_ne_nil slash _ (by simpa using hn)]
      simp

lemma forwardSlashes_join {texts : List String} (h : ∀ t ∈ texts, '\\' ∉ t.toList) :
    forwardSlashes ⟨join slash (texts.map encode)⟩ = "/".intercalate texts := by
  have hplain : Plain (join slash (texts.map encode)) := by
    apply Plain.join
    intro f hf
    obtain ⟨t, ht, rfl⟩ := List.mem_map.mp hf
    exact ⟨t, rfl, h t ht⟩
  apply encode_injective
  rw [Plain.encode_forwardSlashes hplain, encode_intercalate]

end Path

end BarrelModule
