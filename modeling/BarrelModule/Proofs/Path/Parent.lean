import BarrelModule.Path
import BarrelModule.Proofs.Path.Segments
import Mathlib.Data.List.DropRight

namespace BarrelModule

open Text

namespace Path

def leading (fs : List Bytes) : List Bytes := fs.filter fun f => ¬ (f = [] ∨ f = dot)

lemma leading_cons_of_empty {f : Bytes} (h : f = [] ∨ f = dot) (fs : List Bytes) :
    leading (f :: fs) = leading fs :=
  List.filter_cons_of_neg (by simp [h])

lemma leading_append (fs gs : List Bytes) : leading (fs ++ gs) = leading fs ++ leading gs :=
  List.filter_append fs gs

lemma leading_singleton {f : Bytes} (h : ¬ (f = [] ∨ f = dot)) : leading [f] = [f] := by
  simpa [leading] using h

lemma leading_fields (p : Path) : leading (fields (· == slash) p.bytes) = p.segments.filter (· ≠ dot) := by
  rw [segments, List.filter_filter, leading]
  congr 1
  funext f
  simp [and_comm]

lemma trimEnd_eq (fs : List Bytes) : trimEnd fs = fs.rdropWhile fun f => f = [] || f = dot := rfl

lemma leading_trimEnd (fs : List Bytes) : leading (trimEnd fs) = leading fs := by
  rw [trimEnd_eq]
  induction fs using List.reverseRecOn with
  | nil => rfl
  | append_singleton fs f ih =>
    by_cases hf : f = [] ∨ f = dot
    · rw [List.rdropWhile_concat_pos _ _ _ (by simpa using hf), ih, leading_append,
        leading_cons_of_empty hf, leading, leading, List.filter_nil, List.append_nil]
    · rw [List.rdropWhile_concat_neg _ _ _ (by simpa using hf)]

lemma trimEnd_isPrefix (fs : List Bytes) : trimEnd fs <+: fs := List.rdropWhile_prefix _ _

lemma trimEnd_of_leading {fs : List Bytes} {init : List Bytes} {last : Bytes}
    (h : leading fs = init ++ [last]) :
    ∃ before, trimEnd fs = before ++ [last] ∧ leading before = init := by
  have hn : trimEnd fs ≠ [] := by
    intro hn
    rw [← leading_trimEnd, hn] at h
    simp [leading] at h
  obtain ⟨before, f, hb⟩ : ∃ before f, trimEnd fs = before ++ [f] :=
    ⟨_, _, (List.dropLast_append_getLast hn).symm⟩
  have hf : ¬ (f = [] ∨ f = dot) := by
    have hlast := List.rdropWhile_last_not (fun f => f = [] || f = dot) fs hn
    simpa [← trimEnd_eq, hb] using hlast
  rw [← leading_trimEnd, hb, leading_append, leading_singleton hf] at h
  obtain ⟨rfl, hl⟩ := List.append_inj' h rfl
  obtain rfl : f = last := by simpa using hl
  exact ⟨before, hb, rfl⟩

lemma fields_eq_singleton_or_cons {bs f : Bytes} {fs : List Bytes} (h : fields (· == slash) bs = f :: fs) :
    (fs = [] ∧ bs = f) ∨ ∃ rest, fields (· == slash) rest = fs ∧ bs = f ++ slash :: rest := by
  have hb := join_fields slash bs
  rw [h] at hb
  by_cases hn : fs = []
  · exact Or.inl ⟨hn, by simpa [hn, join] using hb.symm⟩
  · refine Or.inr ⟨join slash fs, fields_join hn ?_, ?_⟩
    · intro g hg hm
      have hg : g ∈ fields (· == slash) bs := h ▸ List.mem_cons_of_mem _ hg
      simpa using (mem_of_mem_fields hg hm).2
    · rw [← hb, join_cons_of_ne_nil slash f hn]

lemma leading_fields_join {fs : List Bytes} (h : ∀ f ∈ fs, slash ∉ f) :
    leading (fields (· == slash) (join slash fs)) = leading fs := by
  by_cases hn : fs = []
  · simp [hn, join, fields, leading]
  · rw [fields_join hn h]

lemma opening_cases {p : Path} (hp : p.bytes ≠ []) :
    (p.isAbsolute = true ∧ p.opening = [slash] ∧ ∃ rest, p.bytes = slash :: rest) ∨
      (p.isAbsolute = false ∧ p.opening = dot ∧ (p.bytes = dot ∨ ∃ rest, p.bytes = dot ++ slash :: rest)) ∨
      (p.isAbsolute = false ∧ p.opening = [] ∧
        ∃ b f fs, b ≠ slash ∧ fields (· == slash) p.bytes = (b :: f) :: fs) := by
  obtain ⟨b, bs, hb⟩ := List.exists_cons_of_ne_nil hp
  by_cases hs : b = slash
  · have ha : p.isAbsolute = true := by simp [isAbsolute, hb, hs]
    exact Or.inl ⟨ha, by rw [opening, if_pos ha], bs, by rw [hb, hs]⟩
  · have ha : p.isAbsolute = false := by simpa [isAbsolute, hb] using hs
    obtain ⟨f, fs, hf⟩ := fields_eq_cons (· == slash) bs
    have hfields : fields (· == slash) p.bytes = (b :: f) :: fs := by
      rw [hb, fields_cons_of_not (by simpa using hs) hf]
    rw [opening, ha, hfields]
    by_cases hd : b :: f = dot
    · refine Or.inr (Or.inl ⟨rfl, by simp [hd], ?_⟩)
      rcases fields_eq_singleton_or_cons hfields with ⟨_, he⟩ | ⟨rest, _, he⟩
      · exact Or.inl (by rw [he, hd])
      · exact Or.inr ⟨rest, by rw [he, hd]⟩
    · exact Or.inr (Or.inr ⟨rfl, by simp [hd], b, f, fs, hs, rfl⟩)

lemma leading_after_opening {p : Path} (hp : p.bytes ≠ []) :
    leading (fields (· == slash) (p.bytes.drop p.opening.length)) = p.segments.filter (· ≠ dot) := by
  rw [← leading_fields]
  rcases opening_cases hp with ⟨_, ho, rest, hb⟩ | ⟨_, ho, hb⟩ | ⟨_, ho, _⟩
  · rw [ho, hb, fields_cons_of_separates (by simp), leading_cons_of_empty (Or.inl rfl)]
    rfl
  · rcases hb with hb | ⟨rest, hb⟩
    · rw [ho, hb]
      decide
    · rw [ho, hb, List.drop_left, fields_append_cons dot (by simp), fields_cons_of_separates (by simp),
        leading_append, leading_cons_of_empty (Or.inl rfl)]
      rfl
  · rw [ho]
    rfl

lemma opening_append_join {p : Path} (hp : p.bytes ≠ []) {kept : List Bytes}
    (hk : kept <+: fields (· == slash) (p.bytes.drop p.opening.length)) :
    isAbsolute ⟨p.opening ++ join slash kept⟩ = p.isAbsolute ∧
      leading (fields (· == slash) (p.opening ++ join slash kept)) = leading kept := by
  have hslash : ∀ f ∈ kept, slash ∉ f := by
    intro f hf hm
    simpa using (mem_of_mem_fields (hk.subset hf) hm).2
  rcases opening_cases hp with ⟨ha, ho, rest, hb⟩ | ⟨ha, ho, hb⟩ | ⟨ha, ho, b, f, fs, hne, hf⟩
  · rw [ho, ha, List.singleton_append, fields_cons_of_separates (by simp),
      leading_cons_of_empty (Or.inl rfl), leading_fields_join hslash]
    exact ⟨by simp [isAbsolute], rfl⟩
  · have hkept : kept = [] ∨ ∃ fs, kept = [] :: fs := by
      have hfirst : ∃ fs, fields (· == slash) (p.bytes.drop p.opening.length) = [] :: fs := by
        rcases hb with hb | ⟨rest, hb⟩
        · exact ⟨[], by rw [ho, hb]; rfl⟩
        · exact ⟨_, by rw [ho, hb, List.drop_left, fields_cons_of_separates (by simp)]⟩
      obtain ⟨fs, hfs⟩ := hfirst
      rw [hfs] at hk
      cases kept with
      | nil => exact Or.inl rfl
      | cons g gs => exact Or.inr ⟨gs, by rw [(List.cons_prefix_cons.mp hk).1]⟩
    refine ⟨by rw [ho, ha]; rfl, ?_⟩
    rw [ho]
    rcases hkept with rfl | ⟨fs, rfl⟩
    · decide
    · rw [leading_cons_of_empty (Or.inl rfl)]
      by_cases hn : fs = []
      · subst hn
        decide
      · rw [join_cons_of_ne_nil slash [] hn, List.nil_append, fields_append_cons dot (by simp),
          leading_append, leading_fields_join fun f hf => hslash f (List.mem_cons_of_mem _ hf)]
        rfl
  · rw [ho, List.nil_append, leading_fields_join hslash, ha]
    refine ⟨?_, rfl⟩
    rw [ho, List.length_nil, List.drop_zero, hf] at hk
    cases kept with
    | nil => rfl
    | cons g gs =>
      rw [(List.cons_prefix_cons.mp hk).1]
      cases gs <;> simpa [isAbsolute, join] using hne

lemma nul_notMem_opening_append_join {p : Path} (hp : p.Usable) {kept : List Bytes}
    (hk : kept <+: fields (· == slash) (p.bytes.drop p.opening.length)) :
    (0 : UInt8) ∉ p.opening ++ join slash kept := by
  intro hm
  rcases List.mem_append.mp hm with hm | hm
  · rcases opening_cases hp.ne_nil with ⟨_, ho, _⟩ | ⟨_, ho, _⟩ | ⟨_, ho, _⟩ <;> rw [ho] at hm <;>
      exact absurd hm (by decide)
  · rcases mem_join hm with hm | ⟨f, hf, hm⟩
    · exact absurd hm (by decide)
    · exact hp.nul_notMem (List.mem_of_mem_drop (mem_of_mem_fields (hk.subset hf) hm).1)

lemma opening_isPrefix (p : Path) : p.opening <+: p.bytes := by
  by_cases hp : p.bytes = []
  · simp [opening, isAbsolute, hp, fields, dot]
  rcases opening_cases hp with ⟨_, ho, rest, hb⟩ | ⟨_, ho, hb | ⟨rest, hb⟩⟩ | ⟨_, ho, _⟩ <;> rw [ho]
  · exact ⟨rest, hb.symm⟩
  · exact ⟨[], by rw [hb, List.append_nil]⟩
  · exact ⟨slash :: rest, hb.symm⟩
  · exact List.nil_prefix

lemma length_opening_append_join_le {p : Path} {kept : List Bytes}
    (hk : kept <+: fields (· == slash) (p.bytes.drop p.opening.length)) :
    (p.opening ++ join slash kept).length ≤ p.bytes.length := by
  have hopening := p.opening_isPrefix.length_le
  have hjoin : join slash kept <+: p.bytes.drop p.opening.length := by
    rw [← join_fields slash (p.bytes.drop p.opening.length)]
    exact join_isPrefix hk
  have hlength := hjoin.length_le
  rw [List.length_drop] at hlength
  rw [List.length_append]
  omega

lemma ne_nil_of_segments {p : Path} (h : p.segments ≠ []) : p.bytes ≠ [] := by
  intro hb
  rw [segments, hb] at h
  exact h rfl

lemma parent?_eq {p : Path} {init : List Bytes} {last : Bytes}
    (hs : p.segments.filter (· ≠ dot) = init ++ [last]) :
    ∃ q : Path, p.parent? = some q ∧ (p.Usable → (0 : UInt8) ∉ q.bytes) ∧ q.bytes.length ≤ p.bytes.length ∧
      q.isAbsolute = p.isAbsolute ∧ q.segments.filter (· ≠ dot) = init := by
  have hp : p.bytes ≠ [] := ne_nil_of_segments fun hn => by simp [hn] at hs
  have hlead : leading (fields (· == slash) (p.bytes.drop p.opening.length)) = init ++ [last] := by
    rw [leading_after_opening hp, hs]
  obtain ⟨before, hbody, hbefore⟩ := trimEnd_of_leading hlead
  have hkept : trimEnd before <+: fields (· == slash) (p.bytes.drop p.opening.length) :=
    (trimEnd_isPrefix before).trans ((hbody ▸ List.prefix_append before [last]).trans (trimEnd_isPrefix _))
  obtain ⟨habsolute, hleading⟩ := opening_append_join hp hkept
  refine ⟨⟨p.opening ++ join slash (trimEnd before)⟩, ?_,
    fun husable => nul_notMem_opening_append_join husable hkept, length_opening_append_join_le hkept, habsolute,
    ?_⟩
  · obtain ⟨f, fs, hf⟩ := List.exists_cons_of_ne_nil (show before ++ [last] ≠ [] by simp)
    have hlast : (f :: fs).dropLast = before := by rw [← hf, List.dropLast_concat]
    rw [parent?, hbody, hf]
    simp only [hlast]
  · rw [← leading_fields, hleading, leading_trimEnd, hbefore]

lemma parent?_of_dots {p : Path} (hs : p.segments.filter (· ≠ dot) = []) :
    p.parent? = none ∨ p.parent? = some ⟨[]⟩ := by
  have hbody : trimEnd (fields (· == slash) (p.bytes.drop p.opening.length)) = [] := by
    by_cases hp : p.bytes = []
    · rw [hp, List.drop_nil]
      rfl
    · rw [trimEnd_eq, List.rdropWhile_eq_nil_iff]
      have hlead := (leading_after_opening hp).trans hs
      simpa [leading, or_iff_not_imp_left] using hlead
  rw [parent?, hbody]
  simp only
  split
  · exact Or.inr rfl
  · exact Or.inl rfl

end Path

end BarrelModule
