import BarrelModule.Proofs.FileSystem.Operations

namespace BarrelModule.FileSystem

open Text

structure Adds (fs fs' : FileSystem) (l : Location) (e : Entry) : Prop where
  free : fs.entryAt? l = none
  leaf : e ≠ .directory
  after : fs'.entryAt? l = some e
  elsewhere : ∀ m, m ≠ l → fs'.entryAt? m = fs.entryAt? m
  workingDirectory : fs'.workingDirectory = fs.workingDirectory

lemma Sets.adds {fs fs' : FileSystem} {l : Location} {e : Entry} (h : Sets fs fs' l e)
    (hn : fs.entryAt? l = none) : Adds fs fs' l e :=
  ⟨hn, h.leaf, h.after, h.elsewhere, h.workingDirectory⟩

lemma Leads.of_kept {fs fs' : FileSystem} (hk : ∀ l e, fs.entryAt? l = some e → fs'.entryAt? l = some e)
    {ending : Ending} {links : Nat} {slash : Bool} {segments : List Bytes} {place : Place} {found : Found}
    (h : Leads fs ending links slash segments place found) (hm : ∀ parent n, found ≠ .missing parent n) :
    Leads fs' ending links slash segments place found := by
  have hin : ∀ {place n e}, fs.entryIn? place n = some e → fs'.entryIn? place n = some e := by
    intro place n e he
    obtain ⟨hp, he⟩ := entryIn?_eq_some_iff.mp he
    exact entryIn?_eq_some_iff.mpr ⟨hp, hk _ _ he⟩
  induction h with
  | done => exact .done
  | current _ ih => exact .current (ih hm)
  | parent _ ih => exact .parent (ih hm)
  | enter hs hr hd _ ih => exact .enter hs hr (hin hd) (ih hm)
  | file hs hf => exact .file hs (hin hf)
  | link hs hl he => exact .link hs hl (hin he)
  | missing => exact absurd rfl (hm _ _)
  | follow hs hr hl he _ ih => exact .follow hs hr hl (hin he) (ih hm)

section Adds

variable {fs fs' : FileSystem} {l : Location} {e : Entry} (h : Adds fs fs' l e)
include h

lemma Adds.sets : Sets fs fs' l e :=
  ⟨h.leaf, by simp [h.free], h.after, h.elsewhere, h.workingDirectory⟩

lemma Adds.keeps {m : Location} {old : Entry} (ho : fs.entryAt? m = some old) : fs'.entryAt? m = some old := by
  rw [h.elsewhere, ho]
  rintro rfl
  rw [h.free] at ho
  cases ho

lemma Adds.resolve {ending : Ending} {p : Path} {found : Found} (hr : fs.resolve ending p = .ok found)
    (hm : ∀ parent n, found ≠ .missing parent n) : fs'.resolve ending p = .ok found := by
  obtain ⟨hp, hl⟩ := resolve_eq_ok_iff.mp hr
  refine resolve_eq_ok_iff.mpr ⟨hp, ?_⟩
  rw [startOf, h.workingDirectory]
  exact hl.of_kept (fun _ _ => h.keeps) hm

lemma Adds.workingLocation : fs'.workingLocation = fs.workingLocation := by
  rw [FileSystem.workingLocation, FileSystem.workingLocation, h.workingDirectory]

end Adds

theorem makeLink_adds {fs fs' : FileSystem} (h : fs.WellFormed) {p target : Path}
    (ho : fs.makeLink p target = .ok fs') : ∃ l, Adds fs fs' l (.link target) := by
  obtain ⟨l, n, -, hlocated, rfl⟩ := makeLink_ok h ho
  have hfree : fs.entryAt? (l ++ [n]) = none := hlocated.entryAt?
  have hlink : (Node.link n target).entry ≠ .directory := by simp [Node.entry]
  exact ⟨l ++ [n], (sets_changed_put hlink hlocated.above (by simp [hfree])).adds hfree⟩

theorem writeFile_adds {fs fs' : FileSystem} (h : fs.WellFormed) {p : Path} {content : Bytes}
    (hw : fs.writeFile p content = .ok fs') (hn : ¬ ∃ old, fs.contentAt p = .ok old) :
    ∃ l, fs.Opens p l ∧ Adds fs fs' l (.file content) := by
  obtain ⟨l, hopens, hwrites, -, -⟩ := writeFile_ok h hw
  have hfree : fs.entryAt? l = none := by
    by_contra hentry
    exact hn ((exists_content_iff h hopens).mpr hentry)
  exact ⟨l, hopens, hwrites.sets.adds hfree⟩

end BarrelModule.FileSystem
