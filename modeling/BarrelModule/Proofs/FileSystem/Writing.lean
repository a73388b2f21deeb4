import BarrelModule.Proofs.FileSystem.Resolution

/-! What writing a file does to a well-formed file system: one regular file changes, and every path
that led somewhere leads there still. -/

namespace BarrelModule

open Text

def Found.withFile (l : Location) (content : Bytes) : Found → Found
  | .directory place => .directory place
  | .node parent leaf =>
    if parent ++ [leaf.name] = l then .node parent (.file leaf.name content) else .node parent leaf
  | .missing parent n => if parent ++ [n] = l then .node parent (.file n content) else .missing parent n

def Found.opened? : Found → Option Location
  | .missing parent n => some (parent ++ [n])
  | .node parent (.file n _) => some (parent ++ [n])
  | _ => none

namespace FileSystem

def Opens (fs : FileSystem) (p : Path) (l : Location) : Prop :=
  ∃ parent n, l = parent ++ [n] ∧
    (fs.resolve .follow p = .ok (.missing parent n) ∨
      ∃ old, fs.resolve .follow p = .ok (.node parent (.file n old)))

lemma opens_iff {fs : FileSystem} {p : Path} {l : Location} :
    fs.Opens p l ↔ (fs.resolve .follow p).toOption.bind Found.opened? = some l := by
  rw [Opens]
  cases fs.resolve .follow p with
  | error => simp [Except.toOption]
  | ok found =>
    cases found with
    | directory => simp [Except.toOption, Found.opened?]
    | missing parent n => simp [Except.toOption, Found.opened?, eq_comm]
    | node parent node => cases node <;> simp [Except.toOption, Found.opened?, eq_comm]

instance (fs : FileSystem) (p : Path) (l : Location) : Decidable (fs.Opens p l) :=
  decidable_of_iff _ opens_iff.symm

lemma Opens.unique {fs : FileSystem} {p : Path} {l l' : Location} (h : fs.Opens p l) (h' : fs.Opens p l') :
    l = l' :=
  Option.some.inj ((opens_iff.mp h).symm.trans (opens_iff.mp h'))

lemma exists_content_iff {fs : FileSystem} (h : fs.WellFormed) {p : Path} {l : Location} (ho : fs.Opens p l) :
    (∃ content, fs.contentAt p = .ok content) ↔ fs.entryAt? l ≠ none := by
  obtain ⟨parent, n, rfl, hr | ⟨old, hr⟩⟩ := ho
  · obtain ⟨-, -, hnone⟩ := h.resolve_holds hr
    simp [contentAt, hr, hnone]
  · obtain ⟨e, -, -, he⟩ := h.resolve_holds hr
    rw [Node.name_file] at he
    simp [contentAt, hr, he]

structure Writes (fs fs' : FileSystem) (l : Location) (content : Bytes) : Prop where
  before : fs.entryAt? l = none ∨ ∃ old, fs.entryAt? l = some (.file old)
  after : fs'.entryAt? l = some (.file content)
  elsewhere : ∀ m, m ≠ l → fs'.entryAt? m = fs.entryAt? m
  workingDirectory : fs'.workingDirectory = fs.workingDirectory

lemma entryAt?_changed_put {fs : FileSystem} {parent : Location} {n : FileName}
    (hp : fs.entryAt? parent = some .directory)
    (hb : fs.entryAt? (parent ++ [n]) = none ∨ ∃ old, fs.entryAt? (parent ++ [n]) = some (.file old))
    (content : Bytes) : Writes fs (fs.changed parent (Node.put (.file n content))) (parent ++ [n]) content := by
  have hfree : fs.entryAt? (parent ++ [n]) ≠ some .directory := by
    rcases hb with hb | ⟨old, hb⟩ <;> simp [hb]
  have hfile : (Node.file n content).entry ≠ .directory := by simp [Node.entry]
  have hsets := sets_changed_put hfile hp hfree
  exact ⟨hb, hsets.after, hsets.elsewhere, hsets.workingDirectory⟩

lemma Writes.sets {fs fs' : FileSystem} {l : Location} {content : Bytes} (h : Writes fs fs' l content) :
    Sets fs fs' l (.file content) := by
  refine ⟨by simp, ?_, h.after, h.elsewhere, h.workingDirectory⟩
  rcases h.before with hb | ⟨old, hb⟩ <;> simp [hb]

section Writes

variable {fs fs' : FileSystem} {l : Location} {content : Bytes} (h : Writes fs fs' l content)
include h

lemma Writes.keeps {m : Location} {e : Entry} (he : fs.entryAt? m = some e)
    (hf : ∀ old, e ≠ .file old) : fs'.entryAt? m = some e := by
  rw [h.elsewhere, he]
  rintro rfl
  rcases h.before with hb | ⟨old, hb⟩
  · rw [hb] at he
    cases he
  · rw [hb] at he
    exact hf old (Option.some.inj he).symm

lemma Writes.keepsIn {place : Place} {n : FileName} {e : Entry} (he : fs.entryIn? place n = some e)
    (hf : ∀ old, e ≠ .file old) : fs'.entryIn? place n = some e := by
  obtain ⟨hp, he⟩ := entryIn?_eq_some_iff.mp he
  exact entryIn?_eq_some_iff.mpr ⟨hp, h.keeps he hf⟩

lemma Writes.leads {ending : Ending} {links : Nat} {slash : Bool} {segments : List Bytes} {place : Place}
    {found : Found} (hl : Leads fs ending links slash segments place found)
    (hm : ending = .create ∨ ∀ parent n, found ≠ .missing parent n) :
    Leads fs' ending links slash segments place (found.withFile l content) := by
  induction hl with
  | done => exact .done
  | current _ ih => exact .current (ih hm)
  | parent _ ih => exact .parent (ih hm)
  | enter hs hr hd _ ih => exact .enter hs hr (h.keepsIn hd (by simp)) (ih hm)
  | @file _ s place old hs he =>
    obtain ⟨hp, he⟩ := entryIn?_eq_some_iff.mp he
    rw [Found.withFile, Node.name_file]
    split
    case isTrue hl =>
      exact .file hs (entryIn?_eq_some_iff.mpr ⟨hp, hl ▸ h.after⟩)
    case isFalse hl =>
      exact .file hs (entryIn?_eq_some_iff.mpr ⟨hp, by rw [h.elsewhere _ hl, he]⟩)
  | @link _ s place target hs hk he =>
    have hn : ¬ place.location ++ [s] = l := by
      rintro rfl
      have ha := h.keeps (entryIn?_eq_some_iff.mp he).2 (by simp)
      rw [h.after] at ha
      cases ha
    rw [Found.withFile, Node.name_link, if_neg hn]
    exact .link hs hk (h.keepsIn he (by simp))
  | @missing _ slash s place hs hr hp he =>
    have hn : fs.entryAt? (place.location ++ [s]) = none := by simpa [entryIn?, hp] using he
    rw [Found.withFile]
    split
    case isTrue hl =>
      -- Only an opening that may create files has come here, and it has no slash at its end.
      have hk : ending = .create := hm.resolve_right fun hh => hh _ _ rfl
      have hslash : slash = false := by simpa [Refuses, hk] using hr
      subst hslash
      exact .file hs (entryIn?_eq_some_iff.mpr ⟨hp, hl ▸ h.after⟩)
    case isFalse hl => exact .missing hs hr hp (by rw [entryIn?, if_pos hp, h.elsewhere _ hl, hn])
  | follow hs hr hk he _ ih => exact .follow hs hr hk (h.keepsIn he (by simp)) (ih hm)

lemma Writes.resolve {ending : Ending} {p : Path} {found : Found} (hr : fs.resolve ending p = .ok found)
    (hm : ending = .create ∨ ∀ parent n, found ≠ .missing parent n) :
    fs'.resolve ending p = .ok (found.withFile l content) := by
  obtain ⟨hp, hl⟩ := resolve_eq_ok_iff.mp hr
  refine resolve_eq_ok_iff.mpr ⟨hp, ?_⟩
  rw [startOf, h.workingDirectory]
  exact h.leads hl hm

lemma Writes.denotes {p : Path} {m : Location} (hn : fs.Denotes p m) : fs'.Denotes p m := by
  obtain ⟨parent, node, rfl, hl⟩ := hn
  have hl' := h.leads (lead_eq_ok_iff.mp hl) (Or.inr (by simp))
  have hstart : fs'.startOf p = fs.startOf p := by rw [startOf, startOf, h.workingDirectory]
  rw [← hstart, ← lead_eq_ok_iff, Found.withFile] at hl'
  split at hl'
  · exact ⟨parent, .file node.name content, rfl, hl'⟩
  · exact ⟨parent, node, rfl, hl'⟩

lemma Writes.reaches {p : Path} {m : Location} (hn : fs.Reaches p m) : fs'.Reaches p m :=
  (h.denotes hn.denotes).reaches hn.usable

lemma Writes.standingAt (place : Place) :
    Writes { fs with workingDirectory := place } { fs' with workingDirectory := place } l content :=
  ⟨h.before, h.after, h.elsewhere, rfl⟩

end Writes

lemma resolve_follow_of_create {fs : FileSystem} {p : Path} {found : Found}
    (h : fs.resolve .create p = .ok found) : fs.resolve .follow p = .ok found := by
  obtain ⟨hp, hl⟩ := resolve_eq_ok_iff.mp h
  exact resolve_eq_ok_iff.mpr ⟨hp, hl.follow_of_create⟩

lemma Leads.create_file {fs : FileSystem} {links : Nat} {slash : Bool} {segments : List Bytes}
    {place : Place} {found : Found} (h : Leads fs .create links slash segments place found)
    {parent : Location} {node : Node} (hf : found = .node parent node) :
    ∃ n content, node = .file n content := by
  induction h with
  | done | missing => cases hf
  | current _ ih | parent _ ih | enter _ _ _ _ ih | follow _ _ _ _ _ ih => exact ih hf
  | file =>
    cases hf
    exact ⟨_, _, rfl⟩
  | link _ hk => cases hk

lemma changed_wellFormed {fs : FileSystem} (h : fs.WellFormed) {f : List Node → List Node} {l : Location}
    (hf : ∀ nodes, Node.nodesAt? l fs.nodes = some nodes → Node.AllWellFormed (f nodes))
    (hw : (fs.changed l f).entryAt? fs.workingDirectory.location = some .directory) :
    (fs.changed l f).WellFormed :=
  ⟨Node.changeAt_allWellFormed hf h.nodes, hw⟩

lemma writeFile_eq_ok {fs fs' : FileSystem} {p : Path} {content : Bytes}
    (h : fs.writeFile p content = .ok fs') :
    ∃ parent n, fs' = fs.changed parent (Node.put (.file n content)) ∧
      (fs.resolve .create p = .ok (.missing parent n) ∨
        ∃ old, fs.resolve .create p = .ok (.node parent (.file n old))) := by
  rw [writeFile] at h
  split at h
  case h_1 | h_2 => cases h
  case h_3 parent n hr =>
    cases h
    exact ⟨parent, n, rfl, Or.inl hr⟩
  case h_4 parent node hr =>
    obtain ⟨n, old, rfl⟩ := (resolve_eq_ok_iff.mp hr).2.create_file rfl
    cases h
    exact ⟨parent, n, rfl, Or.inr ⟨old, hr⟩⟩

lemma changed_put_put (fs : FileSystem) (l : Location) {node other : Node} (hn : other.name = node.name) :
    (fs.changed l (Node.put node)).changed l (Node.put other) = fs.changed l (Node.put other) := by
  have hput : Node.put other ∘ Node.put node = Node.put other := funext fun nodes => Node.put_put hn nodes
  simp only [changed, Node.changeAt_changeAt, hput]

lemma writeFile_of_found {fs : FileSystem} {p : Path} {parent : Location} {n : FileName}
    (h : fs.resolve .create p = .ok (.missing parent n) ∨
      ∃ old, fs.resolve .create p = .ok (.node parent (.file n old))) (content : Bytes) :
    fs.writeFile p content = .ok (fs.changed parent (Node.put (.file n content))) := by
  rcases h with h | ⟨old, h⟩
  · rw [writeFile, h]
  · rw [writeFile, h]
    rfl

lemma holds_found {fs : FileSystem} (h : fs.WellFormed) {p : Path} {parent : Location} {n : FileName}
    (hr : fs.resolve .create p = .ok (.missing parent n) ∨
      ∃ old, fs.resolve .create p = .ok (.node parent (.file n old))) :
    fs.entryAt? parent = some .directory ∧ n.Valid ∧
      (fs.entryAt? (parent ++ [n]) = none ∨ ∃ old, fs.entryAt? (parent ++ [n]) = some (.file old)) := by
  rcases hr with hr | ⟨old, hr⟩
  · obtain ⟨hp, hn, he⟩ := h.resolve_holds hr
    exact ⟨hp, hn, Or.inl he⟩
  · obtain ⟨e, _, hnode, he⟩ := h.resolve_holds hr
    have hfile : e = .file old := by cases e <;> cases hnode; rfl
    subst hfile
    exact ⟨entryAt?_above (by simp) he, h.name_valid he, Or.inr ⟨old, he⟩⟩

lemma writeFile_found {fs fs' : FileSystem} (h : fs.WellFormed) {p : Path} {content : Bytes}
    (hw : fs.writeFile p content = .ok fs') :
    ∃ parent n, fs' = fs.changed parent (Node.put (.file n content)) ∧
      (fs.resolve .create p = .ok (.missing parent n) ∨
        ∃ old, fs.resolve .create p = .ok (.node parent (.file n old))) ∧
      Writes fs fs' (parent ++ [n]) content ∧ fs'.resolve .create p = .ok (.node parent (.file n content)) := by
  obtain ⟨parent, n, rfl, hr⟩ := writeFile_eq_ok hw
  obtain ⟨hp, -, hb⟩ := holds_found h hr
  have hwrites := entryAt?_changed_put hp hb content
  refine ⟨parent, n, rfl, hr, hwrites, ?_⟩
  rcases hr with hr | ⟨old, hr⟩
  · simpa [Found.withFile] using hwrites.resolve hr (Or.inl rfl)
  · simpa [Found.withFile] using hwrites.resolve hr (Or.inl rfl)

theorem writeFile_ok {fs fs' : FileSystem} (h : fs.WellFormed) {p : Path} {content : Bytes}
    (hw : fs.writeFile p content = .ok fs') :
    ∃ l, fs.Opens p l ∧ Writes fs fs' l content ∧ fs'.contentAt p = .ok content ∧ fs'.WellFormed := by
  obtain ⟨parent, n, rfl, hr, hwrites, hread⟩ := writeFile_found h hw
  have hopens : fs.Opens p (parent ++ [n]) :=
    ⟨parent, n, rfl, hr.imp resolve_follow_of_create
      fun ⟨old, hr⟩ => ⟨old, resolve_follow_of_create hr⟩⟩
  refine ⟨parent ++ [n], hopens, hwrites, ?_, ?_⟩
  · rw [contentAt, resolve_follow_of_create hread]
  · refine changed_wellFormed h (fun nodes hnodes => ?_) (hwrites.keeps h.workingDirectory (by simp))
    exact Node.put_allWellFormed (holds_found h hr).2.1 (h.nodes.nodesAt? hnodes)

lemma opens_of_write {fs fs' : FileSystem} (h : fs.WellFormed) {p : Path} {content : Bytes}
    (hw : fs.writeFile p content = .ok fs') {l : Location} (ho : fs.Opens p l) : fs'.Opens p l := by
  obtain ⟨parent, n, -, hr, -, hread⟩ := writeFile_found h hw
  have hopens : fs.Opens p (parent ++ [n]) :=
    ⟨parent, n, rfl, hr.imp resolve_follow_of_create fun ⟨old, hr⟩ => ⟨old, resolve_follow_of_create hr⟩⟩
  obtain rfl := ho.unique hopens
  exact ⟨parent, n, rfl, Or.inr ⟨content, resolve_follow_of_create hread⟩⟩

theorem writeFile_writeFile {fs fs' : FileSystem} (h : fs.WellFormed) {p : Path} {content : Bytes}
    (hw : fs.writeFile p content = .ok fs') (content' : Bytes) :
    fs'.writeFile p content' = fs.writeFile p content' := by
  obtain ⟨parent, n, rfl, hr, -, hr'⟩ := writeFile_found h hw
  have hn : (Node.file n content').name = (Node.file n content).name := rfl
  rw [writeFile_of_found (Or.inr ⟨content, hr'⟩), writeFile_of_found hr, changed_put_put fs parent hn]

end FileSystem

end BarrelModule
