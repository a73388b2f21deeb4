import BarrelModule.Proofs.Discovery.Walk
import BarrelModule.Proofs.FileSystem.Walking

/-! A search ends at the first directory that it cannot list, and in a well-formed file system that is one
with too long a path. -/

namespace BarrelModule

open Text

namespace FileSystem

lemma WellFormed.nodesIn {fs : FileSystem} (h : fs.WellFormed) (place : Place) :
    Node.AllWellFormed (fs.nodesIn place) := by
  rw [FileSystem.nodesIn]
  split
  · cases hn : Node.nodesAt? place.location fs.nodes with
    | none => trivial
    | some nodes => exact h.nodes.nodesAt? hn
  · trivial

lemma entryAt?_nodesIn {fs : FileSystem} {place : Place} {l : Location} (hl : l ≠ []) {e : Entry} :
    Node.entryAt? l (fs.nodesIn place) = some e ↔
      place.removed = 0 ∧ fs.entryAt? (place.location ++ l) = some e := by
  have hnil : Node.entryAt? l [] = none := by
    cases l with
    | nil => exact absurd rfl hl
    | cons => rfl
  rw [nodesIn, entryAt?, Node.entryAt?_append _ hl]
  split
  case isFalse hp => simp [hnil, hp]
  case isTrue hp => cases Node.nodesAt? place.location fs.nodes <;> simp [hnil, hp]

lemma listingFault?_below {fs : FileSystem} (h : fs.WellFormed) {p : Path} {l names : Location}
    (hd : fs.resolve .stay p = .ok (.directory ⟨l, 0⟩)) (he : fs.entryAt? (l ++ names) = some .directory) :
    fs.listingFault? (p.childOf names) = if (p.childOf names).Fits then none else some .nameTooLong := by
  split
  case isTrue hf =>
    obtain ⟨hr, -⟩ := resolve_stay_directory_iff.mp (resolve_below h hd he hf)
    rw [listingFault?, directoryNodes, hr]
  case isFalse hf =>
    have hs : ∀ n ∈ names, Segment n :=
      fun n hn => (h.location_valid he n (List.mem_append_right l hn)).toSegment
    have hp : (p.childOf names).Usable := (resolve_eq_ok_iff.mp hd).1.toUsable.childOf hs
    rw [listingFault?, directoryNodes, resolve_of_not_fits hp hf]

end FileSystem

namespace Discovery

def chosen (scan : Scan) (found : List Visit) : List Location :=
  (found.filter fun v => !v.isDirectory && taken scan.filter v.location).map Visit.location

def locations (scan : Scan) (nodes : List Node) : List Location :=
  chosen scan (inOrder (visitsOf scan.recursive nodes))

section Gather

variable {fs fs' : FileSystem} {scan : Scan}

lemma gather_of_listed {found : List Visit}
    (h : ∀ v ∈ found, v.isDirectory = true → fs.listingFault? (scan.directory.childOf v.location) = none) :
    gather fs scan found = ⟨(chosen scan found).map scan.directory.childOf, none⟩ := by
  induction found with
  | nil => rfl
  | cons v found ih =>
    have hrest := ih fun w hw => h w (List.mem_cons_of_mem v hw)
    obtain ⟨l, d⟩ := v
    cases d with
    | true => simp [gather, h ⟨l, true⟩ List.mem_cons_self rfl, hrest, chosen]
    | false => by_cases ht : taken scan.filter l <;> simp [gather, hrest, chosen, ht]

lemma listed_of_gather {found : List Visit} (h : (gather fs scan found).refusal? = none) :
    ∀ v ∈ found, v.isDirectory = true → fs.listingFault? (scan.directory.childOf v.location) = none := by
  induction found with
  | nil => simp
  | cons v found ih =>
    obtain ⟨l, d⟩ := v
    rw [List.forall_mem_cons]
    cases d with
    | true =>
      cases hl : fs.listingFault? (scan.directory.childOf l) with
      | some fault => simp [gather, hl] at h
      | none => exact ⟨fun _ => rfl, ih (by simpa [gather, hl] using h)⟩
    | false =>
      refine ⟨by simp, ih ?_⟩
      rw [gather] at h
      split at h <;> exact h

structure StoppedBy (fs : FileSystem) (scan : Scan) (found : List Visit) (refusal : Refusal)
    (before : List Visit) (l : Location) (after : List Visit) (fault : Fault) : Prop where
  split : found = before ++ ⟨l, true⟩ :: after
  listed : ∀ v ∈ before, v.isDirectory = true → fs.listingFault? (scan.directory.childOf v.location) = none
  fails : fs.listingFault? (scan.directory.childOf l) = some fault
  refused : refusal = ⟨scan.directory.childOf l, .refused fault⟩

lemma StoppedBy.cons {v : Visit} {found before after : List Visit} {refusal : Refusal} {l : Location} {fault : Fault}
    (hv : v.isDirectory = true → fs.listingFault? (scan.directory.childOf v.location) = none)
    (h : StoppedBy fs scan found refusal before l after fault) :
    StoppedBy fs scan (v :: found) refusal (v :: before) l after fault where
  split := by rw [h.split, List.cons_append]
  listed := List.forall_mem_cons.mpr ⟨hv, h.listed⟩
  fails := h.fails
  refused := h.refused

lemma gather_refused {found : List Visit} {refusal : Refusal} (h : (gather fs scan found).refusal? = some refusal) :
    ∃ before l after fault, StoppedBy fs scan found refusal before l after fault := by
  induction found with
  | nil => cases h
  | cons v found ih =>
    obtain ⟨m, d⟩ := v
    cases d with
    | true =>
      rw [gather] at h
      cases hm : fs.listingFault? (scan.directory.childOf m) with
      | none =>
        rw [hm] at h
        obtain ⟨before, l, after, fault, hs⟩ := ih h
        exact ⟨_, l, after, fault, hs.cons fun _ => hm⟩
      | some fault =>
        rw [hm] at h
        exact ⟨[], m, found, fault, rfl, by simp, hm, (Option.some.inj h).symm⟩
    | false =>
      have hrest : (gather fs scan found).refusal? = some refusal := by
        rw [gather] at h
        split at h <;> exact h
      obtain ⟨before, l, after, fault, hs⟩ := ih hrest
      exact ⟨_, l, after, fault, hs.cons (by simp)⟩

lemma gather_congr {found : List Visit}
    (h : ∀ v ∈ found, v.isDirectory = true →
      fs'.listingFault? (scan.directory.childOf v.location) = fs.listingFault? (scan.directory.childOf v.location)) :
    gather fs' scan found = gather fs scan found := by
  induction found with
  | nil => rfl
  | cons v found ih =>
    obtain ⟨l, d⟩ := v
    rw [List.forall_mem_cons] at h
    cases d with
    | true => rw [gather, gather, h.1 rfl, ih h.2]
    | false => rw [gather, gather, ih h.2]

end Gather

structure Entered (fs : FileSystem) (scan : Scan) (place : Place) (l : Location) : Prop where
  stands : place.removed = 0
  directory : fs.entryAt? (place.location ++ l) = some .directory
  depth : scan.recursive = true ∨ l = []

/-- No directory that a scan goes into has too long a path. -/
def Listable (fs : FileSystem) (scan : Scan) (place : Place) : Prop :=
  ∀ l, Entered fs scan place l → (scan.directory.childOf l).Fits

/-- The first of the directories with too long a path, in the order of their names. -/
structure FirstTooLong (fs : FileSystem) (scan : Scan) (place : Place) (l : Location) : Prop where
  entered : Entered fs scan place l
  tooLong : ¬ (scan.directory.childOf l).Fits
  first : ∀ m, Entered fs scan place m → ¬ (scan.directory.childOf m).Fits → l ≤ m

lemma FirstTooLong.unique {fs : FileSystem} {scan : Scan} {place : Place} {l l' : Location}
    (h : FirstTooLong fs scan place l) (h' : FirstTooLong fs scan place l') : l = l' :=
  List.le_antisymm (h.first l' h'.entered h'.tooLong) (h'.first l h.entered h.tooLong)

lemma rootNodes_eq_ok_iff {fs : FileSystem} {directory : Path} {nodes : List Node} :
    rootNodes fs directory = .ok nodes ↔
      ∃ place, fs.resolve .stay directory = .ok (.directory place) ∧ fs.nodesIn place = nodes := by
  rw [rootNodes, FileSystem.directoryNodes]
  cases fs.resolve .stay directory with
  | error fault => simp
  | ok found =>
    cases found with
    | directory place => simp
    | missing parent n => simp
    | node parent leaf => cases fs.directoryNodes .follow directory <;> simp

lemma search_of_directory {fs : FileSystem} {scan : Scan} {place : Place}
    (hd : fs.resolve .stay scan.directory = .ok (.directory place)) :
    search fs scan = gather fs scan (inOrder (visitsOf scan.recursive (fs.nodesIn place))) := by
  rw [search, rootNodes_eq_ok_iff.mpr ⟨place, hd, rfl⟩]

lemma search_of_no_directory {fs : FileSystem} {scan : Scan}
    (hd : ∀ place, fs.resolve .stay scan.directory ≠ .ok (.directory place)) :
    ∃ fault, search fs scan = ⟨[], some ⟨scan.directory, fault⟩⟩ := by
  rw [search]
  cases hr : rootNodes fs scan.directory with
  | error fault => exact ⟨fault, rfl⟩
  | ok nodes =>
    obtain ⟨place, hplace, -⟩ := rootNodes_eq_ok_iff.mp hr
    exact absurd hplace (hd place)

lemma exists_directory_of_search {fs : FileSystem} {scan : Scan} (h : (search fs scan).refusal? = none) :
    ∃ place, fs.resolve .stay scan.directory = .ok (.directory place) := by
  by_contra hd
  obtain ⟨fault, hs⟩ := search_of_no_directory (not_exists.mp hd)
  rw [hs] at h
  cases h

lemma find_eq_ok_iff {fs : FileSystem} {scan : Scan} {files : List Path} :
    find fs scan = .ok files ↔ search fs scan = ⟨files, none⟩ := by
  rw [find]
  constructor
  · intro h
    split at h
    case h_1 => cases h
    case h_2 hn =>
      obtain rfl := Except.ok.inj h
      rw [← hn]
  · intro h
    rw [h]

lemma find_eq_error_iff {fs : FileSystem} {scan : Scan} {refusal : Refusal} :
    find fs scan = .error refusal ↔ (search fs scan).refusal? = some refusal := by
  rw [find]
  cases (search fs scan).refusal? <;> simp

lemma directory_of_find {fs : FileSystem} {scan : Scan} {files : List Path}
    (h : find fs scan = .ok files) :
    ∃ place, fs.resolve .stay scan.directory = .ok (.directory place) ∧
      files = (locations scan (fs.nodesIn place)).map scan.directory.childOf := by
  rw [find_eq_ok_iff] at h
  obtain ⟨place, hd⟩ := exists_directory_of_search (by rw [h])
  refine ⟨place, hd, ?_⟩
  rw [search_of_directory hd] at h
  rw [gather_of_listed (listed_of_gather (by rw [h]))] at h
  exact (congrArg Search.files h).symm

section WellFormed

variable {fs : FileSystem} (h : fs.WellFormed) {scan : Scan} {place : Place}
include h

lemma mem_directories {l : Location} :
    ⟨l, true⟩ ∈ inOrder (visitsOf scan.recursive (fs.nodesIn place)) ↔ l ≠ [] ∧ Entered fs scan place l := by
  rw [mem_walk (h.nodesIn place)]
  constructor
  · rintro ⟨hn, hd, e, he, hk⟩
    obtain rfl : e = .directory := hk.mp rfl
    obtain ⟨hp, he⟩ := (FileSystem.entryAt?_nodesIn hn).mp he
    exact ⟨hn, hp, he, Or.inl (by simpa using hd)⟩
  · rintro ⟨hn, hp, he, hd⟩
    exact ⟨hn, Or.inl (hd.resolve_right hn), .directory, (FileSystem.entryAt?_nodesIn hn).mpr ⟨hp, he⟩, by simp⟩

variable (hd : fs.resolve .stay scan.directory = .ok (.directory place))
include hd

lemma listingFault?_entered {l : Location} (hl : Entered fs scan place l) :
    fs.listingFault? (scan.directory.childOf l) =
      if (scan.directory.childOf l).Fits then none else some .nameTooLong := by
  obtain ⟨location, removed⟩ := place
  obtain rfl : removed = 0 := hl.stands
  exact FileSystem.listingFault?_below h hd hl.directory

lemma listingFault?_visit {v : Visit} (hv : v ∈ inOrder (visitsOf scan.recursive (fs.nodesIn place)))
    (hk : v.isDirectory = true) :
    fs.listingFault? (scan.directory.childOf v.location) =
      if (scan.directory.childOf v.location).Fits then none else some .nameTooLong := by
  obtain ⟨l, d⟩ := v
  obtain rfl : d = true := hk
  exact listingFault?_entered h hd ((mem_directories h).mp hv).2

omit h in
lemma ne_nil_of_tooLong {l : Location} (hl : ¬ (scan.directory.childOf l).Fits) : l ≠ [] := by
  rintro rfl
  exact hl (FileSystem.resolve_eq_ok_iff.mp hd).1.fits

lemma listable_iff : Listable fs scan place ↔ ∃ files, find fs scan = .ok files := by
  constructor
  · intro hl
    refine ⟨_, find_eq_ok_iff.mpr ((search_of_directory hd).trans (gather_of_listed ?_))⟩
    rintro ⟨l, d⟩ hv rfl
    rw [listingFault?_visit h hd hv rfl, if_pos (hl l ((mem_directories h).mp hv).2)]
  · rintro ⟨files, hf⟩ l hl
    by_contra hlong
    rw [find_eq_ok_iff, search_of_directory hd] at hf
    have hfault := listed_of_gather (by rw [hf]) ⟨l, true⟩
      ((mem_directories h).mpr ⟨ne_nil_of_tooLong hd hlong, hl⟩) rfl
    rw [listingFault?_entered h hd hl, if_neg hlong] at hfault
    cases hfault

lemma find_of_listable (hl : Listable fs scan place) :
    find fs scan = .ok ((locations scan (fs.nodesIn place)).map scan.directory.childOf) := by
  obtain ⟨files, hf⟩ := (listable_iff h hd).mp hl
  obtain ⟨place', hd', rfl⟩ := directory_of_find hf
  rw [hd] at hd'
  cases hd'
  exact hf

lemma search_of_listable (hl : Listable fs scan place) :
    search fs scan = ⟨(locations scan (fs.nodesIn place)).map scan.directory.childOf, none⟩ :=
  find_eq_ok_iff.mp (find_of_listable h hd hl)

lemma firstTooLong_of_find {refusal : Refusal} (he : find fs scan = .error refusal) :
    ∃ l, FirstTooLong fs scan place l ∧ refusal = ⟨scan.directory.childOf l, .refused .nameTooLong⟩ := by
  rw [find_eq_error_iff, search_of_directory hd] at he
  obtain ⟨before, l, after, fault, hsplit, hlisted, hfault, rfl⟩ := gather_refused he
  have hsorted := walk_sorted scan.recursive (h.nodesIn place)
  have hl := ((mem_directories h).mp (hsplit ▸ List.mem_append_right before List.mem_cons_self)).2
  rw [listingFault?_entered h hd hl] at hfault
  split at hfault
  case isTrue => cases hfault
  case isFalse hlong =>
    cases hfault
    refine ⟨l, ⟨hl, hlong, fun m hm htoo => ?_⟩, rfl⟩
    have hin := (mem_directories h).mpr ⟨ne_nil_of_tooLong hd htoo, hm⟩
    rw [hsplit] at hin hsorted
    rcases List.mem_append.mp hin with hv | hv
    · have hnone := hlisted _ hv rfl
      rw [listingFault?_entered h hd hm, if_neg htoo] at hnone
      cases hnone
    · rcases List.mem_cons.mp hv with hv | hv
      · cases hv
        exact List.le_refl _
      · have hlt : l < m := (List.pairwise_cons.mp (List.pairwise_append.mp hsorted).2.1).1 _ hv
        exact List.le_of_lt hlt

lemma exists_firstTooLong (hl : ¬ Listable fs scan place) : ∃ l, FirstTooLong fs scan place l := by
  rw [listable_iff h hd] at hl
  cases hf : find fs scan with
  | ok files => exact absurd ⟨files, hf⟩ hl
  | error refusal =>
    obtain ⟨l, hl, -⟩ := firstTooLong_of_find h hd hf
    exact ⟨l, hl⟩

lemma find_of_firstTooLong {l : Location} (hl : FirstTooLong fs scan place l) :
    find fs scan = .error ⟨scan.directory.childOf l, .refused .nameTooLong⟩ := by
  cases hf : find fs scan with
  | ok files => exact absurd ((listable_iff h hd).mpr ⟨files, hf⟩ l hl.entered) hl.tooLong
  | error refusal =>
    obtain ⟨l', hl', rfl⟩ := firstTooLong_of_find h hd hf
    rw [hl.unique hl']

omit hd in
lemma find_error_cases {refusal : Refusal} (he : find fs scan = .error refusal) :
    ((∀ place, fs.resolve .stay scan.directory ≠ .ok (.directory place)) ∧
        ∃ fault, refusal = ⟨scan.directory, fault⟩) ∨
      ∃ place l, fs.resolve .stay scan.directory = .ok (.directory place) ∧ FirstTooLong fs scan place l ∧
        refusal = ⟨scan.directory.childOf l, .refused .nameTooLong⟩ := by
  by_cases hd : ∃ place, fs.resolve .stay scan.directory = .ok (.directory place)
  · obtain ⟨place, hd⟩ := hd
    obtain ⟨l, hl, rfl⟩ := firstTooLong_of_find h hd he
    exact Or.inr ⟨place, l, hd, hl, rfl⟩
  · obtain ⟨fault, hs⟩ := search_of_no_directory (not_exists.mp hd)
    rw [find_eq_error_iff, hs] at he
    cases he
    exact Or.inl ⟨not_exists.mp hd, fault, rfl⟩

end WellFormed

end Discovery

end BarrelModule
