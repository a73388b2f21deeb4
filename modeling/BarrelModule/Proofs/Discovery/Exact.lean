import BarrelModule.Proofs.Discovery.Search
import BarrelModule.Proofs.FileSystem.Dotted
import Mathlib.Data.List.Sort

/-! A scan finds each wanted file once, in an order that the listing of the directories does not
change. -/

namespace BarrelModule

open Text

def Filter.Takes (f : Filter) (name : String) : Prop :=
  match f.pattern with
  | some p => p.occursIn name = true
  | none => f.opening.toList <+: name.toList ∧ f.ending.toList <:+ name.toList

lemma Filter.accepts_iff (f : Filter) (name : String) : f.accepts name = true ↔ f.Takes name := by
  rw [accepts, Takes]
  cases f.pattern <;> simp

namespace Discovery

/-- What a scan is after, by its names from the scanned directory down: a chain of directories ended
by a file or a link whose own name the filter takes. -/
structure Wanted (fs : FileSystem) (scan : Scan) (place : Place) (l : Location) : Prop where
  stands : place.removed = 0
  above : ∀ m, m <+: l → m ≠ l → fs.entryAt? (place.location ++ m) = some .directory
  leaf : ∃ e, fs.entryAt? (place.location ++ l) = some e ∧ e ≠ .directory
  depth : scan.recursive = true ∨ l.length = 1
  named : ∃ n, l.getLast? = some n ∧ scan.filter.Takes (decode n)

lemma taken_iff {filter : Filter} {l : Location} :
    taken filter l = true ↔ ∃ n, l.getLast? = some n ∧ filter.Takes (decode n) := by
  simp [taken, Option.any_eq_true, Filter.accepts_iff]

def Picks (scan : Scan) (l : Location) : Prop :=
  (scan.recursive = true ∨ l.length = 1) ∧ ∃ n, l.getLast? = some n ∧ scan.filter.Takes (decode n)

lemma Picks.ne_nil {scan : Scan} {l : Location} (h : Picks scan l) : l ≠ [] := by
  rintro rfl
  obtain ⟨n, hn, _⟩ := h.2
  cases hn

def Covers (scan : Scan) (directory l : Location) : Prop := ∃ m, directory ++ m = l ∧ Picks scan m

lemma Wanted.picks {fs : FileSystem} {scan : Scan} {place : Place} {l : Location}
    (h : Wanted fs scan place l) : Picks scan l :=
  ⟨h.depth, h.named⟩

lemma wanted_iff {fs : FileSystem} {scan : Scan} {place : Place} {l : Location} :
    Wanted fs scan place l ↔ place.removed = 0 ∧ Picks scan l ∧
      ∃ e, fs.entryAt? (place.location ++ l) = some e ∧ e ≠ .directory := by
  constructor
  · intro h
    exact ⟨h.stands, h.picks, h.leaf⟩
  · rintro ⟨hp, ⟨hd, hn⟩, e, he, hk⟩
    refine ⟨hp, ?_, ⟨e, he, hk⟩, hd, hn⟩
    rintro m ⟨k, rfl⟩ hm
    have hk : k ≠ [] := fun hk => hm (by simp [hk])
    exact FileSystem.entryAt?_above hk (by simpa using he)

lemma mem_chosen {scan : Scan} {found : List Visit} {l : Location} :
    l ∈ chosen scan found ↔ ⟨l, false⟩ ∈ found ∧ taken scan.filter l = true := by
  rw [chosen, List.mem_map]
  constructor
  · rintro ⟨⟨m, d⟩, hv, rfl⟩
    obtain ⟨hv, hk, ht⟩ := by simpa using hv
    exact ⟨hk ▸ hv, ht⟩
  · rintro ⟨hv, ht⟩
    exact ⟨_, List.mem_filter.mpr ⟨hv, by simpa using ht⟩, rfl⟩

lemma mem_locations {fs : FileSystem} (h : fs.WellFormed) {scan : Scan} {place : Place} {l : Location} :
    l ∈ locations scan (fs.nodesIn place) ↔ Wanted fs scan place l := by
  rw [locations, mem_chosen, mem_walk (h.nodesIn place), taken_iff, wanted_iff]
  constructor
  · rintro ⟨⟨hl, hd, e, he, hk⟩, hn⟩
    obtain ⟨hp, he⟩ := (FileSystem.entryAt?_nodesIn hl).mp he
    exact ⟨hp, ⟨by simpa using hd, hn⟩, e, he, by simpa using hk⟩
  · rintro ⟨hp, hpicks, e, he, hk⟩
    have hl : l ≠ [] := hpicks.ne_nil
    exact ⟨⟨hl, by simpa using hpicks.1, e, (FileSystem.entryAt?_nodesIn hl).mpr ⟨hp, he⟩, by simpa using hk⟩,
      hpicks.2⟩

lemma locations_sorted {scan : Scan} {nodes : List Node} (h : Node.AllWellFormed nodes) :
    (locations scan nodes).Pairwise (· < ·) := by
  rw [locations, chosen, List.pairwise_map]
  exact (walk_sorted scan.recursive h).filter _

lemma walk_congr {fs fs' : FileSystem} (h : fs.WellFormed) (h' : fs'.WellFormed) {place place' : Place}
    (hp : place'.removed = place.removed)
    (he : ∀ l, fs'.entryAt? (place'.location ++ l) = fs.entryAt? (place.location ++ l)) (deep : Bool) :
    inOrder (visitsOf deep (fs'.nodesIn place')) = inOrder (visitsOf deep (fs.nodesIn place)) := by
  refine List.Pairwise.eq_of_mem_iff (walk_sorted deep (h'.nodesIn place')) (walk_sorted deep (h.nodesIn place)) ?_
  rintro ⟨l, d⟩
  rw [mem_walk (h'.nodesIn place'), mem_walk (h.nodesIn place)]
  refine and_congr_right fun hl => and_congr_right fun _ => exists_congr fun e => ?_
  rw [FileSystem.entryAt?_nodesIn hl, FileSystem.entryAt?_nodesIn hl, hp, he]

lemma search_congr {fs fs' : FileSystem} (h : fs.WellFormed) (h' : fs'.WellFormed) {scan : Scan}
    {place place' : Place} (hd : fs.resolve .stay scan.directory = .ok (.directory place))
    (hd' : fs'.resolve .stay scan.directory = .ok (.directory place')) (hp : place'.removed = place.removed)
    (he : ∀ l, fs'.entryAt? (place'.location ++ l) = fs.entryAt? (place.location ++ l)) :
    search fs' scan = search fs scan := by
  have hwalk := walk_congr h h' hp he scan.recursive
  rw [search_of_directory hd, search_of_directory hd', hwalk]
  apply gather_congr
  intro v hv hk
  rw [listingFault?_visit h hd hv hk, listingFault?_visit h' hd' (hwalk ▸ hv) hk]

lemma Wanted.valid {fs : FileSystem} (h : fs.WellFormed) {scan : Scan} {place : Place} {l : Location}
    (hl : Wanted fs scan place l) : ∀ n ∈ l, n.Valid := by
  obtain ⟨e, he, _⟩ := hl.leaf
  intro n hn
  exact h.location_valid he n (List.mem_append_right _ hn)

lemma Wanted.segments {fs : FileSystem} (h : fs.WellFormed) {scan : Scan} {place : Place} {l : Location}
    (hl : Wanted fs scan place l) : ∀ n ∈ l, Segment n :=
  fun n hn => (hl.valid h n hn).toSegment

lemma locations_valid {fs : FileSystem} (h : fs.WellFormed) {scan : Scan} {place : Place} :
    ∀ l ∈ locations scan (fs.nodesIn place), ∀ n ∈ l, n.Valid :=
  fun _ hl => ((mem_locations h).mp hl).valid h

theorem find_exact (fs : FileSystem) (h : fs.WellFormed) (scan : Scan) (place : Place)
    (hd : fs.resolve .stay scan.directory = .ok (.directory place)) :
    ∃ found : List Location,
      (Listable fs scan place → find fs scan = .ok (found.map scan.directory.childOf)) ∧
      (found.map scan.directory.childOf).Nodup ∧
      (∀ l, l ∈ found ↔ Wanted fs scan place l) ∧
      found.Pairwise (· < ·) ∧
      (Listable fs scan place ∨ ∃ l, FirstTooLong fs scan place l) ∧
      (∀ l, FirstTooLong fs scan place l →
        find fs scan = .error ⟨scan.directory.childOf l, .refused .nameTooLong⟩) ∧
      ∀ fs' : FileSystem, fs'.WellFormed → fs.SameEntries fs' → find fs' scan = find fs scan := by
  have hmem : ∀ l, l ∈ locations scan (fs.nodesIn place) ↔ Wanted fs scan place l := fun _ => mem_locations h
  have hsorted : (locations scan (fs.nodesIn place)).Pairwise (· < ·) := locations_sorted (h.nodesIn place)
  refine ⟨locations scan (fs.nodesIn place), find_of_listable h hd, ?_, hmem, hsorted, ?_,
    fun _ => find_of_firstTooLong h hd, ?_⟩
  · refine hsorted.nodup.map_on ?_
    intro l hl l' hl' he
    exact Path.childOf_injective (((hmem l).mp hl).segments h) (((hmem l').mp hl').segments h) he
  · exact or_iff_not_imp_left.mpr (exists_firstTooLong h hd)
  · intro fs' h' he
    rw [find, find, search_congr h h' hd (he.resolve hd) rfl fun l => he.entries _]

/-- A directory beside a file whose name comes after its own but before its name and a slash, and a link
back to the directory that holds it. -/
def branched : FileSystem where
  nodes := [.file (encode "a-b.js") [],
    .directory (encode "a") [.link (encode "up.js") (Path.ofString ".."), .file (encode "b.js") []]]
  workingDirectory := Place.root

theorem find_branched :
    ∃ found : List Location, find branched ⟨Path.ofString "./", ⟨"", ".js", none⟩, true⟩ =
        .ok (found.map (Path.ofString "./").childOf) ∧
      ∀ l, l ∈ found ↔ Wanted branched ⟨Path.ofString "./", ⟨"", ".js", none⟩, true⟩ Place.root l := by
  have hd : branched.resolve .stay (Path.ofString "./") = .ok (.directory Place.root) := rfl
  obtain ⟨found, hfound, -, hmem, -⟩ := find_exact branched (by decide)
    ⟨Path.ofString "./", ⟨"", ".js", none⟩, true⟩ Place.root hd
  have hfind : find branched ⟨Path.ofString "./", ⟨"", ".js", none⟩, true⟩ =
      .ok [Path.ofString "./a/b.js", Path.ofString "./a/up.js", Path.ofString "./a-b.js"] := rfl
  exact ⟨found, hfound ((listable_iff (by decide) hd).mpr ⟨_, hfind⟩), hmem⟩

/-- A directory with one in it, to be scanned by a path that leaves no room for another name. -/
def subdirectory : FileSystem where
  nodes := [.directory (encode "d") [.directory (encode "sub") [.file (encode "x.js") []]]]
  workingDirectory := Place.root

def longScan : Scan := ⟨Path.dotted 2046 (Path.ofString "d"), Filter.all, true⟩

lemma resolve_longScan (ending : Ending) (hk : ending ≠ .create) :
    subdirectory.resolve ending longScan.directory = .ok (.directory ⟨[encode "d"], 0⟩) := by
  have hfits : longScan.directory.Fits := by
    rw [Path.Fits, longScan, Path.length_dotted]
    decide
  have hp : longScan.directory.Accepted := ⟨Path.Usable.dotted (by decide) 2046, hfits⟩
  rw [FileSystem.resolve_of_accepted hp, longScan, FileSystem.lead_dotted _ _ (by decide) (by decide)]
  cases ending with
  | follow | stay => rfl
  | create => exact absurd rfl hk

lemma longScan_not_listable : ¬ Listable subdirectory longScan ⟨[encode "d"], 0⟩ := by
  intro hl
  have hfits := hl [encode "sub"] ⟨rfl, rfl, Or.inl rfl⟩
  have hvalid : ∀ n ∈ [encode "sub"], FileName.Valid n := by decide
  rw [Path.Fits, longScan, Path.length_childOf (Path.dotted_bytes_ne_nil (by decide) 2046)
    ((Path.dotted_endsInSlash (by decide) 2046).trans (by decide)) (by simp)
    fun n hn => (hvalid n hn).toSegment, Path.length_dotted] at hfits
  exact absurd hfits (by decide)

theorem find_longScan_fails :
    subdirectory.WellFormed ∧
      subdirectory.resolve .stay longScan.directory = .ok (.directory ⟨[encode "d"], 0⟩) ∧
      Wanted subdirectory longScan ⟨[encode "d"], 0⟩ [encode "sub", encode "x.js"] ∧
      ∀ files, find subdirectory longScan ≠ .ok files := by
  have hw : subdirectory.WellFormed := by decide
  have hd := resolve_longScan .stay (by decide)
  refine ⟨hw, hd, wanted_iff.mpr ⟨rfl, ⟨Or.inl rfl, encode "x.js", rfl, ?_⟩, .file [], rfl, by decide⟩, ?_⟩
  · exact (Filter.accepts_iff _ _).mp (by decide)
  · intro files hf
    exact longScan_not_listable ((listable_iff hw hd).mpr ⟨files, hf⟩)

end Discovery

end BarrelModule
