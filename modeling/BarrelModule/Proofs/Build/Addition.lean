import BarrelModule.Proofs.Build.Imports
import BarrelModule.Proofs.Discovery.Rescan

/-! What a new file or link changes in a barrel: one definition comes in, where the order of the names puts it,
or nothing at all. -/

namespace BarrelModule.Build

open Text FileSystem

section Sets

variable {fs fs' : FileSystem} {l : Location} {e : Entry} (hs : Sets fs fs' l e) (h : fs.WellFormed)
  (h' : fs'.WellFormed) {o : BuildOptions} {workingDirectory directory : Location}
  (hw' : fs'.workingLocation = .ok workingDirectory)
  (hd' : fs'.resolve .stay o.scan.directory = .ok (.directory ⟨directory, 0⟩))
  (hl : Discovery.Listable fs o.scan ⟨directory, 0⟩)
include hs h h' hw' hd' hl

lemma collect_of_sets (hw : fs.workingLocation = .ok workingDirectory)
    (hd : fs.resolve .stay o.scan.directory = .ok (.directory ⟨directory, 0⟩))
    (hn : ¬ (fs.entryAt? l = none ∧ Discovery.Covers o.scan directory l)) : collect fs' o = collect fs o := by
  refine collect_congr hw hw' ?_ fun _ _ => rfl
  rw [Discovery.search_of_listable h hd hl,
    Discovery.search_of_listable h' hd' (Discovery.listable_of_sets hs hl),
    Discovery.locations_of_sets hs h h' hn]

lemma collect_insert_of_sets (hn : fs.entryAt? l = none) {m : Location} (hm : directory ++ m = l)
    (hpicks : Discovery.Picks o.scan m) :
    ∃ before after : List Location, Discovery.locations o.scan (fs.nodesIn ⟨directory, 0⟩) = before ++ after ∧
      (collect fs' o).result = .ok ⟨(before ++ m :: after).map (definitionAt workingDirectory o), o.key⟩ ∧
      (before ++ m :: after).Pairwise (· < ·) ∧ fs'.Reaches (definitionAt workingDirectory o m).file l := by
  obtain ⟨before, after, hbefore, hafter⟩ := Discovery.locations_insert_of_sets hs h h' hn
    (rfl : (Place.mk directory 0).removed = 0) hm hpicks
  have hwanted : Discovery.Wanted fs' o.scan ⟨directory, 0⟩ m :=
    (Discovery.mem_locations h').mp (by simp [hafter])
  have hfind := Discovery.find_of_listable h' hd' (Discovery.listable_of_sets hs hl)
  refine ⟨before, after, hbefore, ?_, ?_, hm ▸ reaches_found h' hd' hwanted⟩
  · rw [collect_of_find hfind hw', hafter]
  · rw [← hafter]
    exact Discovery.locations_sorted (h'.nodesIn _)

end Sets

theorem collect_adds (fs fs' : FileSystem) (h : fs.WellFormed) (h' : fs'.WellFormed) {l : Location} {e : Entry}
    (ha : Adds fs fs' l e) (o : BuildOptions) {b : Barrel} (hb : (collect fs o).result = .ok b) :
    ∃ workingDirectory place, fs.workingLocation = .ok workingDirectory ∧
      fs.resolve .stay o.scan.directory = .ok (.directory place) ∧
      (∀ m, place.location ++ m = l → Discovery.Picks o.scan m → ∃ before after : List Location,
        b.definitions = (before ++ after).map (definitionAt workingDirectory o) ∧
        (collect fs' o).result =
          .ok { b with definitions := (before ++ m :: after).map (definitionAt workingDirectory o) } ∧
        (before ++ m :: after).Pairwise (· < ·) ∧ fs'.Reaches (definitionAt workingDirectory o m).file l) ∧
      (¬ Discovery.Covers o.scan place.location l → (collect fs' o).result = .ok b) := by
  obtain ⟨files, workingDirectory, hfound, hw, -⟩ := collect_ok hb
  obtain ⟨⟨directory, removed⟩, hd, -⟩ := Discovery.directory_of_find hfound
  obtain rfl : removed = 0 := resolve_standing (workingLocation_eq_ok_iff.mp hw).1 hd
  have hl : Discovery.Listable fs o.scan ⟨directory, 0⟩ := (Discovery.listable_iff h hd).mpr ⟨files, hfound⟩
  have hw' : fs'.workingLocation = .ok workingDirectory := ha.workingLocation.trans hw
  have hd' : fs'.resolve .stay o.scan.directory = .ok (.directory ⟨directory, 0⟩) := ha.resolve hd (by simp)
  refine ⟨workingDirectory, ⟨directory, 0⟩, hw, hd, fun m hm hpicks => ?_, fun hc => ?_⟩
  · obtain ⟨before, after, hfiles, hafter, hrest⟩ :=
      collect_insert_of_sets ha.sets h h' hw' hd' hl ha.free hm hpicks
    rw [collect_of_find (Discovery.find_of_listable h hd hl) hw, hfiles] at hb
    cases hb
    exact ⟨before, after, rfl, hafter, hrest⟩
  · rw [collect_of_sets ha.sets h h' hw' hd' hl hw hd fun hn => hc hn.2, hb]

def oneDefinition : FileSystem where
  nodes := [.directory (encode "defs") [.directory (encode "b") [.file (encode "c.js") []]]]
  workingDirectory := Place.root

def withLink : FileSystem :=
  oneDefinition.changed [encode "defs"] (Node.put (.link (encode "a.js") (Path.ofString "b")))

def recursiveOptions : BuildOptions where
  scan := ⟨Path.ofString "defs", Filter.all, true⟩
  output := ⟨[]⟩
  key := none
  denyDuplicates := false

theorem collect_adds_link :
    Adds oneDefinition withLink [encode "defs", encode "a.js"] (.link (Path.ofString "b")) ∧
      definitionAt [] recursiveOptions [encode "a.js"] = ⟨Path.ofString "defs/a.js", "A", "./defs/a.js"⟩ ∧
      ∃ before after : List Location,
        (before ++ after).map (definitionAt [] recursiveOptions) =
          [⟨Path.ofString "defs/b/c.js", "BC", "./defs/b/c.js"⟩] ∧
        (collect withLink recursiveOptions).result =
          .ok ⟨(before ++ [encode "a.js"] :: after).map (definitionAt [] recursiveOptions), none⟩ ∧
        (before ++ [encode "a.js"] :: after).Pairwise (· < ·) := by
  have ha : Adds oneDefinition withLink [encode "defs", encode "a.js"] (.link (Path.ofString "b")) :=
    (sets_changed_put (by simp [Node.entry]) rfl (by decide)).adds rfl
  have hb : (collect oneDefinition recursiveOptions).result =
      .ok ⟨[⟨Path.ofString "defs/b/c.js", "BC", "./defs/b/c.js"⟩], none⟩ := rfl
  obtain ⟨workingDirectory, place, hw, hd, hadded, -⟩ :=
    collect_adds oneDefinition withLink (by decide) (by decide) ha recursiveOptions hb
  have hw' : oneDefinition.workingLocation = .ok [] := rfl
  have hd' : oneDefinition.resolve .stay recursiveOptions.scan.directory =
      .ok (.directory ⟨[encode "defs"], 0⟩) := rfl
  rw [hw'] at hw
  rw [hd'] at hd
  cases hw
  cases hd
  have hpicks : Discovery.Picks recursiveOptions.scan [encode "a.js"] :=
    ⟨Or.inl rfl, encode "a.js", rfl, by simp [Filter.Takes, recursiveOptions, Filter.all]⟩
  obtain ⟨before, after, hbefore, hafter, hsorted, -⟩ := hadded [encode "a.js"] rfl hpicks
  exact ⟨ha, rfl, before, after, hbefore.symm, hafter, hsorted⟩

end BarrelModule.Build
