import BarrelModule.Proofs.Build.Imports
import BarrelModule.Proofs.FileSystem.Subtree

namespace BarrelModule

open Text FileSystem

namespace Discovery

lemma search_under {fs fs' : FileSystem} (hw : fs.WellFormed) (hw' : fs'.WellFormed) {l l' : Location}
    (h : fs.SameBelow l fs' l') (hl : fs.workingDirectory = ⟨l, 0⟩) (hl' : fs'.workingDirectory = ⟨l', 0⟩)
    {scan : Scan} (hd : scan.directory.StaysBelow) (hf : fs.LinkFree scan.directory) :
    search fs' scan = search fs scan := by
  obtain ⟨named, hs, hs'⟩ := h.resolve hl hl' hd hf .stay
  obtain ⟨reached, hr, hr'⟩ := h.resolve hl hl' hd hf .follow
  have hroot : ∀ {place}, named = .ok (.directory place) → search fs' scan = search fs scan := by
    rintro place rfl
    refine search_congr hw hw' hs hs' rfl fun k => ?_
    rw [List.append_assoc, List.append_assoc]
    exact h (place.location ++ k)
  cases named with
  | error fault => simp [search, rootNodes, directoryNodes, hs, hs', Except.map]
  | ok found =>
    cases found with
    | directory place => exact hroot rfl
    | missing parent n => simp [search, rootNodes, directoryNodes, hs, hs', Except.map, Found.under]
    | node parent leaf =>
      simp only [search, rootNodes, directoryNodes, hs, hs', hr, hr', Except.map, Found.under]
      cases reached with
      | error fault => rfl
      | ok found' => cases found' <;> rfl

end Discovery

namespace Build

lemma importBase_staysBelow {output : Path} (h : output.StaysBelow) : (importBase output).StaysBelow := by
  have hc := Path.climbsAtMost_filter.mpr h.climbs
  rcases List.eq_nil_or_concat' (output.segments.filter (· ≠ Path.dot)) with hn | ⟨init, last, hs⟩
  · rw [importBase_of_dots hn]
    decide
  · obtain ⟨-, habsolute, hsegments⟩ := importBase_spec hs
    refine ⟨habsolute.trans h.relative, Path.climbsAtMost_filter.mp ?_⟩
    rw [hsegments]
    exact hc.of_prefix (hs ▸ List.prefix_append init [last])

lemma specifier_under {base : Path} (hb : base.StaysBelow) {directory : Path} (hd : directory.StaysBelow)
    {m : Location} (hm : ∀ n ∈ m, n.Valid) (l : Location) :
    specifier (base.absolute l) ((directory.childOf m).absolute l) =
      specifier (base.absolute []) (directory.absolute [] ++ m) := by
  rw [Path.absolute_childOf l directory hm, hb.absolute l, hd.absolute l, List.append_assoc, specifier,
    Location.relative_append, specifier]

lemma definitionsOf_under {o : BuildOptions} (hd : o.scan.directory.StaysBelow) (ho : o.output.StaysBelow)
    {found : List Location} (hf : ∀ m ∈ found, ∀ n ∈ m, n.Valid) (l l' : Location) :
    definitionsOf l' o (found.map o.scan.directory.childOf) =
      definitionsOf l o (found.map o.scan.directory.childOf) := by
  rw [definitionsOf, definitionsOf, List.map_map, List.map_map]
  apply List.map_congr_left
  intro m hm
  have hbase := importBase_staysBelow ho
  simp only [Function.comp_apply, define, specifier_under hbase hd (hf m hm)]

theorem collect_relocated (fs fs' : FileSystem) (h : fs.WellFormed) (h' : fs'.WellFormed) {l l' : Location}
    (hl : fs.workingLocation = .ok l) (hl' : fs'.workingLocation = .ok l') (hs : fs.SameBelow l fs' l')
    (o : BuildOptions) (hd : o.scan.directory.StaysBelow) (hf : fs.LinkFree o.scan.directory)
    (ho : o.output.StaysBelow) :
    collect fs' o = collect fs o ∧
      ((∃ b, (collect fs o).result = .ok b) ∨
        ∃ m fault, (collect fs o).result = .error (.unreadable (o.scan.directory.childOf m) fault)) := by
  have hplace : fs.workingDirectory = ⟨l, 0⟩ := workingDirectory_eq hl
  have hplace' : fs'.workingDirectory = ⟨l', 0⟩ := workingDirectory_eq hl'
  have hsearch := Discovery.search_under h h' hs hplace hplace' hd hf
  refine ⟨collect_congr hl hl' hsearch fun files hfiles => ?_, ?_⟩
  · obtain ⟨place, -, rfl⟩ := Discovery.directory_of_find hfiles
    exact definitionsOf_under hd ho (Discovery.locations_valid h) l l'
  · rw [collect_result, hl]
    cases hfind : Discovery.find fs o.scan with
    | ok files => exact Or.inl ⟨_, rfl⟩
    | error refusal =>
      refine Or.inr ?_
      rcases Discovery.find_error_cases h hfind with ⟨-, fault, rfl⟩ | ⟨place, m, -, -, rfl⟩
      · exact ⟨[], fault, rfl⟩
      · exact ⟨m, _, rfl⟩

def tree : List Node :=
  [.directory (encode "x") [],
    .directory (encode "defs") [.directory (encode "sub") [.link (encode "up.js") (Path.ofString "../../../b.js")]]]

def rooted : FileSystem := ⟨tree, Place.root⟩

def nested : FileSystem where
  nodes := [.file (encode "b.js") [], .directory (encode "deep") [.directory (encode "er") tree]]
  workingDirectory := ⟨[encode "deep", encode "er"], 0⟩

def treeOptions : BuildOptions where
  scan := ⟨Path.ofString "x/..//./defs", Filter.all, true⟩
  output := Path.ofString "./gen/../out/index.js"
  key := none
  denyDuplicates := false

theorem collect_nested : collect nested treeOptions = collect rooted treeOptions ∧
    (collect nested treeOptions).result = .ok ⟨[⟨Path.ofString "x/..//./defs/sub/up.js", "SubUp",
      "./../defs/sub/up.js"⟩], none⟩ := by
  have hs : rooted.SameBelow [] nested [encode "deep", encode "er"] :=
    sameBelow_of_nodesAt? (rfl : Node.nodesAt? [] tree = some tree) rfl
  obtain ⟨he, -⟩ := collect_relocated rooted nested (by decide) (by decide) rfl rfl hs treeOptions (by decide)
    (by decide) (by decide)
  exact ⟨he, rfl⟩

end Build

end BarrelModule
