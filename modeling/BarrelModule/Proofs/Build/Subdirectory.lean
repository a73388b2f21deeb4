import BarrelModule.Proofs.Build.Directory
import BarrelModule.Proofs.Discovery.Subdirectory
import BarrelModule.Proofs.ImportName.Derivation

/-! A scan of a directory and one of a directory in it agree on what is found below the second: only the
names differ, by what the first one puts in front of them. -/

namespace BarrelModule

open Text

namespace Path

lemma below?_child_isSome {directory : Path} {c n : FileName} {m : Location} (hc : c.Valid)
    (hm : ∀ k ∈ n :: m, FileName.Valid k) :
    ((directory.childOf (n :: m)).below? (directory.child c)).isSome = decide (c = n) := by
  have hone : ∀ k ∈ [c], FileName.Proper k := by simpa using hc.proper
  have hchild : (directory.child c).components = directory.components ++ [c].map .name :=
    components_childOf hone directory
  rw [below?, hchild, components_childOf fun k hk => (hm k hk).proper]
  by_cases hn : c = n <;> simp [hn]

end Path

lemma importName_append_slash (s t : String) :
    importName (s ++ "/" ++ t) = importName (s ++ "/") ++ importName t := by
  have hslash : isWordChar '/' = false := by decide
  have hpush : s ++ "/" = s.push '/' := by
    apply String.toList_inj.mp
    simp
  rw [hpush, importName_push_append s t hslash]

namespace Discovery

lemma Entered.of_below {fs : FileSystem} {scan : Scan} (hr : scan.recursive = true) {place : Place} {c : FileName}
    {m : Location} {directory : Path}
    (h : Entered fs { scan with directory := directory } (place.down c) m) : Entered fs scan place (c :: m) :=
  ⟨h.stands, by simpa [Place.down] using h.directory, Or.inl hr⟩

lemma Listable.below {fs : FileSystem} {scan : Scan} (hr : scan.recursive = true) {place : Place}
    (hl : Listable fs scan place) (c : FileName) :
    Listable fs { scan with directory := scan.directory.child c } (place.down c) :=
  fun m hm => hl (c :: m) (hm.of_below hr)

end Discovery

def Definition.within (opening : String) (d : Definition) : Definition :=
  { d with binding := opening ++ d.binding }

namespace Build

open FileSystem

def directoryName (c : FileName) : String := importName (Path.forwardSlashes ⟨c⟩ ++ "/")

def into (c : FileName) (o : BuildOptions) : BuildOptions :=
  { o with scan := { o.scan with directory := o.scan.directory.child c } }

def isBelow (directory : Path) (d : Definition) : Bool := (d.file.below? directory).isSome

section Below

variable {workingDirectory : Location} {o : BuildOptions} {c : FileName}

lemma definitionAt_cons {m : Location} (hm : ∀ n ∈ c :: m, FileName.Valid n) (hn : m ≠ []) :
    definitionAt workingDirectory o (c :: m) =
      (definitionAt workingDirectory (into c o) m).within (directoryName c) := by
  have hbelow : ∀ n ∈ m, FileName.Valid n := fun n h => hm n (List.mem_cons_of_mem c h)
  have hfile : (o.scan.directory.child c).childOf m = o.scan.directory.childOf (c :: m) := rfl
  simp only [definitionAt, into, define, Definition.within, pathBelow_childOf _ hbelow]
  rw [hfile, pathBelow_childOf _ hm, join_cons_of_ne_nil Path.slash c hn, Path.forwardSlashes_append_slash,
    importName_append_slash, directoryName]

lemma isBelow_definitionAt (hc : c.Valid) {n : FileName} {m : Location}
    (hm : ∀ k ∈ n :: m, FileName.Valid k) :
    isBelow (o.scan.directory.child c) (definitionAt workingDirectory o (n :: m)) = decide (c = n) :=
  Path.below?_child_isSome hc hm

lemma filter_isBelow (hc : c.Valid) {before block after : List Location}
    (hv : ∀ l ∈ before ++ (block.map (c :: ·) ++ after), ∀ n ∈ l, FileName.Valid n)
    (ho : ∀ l ∈ before ++ after, ∃ n m, l = n :: m ∧ n ≠ c) :
    ((before ++ (block.map (c :: ·) ++ after)).map (definitionAt workingDirectory o)).filter
        (isBelow (o.scan.directory.child c)) =
      (block.map (c :: ·)).map (definitionAt workingDirectory o) := by
  have hout : ∀ part : List Location, (∀ l ∈ part, l ∈ before ++ after) →
      (∀ l ∈ part, ∀ n ∈ l, FileName.Valid n) →
      (part.map (definitionAt workingDirectory o)).filter (isBelow (o.scan.directory.child c)) = [] := by
    intro part hpart hvalid
    rw [List.filter_eq_nil_iff, List.forall_mem_map]
    intro l hl
    obtain ⟨n, m, rfl, hne⟩ := ho l (hpart l hl)
    rw [isBelow_definitionAt hc (hvalid _ hl)]
    simpa using hne.symm
  have hin : ((block.map (c :: ·)).map (definitionAt workingDirectory o)).filter
      (isBelow (o.scan.directory.child c)) = (block.map (c :: ·)).map (definitionAt workingDirectory o) := by
    rw [List.filter_eq_self, List.forall_mem_map, List.forall_mem_map]
    intro m hm
    have hmem : c :: m ∈ before ++ (block.map (c :: ·) ++ after) :=
      List.mem_append_right _ (List.mem_append_left _ (List.mem_map_of_mem hm))
    rw [isBelow_definitionAt hc (hv _ hmem), decide_eq_true rfl]
  rw [List.map_append, List.map_append, List.filter_append, List.filter_append, hin, hout before, hout after,
    List.nil_append, List.append_nil]
  · exact fun l hl => List.mem_append_right _ hl
  · exact fun l hl => hv l (List.mem_append_right _ (List.mem_append_right _ hl))
  · exact fun l hl => List.mem_append_left _ hl
  · exact fun l hl => hv l (List.mem_append_left _ hl)

end Below

lemma toList_directoryName (c : FileName) : (directoryName c).toList =
    (pathWords (Path.forwardSlashes ⟨c⟩).toList).flatMap capitalizeFirst := by
  have hslash : isWordChar '/' = false := by decide
  have hconcat : (Path.forwardSlashes ⟨c⟩ ++ "/").toList = (Path.forwardSlashes ⟨c⟩).toList ++ ['/'] := by
    simp
  rw [directoryName, toList_importName, hconcat, nameWords_concat _ hslash]

theorem collect_subdirectory (fs : FileSystem) (h : fs.WellFormed) {workingDirectory : Location}
    (hw : fs.workingLocation = .ok workingDirectory) (o : BuildOptions) (hr : o.scan.recursive = true)
    {files : List Path} (hf : Discovery.find fs o.scan = .ok files) {place : Place}
    (hd : fs.resolve .stay o.scan.directory = .ok (.directory place)) {c : FileName}
    (hc : fs.entryIn? place c = some .directory) :
    ∃ b b', (collect fs o).result = .ok b ∧ (collect fs (into c o)).result = .ok b' ∧
      b.definitions.filter (isBelow (o.scan.directory.child c)) <:+: b.definitions ∧
      b.definitions.filter (isBelow (o.scan.directory.child c)) =
        b'.definitions.map (Definition.within (directoryName c)) ∧
      (directoryName c).toList = (pathWords (Path.forwardSlashes ⟨c⟩).toList).flatMap capitalizeFirst := by
  obtain ⟨location, removed⟩ := place
  obtain ⟨rfl, hentry⟩ : removed = 0 ∧ _ := entryIn?_eq_some_iff.mp hc
  have hl := (Discovery.listable_iff h hd).mpr ⟨files, hf⟩
  have hd' : fs.resolve .stay (into c o).scan.directory = .ok (.directory (Place.down ⟨location, 0⟩ c)) :=
    resolve_below h hd hentry (hl [c] ⟨rfl, hentry, Or.inl hr⟩)
  have hvalid : c.Valid := h.name_valid (entryIn?_eq_some_iff.mp hc).2
  obtain ⟨before, after, hsplit, hothers⟩ := Discovery.locations_split h hr hc
  have hnames : ∀ l ∈ Discovery.locations o.scan (fs.nodesIn ⟨location, 0⟩), ∀ n ∈ l, n.Valid :=
    Discovery.locations_valid h
  have hinner : ∀ m ∈ Discovery.locations o.scan (fs.nodesIn (Place.down ⟨location, 0⟩ c)), m ≠ [] := by
    intro m hm
    exact ((Discovery.mem_locations h).mp hm).picks.ne_nil
  rw [hsplit] at hnames
  refine ⟨_, _, collect_of_find (Discovery.find_of_listable h hd hl) hw,
    collect_of_find (Discovery.find_of_listable h hd' (hl.below hr c)) hw, ?_⟩
  simp only [hsplit, filter_isBelow hvalid hnames hothers]
  refine ⟨?block, ?within, toList_directoryName c⟩
  case block =>
    rw [List.map_append, List.map_append]
    exact ⟨before.map _, after.map _, List.append_assoc _ _ _⟩
  case within =>
    rw [List.map_map, List.map_map]
    apply List.map_congr_left
    intro m hm
    apply definitionAt_cons _ (hinner m hm)
    apply hnames
    exact List.mem_append_right _ (List.mem_append_left _ (List.mem_map_of_mem hm))

def cutName : FileName := encode "m.y" ++ [0xC3]

def cutNameBeside : FileSystem where
  nodes := [.directory (encode "d") [.file (encode "x.js") [], .file (encode "m.y") [],
    .directory cutName [.file (encode "a.js") [], .file (encode "Makefile") []]]]
  workingDirectory := Place.root

def cutNameOptions : BuildOptions where
  scan := ⟨Path.ofString "d/.", Filter.all, true⟩
  output := Path.ofString "d/barrel.js"
  key := none
  denyDuplicates := false

theorem collect_cutName :
    ∃ b, (collect cutNameBeside cutNameOptions).result = .ok b ∧
      b.definitions.filter (isBelow (cutNameOptions.scan.directory.child cutName)) <:+: b.definitions ∧
      (b.definitions.filter (isBelow (cutNameOptions.scan.directory.child cutName))).map
        Definition.binding = ["MY", "MYA"] := by
  have hw : cutNameBeside.workingLocation = .ok [] := rfl
  have hd : cutNameBeside.resolve .stay cutNameOptions.scan.directory =
      .ok (.directory ⟨[encode "d"], 0⟩) := rfl
  have hc : cutNameBeside.entryIn? ⟨[encode "d"], 0⟩ cutName = some .directory := rfl
  have hf : Discovery.find cutNameBeside cutNameOptions.scan = .ok [Path.ofString "d/./m.y",
      ⟨encode "d/./" ++ cutName ++ encode "/Makefile"⟩, ⟨encode "d/./" ++ cutName ++ encode "/a.js"⟩,
      Path.ofString "d/./x.js"] := rfl
  obtain ⟨b, b', hb, hb', hblock, hwithin, -⟩ :=
    collect_subdirectory cutNameBeside (by decide) hw cutNameOptions rfl hf hd hc
  have hinner : (collect cutNameBeside (into cutName cutNameOptions)).result.map
      (·.definitions.map Definition.binding) = .ok ["", "A"] := rfl
  rw [hb'] at hinner
  have hnames : b'.definitions.map Definition.binding = ["", "A"] := Except.ok.inj hinner
  have hopening : directoryName cutName = "MY" := rfl
  refine ⟨b, hb, hblock, ?_⟩
  calc (b.definitions.filter _).map Definition.binding
    _ = (b'.definitions.map Definition.binding).map ("MY" ++ ·) := by
      rw [hwithin, hopening, List.map_map, List.map_map]
      rfl
    _ = ["MY", "MYA"] := by
      rw [hnames]
      rfl

end Build

end BarrelModule
