import BarrelModule.Proofs.Build.Imports

namespace BarrelModule.Build

open Text

structure NamedBelow (directory : Path) (d : Definition) (m : Location) : Prop where
  file : d.file = directory.childOf m
  below : d.file.below? directory = some ⟨join Path.slash m⟩
  binding : d.binding = importName (Path.forwardSlashes ⟨join Path.slash m⟩)

lemma definitionAt_namedBelow (workingDirectory : Location) (o : BuildOptions) {m : Location}
    (hm : ∀ n ∈ m, n.Valid) : NamedBelow o.scan.directory (definitionAt workingDirectory o m) m where
  file := rfl
  below := Path.below?_childOf (fun n hn => (hm n hn).proper) o.scan.directory
  binding := by rw [definitionAt, define, pathBelow_childOf _ hm]

theorem collect_namedBelow :
    (∀ (directory : Path) (names : List FileName), names ≠ [] → (∀ n ∈ names, n.Proper) →
      (directory.childOf names).below? directory = some ⟨join Path.slash names⟩) ∧
    ∀ (fs : FileSystem) (o : BuildOptions) (b : Barrel), fs.WellFormed → (collect fs o).result = .ok b →
      ∃ found : List Location, Discovery.find fs o.scan = .ok (found.map o.scan.directory.childOf) ∧
        (∀ m ∈ found, m ≠ [] ∧ ∀ n ∈ m, n.Proper) ∧
        List.Forall₂ (NamedBelow o.scan.directory) b.definitions found := by
  refine ⟨fun directory names _ h => Path.below?_childOf h directory, ?_⟩
  intro fs o b h hb
  obtain ⟨files, workingDirectory, hfind, -, rfl⟩ := collect_ok hb
  obtain ⟨place, -, rfl⟩ := Discovery.directory_of_find hfind
  have hvalid : ∀ m ∈ Discovery.locations o.scan (fs.nodesIn place), ∀ n ∈ m, n.Valid := Discovery.locations_valid h
  refine ⟨_, hfind, fun m hm => ⟨?_, fun n hn => (hvalid m hm n hn).proper⟩, ?_⟩
  · exact ((Discovery.mem_locations h).mp hm).picks.ne_nil
  · simp only [definitionsOf_childOf]
    rw [List.forall₂_map_left_iff, List.forall₂_same]
    exact fun m hm => definitionAt_namedBelow workingDirectory o (hvalid m hm)

def illegibleName : FileSystem where
  nodes := [.directory (encode "defs") [.directory (encode "sub") [.file (0xFF :: encode "b.js") []]]]
  workingDirectory := Place.root

def throughSub : BuildOptions where
  scan := ⟨Path.ofString ".//defs/./sub/../", Filter.all, true⟩
  output := ⟨[]⟩
  key := none
  denyDuplicates := false

theorem collect_namedBelow_illegibleName :
    ((Path.ofString "..//./x/.").childOf [encode "sub", encode "..."]).below? (Path.ofString "..//./x/.") =
        some (Path.ofString "sub/...") ∧
      ∃ d found, (collect illegibleName throughSub).result = .ok ⟨[d], none⟩ ∧ d.binding = "SubB" ∧
        Discovery.find illegibleName throughSub.scan = .ok (found.map throughSub.scan.directory.childOf) ∧
        List.Forall₂ (NamedBelow throughSub.scan.directory) [d] found := by
  obtain ⟨hbelow, hnames⟩ := collect_namedBelow
  have hb : (collect illegibleName throughSub).result = .ok
      ⟨[⟨⟨encode ".//defs/./sub/../sub/" ++ 0xFF :: encode "b.js"⟩, "SubB", "./defs/sub/\uFFFDb.js"⟩], none⟩ := rfl
  obtain ⟨found, hfind, -, hdefinitions⟩ := hnames illegibleName throughSub _ (by decide) hb
  exact ⟨hbelow _ _ (by simp) (by decide), _, found, hb, rfl, hfind, hdefinitions⟩

end BarrelModule.Build
