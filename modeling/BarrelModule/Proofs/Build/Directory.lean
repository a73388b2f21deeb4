import BarrelModule.Proofs.Barrel.Rendering
import BarrelModule.Proofs.Barrel.Warnings
import BarrelModule.Proofs.Build.Imports

namespace BarrelModule.Build

open Text FileSystem

def interfaceAt (base directory m : Location) : String × String :=
  (importName (Path.forwardSlashes ⟨join Path.slash m⟩), specifier base (directory ++ m))

lemma interface_definitionsOf {o : BuildOptions} {workingDirectory directory : Location}
    (hd : o.scan.directory.absolute workingDirectory = directory) {found : List Location}
    (hf : ∀ m ∈ found, ∀ n ∈ m, n.Valid) :
    (definitionsOf workingDirectory o (found.map o.scan.directory.childOf)).map Barrel.interface =
      found.map (interfaceAt ((importBase o.output).absolute workingDirectory) directory) := by
  rw [definitionsOf, List.map_map, List.map_map]
  apply List.map_congr_left
  intro m hm
  simp only [Function.comp_apply, Barrel.interface, define, interfaceAt,
    pathBelow_childOf o.scan.directory (hf m hm), Path.absolute_childOf workingDirectory _ (hf m hm), hd]

lemma collect_interface {fs : FileSystem} (h : fs.WellFormed) {workingDirectory : Location}
    (hw : fs.workingLocation = .ok workingDirectory) {o : BuildOptions} (hf : fs.LinkFree o.scan.directory)
    {place : Place} (hd : fs.resolve .follow o.scan.directory = .ok (.directory place)) {b : Barrel}
    (hb : (collect fs o).result = .ok b) :
    b.definitions.map Barrel.interface = (Discovery.locations o.scan (fs.nodesIn place)).map
      (interfaceAt ((importBase o.output).absolute workingDirectory) place.location) := by
  obtain ⟨files, _, hfiles, hworking, rfl⟩ := collect_ok hb
  obtain rfl := Except.ok.inj (hw.symm.trans hworking)
  obtain ⟨_, hstay, rfl⟩ := Discovery.directory_of_find hfiles
  have hsame := (resolve_stay_directory_iff.mp hstay).1
  rw [hd] at hsame
  cases hsame
  obtain ⟨-, hwalks⟩ := hf.walks hd
  obtain ⟨hremoved, rfl⟩ := workingLocation_eq_ok_iff.mp hw
  apply interface_definitionsOf _ (Discovery.locations_valid h)
  rw [hwalks.goal_eq_absolute hremoved]

inductive CollectedAt (fs : FileSystem) (o : BuildOptions) (place : Place) : Prop
  | listed {b} (hl : Discovery.Listable fs o.scan place) (hb : (collect fs o).result = .ok b)
  | tooLong {l} (hl : Discovery.FirstTooLong fs o.scan place l)
      (he : (collect fs o).result = .error (.unreadable (o.scan.directory.childOf l) (.refused .nameTooLong)))

lemma collectedAt {fs : FileSystem} (h : fs.WellFormed) {workingDirectory : Location}
    (hw : fs.workingLocation = .ok workingDirectory) {o : BuildOptions} {place : Place}
    (hd : fs.resolve .stay o.scan.directory = .ok (.directory place)) : CollectedAt fs o place := by
  by_cases hl : Discovery.Listable fs o.scan place
  · exact .listed hl (collect_of_find (Discovery.find_of_listable h hd hl) hw)
  · obtain ⟨l, hl⟩ := Discovery.exists_firstTooLong h hd hl
    exact .tooLong hl (collect_refused (Discovery.find_of_firstTooLong h hd hl))

theorem collect_of_same_directory (fs : FileSystem) (h : fs.WellFormed) {workingDirectory : Location}
    (hw : fs.workingLocation = .ok workingDirectory) (o : BuildOptions) (directory : Path) {place : Place}
    (hf : fs.LinkFree o.scan.directory) (hf' : fs.LinkFree directory)
    (hd : fs.resolve .follow o.scan.directory = .ok (.directory place))
    (hd' : fs.resolve .follow directory = .ok (.directory place)) :
    CollectedAt fs o place ∧ CollectedAt fs { o with scan := { o.scan with directory := directory } } place ∧
      ∀ b b', (collect fs o).result = .ok b →
        (collect fs { o with scan := { o.scan with directory := directory } }).result = .ok b' →
        b.definitions.map (fun d => (d.binding, d.specifier)) =
          b'.definitions.map (fun d => (d.binding, d.specifier)) ∧
        b.render = b'.render ∧ (b.duplicate? = none ↔ b'.duplicate? = none) := by
  have hstay : ∀ {p : Path}, fs.LinkFree p → fs.resolve .follow p = .ok (.directory place) →
      fs.resolve .stay p = .ok (.directory place) := by
    intro p hp hr
    obtain ⟨haccepted, hwalks⟩ := hp.walks hr
    exact hwalks.resolve .stay (by decide) haccepted
  refine ⟨collectedAt h hw (hstay hf hd), collectedAt h hw (hstay hf' hd'), fun b b' hb hb' => ?_⟩
  have hinterface : b.definitions.map Barrel.interface = b'.definitions.map Barrel.interface := by
    rw [collect_interface h hw hf hd hb]
    exact (collect_interface h hw (o := { o with scan := { o.scan with directory := directory } }) hf' hd' hb').symm
  have hkey : b.key = b'.key := (collect_key hb).trans (collect_key hb').symm
  refine ⟨hinterface, Barrel.render_congr hkey hinterface, ?_⟩
  rw [Barrel.duplicate?_eq_none_iff, Barrel.duplicate?_eq_none_iff, Barrel.bindings_eq_map,
    Barrel.bindings_eq_map, hinterface]

def besideDefinitions : FileSystem where
  nodes := [.directory (encode "x") [],
    .directory (encode "defs") [.directory (encode "sub") [.file (encode "a.js") []]]]
  workingDirectory := ⟨[encode "x"], 0⟩

def absoluteOptions : BuildOptions where
  scan := ⟨Path.ofString "/defs/", Filter.all, true⟩
  output := ⟨[]⟩
  key := some "id"
  denyDuplicates := true

def relativeOptions : BuildOptions :=
  { absoluteOptions with scan := { absoluteOptions.scan with directory := Path.ofString "../x/.././/defs" } }

theorem collect_respelled :
    ∃ b b', (collect besideDefinitions absoluteOptions).result = .ok b ∧
      (collect besideDefinitions relativeOptions).result = .ok b' ∧
      b.definitions = [⟨Path.ofString "/defs/sub/a.js", "SubA", "./../defs/sub/a.js"⟩] ∧
      b'.definitions = [⟨Path.ofString "../x/.././/defs/sub/a.js", "SubA", "./../defs/sub/a.js"⟩] ∧
      b.render = b'.render := by
  have hd : besideDefinitions.resolve .follow absoluteOptions.scan.directory =
      .ok (.directory ⟨[encode "defs"], 0⟩) := rfl
  have hd' : besideDefinitions.resolve .follow relativeOptions.scan.directory =
      .ok (.directory ⟨[encode "defs"], 0⟩) := rfl
  have hb : (collect besideDefinitions absoluteOptions).result =
      .ok ⟨[⟨Path.ofString "/defs/sub/a.js", "SubA", "./../defs/sub/a.js"⟩], some "id"⟩ := rfl
  have hb' : (collect besideDefinitions relativeOptions).result =
      .ok ⟨[⟨Path.ofString "../x/.././/defs/sub/a.js", "SubA", "./../defs/sub/a.js"⟩], some "id"⟩ := rfl
  obtain ⟨-, -, hsame⟩ := collect_of_same_directory besideDefinitions (by decide) rfl
    absoluteOptions relativeOptions.scan.directory (by decide) (by decide) hd hd'
  exact ⟨_, _, hb, hb', rfl, rfl, (hsame _ _ hb hb').2.1⟩

def shortOptions : BuildOptions where
  scan := ⟨Path.ofString "d", Filter.all, true⟩
  output := ⟨[]⟩
  key := none
  denyDuplicates := false

def longOptions : BuildOptions := { shortOptions with scan := Discovery.longScan }

theorem collect_long_spelling_fails :
    ∃ place b, Discovery.subdirectory.WellFormed ∧ Discovery.subdirectory.workingLocation = .ok [] ∧
      Discovery.subdirectory.LinkFree shortOptions.scan.directory ∧
      Discovery.subdirectory.LinkFree longOptions.scan.directory ∧
      Discovery.subdirectory.resolve .follow shortOptions.scan.directory = .ok (.directory place) ∧
      Discovery.subdirectory.resolve .follow longOptions.scan.directory = .ok (.directory place) ∧
      (collect Discovery.subdirectory shortOptions).result = .ok b ∧
      ∀ b', (collect Discovery.subdirectory longOptions).result ≠ .ok b' := by
  have hw : Discovery.subdirectory.WellFormed := by decide
  have hb : (collect Discovery.subdirectory shortOptions).result =
      .ok ⟨[⟨Path.ofString "d/sub/x.js", "SubX", "./d/sub/x.js"⟩], none⟩ := rfl
  have hd : Discovery.subdirectory.resolve .follow longOptions.scan.directory =
      .ok (.directory ⟨[encode "d"], 0⟩) :=
    Discovery.resolve_longScan .follow (by decide)
  have hlong : Discovery.subdirectory.LinkFree longOptions.scan.directory :=
    (linkFree_dotted _ (by decide) 2046).mpr (by decide)
  refine ⟨_, _, hw, rfl, by decide, hlong, rfl, hd, hb, fun b' hb' => ?_⟩
  obtain ⟨files, _, hfiles, -, -⟩ := collect_ok hb'
  exact Discovery.longScan_not_listable
    ((Discovery.listable_iff hw (Discovery.resolve_longScan .stay (by decide))).mpr ⟨files, hfiles⟩)

end BarrelModule.Build
