import BarrelModule.Proofs.Barrel.Module
import BarrelModule.Proofs.Build.Course
import BarrelModule.Proofs.FileSystem.Writing
import BarrelModule.Proofs.ImportName.Shape

namespace BarrelModule

open Text

def Run.Gives (run : Run) (text : String) : Prop :=
  ∃ outcome, run.result = .ok outcome ∧
    match outcome.destination with
    | .returned returned => returned = text
    | .written path => run.files.contentAt path = .ok (encode text)

namespace Build

lemma backslash_notMem_forwardSlashes (p : Path) : '\\' ∉ p.forwardSlashes.toList := by
  rw [Path.forwardSlashes, String.toList_ofList, List.mem_map]
  rintro ⟨c, -, hc⟩
  split at hc
  · cases hc
  · contradiction

lemma backslash_notMem_specifier (base file : Location) : '\\' ∉ (specifier base file).toList := by
  simpa [specifier] using backslash_notMem_forwardSlashes (Location.relative base file)

lemma quotable_iff {s : String} (h : '\\' ∉ s.toList) :
    Script.Quotable s ↔ '"' ∉ s.toList ∧ '\n' ∉ s.toList ∧ '\r' ∉ s.toList := by
  constructor
  · intro hq
    exact ⟨fun hm => (hq _ hm).1 rfl, fun hm => (hq _ hm).2.2.1 rfl, fun hm => (hq _ hm).2.2.2 rfl⟩
  · rintro ⟨hq, hn, hr⟩ c hc
    refine ⟨?_, ?_, ?_, ?_⟩ <;> rintro rfl <;> contradiction

lemma gives_render {fs : FileSystem} (h : fs.WellFormed) {o : BuildOptions} {outcome : Outcome}
    (hr : (build fs o).result = .ok outcome) :
    ∃ b, (collect fs o).result = .ok b ∧ outcome.definitions = b.definitions ∧
      outcome.warnings = b.warnings ∧ (build fs o).Gives b.render := by
  have hc := build_course fs o
  have hgives : ∀ text, (match outcome.destination with
      | .returned returned => returned = text
      | .written path => (build fs o).files.contentAt path = .ok (encode text)) →
      (build fs o).Gives text := fun text ht => ⟨outcome, hr, ht⟩
  rw [hr] at hc
  generalize (build fs o).files = files at hc hgives
  cases hc with
  | @returned b hc => exact ⟨b, hc, rfl, rfl, hgives _ rfl⟩
  | @written b files hc _ _ hwrite =>
    obtain ⟨-, -, -, hread, -⟩ := FileSystem.writeFile_ok h hwrite
    exact ⟨b, hc, rfl, rfl, hgives _ hread⟩

lemma mem_definitions {fs : FileSystem} {o : BuildOptions} {b : Barrel} (h : (collect fs o).result = .ok b) :
    ∀ d ∈ b.definitions, (∃ path, d.binding = importName path) ∧
      ∃ base file, d.specifier = specifier base file := by
  obtain ⟨files, wd, -, -, rfl⟩ := collect_ok h
  intro d hd
  obtain ⟨file, -, rfl⟩ := List.mem_map.mp hd
  exact ⟨⟨_, rfl⟩, _, _, rfl⟩

lemma collect_render_iff {fs : FileSystem} {o : BuildOptions} (hk : ∀ key ∈ o.key, isIdentifier key = true)
    {b : Barrel} (h : (collect fs o).result = .ok b) (hw : b.warnings = []) :
    (b.definitions.map Definition.binding).Nodup ∧
      (∀ d ∈ b.definitions, isIdentifier d.binding = true ∧ d.binding ∉ Script.reserved) ∧
      (Script.module? b.render = some b.module ↔
        ∀ d ∈ b.definitions, '"' ∉ d.specifier.toList ∧ '\n' ∉ d.specifier.toList ∧ '\r' ∉ d.specifier.toList) := by
  have hkey := collect_key h
  have hmem := mem_definitions h
  obtain ⟨hi, hd⟩ := Barrel.warnings_eq_nil_iff.mp hw
  have hc : ∀ d ∈ b.definitions, ∀ c ∈ d.binding.toList.head?, c.isLower = false := by
    intro d hd c hc
    obtain ⟨⟨path, hpath⟩, -⟩ := hmem d hd
    rw [hpath] at hc
    exact importName_head hc
  have hb : ∀ d ∈ b.definitions, '\\' ∉ d.specifier.toList := by
    intro d hd
    obtain ⟨-, base, file, hs⟩ := hmem d hd
    rw [hs]
    exact backslash_notMem_specifier base file
  refine ⟨hd, fun d hd => ⟨hi d hd, Barrel.notMem_reserved (hc d hd)⟩, ?_⟩
  rw [Barrel.module?_render_iff hw (hkey ▸ hk) hc hb]
  exact forall₂_congr fun d hd => quotable_iff (hb d hd)

theorem gives_module_iff (fs : FileSystem) (h : fs.WellFormed) (o : BuildOptions)
    (hk : ∀ key ∈ o.key, isIdentifier key = true) {outcome : Outcome}
    (hr : (build fs o).result = .ok outcome) (hw : outcome.warnings = []) :
    (outcome.definitions.map Definition.binding).Nodup ∧
      (∀ d ∈ outcome.definitions, isIdentifier d.binding = true ∧ d.binding ∉ Script.reserved) ∧
      ∃ text, (build fs o).Gives text ∧
        (Script.module? text = some (Barrel.module ⟨outcome.definitions, o.key⟩) ↔
          ∀ d ∈ outcome.definitions,
            '"' ∉ d.specifier.toList ∧ '\n' ∉ d.specifier.toList ∧ '\r' ∉ d.specifier.toList) := by
  obtain ⟨b, hc, hdefinitions, hwarnings, hgives⟩ := gives_render h hr
  obtain ⟨hd, hn, hm⟩ := collect_render_iff hk hc (hwarnings ▸ hw)
  have hb : (⟨outcome.definitions, o.key⟩ : Barrel) = b := by
    rw [hdefinitions, ← collect_key hc]
  rw [hb, hdefinitions]
  exact ⟨hd, hn, b.render, hgives, hm⟩

def nestedFile : FileSystem where
  nodes := [.directory (encode "default") [.file (encode "it's é.js") []]]
  workingDirectory := Place.root

def keyedOptions : BuildOptions where
  scan := ⟨Path.ofString ".", Filter.all, true⟩
  output := ⟨[]⟩
  key := some "id"
  denyDuplicates := false

theorem nestedFile_gives_module :
    ∃ text, (build nestedFile keyedOptions).Gives text ∧ Script.module? text =
      some ⟨[⟨"DefaultItS", "./default/it's é.js"⟩], .object [("DefaultItS", "id", "DefaultItS")]⟩ := by
  have hr : (build nestedFile keyedOptions).result = .ok
      ⟨[⟨Path.ofString "./default/it's é.js", "DefaultItS", "./default/it's é.js"⟩], [],
        .returned ("import DefaultItS from \"./default/it's é.js\"\n\n" ++
          "export default \x7b\n    [DefaultItS.id]: DefaultItS\n\x7d")⟩ := by
    decide +kernel
  obtain ⟨-, -, text, hgives, hiff⟩ := gives_module_iff nestedFile (by decide) keyedOptions (by decide) hr rfl
  exact ⟨text, hgives, hiff.mpr (by decide)⟩

def quotedName : FileSystem where
  nodes := [.file (encode "a\".js") []]
  workingDirectory := Place.root

theorem quotedName_spoils_module :
    (build quotedName ⟨⟨Path.ofString ".", Filter.all, false⟩, ⟨[]⟩, none, false⟩).result =
        .ok ⟨[⟨Path.ofString "./a\".js", "A", "./a\".js"⟩], [],
          .returned "import A from \"./a\".js\"\n\nexport default [\n    A\n]"⟩ ∧
      Script.module? "import A from \"./a\".js\"\n\nexport default [\n    A\n]" = none := by
  refine ⟨?_, ?_⟩
  · rfl
  · rfl

end Build

end BarrelModule
