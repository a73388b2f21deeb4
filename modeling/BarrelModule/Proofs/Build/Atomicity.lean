import BarrelModule.Proofs.Build.Course
import BarrelModule.Proofs.FileSystem.Writing

namespace BarrelModule.Build

open Text

theorem build_changes_output_only (fs : FileSystem) (h : fs.WellFormed) (o : BuildOptions) :
    (∀ e, (build fs o).result = .error e → (build fs o).files = fs) ∧
      (o.output.bytes = [] → (build fs o).files = fs) ∧
      ∀ outcome path, (build fs o).result = .ok outcome → outcome.destination = .written path →
        ∃ b l, (collect fs o).result = .ok b ∧ outcome.definitions = b.definitions ∧
          path = o.output ∧ fs.Opens o.output l ∧
          FileSystem.Writes fs (build fs o).files l (encode b.render) ∧
          (build fs o).files.contentAt o.output = .ok (encode b.render) ∧
          (build fs o).files.WellFormed := by
  have hc := build_course fs o
  generalize (build fs o).result = result at hc ⊢
  generalize (build fs o).files = files at hc ⊢
  cases hc with
  | uncollected | denied | unwritable => simp
  | returned _ _ ho =>
    refine ⟨by simp, by simp, ?_⟩
    intro outcome path hr hd
    cases hr
    cases hd
  | @written b files hc _ ho hw =>
    refine ⟨by simp, fun he => absurd he ho, ?_⟩
    intro outcome path hr hd
    cases hr
    cases hd
    obtain ⟨l, hopens, hwrites, hread, hwf⟩ := FileSystem.writeFile_ok h hw
    exact ⟨b, l, hc, rfl, rfl, hopens, hwrites, hread, hwf⟩

def linkedOutput : FileSystem where
  nodes := [.directory (encode "defs") [.file (encode "a.js") []],
    .link (encode "out.js") (Path.ofString "defs/b.js")]
  workingDirectory := Place.root

def linkedOptions : BuildOptions where
  scan := ⟨Path.ofString "defs", Filter.all, false⟩
  output := Path.ofString "out.js"
  key := some "id"
  denyDuplicates := true

theorem build_through_dangling_link :
    ∃ b l, (collect linkedOutput linkedOptions).result = .ok b ∧
      linkedOutput.Opens (Path.ofString "out.js") l ∧
      FileSystem.Writes linkedOutput (build linkedOutput linkedOptions).files l (encode b.render) := by
  have hr : (build linkedOutput linkedOptions).result =
      .ok ⟨[⟨Path.ofString "defs/a.js", "A", "./defs/a.js"⟩], [], .written (Path.ofString "out.js")⟩ := rfl
  obtain ⟨-, -, hwritten⟩ := build_changes_output_only linkedOutput (by decide) linkedOptions
  obtain ⟨b, l, hc, -, -, hopens, hwrites, -, -⟩ := hwritten _ _ hr rfl
  exact ⟨b, l, hc, hopens, hwrites⟩

end BarrelModule.Build
