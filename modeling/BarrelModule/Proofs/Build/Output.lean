import BarrelModule.Proofs.Build.Course
import BarrelModule.Proofs.FileSystem.Writing

namespace BarrelModule

open Text

def Run.Delivers (run : Run) (output : Path) (text : String) : Prop :=
  if output.bytes = [] then run.result.map Outcome.destination = .ok (.returned text)
  else run.result.map Outcome.destination = .ok (.written output) ∧
    run.files.contentAt output = .ok (encode text)

/-- Errors that come from the working directory or from the output, not from what is built. -/
def BuildError.Outward : BuildError → Prop
  | .unresolvable _ _ => True
  | .unwritable _ _ => True
  | _ => False

namespace Build

def SameBase (fs : FileSystem) (p q : Path) : Prop :=
  ∀ workingDirectory, fs.workingLocation = .ok workingDirectory →
    (importBase p).absolute workingDirectory = (importBase q).absolute workingDirectory

instance (fs : FileSystem) (p q : Path) : Decidable (SameBase fs p q) :=
  match h : fs.workingLocation with
  | .error _ => isTrue fun _ hw => by simp [h] at hw
  | .ok workingDirectory =>
    decidable_of_iff ((importBase p).absolute workingDirectory = (importBase q).absolute workingDirectory)
      (by simp [SameBase, h])

variable {fs : FileSystem} {o : BuildOptions}

lemma collect_elsewhere {output : Path} (hb : SameBase fs o.output output)
    (hr : ∀ e, (collect fs o).result = .error e → ¬ e.Outward) :
    (collect fs { o with output := output }).result = (collect fs o).result := by
  rw [collect_result, collect_result]
  cases hf : Discovery.find fs o.scan with
  | error fault => rfl
  | ok files =>
    cases hw : fs.workingLocation with
    | error fault =>
      have he : (collect fs o).result = .error (.unresolvable (importBase o.output) fault) := by
        rw [collect_result, hf, hw]
      exact absurd trivial (hr _ he)
    | ok workingDirectory => simp only [definitionsOf, hb workingDirectory hw]

lemma build_allowed (h : fs.WellFormed) {b : Barrel} (hc : (collect fs o).result = .ok b)
    (hd : denied? o b = none) (hr : ∀ e, (build fs o).result = .error e → ¬ e.Outward) :
    ∃ outcome, (build fs o).result = .ok outcome ∧ outcome.definitions = b.definitions ∧
      outcome.warnings = b.warnings ∧ (build fs o).Delivers o.output b.render := by
  have hcourse := build_course fs o
  rw [Run.Delivers]
  generalize (build fs o).result = result at hcourse hr ⊢
  generalize (build fs o).files = files at hcourse ⊢
  cases hcourse with
  | uncollected hc' => cases hc.symm.trans hc'
  | denied hc' hd' =>
    cases hc.symm.trans hc'
    cases hd.symm.trans hd'
  | unwritable => exact absurd trivial (hr _ rfl)
  | returned hc' _ ho =>
    cases hc.symm.trans hc'
    refine ⟨_, rfl, rfl, rfl, ?_⟩
    rw [if_pos ho]
    rfl
  | written hc' _ ho hw =>
    cases hc.symm.trans hc'
    obtain ⟨-, -, -, hread, -⟩ := FileSystem.writeFile_ok h hw
    refine ⟨_, rfl, rfl, rfl, ?_⟩
    rw [if_neg ho]
    exact ⟨rfl, hread⟩

theorem build_elsewhere (fs : FileSystem) (h : fs.WellFormed) (o : BuildOptions) (output : Path)
    (hb : SameBase fs o.output output) (hr : ∀ e, (build fs o).result = .error e → ¬ e.Outward)
    (hr' : ∀ e, (build fs { o with output := output }).result = .error e → ¬ e.Outward) :
    (∃ e, (build fs o).result = .error e ∧ (build fs { o with output := output }).result = .error e) ∨
      ∃ outcome outcome' text, (build fs o).result = .ok outcome ∧
        (build fs { o with output := output }).result = .ok outcome' ∧
        outcome.definitions = outcome'.definitions ∧ outcome.warnings = outcome'.warnings ∧
        (build fs o).Delivers o.output text ∧ (build fs { o with output := output }).Delivers output text := by
  have hc' : (collect fs { o with output := output }).result = (collect fs o).result := by
    apply collect_elsewhere hb
    intro e he
    exact hr e (build_uncollected he)
  cases hc : (collect fs o).result with
  | error e =>
    rw [hc] at hc'
    exact Or.inl ⟨e, build_uncollected hc, build_uncollected hc'⟩
  | ok b =>
    rw [hc] at hc'
    cases hd : denied? o b with
    | some d =>
      have hd' : denied? { o with output := output } b = some d := hd
      exact Or.inl ⟨.duplicate d, (build_denied hc hd).1, (build_denied hc' hd').1⟩
    | none =>
      have hd' : denied? { o with output := output } b = none := hd
      obtain ⟨outcome, hok, hdefinitions, hwarnings, htext⟩ := build_allowed h hc hd hr
      obtain ⟨outcome', hok', hdefinitions', hwarnings', htext'⟩ := build_allowed h hc' hd' hr'
      exact Or.inr ⟨outcome, outcome', b.render, hok, hok', hdefinitions.trans hdefinitions'.symm,
        hwarnings.trans hwarnings'.symm, htext, htext'⟩

def formerOutput : FileSystem where
  nodes := [.directory (encode "x") [.file (encode "é.js") []],
    .file (encode "out.js") (encode "import A from \"./a.js\"\nimport B from \"./b.js\"\n\nexport default [\n    A,\n    B\n]")]
  workingDirectory := Place.root

def unwrittenOptions : BuildOptions where
  scan := ⟨Path.ofString ".", Filter.all, true⟩
  output := ⟨[]⟩
  key := none
  denyDuplicates := false

theorem formerOutput_elsewhere :
    ∃ text, (build formerOutput unwrittenOptions).Delivers ⟨[]⟩ text ∧
      (build formerOutput { unwrittenOptions with output := Path.ofString "x/..//out.js" }).Delivers
        (Path.ofString "x/..//out.js") text := by
  have hr : (build formerOutput unwrittenOptions).result.isOk = true := rfl
  have hr' : (build formerOutput
      { unwrittenOptions with output := Path.ofString "x/..//out.js" }).result.isOk = true := rfl
  have hno : ∀ {result : Except BuildError Outcome}, result.isOk = true →
      ∀ e, result = .error e → ¬ e.Outward := by
    rintro _ hok e rfl
    cases hok
  rcases build_elsewhere formerOutput (by decide) unwrittenOptions (Path.ofString "x/..//out.js")
    (by decide) (hno hr) (hno hr') with ⟨e, he, -⟩ | ⟨_, _, text, -, -, -, -, htext, htext'⟩
  · rw [he] at hr
    cases hr
  · exact ⟨text, htext, htext'⟩

end Build

end BarrelModule
