import BarrelModule.Program
import BarrelModule.Proofs.Barrel.Rendering
import BarrelModule.Proofs.Build.Course
import BarrelModule.Proofs.Program.Items
import Mathlib.Data.List.Induction

/-! What a run of the program that builds leaves behind: the files of the build, an exit code, and on standard
output the module or an account of it, never both. -/

namespace BarrelModule

open Text

namespace Report

variable (r : Report)

lemma errorLines_warnings (ws : List String) :
    (ws.map ReportItem.warning).filterMap ReportItem.errorLine? = ws.map ("warning: " ++ ·) := by
  have hline : ∀ w, ReportItem.errorLine? (.warning w) = some ("warning: " ++ w) := fun _ => rfl
  exact filterMap_map_of_some hline ws

lemma outputLines_warnings (ws : List String) :
    (ws.map ReportItem.warning).filterMap ReportItem.outputLine? = [] :=
  filterMap_map_of_none (fun _ => rfl) ws

lemma errorLines_listing : r.listing.filterMap ReportItem.errorLine? = [] := by
  rw [listing]
  split
  · rfl
  · rw [List.filterMap_cons_none rfl]
    exact filterMap_map_of_none (fun _ => rfl) _

lemma errorLines_items : r.items.filterMap ReportItem.errorLine? = r.warnings.map ("warning: " ++ ·) := by
  rw [items, List.filterMap_append, errorLines_warnings]
  cases r.destination with
  | returned text => simp [ReportItem.errorLine?]
  | written path =>
    rw [List.filterMap_append, errorLines_listing]
    simp [ReportItem.errorLine?]

lemma outputLines_returned {text : String} (h : r.destination = .returned text) :
    r.items.filterMap ReportItem.outputLine? = [text] := by
  rw [items, List.filterMap_append, outputLines_warnings, h]
  rfl

end Report

namespace Program

def accountLines (o : BuildOptions) (ds : List Definition) : List String :=
  ["Generated: " ++ o.output.display,
    "Export: " ++ (match o.key with
      | none => "array"
      | some key => "object keyed by '" ++ key ++ "'"), ""] ++
  if ds = [] then ["No meta definition files found in " ++ o.scan.directory.display]
  else ("Definitions (" ++ toString ds.length ++ "):") ::
    ds.map fun d => "  + " ++ d.binding ++ " (" ++ d.file.display ++ ")"

lemma outputLines_ofOutcome {o : BuildOptions} {outcome : Outcome}
    (h : outcome.destination = .written o.output) :
    (Report.ofOutcome o outcome).items.filterMap ReportItem.outputLine? =
      accountLines o outcome.definitions := by
  have hshape : Report.exportShape o.key = (match o.key with
      | none => "array"
      | some key => "object keyed by '" ++ key ++ "'") := by
    cases o.key with
    | none => rfl
    | some key => exact Report.exportShape_some key
  rw [Report.items_written h, List.filterMap_append, Report.filterMap_map_of_none fun _ => rfl,
    List.nil_append, Report.filterMap_account, accountLines, ← hshape]
  simp [ReportItem.outputLine?, String.append_assoc]

lemma head?_render (b : Barrel) : b.render.toList.head? = some 'i' ∨ b.render.toList.head? = some '\n' := by
  rw [Barrel.render_toList]
  cases b.definitions with
  | nil => exact Or.inr rfl
  | cons d ds =>
    left
    simp [Barrel.importLine, CodeWriter.laid, CodeWriter.indentation]

lemma render_not_isPrefix_account (b : Barrel) (o : BuildOptions) (ds : List Definition) :
    ¬ b.render.toList <+: (text (accountLines o ds)).toList := by
  -- A module opens with an import or with an empty line, an account never does.
  have hhead : (text (accountLines o ds)).toList.head? = some 'G' := by
    simp [text, accountLines]
  rintro ⟨rest, hrest⟩
  rw [← hrest] at hhead
  rcases head?_render b with hr | hr
  · simp [List.head?_append, hr] at hhead
  · simp [List.head?_append, hr] at hhead

section Runs

variable {fs : FileSystem} {o : BuildOptions} (filter : LogFilter)

lemma runBuild_error {e : BuildError} (h : (build fs o).result = .error e) :
    runBuild fs filter o = ⟨1, "", text (logLines filter (buildingEvent o :: (build fs o).events) ++
      Diagnostic.lines e), (build fs o).files⟩ := by
  simp only [runBuild, reported, h, Except.map]

lemma runBuild_ok {outcome : Outcome} (h : (build fs o).result = .ok outcome) :
    runBuild fs filter o =
      ⟨0, text ((Report.ofOutcome o outcome).items.filterMap ReportItem.outputLine?),
        text (logLines filter (buildingEvent o :: (build fs o).events) ++
          outcome.warnings.map fun w => "warning: " ++ w.message), (build fs o).files⟩ := by
  simp only [runBuild, reported, h, Except.map, Report.errorLines_items]
  simp only [Report.ofOutcome, List.map_map]
  rfl

end Runs

lemma run_build {args : List String} {verbosity : Nat} {o : BuildOptions}
    (hp : CommandLine.parse args = .ok ⟨verbosity, .build o⟩) (fs : FileSystem) (logFilter : Option String) :
    run fs logFilter args = runBuild fs (LogFilter.choose logFilter verbosity) o := by
  rw [run, hp]

lemma runBuild_output {fs : FileSystem} {o : BuildOptions} (filter : LogFilter) {outcome : Outcome}
    (h : (build fs o).result = .ok outcome) :
    ∃ b, (Build.collect fs o).result = .ok b ∧
      (o.output.bytes = [] → (runBuild fs filter o).output = b.render ++ "\n") ∧
      (o.output.bytes ≠ [] → (runBuild fs filter o).output = text (accountLines o b.definitions)) := by
  obtain ⟨b, hc, hdefinitions, -, hdestination⟩ := Build.outcome_of_build h
  rw [runBuild_ok filter h]
  refine ⟨b, hc, fun ho => ?_, fun ho => ?_⟩
  · rw [if_pos ho] at hdestination
    rw [Report.outputLines_returned (Report.ofOutcome o outcome) hdestination]
    simp [text]
  · rw [if_neg ho] at hdestination
    rw [outputLines_ofOutcome hdestination, hdefinitions]

theorem run_shows_build (fs : FileSystem) (logFilter : Option String) {args : List String} {verbosity : Nat}
    {o : BuildOptions} (hp : CommandLine.parse args = .ok ⟨verbosity, .build o⟩) :
    (run fs logFilter args).files = (build fs o).files ∧
      (run fs logFilter args).exitCode = (if (build fs o).result.isOk then 0 else 1) ∧
      (∀ e, (build fs o).result = .error e → (run fs logFilter args).output = "") ∧
      ∀ outcome, (build fs o).result = .ok outcome → ∃ b, (Build.collect fs o).result = .ok b ∧
        (o.output.bytes = [] → (run fs logFilter args).output = b.render ++ "\n") ∧
        (o.output.bytes ≠ [] → (run fs logFilter args).output = text (accountLines o b.definitions) ∧
          ¬ b.render.toList <+: (run fs logFilter args).output.toList) := by
  rw [run_build hp]
  cases hr : (build fs o).result with
  | error e =>
    rw [runBuild_error _ hr]
    exact ⟨rfl, rfl, fun _ _ => rfl, by simp⟩
  | ok outcome =>
    obtain ⟨b, hc, hmodule, haccount⟩ := runBuild_output (LogFilter.choose logFilter verbosity) hr
    refine ⟨?_, ?_, by simp, fun _ _ => ⟨b, hc, hmodule, fun ho => ⟨haccount ho, ?_⟩⟩⟩
    · rw [runBuild_ok _ hr]
    · rw [runBuild_ok _ hr]
      rfl
    · rw [haccount ho]
      exact render_not_isPrefix_account b o b.definitions

def numbered : FileSystem where
  nodes := [.directory (encode "defs") [.file (encode "1.js") []]]
  workingDirectory := Place.root

def returning : BuildOptions where
  scan := ⟨Path.ofString "defs", Filter.all, false⟩
  output := ⟨[]⟩
  key := none
  denyDuplicates := false

def returningArgs : List String := ["-v", "build", "-d", "defs", "-i", "", "-o", ""]

theorem run_shows_build_numbered :
    CommandLine.parse returningArgs = .ok ⟨1, .build returning⟩ ∧
      (build numbered returning).result.map (fun outcome => outcome.warnings.length) = .ok 1 ∧
      (run numbered (some "trace") returningArgs).exitCode = 0 ∧
      (run numbered (some "trace") returningArgs).output =
        "import 1 from \"./defs/1.js\"\n\nexport default [\n    1\n]\n" := by
  have hp : CommandLine.parse returningArgs = .ok ⟨1, .build returning⟩ := rfl
  have hw : (build numbered returning).result.map (fun outcome => outcome.warnings.length) = .ok 1 := rfl
  have hrender : (Build.collect numbered returning).result.map Barrel.render =
      .ok "import 1 from \"./defs/1.js\"\n\nexport default [\n    1\n]" := rfl
  obtain ⟨-, hexit, -, hok⟩ := run_shows_build numbered (some "trace") hp
  cases hr : (build numbered returning).result with
  | error e => simp [hr, Except.map] at hw
  | ok outcome =>
    obtain ⟨b, hc, hmodule, -⟩ := hok outcome hr
    rw [hc] at hrender
    refine ⟨hp, hr ▸ hw, ?_, ?_⟩
    · rw [hexit, hr]
      rfl
    · rw [hmodule rfl, Except.ok.inj hrender]
      rfl

end Program

end BarrelModule
