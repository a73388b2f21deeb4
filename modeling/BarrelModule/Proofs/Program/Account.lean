import BarrelModule.Program
import BarrelModule.Proofs.Barrel.ClosedForm
import BarrelModule.Proofs.Barrel.Module
import BarrelModule.Proofs.Build.Course
import BarrelModule.Proofs.FileSystem.Writing
import BarrelModule.Proofs.Program.Items

/-! What a report tells of a build, against the text of the module that the build gave. -/

namespace BarrelModule

open Text

namespace ReportItem

def warning? : ReportItem → Option String
  | .warning message => some message
  | _ => none

def heading? : ReportItem → Option String
  | .section title => some title
  | _ => none

def pair? : ReportItem → Option (String × String)
  | .keyValue key value => some (key, value)
  | _ => none

def added? : ReportItem → Option String
  | .addedItem text => some text
  | _ => none

def block? : ReportItem → Option String
  | .preformatted text => some text
  | _ => none

end ReportItem

def Literal.names : Literal → List String
  | .array elements => elements
  | .object properties => properties.map Prod.snd

def moduleText (imports : List (String × String)) (l : Literal) : String :=
  String.join (imports.map fun i => "import " ++ i.1 ++ " from \"" ++ i.2 ++ "\"\n") ++ "\n" ++
    "export default " ++ Barrel.enclosed l.opening l.items l.closing

namespace Barrel

variable (b : Barrel)

lemma render_eq_moduleText : b.render = moduleText (b.definitions.map interface) b.literal := by
  rw [render_eq_enclosed, moduleText, List.map_map]
  rfl

lemma names_literal : b.literal.names = b.definitions.map Definition.binding := by
  rw [literal]
  cases b.key <;> simp [Literal.names, Function.comp_def]

lemma literal_eq_array_iff : (∃ elements, b.literal = .array elements) ↔ b.key = none := by
  rw [literal]
  cases b.key <;> simp

lemma key_of_literal {properties : List (String × String)} (h : b.literal = .object properties) :
    ∃ key, b.key = some key ∧ ∀ p ∈ properties, p.1 = p.2 ++ "." ++ key := by
  rw [literal] at h
  cases hk : b.key with
  | none => simp [hk] at h
  | some key =>
    simp only [hk, Literal.object.injEq] at h
    subst h
    exact ⟨key, rfl, List.forall_mem_map.mpr fun _ _ => rfl⟩

end Barrel

namespace Report

lemma exportShape_eq_array_iff (key : Option String) : exportShape key = "array" ↔ key = none := by
  cases key with
  | none => exact ⟨fun _ => rfl, fun _ => rfl⟩
  | some key =>
    have hne : exportShape (some key) ≠ "array" := by
      intro h
      have hhead := congrArg (·.toList.head?) h
      simp [exportShape_some] at hhead
    simp [hne]

end Report

open ReportItem

/-- Calls of a report that are true of a module that imports for these definitions and exports a literal: an added
item for each import and for each item of the literal, their number in a heading or a notice that there are none,
and the shape of the literal, with the key that stands in its properties. -/
structure Tells (o : BuildOptions) (calls : List ReportItem) (ds : List Definition) (l : Literal) : Prop where
  warnings : calls.filterMap warning? = []
  added : calls.filterMap added? = ds.map fun d => d.binding ++ " (" ++ d.file.display ++ ")"
  exported : l.names = ds.map Definition.binding
  headings : calls.filterMap heading? =
    if l.items = [] then [] else ["Definitions (" ++ toString l.items.length ++ ")"]
  blocks : calls.filterMap block? =
    if l.items = [] then ["No meta definition files found in " ++ o.scan.directory.display] else []
  shape : ∃ shape, calls.filterMap pair? = [("Generated", o.output.display), ("Export", shape)] ∧
    (shape = "array" ↔ ∃ elements, l = .array elements) ∧
    ∀ properties, l = .object properties → ∃ key, o.key = some key ∧
      shape = "object keyed by '" ++ key ++ "'" ∧ ∀ p ∈ properties, p.1 = p.2 ++ "." ++ key

namespace Report

lemma tells_account {o : BuildOptions} {b : Barrel} (hk : b.key = o.key) :
    Tells o (account o b.definitions) b.definitions b.literal := by
  have hitems : b.literal.items = [] ↔ b.definitions = [] := by rw [Barrel.literal_items, List.map_eq_nil_iff]
  have hlength : b.literal.items.length = b.definitions.length := by rw [Barrel.literal_items, List.length_map]
  refine ⟨?warnings, ?added, b.names_literal, ?headings, ?blocks, exportShape o.key, ?pairs, ?array, ?object⟩
  case warnings => simp [filterMap_account, warning?]
  case added =>
    by_cases hn : b.definitions = [] <;> simp [filterMap_account, added?, hn]
  case headings => simp [filterMap_account, heading?, hitems, hlength]
  case blocks => simp [filterMap_account, block?, hitems]
  case pairs => simp [filterMap_account, pair?]
  case array => rw [exportShape_eq_array_iff, b.literal_eq_array_iff, hk]
  case object =>
    intro properties hl
    obtain ⟨key, hkey, hproperties⟩ := b.key_of_literal hl
    rw [hk] at hkey
    exact ⟨key, hkey, by rw [hkey, exportShape_some], hproperties⟩

end Report

namespace Program

theorem report_tells (fs : FileSystem) (h : fs.WellFormed) (o : BuildOptions) {report : Report}
    (hr : (reported fs o).2 = .ok report) :
    ∃ b, (Build.collect fs o).result = .ok b ∧
      (∀ text, report.destination = .returned text → text = b.render ∧
        report.items = b.warnings.map (fun w => .warning w.message) ++ [.preformatted b.render]) ∧
      ∀ path, report.destination = .written path → ∃ calls,
        report.items = b.warnings.map (fun w => .warning w.message) ++ calls ∧
        (build fs o).files.contentAt path =
          .ok (encode (moduleText (b.definitions.map Barrel.interface) b.literal)) ∧
        Tells o calls b.definitions b.literal := by
  obtain ⟨outcome, hbuild, rfl⟩ : ∃ outcome, (build fs o).result = .ok outcome ∧
      Report.ofOutcome o outcome = report := by
    cases hb : (build fs o).result with
    | error e => simp [reported, hb, Except.map] at hr
    | ok outcome => exact ⟨outcome, rfl, by simpa [reported, hb, Except.map] using hr⟩
  have hcourse := Build.build_course fs o
  rw [hbuild] at hcourse
  generalize (build fs o).files = files at hcourse ⊢
  cases hcourse with
  | @returned b hc =>
    refine ⟨b, hc, fun text ht => ?_, by simp [Report.ofOutcome]⟩
    obtain rfl : b.render = text := Destination.returned.inj ht
    exact ⟨rfl, Report.items_returned rfl⟩
  | @written b files hc _ _ hw =>
    obtain ⟨-, -, -, hread, -⟩ := FileSystem.writeFile_ok h hw
    refine ⟨b, hc, by simp [Report.ofOutcome], fun path hpath => ?_⟩
    obtain rfl : o.output = path := Destination.written.inj hpath
    refine ⟨_, Report.items_written rfl, ?_, Report.tells_account (Build.collect_key hc)⟩
    rw [hread, b.render_eq_moduleText]

def namesakes : FileSystem where
  nodes := [.directory (encode "defs") [.file (encode "A.js") [], .file (encode "a.js") []]]
  workingDirectory := Place.root

def keyedAccount : BuildOptions where
  scan := ⟨Path.ofString "defs", Filter.all, false⟩
  output := Path.ofString "all.js"
  key := some "id"
  denyDuplicates := false

theorem report_tells_namesakes :
    ∃ report calls, (reported namesakes keyedAccount).2 = .ok report ∧
      report.items = .warning "'defs/a.js' and 'defs/A.js' both import as 'A'" :: calls ∧
      calls.filterMap added? = ["A (defs/A.js)", "A (defs/a.js)"] ∧
      (build namesakes keyedAccount).files.contentAt (Path.ofString "all.js") =
        .ok (encode ("import A from \"./defs/A.js\"\nimport A from \"./defs/a.js\"\n\n" ++
          "export default \x7b\n    [A.id]: A,\n    [A.id]: A\n\x7d")) := by
  have hb : (Build.collect namesakes keyedAccount).result = .ok
      ⟨[⟨Path.ofString "defs/A.js", "A", "./defs/A.js"⟩, ⟨Path.ofString "defs/a.js", "A", "./defs/a.js"⟩],
        some "id"⟩ := rfl
  have hr : (reported namesakes keyedAccount).2 = .ok
      ⟨Path.ofString "defs", some "id", ["'defs/a.js' and 'defs/A.js' both import as 'A'"],
        [("A", "defs/A.js"), ("A", "defs/a.js")], .written (Path.ofString "all.js")⟩ := by
    simp only [reported, build, hb]
    rfl
  obtain ⟨b, hb', -, hwritten⟩ := report_tells namesakes (by decide) keyedAccount hr
  obtain rfl := Except.ok.inj (hb.symm.trans hb')
  obtain ⟨calls, hitems, hread, htells⟩ := hwritten _ rfl
  refine ⟨_, calls, hr, ?_, ?_, ?_⟩
  · rw [hitems]
    rfl
  · rw [htells.added]
    rfl
  · rw [hread]
    apply congrArg fun text => Except.ok (encode text)
    rfl

end Program

end BarrelModule
