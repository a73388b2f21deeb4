import BarrelModule.Proofs.Barrel.Warnings
import BarrelModule.Proofs.Build.Course
import BarrelModule.Proofs.Discovery.Exact
import BarrelModule.Proofs.FileSystem.Writing

/-! The error that a build ends with is the one of the first stage at which something is wrong. What is wrong
at a stage is told here without the course of the build. -/

namespace BarrelModule

open Text

namespace FileSystem

/-- A path that can be opened for writing: it leads to a regular file, or to a free name in a directory. -/
def Writable (fs : FileSystem) (p : Path) : Prop :=
  ∃ parent n, fs.resolve .create p = .ok (.missing parent n) ∨
    ∃ old, fs.resolve .create p = .ok (.node parent (.file n old))

lemma writeFile_isOk_iff {fs : FileSystem} {p : Path} {content : Bytes} :
    (∃ fs', fs.writeFile p content = .ok fs') ↔ fs.Writable p := by
  constructor
  · rintro ⟨fs', hw⟩
    obtain ⟨parent, n, -, hr⟩ := writeFile_eq_ok hw
    exact ⟨parent, n, hr⟩
  · rintro ⟨parent, n, hr⟩
    exact ⟨_, writeFile_of_found hr content⟩

end FileSystem

lemma Discovery.find_isOk_iff {fs : FileSystem} (h : fs.WellFormed) {scan : Scan} :
    (∃ files, find fs scan = .ok files) ↔
      ∃ place, fs.resolve .stay scan.directory = .ok (.directory place) ∧ Listable fs scan place := by
  constructor
  · rintro ⟨files, hf⟩
    obtain ⟨place, hd, -⟩ := directory_of_find hf
    exact ⟨place, hd, (listable_iff h hd).mpr ⟨files, hf⟩⟩
  · rintro ⟨place, hd, hl⟩
    exact (listable_iff h hd).mp hl

namespace Build

inductive Stage where
  | discovery
  | resolution
  | naming
  | writing
  deriving DecidableEq, Repr

def Stage.rank : Stage → Nat
  | .discovery => 1
  | .resolution => 2
  | .naming => 3
  | .writing => 4

lemma Stage.rank_injective : Function.Injective Stage.rank := by
  intro s t h
  cases s <;> cases t <;> simp_all [Stage.rank]

/-- What is wrong at a stage: the path to scan leads to no directory, or names a link itself, or leaves too little
room for the names of a directory below; there is no working directory any more; a name is shared that must not
be; the output cannot be opened. -/
def Fails (fs : FileSystem) (o : BuildOptions) : Stage → Prop
  | .discovery => (∀ place, fs.resolve .follow o.scan.directory ≠ .ok (.directory place)) ∨
      (∃ l, fs.Names o.scan.directory l) ∨
      ∃ place, fs.resolve .follow o.scan.directory = .ok (.directory place) ∧
        ¬ Discovery.Listable fs o.scan place
  | .resolution => ∀ l, fs.workingLocation ≠ .ok l
  | .naming => o.denyDuplicates = true ∧
      ∃ b, (collect fs o).result = .ok b ∧ ¬ (b.definitions.map Definition.binding).Nodup
  | .writing => o.output.bytes ≠ [] ∧ ¬ fs.Writable o.output

def FailsFirst (fs : FileSystem) (o : BuildOptions) (s : Stage) : Prop :=
  Fails fs o s ∧ ∀ t, t.rank < s.rank → ¬ Fails fs o t

lemma FailsFirst.unique {fs : FileSystem} {o : BuildOptions} {s t : Stage} (h : FailsFirst fs o s)
    (h' : FailsFirst fs o t) : s = t := by
  apply Stage.rank_injective
  rcases Nat.lt_trichotomy s.rank t.rank with hlt | heq | hlt
  · exact absurd h.1 (h'.2 s hlt)
  · exact heq
  · exact absurd h'.1 (h.2 t hlt)

end Build

namespace BuildError

open Build

def stage : BuildError → Stage
  | .unreadable _ _ => .discovery
  | .unresolvable _ _ => .resolution
  | .duplicate _ => .naming
  | .unwritable _ _ => .writing

/-- The path that an error bears: the directory or the output as they are given, or the first directory below
that has too long a path, or else the directory that the output is in, which is the current one where the output
tells of none. -/
def Bears (fs : FileSystem) (o : BuildOptions) : BuildError → Prop
  | .unreadable path fault =>
      ((∀ place, fs.resolve .stay o.scan.directory ≠ .ok (.directory place)) ∧ path = o.scan.directory) ∨
      ∃ place l, fs.resolve .stay o.scan.directory = .ok (.directory place) ∧
        Discovery.FirstTooLong fs o.scan place l ∧ path = o.scan.directory.childOf l ∧
        fault = .refused .nameTooLong
  | .unresolvable path _ => (o.output.parent? = some path ∧ path.bytes ≠ []) ∨
      ((∀ p, o.output.parent? = some p → p.bytes = []) ∧ path = ⟨Path.dot⟩)
  | .duplicate _ => True
  | .unwritable path _ => path = o.output

end BuildError

namespace Build

lemma importBase_eq_parent_or_dot (output : Path) :
    (output.parent? = some (importBase output) ∧ (importBase output).bytes ≠ []) ∨
      ((∀ p, output.parent? = some p → p.bytes = []) ∧ importBase output = ⟨Path.dot⟩) := by
  rw [importBase]
  cases output.parent? with
  | none => simp
  | some p => by_cases hp : p.bytes = [] <;> simp [hp]

section Stages

variable {fs : FileSystem} (h : fs.WellFormed) {o : BuildOptions}

include h in
lemma find_error_iff : Fails fs o .discovery ↔ ∃ refusal, Discovery.find fs o.scan = .error refusal := by
  have hfails : Fails fs o .discovery ↔ ¬ ∃ files, Discovery.find fs o.scan = .ok files := by
    simp only [Discovery.find_isOk_iff h, FileSystem.resolve_stay_directory_iff, Fails]
    grind
  rw [hfails]
  cases Discovery.find fs o.scan <;> simp

lemma workingLocation_error_iff : Fails fs o .resolution ↔ ∃ fault, fs.workingLocation = .error fault := by
  rw [Fails]
  cases fs.workingLocation <;> simp

include h in
lemma collect_error {e : BuildError} (hc : (collect fs o).result = .error e) :
    FailsFirst fs o e.stage ∧ e.Bears fs o := by
  rw [collect_result] at hc
  split at hc
  case h_1 refusal hf =>
    cases hc
    refine ⟨⟨(find_error_iff h).mpr ⟨refusal, hf⟩, ?_⟩, ?_⟩
    · intro t ht
      cases t <;> simp [BuildError.stage, Stage.rank] at ht
    · rcases Discovery.find_error_cases h hf with ⟨hd, fault, rfl⟩ | ⟨place, l, hd, hl, rfl⟩
      · exact Or.inl ⟨hd, rfl⟩
      · exact Or.inr ⟨place, l, hd, hl, rfl, rfl⟩
  case h_2 files hf =>
    split at hc
    case h_2 => cases hc
    case h_1 fault hw =>
      cases hc
      refine ⟨⟨workingLocation_error_iff.mpr ⟨fault, hw⟩, ?_⟩, importBase_eq_parent_or_dot o.output⟩
      intro t ht
      cases t with
      | discovery => simp [find_error_iff h, hf]
      | resolution | naming | writing => simp [BuildError.stage, Stage.rank] at ht

lemma writing_error_iff (content : Bytes) (ho : o.output.bytes ≠ []) :
    Fails fs o .writing ↔ ∃ fault, fs.writeFile o.output content = .error fault := by
  have hok : (∃ fs', fs.writeFile o.output content = .ok fs') ↔ fs.Writable o.output :=
    FileSystem.writeFile_isOk_iff
  rw [Fails, ← hok]
  cases fs.writeFile o.output content <;> simp [ho]

variable {b : Barrel} (hc : (collect fs o).result = .ok b)
include hc

lemma fails_naming_iff : Fails fs o .naming ↔ denied? o b ≠ none := by
  rw [denied?]
  cases hd : o.denyDuplicates <;> simp [Fails, hd, hc, Barrel.duplicate?_eq_none_iff]

include h in
lemma not_fails_before_naming {t : Stage} (ht : t.rank < Stage.naming.rank) : ¬ Fails fs o t := by
  obtain ⟨files, workingDirectory, hf, hw, -⟩ := collect_ok hc
  cases t with
  | discovery => simp [find_error_iff h, hf]
  | resolution => simp [workingLocation_error_iff, hw]
  | naming | writing => simp [Stage.rank] at ht

include h in
lemma not_fails_before_writing (hd : denied? o b = none) {t : Stage} (ht : t.rank < Stage.writing.rank) :
    ¬ Fails fs o t := by
  cases t with
  | discovery | resolution => exact not_fails_before_naming h hc (by decide)
  | naming => simp [fails_naming_iff hc, hd]
  | writing => simp at ht

end Stages

lemma build_error {fs : FileSystem} (h : fs.WellFormed) {o : BuildOptions} {e : BuildError}
    (hr : (build fs o).result = .error e) : FailsFirst fs o e.stage ∧ e.Bears fs o := by
  have hcourse := build_course fs o
  rw [hr] at hcourse
  generalize (build fs o).files = files at hcourse
  cases hcourse with
  | uncollected hc => exact collect_error h hc
  | denied hc hd =>
    have hnaming : Fails fs o .naming := (fails_naming_iff hc).mpr (by simp [hd])
    exact ⟨⟨hnaming, fun _ => not_fails_before_naming h hc⟩, trivial⟩
  | unwritable hc hd ho hw =>
    have hwriting : Fails fs o .writing := (writing_error_iff _ ho).mpr ⟨_, hw⟩
    exact ⟨⟨hwriting, fun _ => not_fails_before_writing h hc hd⟩, rfl⟩

lemma build_succeeds {fs : FileSystem} (h : fs.WellFormed) {o : BuildOptions} {outcome : Outcome}
    (hr : (build fs o).result = .ok outcome) (s : Stage) : ¬ Fails fs o s := by
  obtain ⟨b, hc, hd, hwriting⟩ : ∃ b, (collect fs o).result = .ok b ∧ denied? o b = none ∧
      ¬ Fails fs o .writing := by
    have hcourse := build_course fs o
    rw [hr] at hcourse
    generalize (build fs o).files = files at hcourse
    cases hcourse with
    | returned hc hd ho => exact ⟨_, hc, hd, fun hf => hf.1 ho⟩
    | @written b files hc hd ho hw =>
      refine ⟨b, hc, hd, ?_⟩
      rw [writing_error_iff (encode b.render) ho, hw]
      simp
  cases s with
  | writing => exact hwriting
  | discovery | resolution | naming => exact not_fails_before_writing h hc hd (by decide)

/-- A build fails at a stage exactly when something is wrong at that stage and nothing at an earlier one, it
succeeds exactly when nothing is wrong at any, and the path in its error is one of those that it was given, or
that of the first directory below which the scan cannot enter. A link is taken for the directory that it leads to
where a slash, or a slash and a dot, comes after it. -/
theorem error_of_first_failure (fs : FileSystem) (h : fs.WellFormed) (o : BuildOptions) :
    (∀ s : Stage, (∃ e, (build fs o).result = .error e ∧ e.stage = s) ↔
        Fails fs o s ∧ ∀ t : Stage, t.rank < s.rank → ¬ Fails fs o t) ∧
      ((∃ outcome, (build fs o).result = .ok outcome) ↔ ∀ s, ¬ Fails fs o s) ∧
      (∀ e, (build fs o).result = .error e → e.Bears fs o) ∧
      ((o.scan.directory.endsInSlash = true ∨ o.scan.directory.segments.getLast? = some Path.dot) →
        ∀ l, ¬ fs.Names o.scan.directory l) := by
  refine ⟨fun s => ⟨?_, ?_⟩, ⟨?_, ?_⟩, fun e he => (build_error h he).2, FileSystem.not_names_of_slash⟩
  · rintro ⟨e, he, rfl⟩
    exact (build_error h he).1
  · intro hs
    cases hr : (build fs o).result with
    | ok outcome => exact absurd hs.1 (build_succeeds h hr s)
    | error e => exact ⟨e, rfl, (build_error h hr).1.unique hs⟩
  · rintro ⟨outcome, hr⟩
    exact build_succeeds h hr
  · intro hnone
    cases hr : (build fs o).result with
    | ok outcome => exact ⟨outcome, rfl⟩
    | error e => exact absurd (build_error h hr).1.1 (hnone e.stage)

def gone : FileSystem := ⟨[], ⟨[], 1⟩⟩

def absolutePaths : BuildOptions where
  scan := ⟨Path.ofString "/", Filter.all, false⟩
  output := Path.ofString "/out.js"
  key := none
  denyDuplicates := true

theorem gone_fails_resolution :
    ∃ e, (build gone absolutePaths).result = .error e ∧ e.Bears gone absolutePaths ∧
      Fails gone absolutePaths .resolution ∧ ¬ Fails gone absolutePaths .discovery := by
  have hr : (build gone absolutePaths).result = .error (.unresolvable (Path.ofString "/") .notFound) := rfl
  obtain ⟨hstages, -, hbears, -⟩ := error_of_first_failure gone (by decide) absolutePaths
  obtain ⟨hfails, hfirst⟩ := (hstages .resolution).mp ⟨_, hr, rfl⟩
  exact ⟨_, hr, hbears _ hr, hfails, hfirst .discovery (by decide)⟩

/-- The error bears the path of a directory below the one that is given, and that one is a directory. -/
theorem longScan_stops_build :
    Discovery.subdirectory.WellFormed ∧
      (∃ place, Discovery.subdirectory.resolve .stay Discovery.longScan.directory = .ok (.directory place)) ∧
      ∃ path fault, path ≠ Discovery.longScan.directory ∧
        (build Discovery.subdirectory ⟨Discovery.longScan, ⟨[]⟩, none, false⟩).result =
          .error (.unreadable path fault) := by
  have hw : Discovery.subdirectory.WellFormed := by decide
  have hd := Discovery.resolve_longScan .stay (by decide)
  obtain ⟨l, hl⟩ := Discovery.exists_firstTooLong hw hd Discovery.longScan_not_listable
  refine ⟨hw, ⟨_, hd⟩, Discovery.longScan.directory.childOf l, .refused .nameTooLong, ?_,
    build_uncollected (collect_refused (Discovery.find_of_firstTooLong hw hd hl))⟩
  intro he
  apply hl.tooLong
  rw [he]
  exact (FileSystem.resolve_eq_ok_iff.mp hd).1.fits

end Build

end BarrelModule
