import BarrelModule.Build
import Mathlib.Tactic.Lemma

namespace BarrelModule.Build

open Text

def denied? (o : BuildOptions) (b : Barrel) : Option Duplicate :=
  if o.denyDuplicates then b.duplicate? else none

inductive Course (fs : FileSystem) (o : BuildOptions) : Except BuildError Outcome → FileSystem → Prop
  | uncollected {e} (hc : (collect fs o).result = .error e) : Course fs o (.error e) fs
  | denied {b d} (hc : (collect fs o).result = .ok b) (hd : denied? o b = some d) :
      Course fs o (.error (.duplicate d)) fs
  | returned {b} (hc : (collect fs o).result = .ok b) (hd : denied? o b = none)
      (ho : o.output.bytes = []) :
      Course fs o (.ok ⟨b.definitions, b.warnings, .returned b.render⟩) fs
  | unwritable {b fault} (hc : (collect fs o).result = .ok b) (hd : denied? o b = none)
      (ho : o.output.bytes ≠ []) (hw : fs.writeFile o.output (encode b.render) = .error fault) :
      Course fs o (.error (.unwritable o.output fault)) fs
  | written {b files} (hc : (collect fs o).result = .ok b) (hd : denied? o b = none)
      (ho : o.output.bytes ≠ []) (hw : fs.writeFile o.output (encode b.render) = .ok files) :
      Course fs o (.ok ⟨b.definitions, b.warnings, .written o.output⟩) files

lemma deliver_course {fs : FileSystem} {o : BuildOptions} {b : Barrel}
    (hc : (collect fs o).result = .ok b) :
    Course fs o (deliver fs o b).result (deliver fs o b).files := by
  rw [deliver]
  split
  case h_1 d hd => exact .denied hc hd
  case h_2 hd =>
    split
    case isTrue ho => exact .returned hc hd ho
    case isFalse ho =>
      split
      case h_1 fault hw => exact .unwritable hc hd ho hw
      case h_2 files hw => exact .written hc hd ho hw

theorem build_course (fs : FileSystem) (o : BuildOptions) :
    Course fs o (build fs o).result (build fs o).files := by
  simp only [build]
  cases hc : (collect fs o).result with
  | error e => exact .uncollected hc
  | ok b => exact deliver_course hc

lemma outcome_of_build {fs : FileSystem} {o : BuildOptions} {outcome : Outcome}
    (hr : (build fs o).result = .ok outcome) :
    ∃ b, (collect fs o).result = .ok b ∧ outcome.definitions = b.definitions ∧ outcome.warnings = b.warnings ∧
      outcome.destination = if o.output.bytes = [] then .returned b.render else .written o.output := by
  have hcourse := build_course fs o
  rw [hr] at hcourse
  generalize (build fs o).files = files at hcourse
  cases hcourse with
  | returned hc _ ho => exact ⟨_, hc, rfl, rfl, (if_pos ho).symm⟩
  | written hc _ ho => exact ⟨_, hc, rfl, rfl, (if_neg ho).symm⟩

section Refused

variable {fs : FileSystem} {o : BuildOptions}

lemma build_uncollected {e : BuildError} (hc : (collect fs o).result = .error e) :
    (build fs o).result = .error e := by
  simp only [build, hc]

lemma build_denied {b : Barrel} {d : Duplicate} (hc : (collect fs o).result = .ok b)
    (hd : denied? o b = some d) :
    (build fs o).result = .error (.duplicate d) ∧ (build fs o).files = fs := by
  rw [denied?] at hd
  simp only [build, hc, deliver, hd, and_self]

end Refused

lemma discover_result (fs : FileSystem) (scan : Scan) :
    (discover fs scan).result =
      match Discovery.find fs scan with
      | .error refusal => .error (.unreadable refusal.path refusal.fault)
      | .ok files => .ok files := by
  rw [discover, Discovery.find]
  cases (Discovery.search fs scan).refusal? <;> rfl

lemma collect_result (fs : FileSystem) (o : BuildOptions) :
    (collect fs o).result =
      match Discovery.find fs o.scan with
      | .error refusal => .error (.unreadable refusal.path refusal.fault)
      | .ok files =>
        match fs.workingLocation with
        | .error fault => .error (.unresolvable (importBase o.output) fault)
        | .ok workingDirectory => .ok ⟨definitionsOf workingDirectory o files, o.key⟩ := by
  rw [collect, Journaled.bind, discover_result]
  cases Discovery.find fs o.scan with
  | error => rfl
  | ok files =>
    simp only [barrelOf]
    cases fs.workingLocation <;> rfl

lemma collect_refused {fs : FileSystem} {o : BuildOptions} {path : Path} {fault : ScanFault}
    (hf : Discovery.find fs o.scan = .error ⟨path, fault⟩) :
    (collect fs o).result = .error (.unreadable path fault) := by
  rw [collect_result, hf]

lemma collect_ok {fs : FileSystem} {o : BuildOptions} {b : Barrel} (h : (collect fs o).result = .ok b) :
    ∃ files workingDirectory, Discovery.find fs o.scan = .ok files ∧
      fs.workingLocation = .ok workingDirectory ∧ b = ⟨definitionsOf workingDirectory o files, o.key⟩ := by
  rw [collect_result] at h
  split at h
  case h_1 => cases h
  case h_2 files hf =>
    split at h
    case h_1 => cases h
    case h_2 workingDirectory hw => exact ⟨files, workingDirectory, hf, hw, (Except.ok.inj h).symm⟩

lemma collect_key {fs : FileSystem} {o : BuildOptions} {b : Barrel} (h : (collect fs o).result = .ok b) :
    b.key = o.key := by
  obtain ⟨files, workingDirectory, -, -, rfl⟩ := collect_ok h
  rfl

lemma collect_congr {fs fs' : FileSystem} {o : BuildOptions} {workingDirectory workingDirectory' : Location}
    (hw : fs.workingLocation = .ok workingDirectory) (hw' : fs'.workingLocation = .ok workingDirectory')
    (hs : Discovery.search fs' o.scan = Discovery.search fs o.scan)
    (hd : ∀ files, Discovery.find fs o.scan = .ok files →
      definitionsOf workingDirectory' o files = definitionsOf workingDirectory o files) :
    collect fs' o = collect fs o := by
  have hdiscover : discover fs' o.scan = discover fs o.scan := by rw [discover, discover, hs]
  rw [collect, collect, hdiscover, Journaled.bind, Journaled.bind, discover_result]
  cases hfind : Discovery.find fs o.scan with
  | error refusal => rfl
  | ok files => simp only [barrelOf, hw, hw', hd files hfind]

end BarrelModule.Build
