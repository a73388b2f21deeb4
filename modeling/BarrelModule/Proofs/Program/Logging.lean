import BarrelModule.Proofs.Program.Streams
import BarrelModule.Proofs.Text.Fields
import Mathlib.Data.List.Basic
import Mathlib.Data.List.Flatten

/-! The verbosity and the log filter of a run are seen on standard error only, and a higher verbosity only adds
lines there. -/

namespace BarrelModule

open Text

namespace LogFilter

lemma rankFor_ofVerbosity (verbosity : Nat) (source : String) :
    rankFor (ofVerbosity verbosity) source = min (verbosity + 2) 4 := by
  match verbosity with
  | 0 => rfl
  | 1 => rfl
  | v + 2 =>
    have hmin : min (v + 2 + 2) 4 = 4 := by omega
    rw [hmin]
    rfl

lemma shows_ofVerbosity {verbosity : Nat} {e : Event} :
    (ofVerbosity verbosity).shows e = true ↔ e.level.rank ≤ min (verbosity + 2) 4 := by
  rw [shows, rankFor_ofVerbosity, decide_eq_true_iff]

lemma choose_none (verbosity : Nat) : choose none verbosity = ofVerbosity verbosity := rfl

end LogFilter

namespace Program

def lines (s : String) : List String :=
  (fields Diagnostic.newline s.toList).dropLast.map String.ofList

def pieces (line : String) : List String :=
  (fields Diagnostic.newline line.toList).map String.ofList

lemma lines_text (ls : List String) : lines (text ls) = ls.flatMap pieces := by
  induction ls with
  | nil => rfl
  | cons l ls ih =>
    have htext : (text (l :: ls)).toList = l.toList ++ '\n' :: (text ls).toList := by
      simp [text]
    rw [lines, htext, fields_append_cons _ rfl, List.dropLast_append_of_ne_nil (fields_ne_nil _ _), List.map_append,
      List.flatMap_cons, ← ih]
    rfl

lemma lines_text_sublist {ls ls' : List String} (h : ls.Sublist ls') :
    (lines (text ls)).Sublist (lines (text ls')) := by
  rw [lines_text, lines_text]
  exact h.flatMap pieces

lemma pieces_isInfix {l : String} {ls : List String} (h : l ∈ ls) : pieces l <:+: lines (text ls) := by
  obtain ⟨before, after, rfl⟩ := List.append_of_mem h
  rw [lines_text, List.flatMap_append, List.flatMap_cons]
  exact ⟨before.flatMap pieces, after.flatMap pieces, by simp⟩

lemma logLines_sublist {filter filter' : LogFilter} (h : ∀ e, filter.shows e = true → filter'.shows e = true)
    (events : List Event) : (logLines filter events).Sublist (logLines filter' events) := by
  apply List.Sublist.map
  exact List.monotone_filter_right events h

lemma exists_runBuild (fs : FileSystem) (o : BuildOptions) :
    ∃ exitCode output told, ∀ filter, runBuild fs filter o =
      ⟨exitCode, output, text (logLines filter (buildingEvent o :: (build fs o).events) ++ told), (build fs o).files⟩ := by
  cases hr : (build fs o).result with
  | error e => exact ⟨1, "", Diagnostic.lines e, fun filter => runBuild_error filter hr⟩
  | ok outcome => exact ⟨0, _, _, fun filter => runBuild_ok filter hr⟩

section Warned

variable {fs : FileSystem} {o : BuildOptions} {b : Barrel} {w : Warning}

lemma warningEvent_mem (hc : (Build.collect fs o).result = .ok b) (hd : Build.denied? o b = none)
    (hw : w ∈ b.warnings) : Build.warningEvent w ∈ (build fs o).events := by
  have hwarned := List.mem_map_of_mem (f := Build.warningEvent) hw
  have hdelivered : Build.warningEvent w ∈ (Build.deliver fs o b).events := by
    rw [Build.denied?] at hd
    simp only [Build.deliver, hd]
    split
    · exact hwarned
    · split
      · exact hwarned
      · exact List.mem_append_left _ hwarned
  simp only [build, hc]
  exact List.mem_append_right _ hdelivered

lemma warning_logged (hc : (Build.collect fs o).result = .ok b) (hd : Build.denied? o b = none)
    (hw : w ∈ b.warnings) (verbosity : Nat) :
    pieces (" WARN " ++ w.message) <:+: lines (runBuild fs (LogFilter.ofVerbosity verbosity) o).errors := by
  obtain ⟨exitCode, output, told, hrun⟩ := exists_runBuild fs o
  have hshown : (LogFilter.ofVerbosity verbosity).shows (Build.warningEvent w) = true := by
    rw [LogFilter.shows_ofVerbosity, Build.warningEvent, Level.rank]
    omega
  have hline : (Build.warningEvent w).line = " WARN " ++ w.message := by
    simp [Build.warningEvent, Event.line, Level.label]
  rw [hrun, ← hline]
  apply pieces_isInfix
  apply List.mem_append_left
  apply List.mem_map_of_mem
  exact List.mem_filter.mpr ⟨List.mem_cons_of_mem _ (warningEvent_mem hc hd hw), hshown⟩

lemma warning_reported (hc : (Build.collect fs o).result = .ok b) (hw : w ∈ b.warnings) {outcome : Outcome}
    (hr : (build fs o).result = .ok outcome) (filter : LogFilter) :
    pieces ("warning: " ++ w.message) <:+: lines (runBuild fs filter o).errors := by
  obtain ⟨b', hc', -, hwarnings, -⟩ := Build.outcome_of_build hr
  obtain rfl : b' = b := Except.ok.inj (hc'.symm.trans hc)
  rw [runBuild_ok filter hr, hwarnings]
  apply pieces_isInfix
  apply List.mem_append_right
  exact List.mem_map_of_mem (f := fun w : Warning => "warning: " ++ w.message) hw

end Warned

section Verbosity

variable {args args' : List String} {verbosity verbosity' : Nat} {o : BuildOptions}

lemma run_unset (hp : CommandLine.parse args = .ok ⟨verbosity, .build o⟩) (fs : FileSystem) :
    run fs none args = runBuild fs (LogFilter.ofVerbosity verbosity) o := by
  rw [run_build hp, LogFilter.choose_none]

lemma warning_shown {fs : FileSystem} {b : Barrel} {w : Warning}
    (hp : CommandLine.parse args = .ok ⟨verbosity, .build o⟩) (hc : (Build.collect fs o).result = .ok b)
    (hd : Build.denied? o b = none) (hw : w ∈ b.warnings) :
    pieces (" WARN " ++ w.message) <:+: lines (run fs none args).errors ∧
      ((run fs none args).exitCode = 0 → pieces ("warning: " ++ w.message) <:+: lines (run fs none args).errors) := by
  rw [run_unset hp]
  refine ⟨warning_logged hc hd hw verbosity, fun hexit => ?_⟩
  cases hr : (build fs o).result with
  | error e => simp [runBuild_error _ hr] at hexit
  | ok outcome => exact warning_reported hc hw hr _

theorem verbosity_only_adds (fs : FileSystem) (hp : CommandLine.parse args = .ok ⟨verbosity, .build o⟩)
    (hp' : CommandLine.parse args' = .ok ⟨verbosity', .build o⟩) :
    (∀ logFilter logFilter', (run fs logFilter args).exitCode = (run fs logFilter' args').exitCode ∧
      (run fs logFilter args).output = (run fs logFilter' args').output ∧
      (run fs logFilter args).files = (run fs logFilter' args').files) ∧
    (verbosity ≤ verbosity' →
      (lines (run fs none args).errors).Sublist (lines (run fs none args').errors)) ∧
    ∀ b, (Build.collect fs o).result = .ok b → Build.denied? o b = none → ∀ w ∈ b.warnings,
      ∀ as ∈ [args, args'], pieces (" WARN " ++ w.message) <:+: lines (run fs none as).errors ∧
        ((run fs none as).exitCode = 0 →
          pieces ("warning: " ++ w.message) <:+: lines (run fs none as).errors) := by
  obtain ⟨exitCode, output, told, hrun⟩ := exists_runBuild fs o
  refine ⟨fun logFilter logFilter' => ?_, fun hv => ?_, fun b hc hd w hw => ?_⟩
  · rw [run_build hp, run_build hp', hrun, hrun]
    exact ⟨rfl, rfl, rfl⟩
  · rw [run_unset hp, run_unset hp', hrun, hrun]
    apply lines_text_sublist
    apply List.Sublist.append_right
    apply logLines_sublist
    intro e he
    rw [LogFilter.shows_ofVerbosity] at he ⊢
    omega
  · rw [List.forall_mem_cons, List.forall_mem_singleton]
    exact ⟨warning_shown hp hc hd hw, warning_shown hp' hc hd hw⟩

def quietArgs : List String := ["build", "-d", "defs", "-i", "", "-o", ""]

def loudArgs : List String := ["build", "-d", "defs", "-vv", "-i", "", "-o", ""]

theorem verbosity_only_adds_numbered :
    CommandLine.parse quietArgs = .ok ⟨0, .build returning⟩ ∧
      CommandLine.parse loudArgs = .ok ⟨2, .build returning⟩ ∧
      (run numbered (some "off") quietArgs).output = (run numbered (some "trace") loudArgs).output ∧
      (lines (run numbered none quietArgs).errors).Sublist (lines (run numbered none loudArgs).errors) ∧
      pieces " WARN 'defs/1.js' produces '1', which is not a valid identifier" <:+:
        lines (run numbered none quietArgs).errors := by
  have hp : CommandLine.parse quietArgs = .ok ⟨0, .build returning⟩ := rfl
  have hp' : CommandLine.parse loudArgs = .ok ⟨2, .build returning⟩ := rfl
  have hc : (Build.collect numbered returning).result =
      .ok ⟨[⟨Path.ofString "defs/1.js", "1", "./defs/1.js"⟩], none⟩ := rfl
  have hw : Warning.invalidName (Path.ofString "defs/1.js") "1" ∈
      Barrel.warnings ⟨[⟨Path.ofString "defs/1.js", "1", "./defs/1.js"⟩], none⟩ := by
    decide
  have hmessage : (Warning.invalidName (Path.ofString "defs/1.js") "1").message =
      "'defs/1.js' produces '1', which is not a valid identifier" := rfl
  obtain ⟨hsame, hadds, hwarned⟩ := verbosity_only_adds numbered hp hp'
  have hshown := (hwarned _ hc rfl _ hw _ List.mem_cons_self).1
  rw [hmessage] at hshown
  exact ⟨hp, hp', (hsame (some "off") (some "trace")).2.1, hadds (by decide), hshown⟩

end Verbosity

end Program

end BarrelModule
