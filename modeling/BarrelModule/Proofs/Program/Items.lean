import BarrelModule.Report
import Mathlib.Data.List.Basic
import Mathlib.Tactic.Lemma

namespace BarrelModule.Report

lemma filterMap_map_of_some {α β : Type} {item : α → ReportItem} {view? : ReportItem → Option β}
    {view : α → β} (h : ∀ a, view? (item a) = some (view a)) (as : List α) :
    (as.map item).filterMap view? = as.map view := by
  have hview : view? ∘ item = some ∘ view := funext h
  rw [List.filterMap_map, hview, List.filterMap_eq_map]

lemma filterMap_map_of_none {α β : Type} {item : α → ReportItem} {view? : ReportItem → Option β}
    (h : ∀ a, view? (item a) = none) (as : List α) : (as.map item).filterMap view? = [] := by
  rw [List.filterMap_eq_nil_iff, List.forall_mem_map]
  exact fun a _ => h a

lemma exportShape_some (key : String) : exportShape (some key) = "object keyed by '" ++ key ++ "'" := by
  have hquoted : exportShape (some key) = "object keyed by " ++ ("'" ++ key ++ "'") := rfl
  have hopening : "object keyed by " ++ "'" = "object keyed by '" := by decide
  rw [hquoted, ← String.append_assoc, ← String.append_assoc, hopening]

def account (o : BuildOptions) (ds : List Definition) : List ReportItem :=
  [.keyValue "Generated" o.output.display, .keyValue "Export" (exportShape o.key), .newline] ++
    if ds = [] then [.preformatted ("No meta definition files found in " ++ o.scan.directory.display)]
    else .section ("Definitions (" ++ toString ds.length ++ ")") ::
      ds.map fun d => .addedItem (d.binding ++ " (" ++ d.file.display ++ ")")

lemma listing_ofOutcome (o : BuildOptions) (outcome : Outcome) :
    (ofOutcome o outcome).listing =
      if outcome.definitions = [] then
        [.preformatted ("No meta definition files found in " ++ o.scan.directory.display)]
      else .section ("Definitions (" ++ toString outcome.definitions.length ++ ")") ::
        outcome.definitions.map fun d => .addedItem (d.binding ++ " (" ++ d.file.display ++ ")") := by
  simp only [listing, ofOutcome, List.isEmpty_iff, List.map_eq_nil_iff, List.length_map, List.map_map]
  rfl

variable {o : BuildOptions} {outcome : Outcome}

lemma warnings_ofOutcome : (ofOutcome o outcome).warnings.map ReportItem.warning =
    outcome.warnings.map fun w => .warning w.message := by
  rw [ofOutcome, List.map_map]
  rfl

lemma items_returned {text : String} (h : outcome.destination = .returned text) :
    (ofOutcome o outcome).items = outcome.warnings.map (fun w => .warning w.message) ++ [.preformatted text] := by
  have hdestination : (ofOutcome o outcome).destination = .returned text := h
  rw [items, hdestination, warnings_ofOutcome]

lemma items_written (h : outcome.destination = .written o.output) :
    (ofOutcome o outcome).items =
      outcome.warnings.map (fun w => .warning w.message) ++ account o outcome.definitions := by
  have hdestination : (ofOutcome o outcome).destination = .written o.output := h
  rw [items, hdestination, warnings_ofOutcome, account, ← listing_ofOutcome]
  rfl

lemma filterMap_account {β : Type} (view? : ReportItem → Option β) (o : BuildOptions) (ds : List Definition) :
    (account o ds).filterMap view? =
      [.keyValue "Generated" o.output.display, .keyValue "Export" (exportShape o.key), .newline].filterMap view? ++
        if ds = [] then
          (view? (.preformatted ("No meta definition files found in " ++ o.scan.directory.display))).toList
        else (view? (.section ("Definitions (" ++ toString ds.length ++ ")"))).toList ++
          ds.filterMap fun d => view? (.addedItem (d.binding ++ " (" ++ d.file.display ++ ")")) := by
  rw [account, List.filterMap_append]
  congr 1
  split
  · rw [List.filterMap_cons]
    cases view? _ <;> rfl
  · rw [List.filterMap_cons, List.filterMap_map]
    cases view? _ <;> rfl

end BarrelModule.Report
