import BarrelModule.Proofs.CommandLine.Spelling
import Mathlib.Data.List.Forall2

namespace BarrelModule.CommandLine

namespace Draft

def take (d : Draft) : Given → Draft
  | .setting s value => { d with values := (s, value) :: d.values }
  | .switch s => { d with switches := s :: d.switches }

lemma value?_take (d : Draft) (s s' : Setting) (value : String) :
    (d.take (.setting s value)).value? s' = if s' = s then some value else d.value? s' := by
  simp only [take, value?, List.lookup_cons]
  by_cases hs : s' = s
  · simp [hs]
  · simp [hs, beq_false_of_ne hs]

structure Records (d : Draft) (given : List Given) : Prop where
  values : ∀ s value, d.value? s = some value ↔ .setting s value ∈ given
  switches : ∀ s, s ∈ d.switches ↔ .switch s ∈ given
  verbosity : d.verbosity = 0
  pending : d.pending = none
  operandsOnly : d.operandsOnly = false

end Draft

def Given.Allowed : Given → Prop
  | .setting s value => Draft.checkValue s value = .ok ()
  | .switch _ => True

namespace Draft

lemma records_empty : empty.Records [] where
  values s value := by simp [value?, empty]
  switches s := by simp [empty]
  verbosity := rfl
  pending := rfl
  operandsOnly := rfl

structure Settles (d e : Draft) : Prop where
  settled : d.settle = .ok e
  operandsOnly : d.operandsOnly = false

section Records

variable {d e : Draft} {given : List Given} (h : e.Records given)
include h

lemma Records.settles : e.Settles e where
  settled := by rw [settle, h.pending]
  operandsOnly := h.operandsOnly

lemma Records.value?_eq_none {s : Setting} (hg : Meaning.setting s ∉ given.map Given.meaning) :
    e.value? s = none := by
  rw [Option.eq_none_iff_forall_ne_some]
  intro value hv
  exact hg (List.mem_map_of_mem ((h.values s value).mp hv))

lemma Records.take {g : Given} (hg : g.meaning ∉ given.map Given.meaning) : (e.take g).Records (given ++ [g]) := by
  cases g with
  | switch s =>
    refine ⟨fun s' value => ?_, fun s' => ?_, h.verbosity, h.pending, h.operandsOnly⟩
    · simpa [Draft.take, value?] using h.values s' value
    · simp [Draft.take, h.switches s', or_comm]
  | setting s value =>
    refine ⟨fun s' value' => ?_, fun s' => ?_, h.verbosity, h.pending, h.operandsOnly⟩
    · rw [value?_take, List.mem_append, List.mem_singleton, Given.setting.injEq, ← h.values]
      by_cases hs : s' = s
      · subst hs
        simp [h.value?_eq_none hg, eq_comm]
      · simp [hs]
    · simpa [Draft.take] using h.switches s'

lemma Records.assign {s : Setting} {value : String} (hg : Meaning.setting s ∉ given.map Given.meaning)
    (ha : checkValue s value = .ok ()) : e.assign s value = .ok (e.take (.setting s value)) := by
  simp [Draft.assign, h.value?_eq_none hg, ha, Draft.take]

lemma Records.settles_value {s : Setting} {value : String} (hg : Meaning.setting s ∉ given.map Given.meaning)
    (ha : checkValue s value = .ok ()) :
    Settles { e with pending := some (.setting s (some value)) } (e.take (.setting s value)) where
  settled := by
    have hrest : { e with pending := none } = e := by rw [← h.pending]
    simp only [settle, hrest]
    exact h.assign hg ha
  operandsOnly := h.operandsOnly

lemma Records.standalone (hs : d.Settles e) {s : Switch} (hg : Meaning.switch s ∉ given.map Given.meaning)
    (c : Command) : d.standalone c (.switch s) = .ok (e.take (.switch s)) := by
  have hnew : s ∉ e.switches := fun hm => hg (List.mem_map_of_mem ((h.switches s).mp hm))
  rw [Draft.standalone, hs.settled]
  simp [hnew, Draft.take]

lemma Records.readAll_spelled (hs : d.Settles e) {g : Given} {args : List String} (ha : Spelled g args)
    (hg : g.meaning ∉ given.map Given.meaning) (hallowed : g.Allowed) :
    ∃ d', d'.Settles (e.take g) ∧ ∀ rest, readAll .build d (args ++ rest) = readAll .build d' rest := by
  have hattached : ∀ {s value}, g = .setting s value → d.attached s value = .ok (e.take g) := by
    rintro s value rfl
    rw [attached, hs.settled]
    exact h.assign hg hallowed
  have hnext : ∀ {arg}, d.read .build arg = .ok (e.take g) →
      ∃ d', d'.Settles (e.take g) ∧ ∀ rest, readAll .build d ([arg] ++ rest) = readAll .build d' rest := by
    intro arg hread
    exact ⟨_, (h.take hg).settles, fun rest => by rw [List.singleton_append, readAll, hread]⟩
  cases ha with
  | equals ho _ => exact hnext ((read_equals hs.operandsOnly ho _).trans (hattached rfl))
  | joined hv he => exact hnext ((read_joined hs.operandsOnly hv he).trans (hattached rfl))
  | @separate s value option ho hv =>
    -- The option leaves a draft that waits, and the value one that holds it until the next argument.
    have hoption : d.read .build option = .ok { e with pending := some (.setting s none) } := by
      rw [read_option hs.operandsOnly ho, awaiting, hs.settled]
    have hvalue := read_value (c := .build) (d := { e with pending := some (.setting s none) })
      h.operandsOnly rfl hv
    refine ⟨_, h.settles_value hg hallowed, fun rest => ?_⟩
    simp only [List.cons_append, List.nil_append, readAll, hoption, hvalue]
  | switch ho => exact hnext ((read_switch hs.operandsOnly ho).trans (h.standalone hs hg .build))

end Records

lemma Records.readAll_groups {all : List Given} {groups : List (List String)}
    (ha : List.Forall₂ Spelled all groups) (hallowed : ∀ g ∈ all, g.Allowed) {d e : Draft} {given : List Given}
    (h : e.Records given) (hs : d.Settles e) (hn : ((given ++ all).map Given.meaning).Nodup) :
    ∃ e', readAll .build d groups.flatten = .ok e' ∧ e'.Records (given ++ all) := by
  induction ha generalizing d e given with
  | nil => exact ⟨e, hs.settled, by rwa [List.append_nil]⟩
  | @cons g args all groups ha _ ih =>
    have hg : g.meaning ∉ given.map Given.meaning := by
      rw [List.map_append, List.map_cons] at hn
      exact fun hm => (List.nodup_append.mp hn).2.2 _ hm _ List.mem_cons_self rfl
    obtain ⟨d', hs', hread⟩ := h.readAll_spelled hs ha hg (hallowed g List.mem_cons_self)
    rw [List.append_cons] at hn ⊢
    rw [List.flatten_cons, hread]
    exact ih (fun g hg => hallowed g (List.mem_cons_of_mem _ hg)) (h.take hg) hs' hn

end Draft

end BarrelModule.CommandLine
