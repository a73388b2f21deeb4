import BarrelModule.Proofs.CommandLine.Reading
import Mathlib.Data.List.Nodup

namespace BarrelModule.CommandLine

structure Request where
  outputPath : String
  definitionKey : String
  directory : String
  opening : String
  ending : String
  pattern : Option String
  recursive : Bool
  denyDuplicates : Bool
  deriving DecidableEq, Repr

namespace Request

def initial : Request := ⟨"./barrel.js", "id", ".", "", "", none, false, false⟩

def value? (r : Request) : Setting → Option String
  | .outputPath => some r.outputPath
  | .definitionKey => some r.definitionKey
  | .directory => some r.directory
  | .opening => some r.opening
  | .ending => some r.ending
  | .pattern => r.pattern

def wants (r : Request) : Switch → Bool
  | .recursive => r.recursive
  | .denyDuplicates => r.denyDuplicates

/-- Options that ask for a request, in any order. A value that is there without being asked for may be left out. -/
structure GivenBy (r : Request) (given : List Given) : Prop where
  once : (given.map Given.meaning).Nodup
  values : ∀ s value, .setting s value ∈ given → r.value? s = some value
  omitted : ∀ s value, r.value? s = some value → .setting s value ∈ given ∨ initial.value? s = some value
  switches : ∀ s, .switch s ∈ given ↔ r.wants s = true

structure Allowed (r : Request) : Prop where
  directory : r.directory ≠ ""
  pattern : ∀ text, r.pattern = some text → (Pattern.parse? text).isSome

def Takes (r : Request) (name : String) : Prop :=
  match r.pattern with
  | some text => ∃ p, Pattern.parse? text = some p ∧ p.occursIn name = true
  | none => r.opening.toList <+: name.toList ∧ r.ending.toList <:+ name.toList

structure Describes (r : Request) (o : BuildOptions) : Prop where
  output : o.output = Path.ofString r.outputPath
  directory : o.scan.directory = Path.ofString r.directory
  recursive : o.scan.recursive = r.recursive
  denyDuplicates : o.denyDuplicates = r.denyDuplicates
  keyless : o.key = none ↔ r.definitionKey = ""
  key : ∀ key, o.key = some key → key = r.definitionKey
  opening : o.scan.filter.opening = r.opening
  ending : o.scan.filter.ending = r.ending
  accepts : ∀ name, o.scan.filter.accepts name = true ↔ r.Takes name

variable {r : Request}

lemma value?_initial (s : Setting) : initial.value? s = s.initial? := by
  cases s <;> rfl

lemma initial?_of_value?_eq_none {s : Setting} (h : r.value? s = none) : s.initial? = none := by
  cases s with
  | pattern => rfl
  | _ => cases h

section Full

def given? (r : Request) : Meaning → Option Given
  | .setting s => (r.value? s).map (.setting s)
  | .switch s => if r.wants s then some (.switch s) else none
  | _ => none

def inFull (r : Request) : List Given := (buildEntries.map OptionEntry.meaning).filterMap r.given?

lemma meaning_of_given? {m : Meaning} {g : Given} (h : r.given? m = some g) : g.meaning = m := by
  cases m with
  | setting s =>
    obtain ⟨value, -, rfl⟩ := Option.map_eq_some_iff.mp h
    rfl
  | switch s =>
    obtain ⟨-, rfl⟩ := by simpa [given?] using h
    rfl
  | verbose => cases h
  | help => cases h
  | version => cases h

lemma mem_inFull {g : Given} : g ∈ r.inFull ↔ r.given? g.meaning = some g := by
  rw [inFull, List.mem_filterMap]
  constructor
  · rintro ⟨m, -, hm⟩
    rwa [meaning_of_given? hm]
  · intro hg
    refine ⟨g.meaning, ?_, hg⟩
    cases g with
    | setting s value =>
      rw [Given.meaning]
      cases s <;> decide
    | switch s => cases s <;> decide

lemma givenBy_inFull (r : Request) : r.GivenBy r.inFull where
  once := by
    rw [inFull, List.map_filterMap]
    refine List.Nodup.filterMap (fun m m' n hm hm' => ?_) (by decide)
    obtain ⟨g, hg, rfl⟩ := Option.map_eq_some_iff.mp hm
    obtain ⟨g', hg', hn⟩ := Option.map_eq_some_iff.mp hm'
    rw [← meaning_of_given? hg, ← hn, meaning_of_given? hg']
  values s value h := by simpa [mem_inFull, given?, Given.meaning] using h
  omitted s value h := Or.inl (by simpa [mem_inFull, given?, Given.meaning] using h)
  switches s := by simp [mem_inFull, given?, Given.meaning]

lemma exists_groups (r : Request) : ∃ given groups, r.GivenBy given ∧ List.Forall₂ Spelled given groups := by
  choose spelling hspelling using exists_spelled
  refine ⟨r.inFull, r.inFull.map spelling, r.givenBy_inFull, ?_⟩
  rw [List.forall₂_map_right_iff, List.forall₂_same]
  exact fun g _ => hspelling g

end Full

lemma Allowed.accepts_iff (ha : r.Allowed) (name : String) :
    Filter.accepts ⟨r.opening, r.ending, r.pattern.bind Pattern.parse?⟩ name = true ↔ r.Takes name := by
  rw [Takes]
  cases hr : r.pattern with
  | none => simp [Filter.accepts, List.isPrefixOf_iff_prefix, List.isSuffixOf_iff_suffix]
  | some text =>
    obtain ⟨p, hp⟩ := Option.isSome_iff_exists.mp (ha.pattern text hr)
    simp [Filter.accepts, hp]

section Read

variable {given : List Given} {d : Draft} (h : r.GivenBy given)
include h

lemma GivenBy.allowed (ha : r.Allowed) : ∀ g ∈ given, g.Allowed := by
  intro g hg
  cases g with
  | switch s => trivial
  | setting s value =>
    have hvalue := h.values s value hg
    cases s with
    | directory =>
      obtain rfl : r.directory = value := Option.some.inj hvalue
      simp [Given.Allowed, Draft.checkValue, ha.directory]
    | pattern =>
      have hvalid : (Pattern.parse? value).isNone = false := by simpa using ha.pattern value hvalue
      simp [Given.Allowed, Draft.checkValue, hvalid]
    | _ => rfl

variable (hd : d.Records given)
include hd

lemma GivenBy.value?_or (s : Setting) : (d.value? s).or s.initial? = r.value? s := by
  cases hv : d.value? s with
  | some value => exact (h.values s value ((hd.values s value).mp hv)).symm
  | none =>
    rw [Option.none_or]
    cases hr : r.value? s with
    | none => exact initial?_of_value?_eq_none hr
    | some value =>
      rcases h.omitted s value hr with hg | hi
      · rw [(hd.values s value).mpr hg] at hv
        cases hv
      · rw [← value?_initial, hi]

lemma GivenBy.contains (s : Switch) : d.switches.contains s = r.wants s := by
  rw [Bool.eq_iff_iff, List.contains_iff_mem, hd.switches, h.switches]

lemma GivenBy.describes (ha : r.Allowed) : r.Describes d.buildOptions := by
  have htext : ∀ s, d.text s = (r.value? s).getD "" := fun s => by rw [Draft.text, h.value?_or hd]
  have hpattern : d.value? .pattern = r.pattern := by
    have hor := h.value?_or hd .pattern
    rwa [initial?_of_value?_eq_none (r := initial) rfl, Option.or_none] at hor
  have hfilter : d.buildOptions.scan.filter = ⟨r.opening, r.ending, r.pattern.bind Pattern.parse?⟩ := by
    simp [Draft.buildOptions, htext, hpattern, value?]
  refine ⟨?output, ?directory, h.contains hd .recursive, h.contains hd .denyDuplicates, ?keyless, ?key, ?opening,
    ?ending, ?accepts⟩
  case output => simp [Draft.buildOptions, htext, value?]
  case directory => simp [Draft.buildOptions, htext, value?]
  case keyless => simp [Draft.buildOptions, htext, value?]
  case key => simp [Draft.buildOptions, htext, value?]
  case opening => rw [hfilter]
  case ending => rw [hfilter]
  case accepts =>
    rw [hfilter]
    exact ha.accepts_iff

end Read

end Request

lemma parse_build {args : List String} {d : Draft} (h : Draft.readAll .build .empty args = .ok d)
    (hv : d.verbosity = 0) : parse ("build" :: args) = .ok ⟨0, .build d.buildOptions⟩ := by
  have hname : Command.ofName? "build" = some .build := rfl
  simp only [parse, parseAfter, hname, Draft.invocation, h, hv, Draft.task]
  rfl

theorem parse_request (r : Request) (ha : r.Allowed) :
    (∃ given groups, r.GivenBy given ∧ List.Forall₂ Spelled given groups) ∧
      ∀ given groups, r.GivenBy given → List.Forall₂ Spelled given groups →
        ∃ o, parse ("build" :: groups.flatten) = .ok ⟨0, .build o⟩ ∧ r.Describes o := by
  refine ⟨r.exists_groups, fun given groups hg hs => ?_⟩
  obtain ⟨d, hread, hd⟩ :=
    Draft.records_empty.readAll_groups hs (hg.allowed ha) Draft.records_empty.settles hg.once
  exact ⟨_, parse_build hread hd.verbosity, hg.describes hd ha⟩

def awkward : Request := ⟨"-", "", "build", "=x", "", some "b=", true, true⟩

def awkwardGiven : List Given :=
  [.setting .pattern "b=", .switch .denyDuplicates, .setting .opening "=x", .setting .definitionKey "",
    .switch .recursive, .setting .directory "build", .setting .outputPath "-"]

lemma awkward_givenBy : awkward.GivenBy awkwardGiven where
  once := by decide
  values s value h := by
    simp only [awkwardGiven, List.mem_cons, Given.setting.injEq, reduceCtorEq, List.not_mem_nil, or_false,
      false_or] at h
    rcases h with ⟨rfl, rfl⟩ | ⟨rfl, rfl⟩ | ⟨rfl, rfl⟩ | ⟨rfl, rfl⟩ | ⟨rfl, rfl⟩ <;> rfl
  omitted s value h := by
    cases s <;> obtain rfl := Option.some.inj h <;> decide
  switches s := by
    cases s <;> decide

def awkwardGroups : List (List String) :=
  [["--pattern=b="], ["--deny-duplicates"], ["-p==x"], ["--definition-key", ""], ["-r"], ["-dbuild"], ["-o", "-"]]

lemma awkwardGroups_spelled : List.Forall₂ Spelled awkwardGiven awkwardGroups := by
  have hpattern : Spelled (.setting .pattern "b=") ["--pattern=b="] := by
    have ho : "--pattern" ∈ Setting.options .pattern := by decide
    simpa using Spelled.equals ho (by decide : "b=" ≠ "")
  have hdeny : Spelled (.switch .denyDuplicates) ["--deny-duplicates"] := .switch (by decide)
  have hopening : Spelled (.setting .opening "=x") ["-p==x"] := by
    have ho : "-p" ∈ Setting.options .opening := by decide
    simpa using Spelled.equals ho (by decide : "=x" ≠ "")
  have hkey : Spelled (.setting .definitionKey "") ["--definition-key", ""] := .separate (by decide) (Or.inl rfl)
  have hrecursive : Spelled (.switch .recursive) ["-r"] := .switch (by decide)
  have hdirectory : Spelled (.setting .directory "build") ["-dbuild"] := .joined (by decide) (by decide)
  have houtput : Spelled (.setting .outputPath "-") ["-o", "-"] := .separate (by decide) (Or.inr (Or.inl rfl))
  exact .cons hpattern (.cons hdeny (.cons hopening (.cons hkey (.cons hrecursive
    (.cons hdirectory (.cons houtput .nil))))))

theorem parse_request_awkward :
    awkward.Allowed ∧ awkward.GivenBy awkwardGiven ∧
      ∃ o, parse ["build", "--pattern=b=", "--deny-duplicates", "-p==x", "--definition-key", "", "-r", "-dbuild",
        "-o", "-"] = .ok ⟨0, .build o⟩ ∧ awkward.Describes o := by
  have ha : awkward.Allowed := by
    refine ⟨by decide, fun text h => ?_⟩
    obtain rfl : "b=" = text := Option.some.inj h
    rfl
  obtain ⟨o, hparse, ho⟩ := (parse_request awkward ha).2 _ _ awkward_givenBy awkwardGroups_spelled
  exact ⟨ha, awkward_givenBy, o, hparse, ho⟩

end BarrelModule.CommandLine
