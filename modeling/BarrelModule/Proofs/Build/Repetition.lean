import BarrelModule.Proofs.Build.Addition

/-! Building again with the same options. Only the first build can add a file to what the next one scans,
so from the second build on nothing changes any more. -/

namespace BarrelModule.Build

open Text FileSystem

structure Writing (fs : FileSystem) (o : BuildOptions) (b : Barrel) (fs' : FileSystem) : Prop where
  collected : (collect fs o).result = .ok b
  allowed : denied? o b = none
  output : o.output.bytes ≠ []
  written : fs.writeFile o.output (encode b.render) = .ok fs'

lemma build_still_or_writing (fs : FileSystem) (o : BuildOptions) :
    ((build fs o).files = fs ∧ ∀ outcome, (build fs o).result = .ok outcome → o.output.bytes = []) ∨
      ∃ b, Writing fs o b (build fs o).files ∧
        (build fs o).result = .ok ⟨b.definitions, b.warnings, .written o.output⟩ := by
  have hc := build_course fs o
  generalize (build fs o).result = result at hc ⊢
  generalize (build fs o).files = files at hc ⊢
  cases hc with
  | uncollected | denied | unwritable => exact Or.inl ⟨rfl, by simp⟩
  | returned _ _ ho => exact Or.inl ⟨rfl, fun _ _ => ho⟩
  | written hc hd ho hw => exact Or.inr ⟨_, ⟨hc, hd, ho, hw⟩, rfl⟩

structure Site (fs : FileSystem) (o : BuildOptions) (b : Barrel) (fs' : FileSystem)
    (workingDirectory directory l : Location) : Prop where
  workingLocation : fs.workingLocation = .ok workingDirectory
  scanned : fs.resolve .stay o.scan.directory = .ok (.directory ⟨directory, 0⟩)
  listable : Discovery.Listable fs o.scan ⟨directory, 0⟩
  key : b.key = o.key
  definitions : b.definitions = definitionsOf workingDirectory o
    ((Discovery.locations o.scan (fs.nodesIn ⟨directory, 0⟩)).map o.scan.directory.childOf)
  opens : fs.Opens o.output l
  opens_after : fs'.Opens o.output l
  writes : Writes fs fs' l (encode b.render)
  content : fs'.contentAt o.output = .ok (encode b.render)
  wellFormed : fs'.WellFormed

section Writing

variable {fs fs' : FileSystem} {o : BuildOptions} {b : Barrel} (hb : Writing fs o b fs')
include hb

lemma Writing.build_eq :
    build fs o = ⟨(collect fs o).events ++ (b.warnings.map warningEvent ++
      [wroteEvent o.output b.definitions.length]), .ok ⟨b.definitions, b.warnings, .written o.output⟩, fs'⟩ := by
  have hd : (if o.denyDuplicates then b.duplicate? else none) = none := hb.allowed
  simp only [build, hb.collected, deliver, hd, if_neg hb.output, hb.written]

variable (h : fs.WellFormed)
include h

lemma Writing.build_again (hc : collect fs' o = collect fs o) : build fs' o = build fs o := by
  have hagain : Writing fs' o b fs' := by
    refine ⟨by rw [hc, hb.collected], hb.allowed, hb.output, ?_⟩
    rw [writeFile_writeFile h hb.written, hb.written]
  rw [hagain.build_eq, hb.build_eq, hc]

lemma Writing.site : ∃ workingDirectory directory l, Site fs o b fs' workingDirectory directory l := by
  obtain ⟨found, workingDirectory, hfound, hw, rfl⟩ := collect_ok hb.collected
  obtain ⟨⟨directory, removed⟩, hd, rfl⟩ := Discovery.directory_of_find hfound
  obtain ⟨l, hopens, hwrites, hcontent, h'⟩ := writeFile_ok h hb.written
  obtain rfl : removed = 0 := resolve_standing (workingLocation_eq_ok_iff.mp hw).1 hd
  have hopens' := opens_of_write h hb.written hopens
  have hl := (Discovery.listable_iff h hd).mpr ⟨_, hfound⟩
  exact ⟨workingDirectory, directory, l, hw, hd, hl, rfl, rfl, hopens, hopens', hwrites, hcontent, h'⟩

end Writing

section Site

variable {fs fs' : FileSystem} {o : BuildOptions} {b : Barrel} {workingDirectory directory l : Location}
  (hs : Site fs o b fs' workingDirectory directory l)
include hs

lemma Site.workingLocation_after : fs'.workingLocation = .ok workingDirectory := by
  rw [FileSystem.workingLocation, hs.writes.workingDirectory]
  exact hs.workingLocation

lemma Site.scanned_after : fs'.resolve .stay o.scan.directory = .ok (.directory ⟨directory, 0⟩) :=
  hs.writes.resolve hs.scanned (Or.inr (by simp))

variable (h : fs.WellFormed)
include h

lemma Site.collect_kept (hn : ¬ (fs.entryAt? l = none ∧ Discovery.Covers o.scan directory l)) :
    collect fs' o = collect fs o :=
  collect_of_sets hs.writes.sets h hs.wellFormed hs.workingLocation_after hs.scanned_after hs.listable
    hs.workingLocation hs.scanned hn

lemma Site.collect_grown (hn : fs.entryAt? l = none) (hc : Discovery.Covers o.scan directory l) :
    ∃ init d tail, b.definitions = init ++ tail ∧ (collect fs' o).result = .ok ⟨init ++ d :: tail, o.key⟩ ∧
      fs'.Reaches d.file l := by
  obtain ⟨m, hm, hpicks⟩ := hc
  obtain ⟨before, after, hbefore, hafter, -, hnames⟩ := collect_insert_of_sets hs.writes.sets h hs.wellFormed
    hs.workingLocation_after hs.scanned_after hs.listable hn hm hpicks
  rw [List.map_append, List.map_cons] at hafter
  refine ⟨_, _, _, ?_, hafter, hnames⟩
  rw [hs.definitions, definitionsOf_childOf, hbefore, List.map_append]

end Site

lemma site_of_ok {fs : FileSystem} (h : fs.WellFormed) {o : BuildOptions} (ho : o.output.bytes ≠ [])
    {outcome : Outcome} (hr : (build fs o).result = .ok outcome) :
    ∃ b workingDirectory directory l, Writing fs o b (build fs o).files ∧ outcome.definitions = b.definitions ∧
      Site fs o b (build fs o).files workingDirectory directory l := by
  rcases build_still_or_writing fs o with ⟨-, hstill⟩ | ⟨b, hb, hr'⟩
  · exact absurd (hstill outcome hr) ho
  · rw [hr] at hr'
    cases hr'
    obtain ⟨workingDirectory, directory, l, hs⟩ := hb.site h
    exact ⟨b, workingDirectory, directory, l, hb, rfl, hs⟩

lemma build_build_of_exists {fs : FileSystem} (h : fs.WellFormed) {o : BuildOptions}
    (he : ∃ content, fs.contentAt o.output = .ok content) : build (build fs o).files o = build fs o := by
  rcases build_still_or_writing fs o with ⟨hstill, -⟩ | ⟨b, hb, -⟩
  · rw [hstill]
  · obtain ⟨_, _, _, hs⟩ := hb.site h
    have hold := (exists_content_iff h hs.opens).mp he
    exact hb.build_again h (hs.collect_kept h fun hn => hold hn.1)

lemma build_build_build {fs : FileSystem} (h : fs.WellFormed) (o : BuildOptions) :
    build (build (build fs o).files o).files o = build (build fs o).files o := by
  rcases build_still_or_writing fs o with ⟨hstill, -⟩ | ⟨b, hb, -⟩
  · rw [hstill, hstill]
  · obtain ⟨_, _, _, hs⟩ := hb.site h
    exact build_build_of_exists hs.wellFormed ⟨_, hs.content⟩

/-- The builds made one after another with the same options, with nothing else done between them. -/
def runs (fs : FileSystem) (o : BuildOptions) : Nat → Run
  | 0 => build fs o
  | n + 1 => build (runs fs o n).files o

lemma runs_succ {fs : FileSystem} (h : fs.WellFormed) (o : BuildOptions) (n : Nat) :
    runs fs o (n + 1) = runs fs o 1 := by
  induction n with
  | zero => rfl
  | succ n ih =>
    rw [runs, ih]
    exact build_build_build h o

theorem runs_settle (fs : FileSystem) (h : fs.WellFormed) (o : BuildOptions) :
    (∀ n, runs fs o (n + 1) = runs fs o 1) ∧
      (((∃ e, (build fs o).result = .error e) ∨ o.output.bytes = [] ∨
        ∃ content, fs.contentAt o.output = .ok content) → runs fs o 1 = build fs o) ∧
      ∀ outcome, (build fs o).result = .ok outcome → o.output.bytes ≠ [] →
        (¬ ∃ content, fs.contentAt o.output = .ok content) →
        ∃ l content b, fs.Opens o.output l ∧ fs.entryAt? l = none ∧ Writes fs (build fs o).files l content ∧
          (collect (build fs o).files o).result = .ok b ∧
          (b.definitions = outcome.definitions ∨
            ∃ init d tail, outcome.definitions = init ++ tail ∧ b.definitions = init ++ d :: tail ∧
              (build fs o).files.Reaches d.file l) := by
  refine ⟨runs_succ h o, ?_, ?_⟩
  · intro hcase
    rw [runs, runs]
    rcases build_still_or_writing fs o with ⟨hstill, -⟩ | ⟨b, hb, hr⟩
    · rw [hstill]
    · rcases hcase with ⟨e, he⟩ | ho | hexists
      · rw [hr] at he
        cases he
      · exact absurd ho hb.output
      · exact build_build_of_exists h hexists
  · intro outcome hr ho hnone
    obtain ⟨b, _, directory, l, hb, hdefinitions, hs⟩ := site_of_ok h ho hr
    rw [hdefinitions]
    have hfree : fs.entryAt? l = none := by
      by_contra hentry
      exact hnone ((exists_content_iff h hs.opens).mpr hentry)
    by_cases hc : Discovery.Covers o.scan directory l
    · obtain ⟨init, d, tail, hinit, hcollect, hnames⟩ := hs.collect_grown h hfree hc
      exact ⟨l, _, _, hs.opens, hfree, hs.writes, hcollect, Or.inr ⟨init, d, tail, hinit, rfl, hnames⟩⟩
    · have hcollect := hs.collect_kept h fun hn => hc hn.2
      exact ⟨l, _, b, hs.opens, hfree, hs.writes, hcollect ▸ hb.collected, Or.inl rfl⟩

def danglingOutput : FileSystem where
  nodes := [.directory (encode "defs") [], .link (encode "out.js") (Path.ofString "defs/b.js")]
  workingDirectory := Place.root

def danglingOptions : BuildOptions where
  scan := ⟨Path.ofString "defs", Filter.all, false⟩
  output := Path.ofString "out.js"
  key := none
  denyDuplicates := false

theorem runs_settle_dangling :
    (∀ n, runs danglingOutput danglingOptions (n + 1) = runs danglingOutput danglingOptions 1) ∧
      ∃ l b, danglingOutput.entryAt? l = none ∧ danglingOutput.Opens (Path.ofString "out.js") l ∧
        (collect (build danglingOutput danglingOptions).files danglingOptions).result = .ok b ∧
        b.definitions = [⟨Path.ofString "defs/b.js", "B", "./defs/b.js"⟩] := by
  have hr : (build danglingOutput danglingOptions).result = .ok ⟨[], [], .written (Path.ofString "out.js")⟩ := rfl
  have hnone : ¬ ∃ content, danglingOutput.contentAt danglingOptions.output = .ok content := by
    rintro ⟨content, hc⟩
    have he : danglingOutput.contentAt danglingOptions.output = .error .notFound := rfl
    rw [he] at hc
    cases hc
  have hafter : (collect (build danglingOutput danglingOptions).files danglingOptions).result.map
      Barrel.definitions = .ok [⟨Path.ofString "defs/b.js", "B", "./defs/b.js"⟩] := by
    decide +kernel
  obtain ⟨hsettled, -, hgrown⟩ := runs_settle danglingOutput (by decide) danglingOptions
  obtain ⟨l, _, b, hopens, hfree, -, hb, -⟩ := hgrown _ hr (by decide) hnone
  rw [hb] at hafter
  exact ⟨hsettled, l, b, hfree, hopens, hb, Except.ok.inj hafter⟩

end BarrelModule.Build
