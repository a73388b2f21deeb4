import BarrelModule.Proofs.Barrel.Length
import BarrelModule.Proofs.Build.Repetition
import BarrelModule.Proofs.Text.Utf8

namespace BarrelModule.Build

open Text FileSystem

section Site

variable {fs fs' : FileSystem} {o : BuildOptions} {b : Barrel} {workingDirectory directory l : Location}
  (hs : Site fs o b fs' workingDirectory directory l)
include hs

lemma Site.same {b' : Barrel} {fs'' : FileSystem} {workingDirectory' directory' l' : Location}
    (hs' : Site fs' o b' fs'' workingDirectory' directory' l') : directory' = directory ∧ l' = l := by
  have hd := hs'.scanned
  rw [hs.scanned_after] at hd
  cases hd
  exact ⟨rfl, hs'.opens.unique hs.opens_after⟩

variable (h : fs.WellFormed)
include h

lemma Site.imports_itself_iff : (∃ d ∈ b.definitions, fs'.Reaches d.file l) ↔
    fs.entryAt? l ≠ none ∧ Discovery.Covers o.scan directory l := by
  rw [hs.definitions]
  constructor
  · rintro ⟨d, hd, hreaches⟩
    obtain ⟨file, hfile, rfl⟩ := List.mem_map.mp hd
    obtain ⟨m, hm, rfl⟩ := List.mem_map.mp hfile
    have hwanted := (Discovery.mem_locations h).mp hm
    obtain rfl := (hs.writes.reaches (reaches_found h hs.scanned hwanted)).denotes.unique hreaches.denotes
    obtain ⟨e, he, -⟩ := hwanted.leaf
    exact ⟨by simp [he], m, rfl, hwanted.picks⟩
  · rintro ⟨hentry, m, rfl, hpicks⟩
    obtain ⟨old, hold⟩ := hs.writes.before.resolve_left hentry
    have hwanted : Discovery.Wanted fs o.scan ⟨directory, 0⟩ m :=
      Discovery.wanted_iff.mpr ⟨rfl, hpicks, .file old, hold, by simp⟩
    have hm := (Discovery.mem_locations h).mpr hwanted
    exact ⟨_, List.mem_map_of_mem (List.mem_map_of_mem hm), hs.writes.reaches (reaches_found h hs.scanned hwanted)⟩

lemma Site.length_render_lt {b' : Barrel} (hn : fs.entryAt? l = none)
    (hc : Discovery.Covers o.scan directory l) (hcollect : (collect fs' o).result = .ok b') :
    b.render.length < b'.render.length := by
  obtain ⟨init, d, tail, hdefinitions, hgrown, -⟩ := hs.collect_grown h hn hc
  rw [hcollect] at hgrown
  obtain rfl := Except.ok.inj hgrown
  exact Barrel.length_render_lt hs.key.symm hdefinitions rfl

end Site

lemma content_same_iff {fs : FileSystem} {o : BuildOptions} {b : Barrel} {workingDirectory directory l : Location}
    (h : fs.WellFormed) (hb : Writing fs o b (build fs o).files)
    (hs : Site fs o b (build fs o).files workingDirectory directory l) {next : Outcome}
    (hr : (build (build fs o).files o).result = .ok next) :
    (build (build fs o).files o).files.contentAt o.output = .ok (encode b.render) ↔
      ¬ (fs.entryAt? l = none ∧ Discovery.Covers o.scan directory l) := by
  constructor
  · rintro hcontent ⟨hn, hc⟩
    obtain ⟨b', _, _, _, hb', -, hs'⟩ := site_of_ok hs.wellFormed hb.output hr
    rw [hs'.content] at hcontent
    have hlength := hs.length_render_lt h hn hc hb'.collected
    rw [encode_injective (Except.ok.inj hcontent)] at hlength
    exact absurd hlength (Nat.lt_irrefl _)
  · intro hn
    rw [hb.build_again h (hs.collect_kept h hn)]
    exact hs.content

/-- From the second run on, a barrel imports itself exactly when its scan covers its output; the first run
does so only where the output is there already. A first run that creates an output that the scan covers is
also the only one that the next run, if it succeeds, does not repeat to the byte. -/
theorem run_imports_itself_iff (fs : FileSystem) (h : fs.WellFormed) (o : BuildOptions) (ho : o.output.bytes ≠ [])
    (n : Nat) {outcome : Outcome} (hr : (runs fs o n).result = .ok outcome) :
    ∃ directory l content, fs.resolve .stay o.scan.directory = .ok (.directory ⟨directory, 0⟩) ∧
      fs.Opens o.output l ∧ (runs fs o n).files.Opens o.output l ∧
      (runs fs o n).files.contentAt o.output = .ok content ∧
      ((∃ d ∈ outcome.definitions, (runs fs o n).files.Reaches d.file l) ↔
        (n ≠ 0 ∨ fs.entryAt? l ≠ none) ∧ Discovery.Covers o.scan directory l) ∧
      ∀ next, (runs fs o (n + 1)).result = .ok next →
        ((runs fs o (n + 1)).files.contentAt o.output = .ok content ↔
          ¬ (n = 0 ∧ fs.entryAt? l = none ∧ Discovery.Covers o.scan directory l)) := by
  cases n with
  | zero =>
    obtain ⟨b, _, directory, l, hb, hdefinitions, hs⟩ := site_of_ok h ho hr
    refine ⟨directory, l, encode b.render, hs.scanned, hs.opens, hs.opens_after, hs.content, ?_, ?_⟩
    · rw [hdefinitions]
      simpa [runs] using hs.imports_itself_iff h
    · intro next hnext
      simpa [runs] using content_same_iff h hb hs hnext
  | succ n =>
    rw [runs_succ h o n] at hr ⊢
    rw [runs_succ h o (n + 1)]
    rcases build_still_or_writing fs o with ⟨hfiles, hstill⟩ | ⟨b, hb, -⟩
    · rw [runs, runs, hfiles] at hr
      exact absurd (hstill outcome hr) ho
    · obtain ⟨_, directory, l, hs⟩ := hb.site h
      obtain ⟨b', _, directory', l', hb', hdefinitions, hs'⟩ := site_of_ok hs.wellFormed ho hr
      obtain ⟨rfl, rfl⟩ := hs.same hs'
      have hentry : (build fs o).files.entryAt? l' ≠ none := by simp [hs.writes.after]
      refine ⟨directory', l', encode b'.render, hs.scanned, hs.opens, hs'.opens_after, hs'.content, ?_, ?_⟩
      · rw [hdefinitions]
        simpa [hentry, runs] using hs'.imports_itself_iff hs.wellFormed
      · intro _ _
        simpa [runs] using hs'.content

def plainOptions : BuildOptions where
  scan := ⟨Path.ofString ".", Filter.all, false⟩
  output := Path.ofString "./barrel.js"
  key := some "id"
  denyDuplicates := false

def onlyBarrel : FileSystem where
  nodes := [.file (encode "barrel.js") []]
  workingDirectory := Place.root

theorem onlyBarrel_imports_itself :
    ∃ l content, onlyBarrel.Opens (Path.ofString "./barrel.js") l ∧
      (runs onlyBarrel plainOptions 0).files.Names (Path.ofString "./barrel.js") l ∧
      (runs onlyBarrel plainOptions 0).files.contentAt (Path.ofString "./barrel.js") = .ok content ∧
      (runs onlyBarrel plainOptions 1).files.contentAt (Path.ofString "./barrel.js") = .ok content := by
  have hr : (runs onlyBarrel plainOptions 0).result = .ok
      ⟨[⟨Path.ofString "./barrel.js", "Barrel", "./barrel.js"⟩], [], .written (Path.ofString "./barrel.js")⟩ := by
    decide +kernel
  have hr' : (runs onlyBarrel plainOptions 1).result = .ok
      ⟨[⟨Path.ofString "./barrel.js", "Barrel", "./barrel.js"⟩], [], .written (Path.ofString "./barrel.js")⟩ := by
    decide
  obtain ⟨directory, l, content, hd, hopens, -, hcontent, hnames, hsame⟩ :=
    run_imports_itself_iff onlyBarrel (by decide) plainOptions (by decide) 0 hr
  obtain rfl : [encode "barrel.js"] = l := Opens.unique (by decide) hopens
  cases hd
  have hexists : onlyBarrel.entryAt? [encode "barrel.js"] ≠ none := by decide
  have hcovers : Discovery.Covers plainOptions.scan [] [encode "barrel.js"] :=
    ⟨[encode "barrel.js"], rfl, Or.inr rfl, encode "barrel.js", rfl, (Filter.accepts_iff _ _).mp (by decide)⟩
  obtain ⟨d, hd, hname⟩ := hnames.mpr ⟨Or.inr hexists, hcovers⟩
  obtain rfl := List.mem_singleton.mp hd
  exact ⟨_, content, hopens, hname.names (by decide), hcontent, (hsame _ hr').mpr fun hn => hexists hn.2.1⟩

theorem second_run_imports_itself :
    (runs FileSystem.empty plainOptions 0).result = .ok ⟨[], [], .written (Path.ofString "./barrel.js")⟩ ∧
      (runs FileSystem.empty plainOptions 1).result = .ok
        ⟨[⟨Path.ofString "./barrel.js", "Barrel", "./barrel.js"⟩], [], .written (Path.ofString "./barrel.js")⟩ ∧
      (runs FileSystem.empty plainOptions 0).files.Opens (Path.ofString "./barrel.js") [encode "barrel.js"] ∧
      (runs FileSystem.empty plainOptions 1).files.Names (Path.ofString "./barrel.js") [encode "barrel.js"] ∧
      (runs FileSystem.empty plainOptions 1).files.contentAt (Path.ofString "./barrel.js") ≠
        (runs FileSystem.empty plainOptions 0).files.contentAt (Path.ofString "./barrel.js") := by
  refine ⟨?_, ?_, ?_, ?_, ?_⟩
  all_goals decide +kernel

end BarrelModule.Build
