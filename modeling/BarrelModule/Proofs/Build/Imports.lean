import BarrelModule.FileSystem.Operations
import BarrelModule.Proofs.Build.Course
import BarrelModule.Proofs.Build.Specifier
import BarrelModule.Proofs.Discovery.Exact
import BarrelModule.Proofs.FileSystem.Walking
import BarrelModule.Proofs.FileSystem.Writing
import BarrelModule.Proofs.Path.Below
import BarrelModule.Proofs.Path.Parent

/-! The specifiers of a written module, taken as paths from the directory of the module, lead to the
files that were found. -/

namespace BarrelModule

open Text

namespace Build

open FileSystem

def definitionAt (workingDirectory : Location) (o : BuildOptions) (l : Location) : Definition :=
  define workingDirectory ((importBase o.output).absolute workingDirectory) o.scan.directory
    (o.scan.directory.childOf l)

lemma definitionsOf_childOf (workingDirectory : Location) (o : BuildOptions) (found : List Location) :
    definitionsOf workingDirectory o (found.map o.scan.directory.childOf) =
      found.map (definitionAt workingDirectory o) := by
  rw [definitionsOf, List.map_map]
  rfl

lemma collect_of_find {fs : FileSystem} {o : BuildOptions} {found : List Location} {workingDirectory : Location}
    (hf : Discovery.find fs o.scan = .ok (found.map o.scan.directory.childOf))
    (hw : fs.workingLocation = .ok workingDirectory) :
    (collect fs o).result = .ok ⟨found.map (definitionAt workingDirectory o), o.key⟩ := by
  rw [collect_result, hf, hw]
  simp only [definitionsOf_childOf]

lemma collect_definitionAt {fs : FileSystem} {o : BuildOptions} {b : Barrel} (h : (collect fs o).result = .ok b) :
    ∃ place workingDirectory, fs.resolve .stay o.scan.directory = .ok (.directory place) ∧
      fs.workingLocation = .ok workingDirectory ∧ b.definitions =
        (Discovery.locations o.scan (fs.nodesIn place)).map (definitionAt workingDirectory o) := by
  obtain ⟨files, workingDirectory, hfind, hw, rfl⟩ := collect_ok h
  obtain ⟨place, hd, rfl⟩ := Discovery.directory_of_find hfind
  exact ⟨place, workingDirectory, hd, hw, definitionsOf_childOf workingDirectory o _⟩

lemma pathBelow_childOf (directory : Path) {m : Location} (hm : ∀ n ∈ m, n.Valid) :
    pathBelow directory (directory.childOf m) = ⟨join Path.slash m⟩ := by
  rw [pathBelow, Path.below?_childOf fun n hn => (hm n hn).proper]
  rfl

lemma importBase_of_dots {output : Path} (hs : output.segments.filter (· ≠ Path.dot) = []) :
    importBase output = ⟨Path.dot⟩ := by
  rw [importBase]
  rcases Path.parent?_of_dots hs with hp | hp <;> rw [hp]
  simp

lemma importBase_spec {output : Path} {init : List Bytes} {last : Bytes}
    (hs : output.segments.filter (· ≠ Path.dot) = init ++ [last]) :
    (output.Accepted → (importBase output).Accepted) ∧ (importBase output).isAbsolute = output.isAbsolute ∧
      (importBase output).segments.filter (· ≠ Path.dot) = init := by
  obtain ⟨q, hparent, hnul, hlength, habsolute, hsegments⟩ := Path.parent?_eq hs
  rw [importBase, hparent]
  simp only
  split
  case isTrue hq =>
    obtain rfl : q = ⟨[]⟩ := by rw [← hq]
    exact ⟨fun _ => ⟨by decide, by decide⟩, habsolute, hsegments⟩
  case isFalse hq =>
    exact ⟨fun hp => ⟨⟨hq, hnul hp.toUsable⟩, hlength.trans hp.fits⟩, habsolute, hsegments⟩

lemma importBase_walks {fs : FileSystem} {output : Path} (hb : fs.LinkFree (importBase output))
    {found : Found} (hr : fs.resolve .create output = .ok found)
    (hf : ∀ goal, found ≠ .directory goal) :
    (importBase output).Accepted ∧
      ∃ goal, Walks fs (importBase output).segments (fs.startOf (importBase output)) goal := by
  obtain ⟨hp, hl⟩ := resolve_eq_ok_iff.mp hr
  obtain ⟨init, last, hs, hd⟩ : ∃ init last, output.segments = init ++ [last] ∧ last ≠ Path.dot := by
    by_contra hc
    obtain ⟨goal, hg⟩ := hl.directory_of_dot fun s hs => by
      by_contra hd
      obtain ⟨init, hi⟩ := List.getLast?_eq_some_iff.mp hs
      exact hc ⟨init, s, hi, hd⟩
    exact hf goal hg
  have hfilter : output.segments.filter (· ≠ Path.dot) = init.filter (· ≠ Path.dot) ++ [last] := by
    simp [hs, List.filter_append, hd]
  obtain ⟨haccepted, habsolute, hsegments⟩ := importBase_spec hfilter
  have hstart : fs.startOf (importBase output) = fs.startOf output := by
    rw [startOf, startOf, habsolute]
  rw [LinkFree, ← linkFreeFrom_filter, hsegments, linkFreeFrom_filter, hstart] at hb
  obtain ⟨goal, hw⟩ := Leads.walks_init (hs ▸ hl) hb
  refine ⟨haccepted hp, goal, Walks.of_filter ?_⟩
  rw [hsegments, hstart]
  exact hw.filter

lemma segment_of_up_down (up : Location) {down : Location} (h : ∀ n ∈ down, Segment n) :
    ∀ n ∈ up.map (fun _ => Path.dotDot) ++ down, Segment n := by
  intro n hn
  rcases List.mem_append.mp hn with hn | hn
  · obtain ⟨_, _, rfl⟩ := List.mem_map.mp hn
    exact ⟨by decide, by decide, by decide⟩
  · exact h n hn

lemma specifier_eq {base target : Location} (hs : ∀ n ∈ target, Segment n)
    (hplain : ∀ n ∈ target, Path.Plain n) (hn : ¬ target <+: base) :
    ∃ common up down, base = common ++ up ∧ target = common ++ down ∧ down ≠ [] ∧
      Path.ofString (specifier base target) =
        Path.childOf ⟨Path.dot⟩ (up.map (fun _ => Path.dotDot) ++ down) := by
  obtain ⟨common, up, names, rfl, rfl, -, hspecifier⟩ := specifier_spec base hplain
  have hdown : names.map encode ≠ [] := by
    intro he
    exact hn (by simp [he])
  have hsegments := segment_of_up_down up fun n hn => hs n (List.mem_append_right common hn)
  have hchild := Path.childOf_bytes (p := ⟨Path.dot⟩) (by decide) rfl (by simp [hdown]) hsegments
  refine ⟨common, up, names.map encode, rfl, rfl, hdown, ?_⟩
  rw [hspecifier, Path.ofString, encode_upDown, ← List.map_const', ← hchild]

lemma reaches_specifier {fs : FileSystem} (h : fs.WellFormed) {base target : Location} {e : Entry}
    (hb : fs.entryAt? base = some .directory) (ht : fs.entryAt? target = some e) (hk : e ≠ .directory)
    (hplain : ∀ n ∈ target, Path.Plain n) :
    ({ fs with workingDirectory := ⟨base, 0⟩ } : FileSystem).Reaches
      (Path.ofString (specifier base target)) target := by
  have hthere : ({ fs with workingDirectory := ⟨base, 0⟩ } : FileSystem).WellFormed := ⟨h.nodes, hb⟩
  have hs : ∀ n ∈ target, Segment n := fun n hn => (h.location_valid ht n hn).toSegment
  have hn : ¬ target <+: base := by
    rintro ⟨rest, rfl⟩
    by_cases hr : rest = []
    · rw [hr, List.append_nil, ht] at hb
      exact hk (Option.some.inj hb)
    · rw [entryAt?_above hr hb] at ht
      exact hk (Option.some.inj ht).symm
  obtain ⟨common, up, down, rfl, rfl, hdown, hp⟩ := specifier_eq hs hplain hn
  have hsegments := segment_of_up_down up fun n hn => hs n (List.mem_append_right common hn)
  have hpath : (Path.childOf ⟨Path.dot⟩ (up.map (fun _ => Path.dotDot) ++ down)).segments =
      (Path.dot :: up.map fun _ => Path.dotDot) ++ down := by
    rw [Path.segments_childOf hsegments]
    rfl
  rw [hp]
  have hup := Walks.current (walks_up { fs with workingDirectory := ⟨common ++ up, 0⟩ } common up)
  refine (denotes_of_leads hthere (Path.childOf_endsInSlash (by simp [hdown]) hsegments) false hpath ?_ ht hk
    hdown).reaches (Path.Usable.childOf (by decide) hsegments)
  rw [startOf, Path.childOf_isAbsolute hsegments]
  exact hup.reaches (by decide) false

lemma usable_found {fs : FileSystem} (h : fs.WellFormed) {scan : Scan} {place : Place} {m : Location}
    (hd : fs.resolve .stay scan.directory = .ok (.directory place)) (hm : Discovery.Wanted fs scan place m) :
    (scan.directory.childOf m).Usable :=
  (resolve_eq_ok_iff.mp hd).1.toUsable.childOf (hm.segments h)

lemma reaches_found {fs : FileSystem} (h : fs.WellFormed) {scan : Scan} {l m : Location}
    (hd : fs.resolve .stay scan.directory = .ok (.directory ⟨l, 0⟩))
    (hm : Discovery.Wanted fs scan ⟨l, 0⟩ m) : fs.Reaches (scan.directory.childOf m) (l ++ m) := by
  obtain ⟨-, hl⟩ := resolve_eq_ok_iff.mp hd
  obtain ⟨e, he, hk⟩ := hm.leaf
  have hn := hm.picks.ne_nil
  have hs := hm.segments h
  refine (denotes_of_leads h (Path.childOf_endsInSlash hn hs) scan.directory.endsInSlash
    (Path.segments_childOf hs) ?_ he hk hn).reaches (usable_found h hd hm)
  rwa [startOf, Path.childOf_isAbsolute hs]

lemma names_plain {fs : FileSystem} {scan : Scan} {l m : Location} (hs : ∀ n ∈ m, n.Valid)
    (hl : l = scan.directory.absolute fs.workingDirectory.location)
    (hplain : Path.Plain (scan.directory.childOf m).bytes)
    (hw : ∀ n ∈ fs.workingDirectory.location, Path.Plain n) : ∀ n ∈ l ++ m, Path.Plain n := by
  rw [hl, ← Path.absolute_childOf _ _ hs]
  exact Path.Plain.absolute hw hplain

lemma reaches_define {fs : FileSystem} (h : fs.WellFormed) (hp : fs.workingDirectory.removed = 0)
    {o : BuildOptions} (hf : fs.LinkFree o.scan.directory) {place goal : Place}
    (hd : fs.resolve .stay o.scan.directory = .ok (.directory place))
    (hw : Walks fs (importBase o.output).segments (fs.startOf (importBase o.output)) goal)
    (hb : (importBase o.output).Accepted) {m : Location} (hm : Discovery.Wanted fs o.scan place m)
    (hplain : Path.Plain (o.scan.directory.childOf m).bytes)
    (hworking : ∀ n ∈ fs.workingDirectory.location, Path.Plain n) :
    fs.Reaches (o.scan.directory.childOf m) (place.location ++ m) ∧
      ({ fs with workingDirectory := goal } : FileSystem).Reaches
        (Path.ofString (specifier ((importBase o.output).absolute fs.workingDirectory.location)
          ((o.scan.directory.childOf m).absolute fs.workingDirectory.location)))
        (place.location ++ m) := by
  obtain ⟨e, he, hk⟩ := hm.leaf
  obtain rfl := ((resolve_eq_ok_iff.mp hd).2.walks hf).goal_eq_absolute hp
  obtain rfl := hw.goal_eq_absolute hp
  have hvalid := hm.valid h
  refine ⟨reaches_found h hd hm, ?_⟩
  rw [Path.absolute_childOf _ _ hvalid]
  exact reaches_specifier h (h.resolve_holds (hw.resolve .follow (by decide) hb)) he hk
    (names_plain hvalid rfl hplain hworking)

theorem specifier_reaches_file (fs : FileSystem) (h : fs.WellFormed) (o : BuildOptions)
    (hf : fs.LinkFree o.scan.directory) (hb : fs.LinkFree (importBase o.output)) {outcome : Outcome}
    {path : Path} (hr : (build fs o).result = .ok outcome) (hd : outcome.destination = .written path)
    {fs' : FileSystem} (hfs : fs' = fs ∨ fs' = (build fs o).files) :
    ∃ place there, fs.resolve .stay o.scan.directory = .ok (.directory place) ∧
      fs'.changeDirectory (importBase o.output) = .ok there ∧
      ∀ d ∈ outcome.definitions, Path.Plain d.file.bytes →
        (∀ n ∈ fs.workingDirectory.location, Path.Plain n) →
        ∃ l, Discovery.Wanted fs o.scan place l ∧ d.file = o.scan.directory.childOf l ∧
          fs'.Reaches d.file (place.location ++ l) ∧
          there.Reaches (Path.ofString d.specifier) (place.location ++ l) := by
  have hc := build_course fs o
  rw [hr] at hc
  generalize (build fs o).files = files at hc hfs
  cases hc with
  | returned => cases hd
  | @written b files hc _ _ hw =>
    obtain ⟨found, wd, hfound, hwd, rfl⟩ := collect_ok hc
    obtain ⟨hp, rfl⟩ := workingLocation_eq_ok_iff.mp hwd
    obtain ⟨place, hplace, rfl⟩ := Discovery.directory_of_find hfound
    obtain ⟨parent, n, rfl, hcreate⟩ := writeFile_eq_ok hw
    obtain ⟨l, _, hwrites, _, _⟩ := writeFile_ok h hw
    obtain ⟨haccepted, goal, hwalks⟩ : (importBase o.output).Accepted ∧ ∃ goal,
        Walks fs (importBase o.output).segments (fs.startOf (importBase o.output)) goal := by
      rcases hcreate with hcreate | ⟨old, hcreate⟩ <;> exact importBase_walks hb hcreate (by simp)
    have hbase := hwalks.resolve .follow (by decide) haccepted
    refine ⟨place, { fs' with workingDirectory := goal }, hplace, ?_, ?_⟩
    · have hbase' : fs'.resolve .follow (importBase o.output) = .ok (.directory goal) := by
        rcases hfs with rfl | rfl
        · exact hbase
        · exact hwrites.resolve hbase (Or.inr (by simp))
      rw [changeDirectory, hbase']
    · intro d hd hplain hworking
      obtain ⟨file, hfile, rfl⟩ := List.mem_map.mp hd
      obtain ⟨m, hm, rfl⟩ := List.mem_map.mp hfile
      have hwanted := (Discovery.mem_locations h).mp hm
      obtain ⟨hpath, hspecifier⟩ := reaches_define h hp hf hplace hwalks haccepted hwanted hplain hworking
      refine ⟨m, hwanted, rfl, ?_⟩
      rcases hfs with rfl | rfl
      · exact ⟨hpath, hspecifier⟩
      · exact ⟨hwrites.reaches hpath, (hwrites.standingAt goal).reaches hspecifier⟩

def crossing : FileSystem where
  nodes := [.directory (encode "x") [], .directory (encode "out") [],
    .directory (encode "defs") [.file (encode "a.js") []]]
  workingDirectory := ⟨[encode "x"], 0⟩

def crossingOptions : BuildOptions where
  scan := ⟨Path.ofString "/x/../defs", Filter.all, false⟩
  output := Path.ofString ".././x//../out/b.js"
  key := none
  denyDuplicates := false

theorem crossing_specifier_reaches_file :
    ∃ place there l,
      crossing.resolve .stay (Path.ofString "/x/../defs") = .ok (.directory place) ∧
      (build crossing crossingOptions).files.changeDirectory (importBase crossingOptions.output) = .ok there ∧
      Discovery.Wanted crossing crossingOptions.scan place l ∧
      there.Names (Path.ofString "./../defs/a.js") (place.location ++ l) := by
  have hr : (build crossing crossingOptions).result =
      .ok ⟨[⟨Path.ofString "/x/../defs/a.js", "A", "./../defs/a.js"⟩], [],
        .written (Path.ofString ".././x//../out/b.js")⟩ := rfl
  obtain ⟨place, there, hplace, hthere, hnames⟩ := specifier_reaches_file crossing (by decide) crossingOptions
    (by decide) (by decide) hr rfl (Or.inr rfl)
  obtain ⟨l, hwanted, -, -, hl⟩ := hnames _ List.mem_cons_self
    ⟨"/x/../defs/a.js", by decide, by decide⟩ fun n hn => ⟨"x", by simpa [crossing] using hn, by decide⟩
  exact ⟨place, there, l, hplace, hthere, hwanted, hl.names (by decide)⟩

def enclosed : Location → List Node → List Node
  | [], nodes => nodes
  | n :: l, nodes => [.directory n (enclosed l nodes)]

-- Neither list may be unfolded where two locations are compared.
@[irreducible]
def longNames : Location := List.replicate 15 (List.replicate 255 0x61)

@[irreducible]
def deepOutput : Location := List.replicate 85 (encode "b")

def distant : FileSystem where
  nodes := enclosed longNames [.file (encode "x.js") []] ++ enclosed deepOutput []
  workingDirectory := ⟨longNames, 0⟩

def distantOptions : BuildOptions where
  scan := ⟨⟨Path.dot⟩, Filter.all, false⟩
  output := ⟨Path.slash :: join Path.slash (deepOutput ++ [encode "o.js"])⟩
  key := none
  denyDuplicates := false

lemma valid_longNames : ∀ n ∈ longNames ++ [encode "x.js"], FileName.Valid n := by decide +kernel

lemma plain_longNames : ∀ n ∈ longNames ++ [encode "x.js"], Path.Plain n := by
  intro n hn
  rcases List.mem_append.mp hn with hn | hn
  · have ha : String.utf8EncodeChar 'a' = [0x61] := by decide
    rw [longNames] at hn
    rw [List.eq_of_mem_replicate hn]
    refine ⟨String.ofList (List.replicate 255 'a'), ?_, ?_⟩
    · rw [encode, String.toList_ofList, List.flatMap_replicate, ha, List.flatten_replicate_singleton]
    · rw [String.toList_ofList]
      exact fun hm => absurd (List.eq_of_mem_replicate hm) (by decide)
  · rw [List.mem_singleton.mp hn]
    exact ⟨"x.js", by decide, by decide⟩

lemma length_longNames : ((longNames ++ [encode "x.js"]).flatMap (Path.slash :: ·)).length = 3845 := by
  have hx : (encode "x.js").length = 4 := by decide
  simp [-List.reduceReplicate, longNames, hx]

lemma length_deepOutput : ((deepOutput.map fun _ => Path.dotDot).flatMap (Path.slash :: ·)).length = 255 := by
  simp [-List.reduceReplicate, deepOutput, Path.dotDot]

lemma firstName_ne : deepOutput.head? ≠ (longNames ++ [encode "x.js"]).head? := by
  have hnames : some (encode "b") ≠ some (List.replicate 255 0x61) := by decide
  rw [deepOutput, longNames]
  exact hnames

lemma distantSpecifier_not_fits :
    ¬ (Path.ofString (specifier deepOutput (longNames ++ [encode "x.js"]))).Fits := by
  have hsegments : ∀ n ∈ longNames ++ [encode "x.js"], Segment n :=
    fun n hn => (valid_longNames n hn).toSegment
  have hoff : ¬ longNames ++ [encode "x.js"] <+: deepOutput := by
    rintro ⟨rest, hrest⟩
    apply firstName_ne
    rw [← hrest, List.head?_append_of_ne_nil _ (by simp)]
  obtain ⟨common, up, down, hbase, htarget, -, hp⟩ := specifier_eq hsegments plain_longNames hoff
  obtain rfl : common = [] := by
    cases common with
    | nil => rfl
    | cons n common =>
      refine absurd ?_ firstName_ne
      rw [hbase, htarget]
      rfl
  rw [List.nil_append] at hbase htarget
  subst hbase htarget
  rw [hp, Path.Fits, Path.length_childOf (by decide) (by decide) (by simp)
    (segment_of_up_down deepOutput hsegments), List.flatMap_append, List.length_append, length_deepOutput,
    length_longNames]
  decide

lemma distant_evaluated :
    distant.WellFormed ∧ distant.LinkFree distantOptions.scan.directory ∧
      distant.LinkFree (importBase distantOptions.output) ∧
      (importBase distantOptions.output).absolute longNames = deepOutput ∧
      [encode "x.js"] ∈ Discovery.locations distantOptions.scan (distant.nodesIn ⟨longNames, 0⟩) ∧
      distantOptions.output.bytes ≠ [] ∧ (build distant distantOptions).result.isOk = true ∧
      ((build distant distantOptions).files.changeDirectory (importBase distantOptions.output)).isOk = true := by
  decide +kernel

lemma distant_built :
    ∃ outcome, (build distant distantOptions).result = .ok outcome ∧
      outcome.destination = .written distantOptions.output ∧
      definitionAt longNames distantOptions [encode "x.js"] ∈ outcome.definitions := by
  obtain ⟨-, -, -, -, hlocation, houtput, hbuild, -⟩ := distant_evaluated
  cases hr : (build distant distantOptions).result with
  | error e =>
    rw [hr] at hbuild
    cases hbuild
  | ok outcome =>
    obtain ⟨b, hc, hdefinitions, -, hdestination⟩ := outcome_of_build hr
    obtain ⟨place, workingDirectory, hd, hworking, hb⟩ := collect_definitionAt hc
    obtain rfl : longNames = workingDirectory := Except.ok.inj hworking
    obtain rfl : ⟨longNames, 0⟩ = place := Found.directory.inj (Except.ok.inj hd)
    refine ⟨outcome, rfl, hdestination.trans (if_neg houtput), ?_⟩
    rw [hdefinitions, hb]
    exact List.mem_map_of_mem hlocation

lemma distant_specifier : (definitionAt longNames distantOptions [encode "x.js"]).specifier =
    specifier deepOutput (longNames ++ [encode "x.js"]) := by
  obtain ⟨-, -, -, hbase, -⟩ := distant_evaluated
  rw [definitionAt, define, hbase, Path.absolute_childOf _ _ (by decide)]
  rfl

/-- A file at a short path, and a module at one that is short enough. -/
theorem distant_specifier_names_nothing :
    distant.WellFormed ∧ distant.LinkFree distantOptions.scan.directory ∧
      distant.LinkFree (importBase distantOptions.output) ∧
      (∀ n ∈ distant.workingDirectory.location, Path.Plain n) ∧
      ∃ outcome d there, (build distant distantOptions).result = .ok outcome ∧
        outcome.destination = .written distantOptions.output ∧ d ∈ outcome.definitions ∧
        d.file = Path.ofString "./x.js" ∧
        (build distant distantOptions).files.changeDirectory (importBase distantOptions.output) = .ok there ∧
        ∀ l, ¬ there.Names (Path.ofString d.specifier) l := by
  obtain ⟨hw, hlink, hbase, -, -, -, -, hthere⟩ := distant_evaluated
  obtain ⟨outcome, hr, hdestination, hmem⟩ := distant_built
  cases hchange : (build distant distantOptions).files.changeDirectory (importBase distantOptions.output) with
  | error fault =>
    rw [hchange] at hthere
    cases hthere
  | ok there =>
    refine ⟨hw, hlink, hbase, fun n hn => plain_longNames n (List.mem_append_left _ hn), outcome,
      definitionAt longNames distantOptions [encode "x.js"], there, hr, hdestination, hmem, by decide, rfl,
      fun l hl => ?_⟩
    rw [distant_specifier] at hl
    exact distantSpecifier_not_fits (names_iff_denotes.mp hl).1.fits

end Build

end BarrelModule
