import BarrelModule.Proofs.Build.Naming

/-! Which of the files that one scan finds are imported from one specifier: files stand at different paths
from the directory of the module, and only their text can fail to tell them apart. -/

namespace BarrelModule

open Text

namespace Path

lemma Plain.of_join {names : List Bytes} (hs : ∀ n ∈ names, n ≠ [] ∧ slash ∉ n)
    (h : Plain (Text.join slash names)) : ∀ n ∈ names, Plain n := by
  intro n hn
  rw [← segments_join hs] at hn
  exact Plain.segment (p := ⟨Text.join slash names⟩) h hn

lemma Plain.forwardSlashes_injective {p q : Path} (hp : Plain p.bytes) (hq : Plain q.bytes)
    (h : p.forwardSlashes = q.forwardSlashes) : p = q := by
  have hbytes : p.bytes = q.bytes := by rw [← hp.encode_forwardSlashes, h, hq.encode_forwardSlashes]
  cases p
  cases q
  exact congrArg Path.mk hbytes

end Path

namespace Location

lemma plain_relative {start target : Location} (h : ∀ n ∈ target, Path.Plain n) :
    Path.Plain (relative start target).bytes := by
  obtain ⟨common, up, down, rfl, rfl, -, hrelative⟩ := relative_spec start target
  rw [hrelative]
  apply Path.Plain.join
  intro n hn
  rcases List.mem_append.mp hn with hn | hn
  · rw [List.eq_of_mem_replicate hn]
    exact ⟨"..", by decide, by decide⟩
  · exact h n (List.mem_append_right common hn)

lemma forwardSlashes_relative_injective {start directory m m' : Location} (hm : m.Normal) (hm' : m'.Normal)
    (hp : Path.Plain (join Path.slash m)) (hp' : Path.Plain (join Path.slash m')) (hn : m ≠ []) (hn' : m' ≠ [])
    (h : (relative start (directory ++ m)).forwardSlashes = (relative start (directory ++ m')).forwardSlashes) :
    m = m' := by
  have hs : ∀ n ∈ m, n ≠ [] ∧ Path.slash ∉ n := fun n hn => ⟨(hm n hn).ne_nil, (hm n hn).slash_notMem⟩
  have hs' : ∀ n ∈ m', n ≠ [] ∧ Path.slash ∉ n := fun n hn => ⟨(hm' n hn).ne_nil, (hm' n hn).slash_notMem⟩
  by_cases hd : directory <+: start
  · -- Only names below the directory occur, and they are plain, whatever the directory is called.
    obtain ⟨rest, rfl⟩ := hd
    rw [relative_append, relative_append] at h
    exact hm.relative_injective hm' (Path.Plain.forwardSlashes_injective
      (plain_relative (Path.Plain.of_join hs hp)) (plain_relative (Path.Plain.of_join hs' hp')) h)
  · obtain ⟨front, hfront, hrelative⟩ := relative_append_of_outside hd
    rw [hrelative, hrelative, join_append hfront hn, join_append hfront hn',
      Path.forwardSlashes_append_slash, Path.forwardSlashes_append_slash] at h
    have hjoin := Path.Plain.forwardSlashes_injective hp hp' ((String.append_right_inj _).mp h)
    rw [← Path.segments_join hs, hjoin, Path.segments_join hs']

end Location

namespace Build

def pathFromModule (workingDirectory : Location) (o : BuildOptions) (d : Definition) : Path :=
  Location.relative ((importBase o.output).absolute workingDirectory) (d.file.absolute workingDirectory)

def PlainBelow (o : BuildOptions) (d : Definition) : Prop :=
  Path.Plain (pathBelow o.scan.directory d.file).bytes

lemma specifier_eq_iff (base target target' : Location) :
    specifier base target = specifier base target' ↔
      (Location.relative base target).forwardSlashes = (Location.relative base target').forwardSlashes :=
  String.append_right_inj _

section Found

variable {workingDirectory : Location} {o : BuildOptions} {m m' : Location}
  (hm : ∀ n ∈ m, n.Valid) (hm' : ∀ n ∈ m', n.Valid)
include hm hm'

lemma pathFromModule_ne (hw : workingDirectory.Normal) (hne : m ≠ m') :
    pathFromModule workingDirectory o (definitionAt workingDirectory o m) ≠
      pathFromModule workingDirectory o (definitionAt workingDirectory o m') := by
  have hnormal : ∀ k : Location, (∀ n ∈ k, n.Valid) →
      Location.Normal (o.scan.directory.absolute workingDirectory ++ k) := by
    intro k hk n hn
    rcases List.mem_append.mp hn with hn | hn
    · exact hw.absolute o.scan.directory n hn
    · exact (hk n hn).normal
  have hfile : ∀ k : Location, (definitionAt workingDirectory o k).file = o.scan.directory.childOf k := fun _ => rfl
  intro he
  rw [pathFromModule, pathFromModule, hfile, hfile, Path.absolute_childOf _ _ hm,
    Path.absolute_childOf _ _ hm'] at he
  exact hne (List.append_cancel_left ((hnormal m hm).relative_injective (hnormal m' hm') he))

lemma specifier_ne_of_plainBelow (hn : m ≠ []) (hn' : m' ≠ []) (hne : m ≠ m')
    (hp : PlainBelow o (definitionAt workingDirectory o m))
    (hp' : PlainBelow o (definitionAt workingDirectory o m')) :
    (definitionAt workingDirectory o m).specifier ≠ (definitionAt workingDirectory o m').specifier := by
  have hbelow : ∀ k : Location, (∀ n ∈ k, n.Valid) →
      pathBelow o.scan.directory (definitionAt workingDirectory o k).file = ⟨join Path.slash k⟩ :=
    fun _ hk => pathBelow_childOf _ hk
  rw [PlainBelow, hbelow m hm] at hp
  rw [PlainBelow, hbelow m' hm'] at hp'
  intro he
  rw [definitionAt, definitionAt, define, define, specifier_eq_iff, Path.absolute_childOf _ _ hm,
    Path.absolute_childOf _ _ hm'] at he
  exact hne (Location.forwardSlashes_relative_injective (fun n hn => (hm n hn).normal)
    (fun n hn => (hm' n hn).normal) hp hp' hn hn' he)

end Found

theorem specifiers_differ (fs : FileSystem) (h : fs.WellFormed) (o : BuildOptions) {b : Barrel}
    (hb : (collect fs o).result = .ok b) :
    ∃ workingDirectory, fs.workingLocation = .ok workingDirectory ∧ b.definitions.Pairwise fun d d' =>
      d.file ≠ d'.file ∧
      pathFromModule workingDirectory o d ≠ pathFromModule workingDirectory o d' ∧
      (d.specifier = d'.specifier ↔
        (pathFromModule workingDirectory o d).forwardSlashes =
          (pathFromModule workingDirectory o d').forwardSlashes) ∧
      (PlainBelow o d → PlainBelow o d' → d.specifier ≠ d'.specifier) := by
  obtain ⟨place, workingDirectory, hd, hw, hdefinitions⟩ := collect_definitionAt hb
  refine ⟨workingDirectory, hw, ?_⟩
  have hnormal : workingDirectory.Normal := by
    obtain ⟨-, rfl⟩ := FileSystem.workingLocation_eq_ok_iff.mp hw
    exact fun n hn => (h.location_valid h.workingDirectory n hn).normal
  have hvalid : ∀ m ∈ Discovery.locations o.scan (fs.nodesIn place), ∀ n ∈ m, n.Valid := Discovery.locations_valid h
  have hnil : ∀ m ∈ Discovery.locations o.scan (fs.nodesIn place), m ≠ [] :=
    fun m hm => ((Discovery.mem_locations h).mp hm).picks.ne_nil
  rw [hdefinitions, List.pairwise_map]
  refine (Discovery.locations_sorted (h.nodesIn place)).nodup.imp_of_mem ?_
  intro m m' hm hm' hne
  refine ⟨?_, pathFromModule_ne (hvalid m hm) (hvalid m' hm') hnormal hne, specifier_eq_iff _ _ _,
    specifier_ne_of_plainBelow (hvalid m hm) (hvalid m' hm') (hnil m hm) (hnil m' hm') hne⟩
  intro he
  exact hne (Path.childOf_injective (fun n hn => (hvalid m hm n hn).toSegment)
    (fun n hn => (hvalid m' hm' n hn).toSegment) he)

def backslashDirectory : FileSystem where
  nodes := [.directory (encode "x\\y") [.directory (encode "out") [.file (encode "b.js") []],
    .file (encode "b\n.js") []]]
  workingDirectory := Place.root

def insideOptions : BuildOptions where
  scan := ⟨Path.ofString "x\\y", Filter.all, true⟩
  output := Path.ofString "x\\y/out/all.js"
  key := none
  denyDuplicates := false

theorem specifiers_differ_backslashDirectory :
    ∃ d d', (collect backslashDirectory insideOptions).result = .ok ⟨[d, d'], none⟩ ∧
      d.specifier ≠ d'.specifier := by
  have hb : (collect backslashDirectory insideOptions).result = .ok
      ⟨[⟨Path.ofString "x\\y/b\n.js", "B", "./../b\n.js"⟩, ⟨Path.ofString "x\\y/out/b.js", "OutB", "./b.js"⟩],
        none⟩ := rfl
  obtain ⟨workingDirectory, -, hdiffer⟩ := specifiers_differ backslashDirectory (by decide) insideOptions hb
  obtain ⟨-, -, -, hplain⟩ := List.rel_of_pairwise_cons hdiffer List.mem_cons_self
  refine ⟨_, _, hb, hplain ⟨"b\n.js", ?_, by decide⟩ ⟨"out/b.js", ?_, by decide⟩⟩
  all_goals rfl

def backslashName : FileSystem where
  nodes := [.directory (encode "a") [.file (encode "b.js") []], .file (encode "a\\b.js") []]
  workingDirectory := Place.root

theorem backslashName_shares_specifier :
    ∃ b, backslashName.WellFormed ∧
      (collect backslashName ⟨⟨Path.ofString ".", Filter.all, true⟩, ⟨[]⟩, none, false⟩).result = .ok b ∧
      b.definitions.map Definition.file = [Path.ofString "./a/b.js", Path.ofString "./a\\b.js"] ∧
      ¬ b.definitions.Pairwise fun d d' => d.specifier ≠ d'.specifier := by
  have hb : (collect backslashName ⟨⟨Path.ofString ".", Filter.all, true⟩, ⟨[]⟩, none, false⟩).result = .ok
      ⟨[⟨Path.ofString "./a/b.js", "AB", "./a/b.js"⟩, ⟨Path.ofString "./a\\b.js", "AB", "./a/b.js"⟩], none⟩ := rfl
  exact ⟨_, by decide, hb, rfl, by simp⟩

end Build

end BarrelModule
