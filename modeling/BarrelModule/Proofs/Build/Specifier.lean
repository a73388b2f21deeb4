import BarrelModule.Build
import BarrelModule.Proofs.Path.Normal
import BarrelModule.Proofs.Path.Plain

/-! The specifier of a file leads back to it on paper: up from the directory of the module to the last
directory that both are below, and down from there name by name. -/

namespace BarrelModule.Build

open Text

def upDown (times : Nat) (names : List String) : String :=
  "./" ++ "/".intercalate (List.replicate times ".." ++ names)

lemma map_encode_upDown (times : Nat) (names : List String) :
    (List.replicate times ".." ++ names).map encode =
      List.replicate times Path.dotDot ++ names.map encode := by
  have hdotDot : encode ".." = Path.dotDot := by decide
  rw [List.map_append, List.map_replicate, hdotDot]

lemma specifier_spec (base : Location) {target : Location} (hp : ∀ n ∈ target, Path.Plain n) :
    ∃ (common up : Location) (names : List String),
      base = common ++ up ∧ target = common ++ names.map encode ∧
      (∀ l, l <+: base ∧ l <+: target ↔ l <+: common) ∧
      specifier base target = upDown up.length names := by
  obtain ⟨common, up, down, hbase, htarget, hcommon, hrelative⟩ := Location.relative_spec base target
  obtain ⟨names, rfl, hnames⟩ := Path.exists_texts fun n hn =>
    hp n (htarget ▸ List.mem_append_right common hn)
  refine ⟨common, up, names, hbase, htarget, hcommon, ?_⟩
  have hbackslash : ∀ t ∈ List.replicate up.length ".." ++ names, '\\' ∉ t.toList := by
    intro t ht
    rcases List.mem_append.mp ht with ht | ht
    · rw [List.eq_of_mem_replicate ht]
      decide
    · exact hnames t ht
  rw [specifier, hrelative, ← map_encode_upDown, Path.forwardSlashes_join hbackslash, upDown]

lemma segments_dot_slash (bs : Bytes) :
    Path.segments ⟨Path.dot ++ Path.slash :: bs⟩ = Path.dot :: Path.segments ⟨bs⟩ := by
  rw [Path.segments_append_slash]
  rfl

lemma encode_upDown (times : Nat) (names : List String) :
    encode (upDown times names) = Path.dot ++
      Path.slash :: join Path.slash (List.replicate times Path.dotDot ++ names.map encode) := by
  have hopen : encode "./" = Path.dot ++ [Path.slash] := by decide
  rw [upDown, encode_append, Path.encode_intercalate, hopen, map_encode_upDown]
  simp

lemma upDown_isAbsolute (times : Nat) (names : List String) :
    (Path.ofString (upDown times names)).isAbsolute = false := by
  rw [Path.ofString, encode_upDown]
  rfl

lemma absolute_upDown {common up : Location} {names : List String}
    (h : Location.Normal (names.map encode)) :
    (Path.ofString (upDown up.length names)).absolute (common ++ up) = common ++ names.map encode := by
  rw [Path.absolute_eq, upDown_isAbsolute, Path.ofString, encode_upDown, segments_dot_slash,
    Location.segments_up_down up h, List.foldl_cons, Location.step_dot]
  exact h.foldl_step_up_down

theorem specifier_inverts (workingDirectory : Location)
    (hw : ∀ n ∈ workingDirectory, n.Normal ∧ Path.Plain n) (output file : Path) (hf : Path.Plain file.bytes) :
    ∃ (common up : Location) (names : List String),
      (importBase output).absolute workingDirectory = common ++ up ∧
      file.absolute workingDirectory = common ++ names.map encode ∧
      (∀ l, l <+: (importBase output).absolute workingDirectory ∧ l <+: file.absolute workingDirectory ↔
        l <+: common) ∧
      specifier ((importBase output).absolute workingDirectory) (file.absolute workingDirectory) =
        "./" ++ "/".intercalate (List.replicate up.length ".." ++ names) ∧
      (∀ name ∈ names, name ≠ "" ∧ name ≠ "." ∧ name ≠ "..") ∧
      ((Location.path ((importBase output).absolute workingDirectory)).child
        (encode (specifier ((importBase output).absolute workingDirectory)
          (file.absolute workingDirectory)))).absolute workingDirectory =
        file.absolute workingDirectory := by
  have hnormal : workingDirectory.Normal := fun n hn => (hw n hn).1
  have hbase := hnormal.absolute (importBase output)
  have htarget := hnormal.absolute file
  have hplain := Path.Plain.absolute (fun n hn => (hw n hn).2) hf
  generalize (importBase output).absolute workingDirectory = base at hbase ⊢
  generalize file.absolute workingDirectory = target at htarget hplain ⊢
  obtain ⟨common, up, names, rfl, rfl, hcommon, hspecifier⟩ := specifier_spec base hplain
  have hnames : Location.Normal (names.map encode) := fun n hn => htarget n (List.mem_append_right common hn)
  refine ⟨common, up, names, rfl, rfl, hcommon, hspecifier, ?_, ?_⟩
  · intro name hname
    have hn := hnames (encode name) (List.mem_map_of_mem hname)
    refine ⟨?_, ?_, ?_⟩ <;> rintro rfl
    · exact hn.ne_nil (by decide)
    · exact hn.ne_dot (by decide)
    · exact hn.ne_dotDot (by decide)
  · have hback := hbase.absolute_child_path workingDirectory (upDown_isAbsolute up.length names)
    rw [absolute_upDown hnames] at hback
    rwa [hspecifier]

theorem outer_specifier_inverts :
    (∀ n ∈ ([encode "w"] : Location), n.Normal ∧ Path.Plain n) ∧ Path.Plain (Path.ofString "../defs//a.js").bytes ∧
      (importBase (Path.ofString "out//./x/../b.js")).absolute [encode "w"] = [encode "w", encode "out"] ∧
      specifier [encode "w", encode "out"] [encode "defs", encode "a.js"] = "./../../defs/a.js" ∧
      ((Location.path [encode "w", encode "out"]).child (encode "./../../defs/a.js")).absolute [encode "w"] =
        [encode "defs", encode "a.js"] := by
  have hw : ∀ n ∈ ([encode "w"] : Location), n.Normal ∧ Path.Plain n := by
    intro n hn
    rw [List.mem_singleton.mp hn]
    exact ⟨by decide, "w", rfl, by decide⟩
  have hf : Path.Plain (Path.ofString "../defs//a.js").bytes := ⟨"../defs//a.js", rfl, by decide⟩
  have hbase : (importBase (Path.ofString "out//./x/../b.js")).absolute [encode "w"] =
      [encode "w", encode "out"] := by decide
  have htarget : (Path.ofString "../defs//a.js").absolute [encode "w"] = [encode "defs", encode "a.js"] := by
    decide
  have hspecifier : specifier [encode "w", encode "out"] [encode "defs", encode "a.js"] =
      "./../../defs/a.js" := by decide
  obtain ⟨_, _, _, _, _, _, _, _, hback⟩ :=
    specifier_inverts [encode "w"] hw (Path.ofString "out//./x/../b.js") (Path.ofString "../defs//a.js") hf
  rw [hbase, htarget, hspecifier] at hback
  exact ⟨hw, hf, hbase, hspecifier, hback⟩

end BarrelModule.Build
