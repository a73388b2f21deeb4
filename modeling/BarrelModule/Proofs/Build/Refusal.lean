import BarrelModule.Proofs.Barrel.Duplicates
import BarrelModule.Proofs.Build.Course

namespace BarrelModule.Build

open Text

section Denying

variable {fs : FileSystem} {o : BuildOptions} {b : Barrel} (hc : (collect fs o).result = .ok b)
include hc

lemma build_denying_of_none (hd : b.duplicate? = none) :
    build fs { o with denyDuplicates := true } = build fs { o with denyDuplicates := false } := by
  have hsame : ∀ deny, collect fs { o with denyDuplicates := deny } = collect fs o := fun _ => rfl
  simp only [build, hsame, hc, deliver, hd, ite_self]

lemma build_denying {d : Duplicate} (hd : b.duplicate? = some d) :
    (build fs { o with denyDuplicates := true }).result = .error (.duplicate d) ∧
      (build fs { o with denyDuplicates := true }).files = fs :=
  build_denied (o := { o with denyDuplicates := true }) hc hd

lemma build_denying_iff {d : Duplicate} :
    (build fs { o with denyDuplicates := true }).result = .error (.duplicate d) ↔ b.duplicate? = some d := by
  constructor
  · intro hr
    have hcourse := build_course fs { o with denyDuplicates := true }
    rw [hr] at hcourse
    generalize (build fs { o with denyDuplicates := true }).files = files at hcourse
    cases hcourse with
    | uncollected he => cases hc.symm.trans he
    | denied hc' hd =>
      cases hc.symm.trans hc'
      exact hd
  · intro hd
    exact (build_denying hc hd).1

end Denying

theorem deny_refuses_first_shared (fs : FileSystem) (o : BuildOptions) {b : Barrel}
    (hc : (collect fs o).result = .ok b) :
    ((∃ d, (build fs { o with denyDuplicates := true }).result = .error (.duplicate d)) ↔
        ∃ w ∈ b.warnings, w.isShared = true) ∧
      ((∃ w ∈ b.warnings, w.isShared = true) ↔ ¬ (b.definitions.map Definition.binding).Nodup) ∧
      ((¬ ∃ d, (build fs { o with denyDuplicates := true }).result = .error (.duplicate d)) →
        build fs { o with denyDuplicates := true } = build fs { o with denyDuplicates := false }) ∧
      ∀ d, (build fs { o with denyDuplicates := true }).result = .error (.duplicate d) →
        (build fs { o with denyDuplicates := true }).files = fs ∧
          b.warnings.find? Warning.isShared = some (.sharedName d.second d.first d.name) ∧
          ∃ earlier later, FirstShared b.definitions earlier later ∧
            d = ⟨later.binding, earlier.file, later.file⟩ := by
  have hdenied : (∃ d, (build fs { o with denyDuplicates := true }).result = .error (.duplicate d)) ↔
      b.duplicate? ≠ none := by
    simp only [build_denying_iff hc, Option.ne_none_iff_exists']
  refine ⟨hdenied.trans (Barrel.exists_isShared_iff b).symm, ?_, ?_, ?_⟩
  · rw [Barrel.exists_isShared_iff, Ne, Barrel.duplicate?_eq_none_iff]
  · rw [hdenied, not_not]
    exact build_denying_of_none hc
  · intro d hr
    have hd := (build_denying_iff hc).mp hr
    refine ⟨(build_denying hc hd).2, ?_, Barrel.duplicate?_eq_some hd⟩
    rw [Barrel.find?_isShared_warnings, hd]
    rfl

def interleaved : FileSystem where
  nodes := [.file (encode "Makefile") [], .file (encode "A-b.js") [],
    .directory (encode "a") [.file (encode "b.js") []], .file (encode "README") []]
  workingDirectory := Place.root

def interleavedOptions : BuildOptions where
  scan := ⟨Path.ofString ".", Filter.all, true⟩
  output := Path.ofString "barrel.js"
  key := none
  denyDuplicates := false

theorem interleaved_refused :
    (build interleaved { interleavedOptions with denyDuplicates := true }).files = interleaved ∧
      ∃ b, (collect interleaved interleavedOptions).result = .ok b ∧
        b.warnings.find? Warning.isShared =
          some (.sharedName (Path.ofString "./README") (Path.ofString "./Makefile") "") := by
  have hc : (collect interleaved interleavedOptions).result =
      .ok ⟨[⟨Path.ofString "./A-b.js", "AB", "./A-b.js"⟩, ⟨Path.ofString "./Makefile", "", "./Makefile"⟩,
        ⟨Path.ofString "./README", "", "./README"⟩, ⟨Path.ofString "./a/b.js", "AB", "./a/b.js"⟩], none⟩ := rfl
  have hr : (build interleaved { interleavedOptions with denyDuplicates := true }).result =
      .error (.duplicate ⟨"", Path.ofString "./Makefile", Path.ofString "./README"⟩) := by
    apply (build_denying_iff hc).mpr
    decide
  obtain ⟨-, -, -, hrefused⟩ := deny_refuses_first_shared interleaved interleavedOptions hc
  obtain ⟨hfiles, hfirst, -⟩ := hrefused _ hr
  exact ⟨hfiles, _, hc, hfirst⟩

end BarrelModule.Build
