import BarrelModule.Proofs.FileSystem.Walking
import BarrelModule.Proofs.Path.Climbing

/-! Equal trees below two directories: a path that stays below its start and goes through no link finds
the same from the one as from the other. -/

namespace BarrelModule

open Text

def Found.under (l : Location) : Found → Found
  | .directory place => .directory ⟨l ++ place.location, place.removed⟩
  | .node parent leaf => .node (l ++ parent) leaf
  | .missing parent n => .missing (l ++ parent) n

namespace FileSystem

def SameBelow (fs : FileSystem) (l : Location) (fs' : FileSystem) (l' : Location) : Prop :=
  ∀ m, fs'.entryAt? (l' ++ m) = fs.entryAt? (l ++ m)

lemma sameBelow_of_nodesAt? {fs fs' : FileSystem} {l l' : Location} {nodes : List Node}
    (h : Node.nodesAt? l fs.nodes = some nodes) (h' : Node.nodesAt? l' fs'.nodes = some nodes) :
    fs.SameBelow l fs' l' := by
  intro m
  by_cases hm : m = []
  · have hd := Node.entryAt?_eq_directory.mpr ⟨nodes, h⟩
    have hd' := Node.entryAt?_eq_directory.mpr ⟨nodes, h'⟩
    rw [hm, List.append_nil, List.append_nil, entryAt?, entryAt?, hd, hd']
  · rw [entryAt?, entryAt?, Node.entryAt?_append l' hm, Node.entryAt?_append l hm, h, h']

lemma descend_name {fs : FileSystem} {ending : Ending}
    {follow : List Bytes → Bool → Place → Except Fault Found} {slash : Bool} {s : Bytes} {rest : List Bytes}
    {l : Location} (hs : s ≠ Path.dot) (hs' : s ≠ Path.dotDot) :
    descend fs ending follow slash (s :: rest) ⟨l, 0⟩ =
      if ending = .create && rest = [] && slash then .error .isADirectory
      else if s.length > longestName then .error .nameTooLong
      else match fs.entryAt? (l ++ [s]) with
        | none => if rest = [] then .ok (.missing l s) else .error .notFound
        | some .directory => descend fs ending follow slash rest ⟨l ++ [s], 0⟩
        | some (.file content) =>
          if rest = [] && !slash then .ok (.node l (.file s content)) else .error .notADirectory
        | some (.link target) =>
          if rest = [] && !slash && ending = .stay then .ok (.node l (.link s target))
          else follow (target.segments ++ rest) (slash || (rest = [] && target.endsInSlash))
            (if target.isAbsolute then Place.root else ⟨l, 0⟩) := by
  have he : fs.entryAt? (l ++ [s]) = (Node.find? (fs.nodesIn ⟨l, 0⟩) s).map Node.entry := by
    rw [← entryIn?_eq, entryIn?, if_pos rfl]
  rw [descend, if_neg hs, if_neg hs']
  by_cases hc : (ending = .create && rest = [] && slash) = true
  · rw [if_pos hc, if_pos hc]
  by_cases hlong : s.length > longestName
  · rw [if_neg hc, if_neg hc, if_pos hlong, lookup, if_neg (by simp), if_pos hlong]
  have hlookup : fs.lookup ⟨l, 0⟩ s = .ok (Node.find? (fs.nodesIn ⟨l, 0⟩) s) :=
    lookup_eq_ok_iff.mpr ⟨rfl, by omega, rfl⟩
  rw [if_neg hc, if_neg hc, if_neg hlong, hlookup, he]
  cases hf : Node.find? (fs.nodesIn ⟨l, 0⟩) s with
  | none => rfl
  | some node =>
    have hname := Node.find?_name hf
    cases node with
    | directory => rfl
    | file n content =>
      obtain rfl : n = s := hname
      rfl
    | link n target =>
      obtain rfl : n = s := hname
      rfl

section SameBelow

variable {fs fs' : FileSystem} {l l' : Location} (h : fs.SameBelow l fs' l')
include h

lemma SameBelow.descend {ending : Ending} {follow follow' : List Bytes → Bool → Place → Except Fault Found}
    {slash : Bool} {segments : List Bytes} {m : Location} (hc : Path.ClimbsAtMost m.length segments)
    (hf : fs.LinkFreeFrom segments ⟨l ++ m, 0⟩) :
    ∃ result : Except Fault Found,
      FileSystem.descend fs ending follow slash segments ⟨l ++ m, 0⟩ = result.map (Found.under l) ∧
      FileSystem.descend fs' ending follow' slash segments ⟨l' ++ m, 0⟩ = result.map (Found.under l') := by
  induction segments generalizing m with
  | nil => exact ⟨.ok (.directory ⟨m, 0⟩), rfl, rfl⟩
  | cons s rest ih =>
    by_cases hs : s = Path.dot
    · subst hs
      simpa only [FileSystem.descend, if_true] using ih (Path.climbsAtMost_dot.mp hc) (linkFreeFrom_dot.mp hf)
    by_cases hs' : s = Path.dotDot
    · subst hs'
      obtain ⟨hpos, hrest⟩ := Path.climbsAtMost_dotDot.mp hc
      have hup : ∀ k : Location, Place.up ⟨k ++ m, 0⟩ = ⟨k ++ m.dropLast, 0⟩ := fun k => by
        rw [Place.up, Location.dropLast_append_of_pos k hpos]
      have hfree := linkFreeFrom_dotDot.mp hf
      rw [hup] at hfree
      simpa only [FileSystem.descend, if_neg hs, if_true, hup] using
        ih (by rwa [List.length_dropLast]) hfree
    · rw [LinkFreeFrom, if_neg hs, if_neg hs'] at hf
      rw [descend_name hs hs', descend_name hs hs', List.append_assoc, List.append_assoc, h]
      split
      case isTrue => exact ⟨.error .isADirectory, rfl, rfl⟩
      case isFalse =>
      split
      case isTrue => exact ⟨.error .nameTooLong, rfl, rfl⟩
      case isFalse =>
      cases he : fs.entryAt? (l ++ (m ++ [s])) with
      | none =>
        by_cases hr : rest = []
        · exact ⟨.ok (.missing m s), by simp [hr]; rfl, by simp [hr]; rfl⟩
        · exact ⟨.error .notFound, by simp [hr]; rfl, by simp [hr]; rfl⟩
      | some e =>
        cases e with
        | directory =>
          have hdown : Place.down ⟨l ++ m, 0⟩ s = ⟨l ++ (m ++ [s]), 0⟩ := by simp [Place.down]
          exact ih (by simpa using (Path.climbsAtMost_name hs hs').mp hc) (hdown ▸ hf.2)
        | file content =>
          by_cases hr : (rest = [] && !slash) = true
          · exact ⟨.ok (.node m (.file s content)), by simp [hr]; rfl, by simp [hr]; rfl⟩
          · exact ⟨.error .notADirectory, by simp [hr]; rfl, by simp [hr]; rfl⟩
        | link target =>
          have hin : fs.entryIn? ⟨l ++ m, 0⟩ s = some (.link target) :=
            entryIn?_eq_some_iff.mpr ⟨rfl, by simpa using he⟩
          exact absurd (hf.1 _ hin) (by simp [Entry.isLink])

lemma SameBelow.resolve (hw : fs.workingDirectory = ⟨l, 0⟩) (hw' : fs'.workingDirectory = ⟨l', 0⟩)
    {p : Path} (hp : p.StaysBelow) (hf : fs.LinkFree p) (ending : Ending) :
    ∃ result : Except Fault Found, fs.resolve ending p = result.map (Found.under l) ∧
      fs'.resolve ending p = result.map (Found.under l') := by
  have hstart : fs.startOf p = ⟨l ++ [], 0⟩ := by simp [startOf, hp.relative, hw]
  have hstart' : fs'.startOf p = ⟨l' ++ [], 0⟩ := by simp [startOf, hp.relative, hw']
  rw [LinkFree, hstart] at hf
  rw [FileSystem.resolve, FileSystem.resolve]
  cases refusal? p with
  | some fault => exact ⟨.error fault, rfl, rfl⟩
  | none =>
    simp only [lead, hstart, hstart', descendWithin_eq]
    exact h.descend hp.climbs hf

end SameBelow

end FileSystem

end BarrelModule
