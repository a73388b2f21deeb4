import BarrelModule.FileSystem.Operations
import BarrelModule.Proofs.FileSystem.Writing

namespace BarrelModule

open Text

namespace FileSystem

lemma locate_name {fs : FileSystem} (h : fs.WellFormed) {p : Path} {place : Place} {n : FileName}
    (hl : fs.locate p = .ok (place, .name n)) :
    fs.entryAt? place.location = some .directory ∧ Segment n ∧ n ≠ Path.dot ∧ n ≠ Path.dotDot := by
  rw [locate] at hl
  split at hl
  case h_1 | h_2 => cases hl
  case h_3 s hrefusal hs =>
    have hp := accepted_of_refusal? hrefusal
    obtain ⟨init, hinit⟩ := List.getLast?_eq_some_iff.mp hs
    cases hd : descendWithin fs .follow mostLinks p.segments.dropLast true (fs.startOf p) with
    | error => simp [hd] at hl
    | ok found =>
      cases found with
      | missing | node => simp [hd] at hl
      | directory goal =>
        rw [hd] at hl
        simp only [Except.ok.injEq, Prod.mk.injEq] at hl
        obtain ⟨rfl, hname⟩ := hl
        have hholds := (descendWithin_eq_ok_iff.mp hd).holds h (h.startOf p)
          fun t ht => hp.segment (List.dropLast_subset _ ht)
        split at hname
        case isTrue => cases hname
        case isFalse hdot =>
        split at hname
        case isTrue => cases hname
        case isFalse hdotDot =>
        cases hname
        exact ⟨hholds, hp.segment (by simp [hinit]), hdot, hdotDot⟩

structure Located (fs : FileSystem) (l : Location) (n : FileName) (node? : Option Node) : Prop where
  above : fs.entryAt? l = some .directory
  valid : n.Valid
  find : ∃ nodes, Node.nodesAt? l fs.nodes = some nodes ∧ Node.find? nodes n = node?

lemma located {fs : FileSystem} (h : fs.WellFormed) {p : Path} {place : Place} {n : FileName}
    (hl : fs.locate p = .ok (place, .name n)) {node? : Option Node} (hn : fs.lookup place n = .ok node?) :
    fs.Located place.location n node? := by
  obtain ⟨habove, hsegment, hdot, hdotDot⟩ := locate_name h hl
  obtain ⟨hremoved, hlength, hfind⟩ := lookup_eq_ok_iff.mp hn
  obtain ⟨nodes, hnodes⟩ := Node.entryAt?_eq_directory.mp habove
  rw [nodesIn, if_pos hremoved, hnodes] at hfind
  exact ⟨habove, ⟨hsegment, ⟨hdot, hdotDot, hlength⟩⟩, nodes, hnodes, hfind⟩

lemma Located.entryAt? {fs : FileSystem} {l : Location} {n : FileName} {node? : Option Node}
    (h : fs.Located l n node?) : fs.entryAt? (l ++ [n]) = node?.map Node.entry := by
  obtain ⟨nodes, hnodes, hfind⟩ := h.find
  rw [FileSystem.entryAt?, Node.entryAt?_concat, hnodes, Option.bind_some, hfind]

lemma Located.wellFormed {fs : FileSystem} (h : fs.WellFormed) {l : Location} {n : FileName} {node : Node}
    (hl : fs.Located l n (some node)) : node.WellFormed ∧ node.name = n := by
  obtain ⟨nodes, hnodes, hfind⟩ := hl.find
  exact ⟨(h.nodes.nodesAt? hnodes).find? hfind, Node.find?_name hfind⟩

lemma entryAt?_changed_other {fs : FileSystem} {f : List Node → List Node} {n : FileName}
    (hf : ∀ nodes k, k ≠ n → Node.find? (f nodes) k = Node.find? nodes k) {l m : Location}
    (hm : ¬ l ++ [n] <+: m) : (fs.changed l f).entryAt? m = fs.entryAt? m :=
  Node.entryAt?_changeAt_other hf hm fs.nodes

lemma find?_put_other {node : Node} {n : FileName} (hn : node.name = n) (nodes : List Node) (k : FileName)
    (hk : k ≠ n) : Node.find? (Node.put node nodes) k = Node.find? nodes k := by
  rw [Node.find?_put, hn, if_neg hk]

lemma find?_erase_other {n : FileName} (nodes : List Node) (k : FileName) (hk : k ≠ n) :
    Node.find? (Node.erase n nodes) k = Node.find? nodes k := by
  rw [Node.find?_erase, if_neg hk]

lemma not_below {fs : FileSystem} {l m : Location} (h : fs.entryAt? l ≠ some .directory)
    (hm : fs.entryAt? m = some .directory) : ¬ l <+: m := by
  rintro ⟨rest, rfl⟩
  by_cases hr : rest = []
  · exact h (by simpa [hr] using hm)
  · exact h (entryAt?_above hr hm)

lemma changed_name_wellFormed {fs : FileSystem} (h : fs.WellFormed) {f : List Node → List Node}
    {l : Location} {n : FileName} (hn : fs.entryAt? (l ++ [n]) ≠ some .directory)
    (hf : ∀ nodes k, k ≠ n → Node.find? (f nodes) k = Node.find? nodes k)
    (hw : ∀ nodes, Node.AllWellFormed nodes → Node.AllWellFormed (f nodes)) : (fs.changed l f).WellFormed := by
  refine changed_wellFormed h (fun nodes hnodes => hw nodes (h.nodes.nodesAt? hnodes)) ?_
  rw [entryAt?_changed_other hf (not_below hn h.workingDirectory)]
  exact h.workingDirectory

theorem empty_wellFormed : empty.WellFormed := by decide

theorem changeDirectory_wellFormed {fs fs' : FileSystem} (h : fs.WellFormed) {p : Path}
    (ho : fs.changeDirectory p = .ok fs') : fs'.WellFormed := by
  rw [changeDirectory] at ho
  split at ho
  case h_2 place hr =>
    cases ho
    exact ⟨h.nodes, h.resolve_holds hr⟩
  all_goals cases ho

lemma bind_locate_ok {fs fs' : FileSystem} {p : Path} {k : Place × Last → Except Fault FileSystem}
    (h : (fs.locate p >>= k) = .ok fs') : ∃ place last, fs.locate p = .ok (place, last) ∧ k (place, last) = .ok fs' := by
  cases hl : fs.locate p with
  | error fault => simp [hl, bind, Except.bind] at h
  | ok r => exact ⟨r.1, r.2, rfl, by simpa [hl, bind, Except.bind] using h⟩

lemma bind_lookup_ok {fs fs' : FileSystem} {place : Place} {n : FileName}
    {k : Option Node → Except Fault FileSystem} (h : (fs.lookup place n >>= k) = .ok fs') :
    ∃ node?, fs.lookup place n = .ok node? ∧ k node? = .ok fs' := by
  cases hn : fs.lookup place n with
  | error fault => simp [hn, bind, Except.bind] at h
  | ok node? => exact ⟨node?, rfl, by simpa [hn, bind, Except.bind] using h⟩

theorem makeDirectory_wellFormed {fs fs' : FileSystem} (h : fs.WellFormed) {p : Path}
    (ho : fs.makeDirectory p = .ok fs') : fs'.WellFormed := by
  obtain ⟨place, last, hl, ho⟩ := bind_locate_ok ho
  cases last with
  | root | current | parent => cases ho
  | name n =>
    obtain ⟨node?, hn, ho⟩ := bind_lookup_ok ho
    cases node? with
    | some node => cases ho
    | none =>
      cases ho
      have hlocated := located h hl hn
      refine changed_name_wellFormed h (by simp [hlocated.entryAt?]) (find?_put_other rfl) fun nodes hnodes => ?_
      exact Node.put_allWellFormed ⟨hlocated.valid, trivial⟩ hnodes

lemma makeLink_ok {fs fs' : FileSystem} (h : fs.WellFormed) {p target : Path}
    (ho : fs.makeLink p target = .ok fs') :
    ∃ l n, target.Usable ∧ fs.Located l n none ∧ fs' = fs.changed l (Node.put (.link n target)) := by
  rw [makeLink] at ho
  split at ho
  case isTrue => cases ho
  case isFalse =>
  split at ho
  case h_1 => cases ho
  case h_2 htarget =>
  have ht := accepted_of_refusal? (Option.eq_none_iff_forall_not_mem.mpr htarget)
  obtain ⟨place, last, hl, ho⟩ := bind_locate_ok ho
  cases last with
  | root | current | parent => cases ho
  | name n =>
    obtain ⟨node?, hn, ho⟩ := bind_lookup_ok ho
    cases node? with
    | some node => cases ho
    | none =>
      simp only at ho
      split at ho
      case isTrue => cases ho
      case isFalse =>
        cases ho
        exact ⟨place.location, n, ht.toUsable, located h hl hn, rfl⟩

theorem makeLink_wellFormed {fs fs' : FileSystem} (h : fs.WellFormed) {p target : Path}
    (ho : fs.makeLink p target = .ok fs') : fs'.WellFormed := by
  obtain ⟨l, n, ht, hlocated, rfl⟩ := makeLink_ok h ho
  refine changed_name_wellFormed h (by simp [hlocated.entryAt?]) (find?_put_other rfl) fun nodes hnodes => ?_
  exact Node.put_allWellFormed ⟨hlocated.valid, ht⟩ hnodes

theorem removeFile_wellFormed {fs fs' : FileSystem} (h : fs.WellFormed) {p : Path}
    (ho : fs.removeFile p = .ok fs') : fs'.WellFormed := by
  obtain ⟨place, last, hl, ho⟩ := bind_locate_ok ho
  cases last with
  | root | current | parent => cases ho
  | name n =>
    obtain ⟨node?, hn, ho⟩ := bind_lookup_ok ho
    have hlocated := located h hl hn
    have hleaf : (∀ node ∈ node?, node.entry ≠ .directory) ∧ fs' = fs.changed place.location (Node.erase n) := by
      cases node? with
      | none => cases ho
      | some node =>
        cases node with
        | directory => cases ho
        | file | link =>
          simp only at ho
          split at ho
          · cases ho
          · cases ho
            exact ⟨by simp [Node.entry], rfl⟩
    obtain ⟨hentry, rfl⟩ := hleaf
    refine changed_name_wellFormed h ?_ find?_erase_other fun nodes hnodes => Node.erase_allWellFormed n hnodes
    rw [hlocated.entryAt?]
    intro he
    obtain ⟨node, hnode, hdirectory⟩ := Option.map_eq_some_iff.mp he
    exact hentry node hnode hdirectory

lemma eq_of_empty {fs : FileSystem} {l : Location} {n m : FileName} (h : fs.Located l n (some (.directory m [])))
    {k : Location} (hk : fs.entryAt? k = some .directory) (hp : l ++ [n] <+: k) : k = l ++ [n] := by
  obtain ⟨rest, rfl⟩ := hp
  cases rest with
  | nil => simp
  | cons x rest =>
    obtain ⟨nodes, hnodes, hfind⟩ := h.find
    rw [List.append_assoc, entryAt?, Node.entryAt?_append _ (by simp), hnodes, Option.bind_some,
      List.singleton_append, Node.entryAt?, hfind] at hk
    simp [Node.entryAt?, Node.find?] at hk

theorem removeDirectory_wellFormed {fs fs' : FileSystem} (h : fs.WellFormed) {p : Path}
    (ho : fs.removeDirectory p = .ok fs') : fs'.WellFormed := by
  obtain ⟨place, last, hl, ho⟩ := bind_locate_ok ho
  cases last with
  | root | current | parent => cases ho
  | name n =>
    obtain ⟨node?, hn, ho⟩ := bind_lookup_ok ho
    have hlocated := located h hl hn
    match node?, hlocated, ho with
    | none, _, ho | some (.file _ _), _, ho | some (.link _ _), _, ho => cases ho
    | some (.directory _ (_ :: _)), _, ho => cases ho
    | some (.directory m []), hlocated, ho =>
      cases ho
      refine ⟨Node.changeAt_allWellFormed (fun nodes hnodes =>
        Node.erase_allWellFormed n (h.nodes.nodesAt? hnodes)) h.nodes, ?_⟩
      change (fs.changed place.location (Node.erase n)).entryAt? (Place.without _ _).location = _
      rw [Place.without, Place.down]
      split
      case isTrue =>
        rw [List.dropLast_concat]
        exact (Node.entryAt?_changeAt_self _ _ _).trans hlocated.above
      case isFalse hw =>
        have hbelow : ¬ place.location ++ [n] <+: fs.workingDirectory.location :=
          fun hp => hw (eq_of_empty hlocated h.workingDirectory hp)
        rw [entryAt?_changed_other find?_erase_other hbelow]
        exact h.workingDirectory

structure Moves (fs : FileSystem) (l : Location) (n : FileName) (node : Node) (l' : Location) (n' : FileName)
    (replaced : Option Node) : Prop where
  old : fs.Located l n (some node)
  new : fs.Located l' n' replaced
  outside : node.isDirectory = true → ¬ l ++ [n] <+: l'
  empty : ∀ m inner, replaced = some (.directory m inner) → inner = []

def moved (fs : FileSystem) (l : Location) (n : FileName) (node : Node) (l' : Location) (n' : FileName) :
    FileSystem :=
  { (fs.changed l (Node.erase n)).changed l' (fun nodes => Node.put (node.rename n') (Node.erase n' nodes)) with
    workingDirectory := Place.moved (l ++ [n]) (l' ++ [n']) (Place.without (l' ++ [n']) fs.workingDirectory) }

lemma renameNode_ok {fs fs' : FileSystem} (h : fs.WellFormed) {p q : Path} (ho : fs.renameNode p q = .ok fs') :
    fs' = fs ∨ ∃ l n node l' n' replaced, fs.Moves l n node l' n' replaced ∧ fs' = fs.moved l n node l' n' := by
  rw [renameNode] at ho
  split at ho
  case isTrue => cases ho
  case isFalse =>
  obtain ⟨place, last, hl, ho⟩ := bind_locate_ok ho
  obtain ⟨place', last', hl', ho⟩ := bind_locate_ok ho
  cases last with
  | root | current | parent => cases ho
  | name n =>
  cases last' with
  | root | current | parent => cases ho
  | name n' =>
  obtain ⟨node?, hn, ho⟩ := bind_lookup_ok ho
  cases node? with
  | none => cases ho
  | some node =>
  obtain ⟨replaced, hn', ho⟩ := bind_lookup_ok ho
  have hold := located h hl hn
  have hnew := located h hl' hn'
  simp only at ho
  split at ho
  case isTrue => cases ho
  case isFalse =>
  split at ho
  case isTrue => cases ho
  case isFalse houtside =>
  split at ho
  case isTrue => cases ho
  case isFalse =>
  split at ho
  case isTrue =>
    cases ho
    exact Or.inl rfl
  case isFalse =>
  have hend : (∀ m inner, replaced = some (.directory m inner) → inner = []) ∧
      fs' = fs.moved place.location n node place'.location n' := by
    match replaced, node.isDirectory, ho with
    | none, _, ho => exact ⟨by simp, (Except.ok.inj ho).symm⟩
    | some (.directory m []), true, ho => exact ⟨by simp, (Except.ok.inj ho).symm⟩
    | some (.file _ _), false, ho | some (.link _ _), false, ho => exact ⟨by simp, (Except.ok.inj ho).symm⟩
    | some (.directory m (_ :: _)), true, ho | some (.directory m []), false, ho => cases ho
    | some (.directory m (_ :: _)), false, ho => cases ho
    | some (.file _ _), true, ho | some (.link _ _), true, ho => cases ho
  refine Or.inr ⟨place.location, n, node, place'.location, n', replaced, ⟨hold, hnew, ?_, hend.1⟩, hend.2⟩
  intro hd hp
  exact houtside (by rw [hd, Bool.true_and]; exact List.isPrefixOf_iff_prefix.mpr hp)

lemma rename_wellFormed {node : Node} (h : node.WellFormed) {n : FileName} (hn : n.Valid) :
    (node.rename n).WellFormed ∧ (node.rename n).name = n := by
  cases node with
  | file => exact ⟨hn, rfl⟩
  | link | directory => exact ⟨⟨hn, h.2⟩, rfl⟩

section Moves

variable {fs : FileSystem} {l l' : Location} {n n' : FileName} {node : Node} {replaced : Option Node}
  (hm : fs.Moves l n node l' n' replaced)
include hm

lemma Moves.entryAt?_new {rest : Location} (hr : fs.entryAt? (l ++ [n] ++ rest) = some .directory) :
    (fs.moved l n node l' n').entryAt? (l' ++ [n'] ++ rest) = some .directory := by
  obtain ⟨nodes, hnodes, hfind⟩ := hm.old.find
  rw [FileSystem.entryAt?, List.append_assoc, Node.entryAt?_append l (by simp), hnodes, Option.bind_some,
    List.singleton_append, Node.entryAt?, hfind] at hr
  cases node with
  | file | link =>
    simp only at hr
    split at hr <;> cases hr
  | directory m inner =>
    have habove : (fs.changed l (Node.erase n)).entryAt? l' = some .directory := by
      rw [entryAt?_changed_other find?_erase_other (hm.outside rfl)]
      exact hm.new.above
    obtain ⟨nodes', hnodes'⟩ := Node.entryAt?_eq_directory.mp habove
    change Node.entryAt? _ (Node.changeAt _ l' _) = _
    rw [List.append_assoc, Node.entryAt?_changeAt_below _ l' (by simp), hnodes', Option.bind_some,
      List.singleton_append, Node.entryAt?, Node.find?_put]
    simpa [Node.rename] using hr

lemma Moves.without (h : fs.WellFormed) :
    fs.entryAt? (Place.without (l' ++ [n']) fs.workingDirectory).location = some .directory ∧
      ¬ l' ++ [n'] <+: (Place.without (l' ++ [n']) fs.workingDirectory).location := by
  rw [Place.without]
  split
  case isTrue =>
    rw [List.dropLast_concat]
    refine ⟨hm.new.above, fun hp => ?_⟩
    have hlength : (l' ++ [n']).length ≤ l'.length := hp.length_le
    rw [List.length_append, List.length_singleton] at hlength
    omega
  case isFalse hw =>
    refine ⟨h.workingDirectory, fun hp => ?_⟩
    by_cases hd : fs.entryAt? (l' ++ [n']) = some .directory
    · rw [hm.new.entryAt?] at hd
      obtain ⟨other, ho, hentry⟩ := Option.map_eq_some_iff.mp hd
      cases other with
      | file | link => cases hentry
      | directory m inner =>
        obtain rfl := hm.empty m inner ho
        exact hw (eq_of_empty (ho ▸ hm.new) h.workingDirectory hp)
    · exact not_below hd h.workingDirectory hp

lemma Moves.wellFormed (h : fs.WellFormed) : (fs.moved l n node l' n').WellFormed := by
  have herased : Node.AllWellFormed (fs.changed l (Node.erase n)).nodes :=
    Node.changeAt_allWellFormed
      (fun nodes hnodes => Node.erase_allWellFormed n (h.nodes.nodesAt? hnodes)) h.nodes
  obtain ⟨hrenamed, hname⟩ := rename_wellFormed (hm.old.wellFormed h).1 hm.new.valid
  have hput : ∀ nodes k, k ≠ n' →
      Node.find? (Node.put (node.rename n') (Node.erase n' nodes)) k = Node.find? nodes k := by
    intro nodes k hk
    rw [find?_put_other hname _ k hk, find?_erase_other nodes k hk]
  refine ⟨Node.changeAt_allWellFormed (fun nodes hnodes => Node.put_allWellFormed hrenamed
    (Node.erase_allWellFormed n' (herased.nodesAt? hnodes))) herased, ?_⟩
  obtain ⟨hd, hnew⟩ := hm.without h
  change (fs.moved l n node l' n').entryAt? (Place.moved _ _ _).location = _
  rw [Place.moved]
  split
  case isTrue hold =>
    obtain ⟨rest, hrest⟩ := List.isPrefixOf_iff_prefix.mp hold
    rw [← hrest] at hd ⊢
    rw [List.drop_left]
    exact hm.entryAt?_new hd
  case isFalse hold =>
    have hbelow : ¬ l ++ [n] <+: (Place.without (l' ++ [n']) fs.workingDirectory).location :=
      fun hp => hold (List.isPrefixOf_iff_prefix.mpr hp)
    have hkept : (fs.changed l (Node.erase n)).entryAt? (Place.without (l' ++ [n']) fs.workingDirectory).location =
        some .directory := by
      rw [entryAt?_changed_other find?_erase_other hbelow, hd]
    rw [← hkept]
    exact entryAt?_changed_other hput hnew

end Moves

theorem renameNode_wellFormed {fs fs' : FileSystem} (h : fs.WellFormed) {p q : Path}
    (ho : fs.renameNode p q = .ok fs') : fs'.WellFormed := by
  rcases renameNode_ok h ho with rfl | ⟨l, n, node, l', n', replaced, hm, rfl⟩
  · exact h
  · exact hm.wellFormed h

theorem writeFile_wellFormed {fs fs' : FileSystem} (h : fs.WellFormed) {p : Path} {content : Bytes}
    (ho : fs.writeFile p content = .ok fs') : fs'.WellFormed := by
  obtain ⟨_, _, _, _, hw⟩ := writeFile_ok h ho
  exact hw

inductive Reachable : FileSystem → Prop
  | empty : Reachable empty
  | changeDirectory {fs fs' p} (h : Reachable fs) (ho : fs.changeDirectory p = .ok fs') : Reachable fs'
  | makeDirectory {fs fs' p} (h : Reachable fs) (ho : fs.makeDirectory p = .ok fs') : Reachable fs'
  | makeLink {fs fs' p target} (h : Reachable fs) (ho : fs.makeLink p target = .ok fs') : Reachable fs'
  | writeFile {fs fs' p content} (h : Reachable fs) (ho : fs.writeFile p content = .ok fs') : Reachable fs'
  | removeFile {fs fs' p} (h : Reachable fs) (ho : fs.removeFile p = .ok fs') : Reachable fs'
  | removeDirectory {fs fs' p} (h : Reachable fs) (ho : fs.removeDirectory p = .ok fs') : Reachable fs'
  | renameNode {fs fs' p q} (h : Reachable fs) (ho : fs.renameNode p q = .ok fs') : Reachable fs'

theorem Reachable.wellFormed {fs : FileSystem} (h : Reachable fs) : fs.WellFormed := by
  induction h with
  | empty => exact empty_wellFormed
  | changeDirectory _ ho ih => exact changeDirectory_wellFormed ih ho
  | makeDirectory _ ho ih => exact makeDirectory_wellFormed ih ho
  | makeLink _ ho ih => exact makeLink_wellFormed ih ho
  | writeFile _ ho ih => exact writeFile_wellFormed ih ho
  | removeFile _ ho ih => exact removeFile_wellFormed ih ho
  | removeDirectory _ ho ih => exact removeDirectory_wellFormed ih ho
  | renameNode _ ho ih => exact renameNode_wellFormed ih ho

end FileSystem

end BarrelModule
