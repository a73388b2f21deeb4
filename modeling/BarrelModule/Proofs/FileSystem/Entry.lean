import BarrelModule.FileSystem
import Mathlib.Tactic.Lemma

/-! File systems seen as maps from locations to entries, and the effect on that map of a change in
one directory. -/

namespace BarrelModule

open Text

inductive Entry where
  | directory
  | file (content : Bytes)
  | link (target : Path)
  deriving DecidableEq, Repr

def Entry.isLink : Entry → Bool
  | .link _ => true
  | _ => false

def Entry.node (n : FileName) : Entry → Node
  | .directory => .directory n []
  | .file content => .file n content
  | .link target => .link n target

namespace Node

def entry : Node → Entry
  | .file _ content => .file content
  | .link _ target => .link target
  | .directory _ _ => .directory

def entryAt? : Location → List Node → Option Entry
  | [], _ => some .directory
  | n :: ns, nodes =>
    match find? nodes n with
    | some (.directory _ inner) => entryAt? ns inner
    | some node => if ns = [] then some node.entry else none
    | none => none

@[simp] lemma name_file (n : FileName) (content : Bytes) : (file n content).name = n := rfl

@[simp] lemma name_link (n : FileName) (target : Path) : (link n target).name = n := rfl

@[simp] lemma name_directory (n : FileName) (nodes : List Node) : (directory n nodes).name = n := rfl

@[simp] lemma entryAt?_nil (nodes : List Node) : entryAt? [] nodes = some .directory := rfl

@[simp] lemma name_node (n : FileName) (e : Entry) : (e.node n).name = n := by cases e <;> rfl

lemma find?_name {nodes : List Node} {n : FileName} {node : Node} (h : find? nodes n = some node) :
    node.name = n := by
  simpa using List.find?_some h

lemma find?_mem {nodes : List Node} {n : FileName} {node : Node} (h : find? nodes n = some node) :
    node ∈ nodes :=
  List.mem_of_find?_eq_some h

lemma entryAt?_singleton (n : FileName) (nodes : List Node) :
    entryAt? [n] nodes = (find? nodes n).map entry := by
  rw [entryAt?]
  cases hf : find? nodes n with
  | none => rfl
  | some node => cases node <;> simp [entry]

lemma entryAt?_below_leaf {n : FileName} {ns : Location} {nodes : List Node} (hn : ns ≠ [])
    (h : entryAt? [n] nodes ≠ some .directory) : entryAt? (n :: ns) nodes = none := by
  rw [entryAt?_singleton] at h
  rw [entryAt?]
  cases hf : find? nodes n with
  | none => rfl
  | some node => cases node <;> simp_all [entry]

lemma nodesAt?_cons (n : FileName) (ns : Location) (nodes : List Node) :
    nodesAt? (n :: ns) nodes = (nodesAt? [n] nodes).bind (nodesAt? ns) := by
  simp only [nodesAt?]
  cases hf : find? nodes n with
  | none => rfl
  | some node => cases node <;> rfl

lemma entryAt?_cons (n : FileName) {ns : Location} (hn : ns ≠ []) (nodes : List Node) :
    entryAt? (n :: ns) nodes = (nodesAt? [n] nodes).bind (entryAt? ns) := by
  rw [entryAt?, nodesAt?]
  cases hf : find? nodes n with
  | none => rfl
  | some node => cases node <;> simp [hn, nodesAt?]

lemma entryAt?_append (l : Location) {m : Location} (hm : m ≠ []) (nodes : List Node) :
    entryAt? (l ++ m) nodes = (nodesAt? l nodes).bind (entryAt? m) := by
  induction l generalizing nodes with
  | nil => rfl
  | cons n ns ih =>
    rw [List.cons_append, entryAt?_cons n (by simp [hm]), nodesAt?_cons n ns]
    cases nodesAt? [n] nodes with
    | none => rfl
    | some inner => simpa using ih inner

lemma entryAt?_concat (l : Location) (n : FileName) (nodes : List Node) :
    entryAt? (l ++ [n]) nodes = (nodesAt? l nodes).bind fun inner => (find? inner n).map entry := by
  rw [entryAt?_append l (by simp)]
  congr 1
  funext inner
  exact entryAt?_singleton n inner

lemma entryAt?_eq_directory {l : Location} {nodes : List Node} :
    entryAt? l nodes = some .directory ↔ ∃ inner, nodesAt? l nodes = some inner := by
  induction l generalizing nodes with
  | nil => simp [nodesAt?]
  | cons n ns ih =>
    rw [entryAt?, nodesAt?]
    cases hf : find? nodes n with
    | none => simp
    | some node => cases node <;> simp [entry, ih]

lemma entryAt?_above {l m : Location} {nodes : List Node} {e : Entry} (hm : m ≠ [])
    (h : entryAt? (l ++ m) nodes = some e) : entryAt? l nodes = some .directory := by
  rw [entryAt?_append l hm] at h
  obtain ⟨inner, hi, _⟩ := Option.bind_eq_some_iff.mp h
  exact entryAt?_eq_directory.mpr ⟨inner, hi⟩

lemma find?_map_of_name {f : Node → Node} (hf : ∀ node, (f node).name = node.name) (nodes : List Node)
    (n : FileName) : find? (nodes.map f) n = (find? nodes n).map f := by
  have hp : (fun node : Node => node.name == n) ∘ f = fun node => node.name == n := by
    funext node
    rw [Function.comp_apply, hf]
  rw [find?, find?, List.find?_map, hp]

def changeIn (f : List Node → List Node) (n : FileName) (ns : Location) : Node → Node
  | .directory m inner => if m = n then .directory m (changeAt f ns inner) else .directory m inner
  | other => other

lemma changeAt_cons (f : List Node → List Node) (n : FileName) (ns : Location) (nodes : List Node) :
    changeAt f (n :: ns) nodes = nodes.map (changeIn f n ns) := by
  rw [changeAt]
  apply List.map_congr_left
  intro node _
  cases node <;> rfl

lemma changeIn_name (f : List Node → List Node) (n : FileName) (ns : Location) (node : Node) :
    (changeIn f n ns node).name = node.name := by
  cases node with
  | directory m inner => by_cases h : m = n <;> simp [changeIn, h, name]
  | file | link => rfl

lemma changeIn_other {f : List Node → List Node} {n : FileName} {ns : Location} {node : Node}
    (h : node.name ≠ n) : changeIn f n ns node = node := by
  cases node with
  | directory m inner => simp [changeIn, show m ≠ n from h]
  | file | link => rfl

lemma find?_changeAt_cons (f : List Node → List Node) (n : FileName) (ns : Location) (nodes : List Node)
    (k : FileName) : find? (changeAt f (n :: ns) nodes) k = (find? nodes k).map (changeIn f n ns) := by
  rw [changeAt_cons, find?_map_of_name (changeIn_name f n ns)]

lemma nodesAt?_changeAt (f : List Node → List Node) (l : Location) (nodes : List Node) :
    nodesAt? l (changeAt f l nodes) = (nodesAt? l nodes).map f := by
  induction l generalizing nodes with
  | nil => rfl
  | cons n ns ih =>
    rw [nodesAt?, find?_changeAt_cons, nodesAt?]
    cases hf : find? nodes n with
    | none => rfl
    | some node =>
      cases node with
      | directory m inner =>
        have hm : m = n := find?_name hf
        simpa [changeIn, hm] using ih inner
      | file | link => rfl

lemma entryAt?_changeAt_below (f : List Node → List Node) (l : Location) {m : Location} (hm : m ≠ [])
    (nodes : List Node) :
    entryAt? (l ++ m) (changeAt f l nodes) = (nodesAt? l nodes).bind fun inner => entryAt? m (f inner) := by
  rw [entryAt?_append l hm, nodesAt?_changeAt]
  cases nodesAt? l nodes <;> rfl

lemma entryAt?_changeAt_elsewhere (f : List Node → List Node) {l m : Location} (h : ¬ l <+: m)
    (nodes : List Node) : entryAt? m (changeAt f l nodes) = entryAt? m nodes := by
  induction l generalizing nodes m with
  | nil => simp at h
  | cons n ns ih =>
    cases m with
    | nil => rfl
    | cons k ks =>
      rw [entryAt?, find?_changeAt_cons, entryAt?]
      cases hf : find? nodes k with
      | none => rfl
      | some node =>
        have hk := find?_name hf
        by_cases hn : k = n
        · subst hn
          cases node with
          | directory m inner =>
            simpa [changeIn, show m = k from hk] using ih (by simpa [List.cons_prefix_cons] using h) inner
          | file | link => rfl
        · rw [Option.map_some, changeIn_other (by rw [hk]; exact hn)]

lemma entryAt?_changeAt_self (f : List Node → List Node) (l : Location) (nodes : List Node) :
    entryAt? l (changeAt f l nodes) = entryAt? l nodes := by
  induction l generalizing nodes with
  | nil => rfl
  | cons n ns ih =>
    rw [entryAt?, find?_changeAt_cons, entryAt?]
    cases hf : find? nodes n with
    | none => rfl
    | some node =>
      cases node with
      | directory m inner => simpa [changeIn, show m = n from find?_name hf] using ih inner
      | file | link => rfl

lemma find?_put (node : Node) (nodes : List Node) (n : FileName) :
    find? (put node nodes) n = if n = node.name then some node else find? nodes n := by
  by_cases hs : (find? nodes node.name).isSome
  · rw [put, if_pos hs]
    obtain ⟨old, ho⟩ := Option.isSome_iff_exists.mp hs
    have hname : ∀ other : Node, (if other.name = node.name then node else other).name = other.name := by
      intro other
      split <;> simp_all
    rw [find?_map_of_name hname]
    by_cases hn : n = node.name
    · simp [hn, ho, find?_name ho]
    · cases hf : find? nodes n with
      | none => simp [hn]
      | some other => simp [hn, find?_name hf]
  · have hnone : find? nodes node.name = none := by simpa using hs
    rw [put, if_neg hs]
    by_cases hn : n = node.name
    · subst hn
      rw [if_pos rfl, find?, List.find?_append, ← find?, hnone]
      simp
    · rw [if_neg hn, find?, List.find?_append, ← find?]
      cases hf : find? nodes n <;> simp [Ne.symm hn]

lemma find?_erase (n : FileName) (nodes : List Node) (k : FileName) :
    find? (erase n nodes) k = if k = n then none else find? nodes k := by
  rw [find?, erase, List.find?_filter]
  split
  case isTrue h =>
    subst h
    simp
  case isFalse h =>
    rw [find?]
    congr 1
    funext node
    by_cases hk : node.name = k <;> simp [hk, h]

lemma put_put {node other : Node} (hn : other.name = node.name) (nodes : List Node) :
    put other (put node nodes) = put other nodes := by
  have hs : (find? (put node nodes) other.name).isSome = true := by rw [hn, find?_put, if_pos rfl]; rfl
  rw [put, if_pos hs, put, put, hn]
  by_cases hf : (find? nodes node.name).isSome
  · rw [if_pos hf, if_pos hf, List.map_map]
    apply List.map_congr_left
    intro old _
    by_cases ho : old.name = node.name <;> simp [ho]
  · have hkept : ∀ old ∈ nodes, old.name ≠ node.name := by simpa [find?] using hf
    have hmap : (nodes.map fun old => if old.name = node.name then other else old) = nodes.map id :=
      List.map_congr_left fun old ho => if_neg (hkept old ho)
    rw [if_neg hf, if_neg hf, List.map_append, hmap]
    simp

lemma changeAt_changeAt (f g : List Node → List Node) (l : Location) (nodes : List Node) :
    changeAt f l (changeAt g l nodes) = changeAt (f ∘ g) l nodes := by
  induction l generalizing nodes with
  | nil => rfl
  | cons n ns ih =>
    rw [changeAt_cons, changeAt_cons, changeAt_cons, List.map_map]
    apply List.map_congr_left
    intro node _
    cases node with
    | directory m inner => by_cases hm : m = n <;> simp [changeIn, hm, ih]
    | file | link => rfl

lemma entryAt?_changeAt_other {f : List Node → List Node} {n : FileName}
    (hf : ∀ nodes k, k ≠ n → find? (f nodes) k = find? nodes k) {l m : Location} (hm : ¬ l ++ [n] <+: m)
    (nodes : List Node) : entryAt? m (changeAt f l nodes) = entryAt? m nodes := by
  by_cases hl : l <+: m
  · obtain ⟨rest, rfl⟩ := hl
    cases rest with
    | nil => simpa using entryAt?_changeAt_self f l nodes
    | cons k ks =>
      have hk : k ≠ n := by
        rintro rfl
        exact hm ⟨ks, by simp⟩
      have hbelow : ∀ inner, entryAt? (k :: ks) (f inner) = entryAt? (k :: ks) inner := by
        intro inner
        rw [entryAt?, hf inner k hk, entryAt?]
      rw [entryAt?_changeAt_below f l (by simp), entryAt?_append l (by simp)]
      simp only [hbelow]
  · exact entryAt?_changeAt_elsewhere f hl nodes

end Node

namespace FileSystem

def entryAt? (fs : FileSystem) (l : Location) : Option Entry := Node.entryAt? l fs.nodes

def entryIn? (fs : FileSystem) (place : Place) (n : FileName) : Option Entry :=
  if place.removed = 0 then fs.entryAt? (place.location ++ [n]) else none

structure SameEntries (fs fs' : FileSystem) : Prop where
  workingDirectory : fs'.workingDirectory = fs.workingDirectory
  entries : ∀ l, fs'.entryAt? l = fs.entryAt? l

lemma entryIn?_eq (fs : FileSystem) (place : Place) (n : FileName) :
    fs.entryIn? place n = (Node.find? (fs.nodesIn place) n).map Node.entry := by
  rw [entryIn?, nodesIn]
  split
  · rw [entryAt?, Node.entryAt?_concat]
    cases Node.nodesAt? place.location fs.nodes <;> rfl
  · rfl

structure Sets (fs fs' : FileSystem) (l : Location) (e : Entry) : Prop where
  leaf : e ≠ .directory
  before : fs.entryAt? l ≠ some .directory
  after : fs'.entryAt? l = some e
  elsewhere : ∀ m, m ≠ l → fs'.entryAt? m = fs.entryAt? m
  workingDirectory : fs'.workingDirectory = fs.workingDirectory

lemma sets_changed_put {fs : FileSystem} {parent : Location} {node : Node} (hk : node.entry ≠ .directory)
    (hp : fs.entryAt? parent = some .directory) (hb : fs.entryAt? (parent ++ [node.name]) ≠ some .directory) :
    Sets fs (fs.changed parent (Node.put node)) (parent ++ [node.name]) node.entry := by
  obtain ⟨nodes, hn⟩ := Node.entryAt?_eq_directory.mp hp
  have hset : Node.entryAt? [node.name] (Node.put node nodes) = some node.entry := by
    rw [Node.entryAt?_singleton, Node.find?_put, if_pos rfl, Option.map_some]
  refine ⟨hk, hb, ?_, ?_, rfl⟩
  · change Node.entryAt? _ (Node.changeAt _ _ _) = _
    rw [Node.entryAt?_changeAt_below _ _ (by simp), hn, Option.bind_some, hset]
  · intro m hm
    change Node.entryAt? m (Node.changeAt _ _ _) = Node.entryAt? m fs.nodes
    by_cases hl : parent ++ [node.name] <+: m
    · obtain ⟨rest, rfl⟩ := hl
      have hrest : rest ≠ [] := fun h => hm (by simp [h])
      have hleaf : Node.entryAt? [node.name] nodes ≠ some .directory := by
        rwa [entryAt?, Node.entryAt?_append _ (by simp), hn, Option.bind_some] at hb
      rw [List.append_assoc, Node.entryAt?_changeAt_below _ _ (by simp), Node.entryAt?_append _ (by simp), hn,
        Option.bind_some, Option.bind_some, List.singleton_append, Node.entryAt?_below_leaf hrest hleaf,
        Node.entryAt?_below_leaf hrest]
      rw [hset]
      exact fun h => hk (Option.some.inj h)
    · refine Node.entryAt?_changeAt_other (fun inner k hne => ?_) hl fs.nodes
      rw [Node.find?_put, if_neg hne]

end FileSystem

end BarrelModule
