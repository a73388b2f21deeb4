import BarrelModule.Proofs.FileSystem.WellFormed

/-! Path resolution as a relation on the entries of a file system, and what a path finds in a
well-formed one. -/

namespace BarrelModule

open Text

def Refuses (ending : Ending) (slash : Bool) (rest : List Bytes) : Prop :=
  ending = .create ∧ rest = [] ∧ slash = true

def Found.named? : Found → Option Location
  | .node parent leaf => some (parent ++ [leaf.name])
  | _ => none

namespace FileSystem

/-- The segments of a path lead from a place to what the path names, with at most a number of links
followed on the way. -/
inductive Leads (fs : FileSystem) (ending : Ending) :
    Nat → Bool → List Bytes → Place → Found → Prop
  | done {links slash place} : Leads fs ending links slash [] place (.directory place)
  | current {links slash rest place found} (h : Leads fs ending links slash rest place found) :
      Leads fs ending links slash (Path.dot :: rest) place found
  | parent {links slash rest place found} (h : Leads fs ending links slash rest place.up found) :
      Leads fs ending links slash (Path.dotDot :: rest) place found
  | enter {links slash s rest place found} (hs : LookedUp s) (hr : ¬ Refuses ending slash rest)
      (he : fs.entryIn? place s = some .directory)
      (h : Leads fs ending links slash rest (place.down s) found) :
      Leads fs ending links slash (s :: rest) place found
  | file {links s place content} (hs : LookedUp s) (he : fs.entryIn? place s = some (.file content)) :
      Leads fs ending links false [s] place (.node place.location (.file s content))
  | link {links s place target} (hs : LookedUp s) (hk : ending = .stay)
      (he : fs.entryIn? place s = some (.link target)) :
      Leads fs ending links false [s] place (.node place.location (.link s target))
  | missing {links slash s place} (hs : LookedUp s) (hr : ¬ Refuses ending slash [])
      (hp : place.removed = 0) (he : fs.entryIn? place s = none) :
      Leads fs ending links slash [s] place (.missing place.location s)
  | follow {links slash s rest place target found} (hs : LookedUp s) (hr : ¬ Refuses ending slash rest)
      (hk : ¬ (rest = [] ∧ slash = false ∧ ending = .stay))
      (he : fs.entryIn? place s = some (.link target))
      (h : Leads fs ending links (slash || (rest = [] && target.endsInSlash)) (target.segments ++ rest)
        (if target.isAbsolute then Place.root else place) found) :
      Leads fs ending (links + 1) slash (s :: rest) place found

/-- A path that names the file or the link at a location, the link itself and not where it leads. -/
def Names (fs : FileSystem) (p : Path) (l : Location) : Prop :=
  ∃ parent node, l = parent ++ [Node.name node] ∧ fs.resolve .stay p = .ok (.node parent node)

lemma names_iff {fs : FileSystem} {p : Path} {l : Location} :
    fs.Names p l ↔ (fs.resolve .stay p).toOption.bind Found.named? = some l := by
  rw [Names]
  cases fs.resolve .stay p with
  | error => simp [Except.toOption]
  | ok found => cases found <;> simp [Except.toOption, Found.named?, eq_comm]

instance (fs : FileSystem) (p : Path) (l : Location) : Decidable (fs.Names p l) :=
  decidable_of_iff _ names_iff.symm

lemma lookup_eq_ok_iff {fs : FileSystem} {place : Place} {n : FileName} {node : Option Node} :
    fs.lookup place n = .ok node ↔
      place.removed = 0 ∧ n.length ≤ longestName ∧ Node.find? (fs.nodesIn place) n = node := by
  rw [lookup]
  split
  case isTrue h => simp [h]
  case isFalse h =>
    split
    case isTrue hl => simp; omega
    case isFalse hl => simp at h hl ⊢; simp [h, hl]

lemma lookup_of_entryIn? {fs : FileSystem} {place : Place} {s : Bytes} {e : Entry} (hs : LookedUp s)
    (he : fs.entryIn? place s = some e) :
    ∃ node, fs.lookup place s = .ok (some node) ∧ node.name = s ∧ node.entry = e := by
  have hp : place.removed = 0 := by
    by_contra hp
    simp [entryIn?, hp] at he
  rw [entryIn?_eq] at he
  obtain ⟨node, hf, rfl⟩ := Option.map_eq_some_iff.mp he
  exact ⟨node, lookup_eq_ok_iff.mpr ⟨hp, hs.length_le, hf⟩, Node.find?_name hf, rfl⟩

lemma lookup_of_missing {fs : FileSystem} {place : Place} {s : Bytes} (hs : LookedUp s)
    (hp : place.removed = 0) (he : fs.entryIn? place s = none) : fs.lookup place s = .ok none := by
  rw [entryIn?_eq] at he
  exact lookup_eq_ok_iff.mpr ⟨hp, hs.length_le, Option.map_eq_none_iff.mp he⟩

lemma workingLocation_eq_ok_iff {fs : FileSystem} {l : Location} :
    fs.workingLocation = .ok l ↔ fs.workingDirectory.removed = 0 ∧ fs.workingDirectory.location = l := by
  rw [workingLocation]
  split <;> simp_all

lemma workingDirectory_eq {fs : FileSystem} {l : Location} (h : fs.workingLocation = .ok l) :
    fs.workingDirectory = ⟨l, 0⟩ := by
  obtain ⟨hp, rfl⟩ := workingLocation_eq_ok_iff.mp h
  rw [← hp]

def following (fs : FileSystem) (ending : Ending) : Nat → List Bytes → Bool → Place → Except Fault Found
  | 0 => fun _ _ _ => .error .tooManyLinks
  | links + 1 => descendWithin fs ending links

lemma descendWithin_eq (fs : FileSystem) (ending : Ending) (links : Nat) (segments : List Bytes)
    (slash : Bool) (place : Place) :
    descendWithin fs ending links segments slash place =
      descend fs ending (following fs ending links) slash segments place := by
  cases links <;> rfl

lemma leads_of_descend (fs : FileSystem) (ending : Ending) (links : Nat) (slash : Bool)
    (segments : List Bytes) (place : Place) (found : Found)
    (h : descendWithin fs ending links segments slash place = .ok found) :
    Leads fs ending links slash segments place found := by
  -- On the links that may still be followed, and within that on the segments that are left.
  induction links using Nat.strongRecOn generalizing segments slash place with
  | ind links ihLinks =>
    rw [descendWithin_eq] at h
    induction segments generalizing place with
    | nil =>
      cases h
      exact .done
    | cons s rest ih =>
      rw [descend] at h
      split at h
      case isTrue hd =>
        subst hd
        exact .current (ih _ h)
      case isFalse hd =>
      split at h
      case isTrue hdd =>
        subst hdd
        exact .parent (ih _ h)
      case isFalse hdd =>
      split at h
      case isTrue => cases h
      case isFalse hc =>
      have hr : ¬ Refuses ending slash rest := by simpa [Refuses, and_assoc] using hc
      cases hl : fs.lookup place s with
      | error fault => simp [hl] at h
      | ok found? =>
        obtain ⟨hp, hlen, hf⟩ := lookup_eq_ok_iff.mp hl
        have hs : LookedUp s := ⟨hd, hdd, hlen⟩
        have he := fs.entryIn?_eq place s
        rw [hf] at he
        rw [hl] at h
        cases found? with
        | none =>
          simp only at h
          split at h
          case isFalse => cases h
          case isTrue hrest =>
            subst hrest
            cases h
            exact .missing hs hr hp he
        | some node =>
          have hname := Node.find?_name hf
          cases node with
          | directory m inner => exact .enter hs hr he (ih _ h)
          | file m content =>
            simp only at h
            split at h
            case isFalse => cases h
            case isTrue hrest =>
              obtain ⟨rfl, rfl⟩ : rest = [] ∧ slash = false := by simpa using hrest
              obtain rfl : m = s := hname
              cases h
              exact .file hs he
          | link m target =>
            simp only at h
            split at h
            case isTrue hrest =>
              obtain ⟨⟨rfl, rfl⟩, hk⟩ : (rest = [] ∧ slash = false) ∧ ending = .stay := by simpa using hrest
              obtain rfl : m = s := hname
              cases h
              exact .link hs hk he
            case isFalse hrest =>
              have hk : ¬ (rest = [] ∧ slash = false ∧ ending = .stay) := by simpa [and_assoc] using hrest
              cases links with
              | zero => cases h
              | succ links => exact .follow hs hr hk he (ihLinks links (by omega) _ _ _ h)

lemma descend_lookedUp {fs : FileSystem} {ending : Ending}
    {follow : List Bytes → Bool → Place → Except Fault Found} {slash : Bool} {s : Bytes}
    {rest : List Bytes} {place : Place} (hs : LookedUp s) (hr : ¬ Refuses ending slash rest) :
    descend fs ending follow slash (s :: rest) place =
      match fs.lookup place s with
      | .error fault => .error fault
      | .ok none => if rest = [] then .ok (.missing place.location s) else .error .notFound
      | .ok (some (.directory _ _)) => descend fs ending follow slash rest (place.down s)
      | .ok (some (.file n content)) =>
        if rest = [] && !slash then .ok (.node place.location (.file n content)) else .error .notADirectory
      | .ok (some (.link n target)) =>
        if rest = [] && !slash && ending = .stay then .ok (.node place.location (.link n target))
        else follow (target.segments ++ rest) (slash || (rest = [] && target.endsInSlash))
          (if target.isAbsolute then Place.root else place) := by
  have hc : (ending = .create && rest = [] && slash) = false := by
    simpa [Refuses, and_assoc] using hr
  rw [descend, if_neg hs.ne_dot, if_neg hs.ne_dotDot, hc]
  rfl

lemma Leads.descend {fs : FileSystem} {ending : Ending} {links : Nat} {slash : Bool}
    {segments : List Bytes} {place : Place} {found : Found}
    (h : Leads fs ending links slash segments place found) :
    descendWithin fs ending links segments slash place = .ok found := by
  induction h with
  | done => rw [descendWithin_eq, FileSystem.descend]
  | current _ ih => rw [descendWithin_eq, FileSystem.descend, if_pos rfl, ← descendWithin_eq, ih]
  | parent _ ih =>
    rw [descendWithin_eq, FileSystem.descend, if_neg (by decide), if_pos rfl, ← descendWithin_eq, ih]
  | enter hs hr he _ ih =>
    obtain ⟨node, hl, rfl, hn⟩ := lookup_of_entryIn? hs he
    rw [descendWithin_eq, descend_lookedUp hs hr, hl]
    cases node with
    | directory n inner => simpa only [descendWithin_eq] using ih
    | file | link => cases hn
  | file hs he =>
    obtain ⟨node, hl, rfl, hn⟩ := lookup_of_entryIn? hs he
    rw [descendWithin_eq, descend_lookedUp hs (by simp [Refuses]), hl]
    cases node with
    | file n content =>
      cases hn
      rfl
    | directory | link => cases hn
  | link hs hk he =>
    obtain ⟨node, hl, rfl, hn⟩ := lookup_of_entryIn? hs he
    rw [descendWithin_eq, descend_lookedUp hs (by simp [Refuses]), hl]
    cases node with
    | link n target =>
      cases hn
      simp [hk, Node.name]
    | directory | file => cases hn
  | missing hs hr hp he =>
    rw [descendWithin_eq, descend_lookedUp hs hr, lookup_of_missing hs hp he]
    rfl
  | follow hs hr hk he _ ih =>
    obtain ⟨node, hl, rfl, hn⟩ := lookup_of_entryIn? hs he
    rw [descendWithin_eq, descend_lookedUp hs hr, hl]
    cases node with
    | link n target =>
      cases hn
      simpa [hk, and_assoc, following] using ih
    | directory | file => cases hn

lemma descendWithin_eq_ok_iff {fs : FileSystem} {ending : Ending} {links : Nat} {slash : Bool}
    {segments : List Bytes} {place : Place} {found : Found} :
    descendWithin fs ending links segments slash place = .ok found ↔
      Leads fs ending links slash segments place found :=
  ⟨leads_of_descend fs ending links slash segments place found, Leads.descend⟩

lemma lead_eq_ok_iff {fs : FileSystem} {ending : Ending} {p : Path} {found : Found} :
    fs.lead ending p = .ok found ↔
      Leads fs ending mostLinks p.endsInSlash p.segments (fs.startOf p) found :=
  descendWithin_eq_ok_iff

lemma refusal?_of_accepted {p : Path} (h : p.Accepted) : refusal? p = none := by
  rw [refusal?, if_neg (by simpa using h.nul_notMem), if_neg h.ne_nil, if_neg (Nat.not_lt.mpr h.fits)]

lemma accepted_of_refusal? {p : Path} (h : refusal? p = none) : p.Accepted := by
  rw [refusal?] at h
  split at h
  case isTrue => cases h
  case isFalse hz =>
  split at h
  case isTrue => cases h
  case isFalse hn =>
  split at h
  case isTrue => cases h
  case isFalse hl => exact ⟨⟨hn, by simpa using hz⟩, Nat.not_lt.mp hl⟩

lemma resolve_of_accepted {p : Path} (h : p.Accepted) (fs : FileSystem) (ending : Ending) :
    fs.resolve ending p = fs.lead ending p := by
  rw [resolve, refusal?_of_accepted h]

lemma resolve_of_not_fits {p : Path} (h : p.Usable) (hl : ¬ p.Fits) (fs : FileSystem) (ending : Ending) :
    fs.resolve ending p = .error .nameTooLong := by
  have hrefused : refusal? p = some .nameTooLong := by
    rw [refusal?, if_neg (by simpa using h.nul_notMem), if_neg h.ne_nil, if_pos (Nat.lt_of_not_le hl)]
  rw [resolve, hrefused]

lemma resolve_eq_ok_iff {fs : FileSystem} {ending : Ending} {p : Path} {found : Found} :
    fs.resolve ending p = .ok found ↔
      p.Accepted ∧ Leads fs ending mostLinks p.endsInSlash p.segments (fs.startOf p) found := by
  rw [← lead_eq_ok_iff]
  constructor
  · intro h
    cases hp : refusal? p with
    | some fault => simp [resolve, hp] at h
    | none =>
      have hp := accepted_of_refusal? hp
      exact ⟨hp, (resolve_of_accepted hp fs ending) ▸ h⟩
  · rintro ⟨hp, h⟩
    rw [resolve_of_accepted hp, h]

/-- A path that leads to the file or the link at a location, were the length of a path not bounded. -/
def Denotes (fs : FileSystem) (p : Path) (l : Location) : Prop :=
  ∃ parent node, l = parent ++ [Node.name node] ∧ fs.lead .stay p = .ok (.node parent node)

lemma names_iff_denotes {fs : FileSystem} {p : Path} {l : Location} :
    fs.Names p l ↔ p.Accepted ∧ fs.Denotes p l := by
  constructor
  · rintro ⟨parent, node, rfl, hr⟩
    obtain ⟨hp, hl⟩ := resolve_eq_ok_iff.mp hr
    exact ⟨hp, parent, node, rfl, lead_eq_ok_iff.mpr hl⟩
  · rintro ⟨hp, parent, node, rfl, hl⟩
    exact ⟨parent, node, rfl, by rw [resolve_of_accepted hp, hl]⟩

lemma Denotes.unique {fs : FileSystem} {p : Path} {l l' : Location} (h : fs.Denotes p l)
    (h' : fs.Denotes p l') : l = l' := by
  obtain ⟨parent, node, rfl, hl⟩ := h
  obtain ⟨parent', node', rfl, hl'⟩ := h'
  rw [hl] at hl'
  cases hl'
  rfl

/-- A path that leads to the file or the link at a location, and names it unless it is too long. -/
structure Reaches (fs : FileSystem) (p : Path) (l : Location) : Prop where
  usable : p.Usable
  denotes : fs.Denotes p l
  names : p.Fits → fs.Names p l
  refused : ¬ p.Fits → ∀ ending, fs.resolve ending p = .error .nameTooLong

lemma Denotes.reaches {fs : FileSystem} {p : Path} {l : Location} (h : fs.Denotes p l) (hp : p.Usable) :
    fs.Reaches p l :=
  ⟨hp, h, fun hf => names_iff_denotes.mpr ⟨⟨hp, hf⟩, h⟩, fun hf => resolve_of_not_fits hp hf fs⟩

lemma Leads.of_entries {fs fs' : FileSystem} (he : ∀ l, fs'.entryAt? l = fs.entryAt? l) {ending : Ending}
    {links : Nat} {slash : Bool} {segments : List Bytes} {place : Place} {found : Found}
    (h : Leads fs ending links slash segments place found) :
    Leads fs' ending links slash segments place found := by
  have hin : ∀ place n, fs.entryIn? place n = fs'.entryIn? place n := by simp [entryIn?, he]
  induction h with
  | done => exact .done
  | current _ ih => exact .current ih
  | parent _ ih => exact .parent ih
  | enter hs hr hd _ ih => exact .enter hs hr (hin _ _ ▸ hd) ih
  | file hs hf => exact .file hs (hin _ _ ▸ hf)
  | link hs hk hl => exact .link hs hk (hin _ _ ▸ hl)
  | missing hs hr hp hn => exact .missing hs hr hp (hin _ _ ▸ hn)
  | follow hs hr hk hl _ ih => exact .follow hs hr hk (hin _ _ ▸ hl) ih

lemma SameEntries.resolve {fs fs' : FileSystem} (he : SameEntries fs fs') {ending : Ending} {p : Path}
    {found : Found} (h : fs.resolve ending p = .ok found) : fs'.resolve ending p = .ok found := by
  obtain ⟨hp, hl⟩ := resolve_eq_ok_iff.mp h
  refine resolve_eq_ok_iff.mpr ⟨hp, ?_⟩
  rw [startOf, he.workingDirectory]
  exact hl.of_entries he.entries

lemma Leads.follow_of_create {fs : FileSystem} {links : Nat} {slash : Bool} {segments : List Bytes}
    {place : Place} {found : Found} (h : Leads fs .create links slash segments place found) :
    Leads fs .follow links slash segments place found := by
  induction h with
  | done => exact .done
  | current _ ih => exact .current ih
  | parent _ ih => exact .parent ih
  | enter hs _ hd _ ih => exact .enter hs (by simp [Refuses]) hd ih
  | file hs hf => exact .file hs hf
  | link hs hk _ => cases hk
  | missing hs _ hp hn => exact .missing hs (by simp [Refuses]) hp hn
  | follow hs _ _ hl _ ih => exact .follow hs (by simp [Refuses]) (by simp) hl ih

lemma Leads.directory_of_dot {fs : FileSystem} {ending : Ending} {links : Nat} {slash : Bool}
    {segments : List Bytes} {place : Place} {found : Found}
    (h : Leads fs ending links slash segments place found)
    (hd : ∀ s ∈ segments.getLast?, s = Path.dot) : ∃ goal, found = .directory goal := by
  have hlast : ∀ {s rest}, (∀ t ∈ (s :: rest).getLast?, t = Path.dot) → LookedUp s →
      rest ≠ [] ∧ ∀ t ∈ rest.getLast?, t = Path.dot := by
    intro s rest hd hs
    cases rest with
    | nil => exact absurd (hd s rfl) hs.ne_dot
    | cons t rest => exact ⟨by simp, by simpa using hd⟩
  induction h with
  | done => exact ⟨_, rfl⟩
  | @current _ _ rest _ _ _ ih =>
    cases rest with
    | nil => exact ih (by simp)
    | cons t rest => exact ih (by simpa using hd)
  | @parent _ _ rest _ _ _ ih =>
    cases rest with
    | nil => exact ih (by simp)
    | cons t rest => exact ih (by simpa using hd)
  | enter hs _ _ _ ih => exact ih (hlast hd hs).2
  | file hs | link hs | missing hs => exact absurd rfl (hlast hd hs).1
  | follow hs _ _ _ _ ih =>
    obtain ⟨hn, hrest⟩ := hlast hd hs
    exact ih (by rwa [List.getLast?_append_of_ne_nil _ hn])

lemma Leads.follow_of_stay {fs : FileSystem} {links : Nat} {slash : Bool} {segments : List Bytes}
    {place goal : Place} (h : Leads fs .stay links slash segments place (.directory goal)) :
    Leads fs .follow links slash segments place (.directory goal) := by
  generalize hg : Found.directory goal = found at h
  induction h with
  | done => exact .done
  | current _ ih => exact .current (ih hg)
  | parent _ ih => exact .parent (ih hg)
  | enter hs _ hd _ ih => exact .enter hs (by simp [Refuses]) hd (ih hg)
  | file | link | missing => cases hg
  | follow hs _ _ hl _ ih => exact .follow hs (by simp [Refuses]) (by simp) hl (ih hg)

lemma Leads.stay_or_link {fs : FileSystem} {links : Nat} {slash : Bool} {segments : List Bytes}
    {place goal : Place} (h : Leads fs .follow links slash segments place (.directory goal)) :
    Leads fs .stay links slash segments place (.directory goal) ∨
      ∃ parent n target, Leads fs .stay links slash segments place (.node parent (.link n target)) := by
  generalize hg : Found.directory goal = found at h
  induction h with
  | done => exact Or.inl .done
  | current _ ih =>
    rcases ih hg with hl | ⟨parent, n, target, hl⟩
    · exact Or.inl (.current hl)
    · exact Or.inr ⟨parent, n, target, .current hl⟩
  | parent _ ih =>
    rcases ih hg with hl | ⟨parent, n, target, hl⟩
    · exact Or.inl (.parent hl)
    · exact Or.inr ⟨parent, n, target, .parent hl⟩
  | enter hs _ hd _ ih =>
    rcases ih hg with hl | ⟨parent, n, target, hl⟩
    · exact Or.inl (.enter hs (by simp [Refuses]) hd hl)
    · exact Or.inr ⟨parent, n, target, .enter hs (by simp [Refuses]) hd hl⟩
  | file | link | missing => cases hg
  | @follow _ slash _ rest _ _ _ hs _ _ he _ ih =>
    by_cases hend : rest = [] ∧ slash = false
    · obtain ⟨rfl, rfl⟩ := hend
      exact Or.inr ⟨_, _, _, .link hs rfl he⟩
    · have hk : ¬ (rest = [] ∧ slash = false ∧ Ending.stay = .stay) := fun hk => hend ⟨hk.1, hk.2.1⟩
      rcases ih hg with hl | ⟨parent, n, target, hl⟩
      · exact Or.inl (.follow hs (by simp [Refuses]) hk he hl)
      · exact Or.inr ⟨parent, n, target, .follow hs (by simp [Refuses]) hk he hl⟩

lemma resolve_stay_directory_iff {fs : FileSystem} {p : Path} {place : Place} :
    fs.resolve .stay p = .ok (.directory place) ↔
      fs.resolve .follow p = .ok (.directory place) ∧ ∀ l, ¬ fs.Names p l := by
  constructor
  · intro hr
    obtain ⟨hp, hl⟩ := resolve_eq_ok_iff.mp hr
    refine ⟨resolve_eq_ok_iff.mpr ⟨hp, hl.follow_of_stay⟩, ?_⟩
    rintro l ⟨parent, node, -, hnode⟩
    rw [hr] at hnode
    cases hnode
  · rintro ⟨hr, hn⟩
    obtain ⟨hp, hl⟩ := resolve_eq_ok_iff.mp hr
    rcases hl.stay_or_link with hl | ⟨parent, n, target, hl⟩
    · exact resolve_eq_ok_iff.mpr ⟨hp, hl⟩
    · exact absurd ⟨parent, .link n target, rfl, resolve_eq_ok_iff.mpr ⟨hp, hl⟩⟩ (hn (parent ++ [n]))

lemma Leads.ne_node {fs : FileSystem} {ending : Ending} {links : Nat} {slash : Bool} {segments : List Bytes}
    {place : Place} {found : Found} (h : Leads fs ending links slash segments place found) (hs : slash = true)
    (parent : Location) (node : Node) : found ≠ .node parent node := by
  induction h with
  | done | missing => simp
  | current _ ih | parent _ ih | enter _ _ _ _ ih => exact ih hs
  | file | link => cases hs
  | follow _ _ _ _ _ ih => exact ih (by simp [hs])

lemma not_names_of_slash {fs : FileSystem} {p : Path}
    (hp : p.endsInSlash = true ∨ p.segments.getLast? = some Path.dot) (l : Location) : ¬ fs.Names p l := by
  rintro ⟨parent, node, -, hr⟩
  obtain ⟨-, hl⟩ := resolve_eq_ok_iff.mp hr
  rcases hp with hslash | hdot
  · exact hl.ne_node hslash parent node rfl
  · obtain ⟨goal, hgoal⟩ := hl.directory_of_dot (by simp [hdot])
    cases hgoal

def Holds (fs : FileSystem) : Found → Prop
  | .directory place => fs.entryAt? place.location = some .directory
  | .node parent node => ∃ e, e ≠ .directory ∧ node = e.node node.name ∧ fs.entryAt? (parent ++ [node.name]) = some e
  | .missing parent n =>
    fs.entryAt? parent = some .directory ∧ n.Valid ∧ fs.entryAt? (parent ++ [n]) = none

lemma entryIn?_eq_some_iff {fs : FileSystem} {place : Place} {n : FileName} {e : Entry} :
    fs.entryIn? place n = some e ↔ place.removed = 0 ∧ fs.entryAt? (place.location ++ [n]) = some e := by
  rw [entryIn?]
  split <;> simp_all

lemma entryAt?_up {fs : FileSystem} {place : Place} (h : fs.entryAt? place.location = some .directory) :
    fs.entryAt? place.up.location = some .directory := by
  rcases place with ⟨l, _ | n⟩
  · exact entryAt?_dropLast h
  · exact h

lemma Leads.holds {fs : FileSystem} (hw : fs.WellFormed) {ending : Ending} {links : Nat} {slash : Bool}
    {segments : List Bytes} {place : Place} {found : Found}
    (h : Leads fs ending links slash segments place found)
    (hp : fs.entryAt? place.location = some .directory) (hs : ∀ s ∈ segments, Segment s) :
    fs.Holds found := by
  induction h with
  | done => exact hp
  | current _ ih => exact ih hp fun s hm => hs s (List.mem_cons_of_mem _ hm)
  | parent _ ih => exact ih (entryAt?_up hp) fun s hm => hs s (List.mem_cons_of_mem _ hm)
  | enter _ _ hd _ ih =>
    exact ih (entryIn?_eq_some_iff.mp hd).2 fun s hm => hs s (List.mem_cons_of_mem _ hm)
  | file _ hf => exact ⟨_, by simp, rfl, (entryIn?_eq_some_iff.mp hf).2⟩
  | link _ _ hl => exact ⟨_, by simp, rfl, (entryIn?_eq_some_iff.mp hl).2⟩
  | missing hn _ hr he => exact ⟨hp, ⟨hs _ List.mem_cons_self, hn⟩, by simpa [entryIn?, hr] using he⟩
  | @follow _ _ _ _ place target _ _ _ _ hl _ ih =>
    have ht := hw.target_usable (entryIn?_eq_some_iff.mp hl).2
    apply ih
    · split
      · rfl
      · exact hp
    · intro s hm
      rcases List.mem_append.mp hm with hm | hm
      · exact ht.segment hm
      · exact hs s (List.mem_cons_of_mem _ hm)

lemma WellFormed.startOf {fs : FileSystem} (h : fs.WellFormed) (p : Path) :
    fs.entryAt? (fs.startOf p).location = some .directory := by
  rw [FileSystem.startOf]
  split
  · rfl
  · exact h.workingDirectory

lemma WellFormed.resolve_holds {fs : FileSystem} (h : fs.WellFormed) {ending : Ending} {p : Path}
    {found : Found} (hr : fs.resolve ending p = .ok found) : fs.Holds found := by
  obtain ⟨hp, hl⟩ := resolve_eq_ok_iff.mp hr
  exact hl.holds h (h.startOf p) fun s hs => hp.segment hs

end FileSystem

end BarrelModule
