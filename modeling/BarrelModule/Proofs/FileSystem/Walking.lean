import BarrelModule.Proofs.FileSystem.Resolution
import BarrelModule.Proofs.Path.Lexical
import Mathlib.Data.List.Induction

namespace BarrelModule.FileSystem

open Text

inductive Walks (fs : FileSystem) : List Bytes → Place → Place → Prop
  | done {place} : Walks fs [] place place
  | current {rest place goal} (h : Walks fs rest place goal) : Walks fs (Path.dot :: rest) place goal
  | parent {rest place goal} (h : Walks fs rest place.up goal) : Walks fs (Path.dotDot :: rest) place goal
  | enter {s rest place goal} (hs : LookedUp s) (he : fs.entryIn? place s = some .directory)
      (h : Walks fs rest (place.down s) goal) : Walks fs (s :: rest) place goal

def LinkFreeFrom (fs : FileSystem) : List Bytes → Place → Prop
  | [], _ => True
  | s :: rest, place =>
    if s = Path.dot then LinkFreeFrom fs rest place
    else if s = Path.dotDot then LinkFreeFrom fs rest place.up
    else (∀ e ∈ fs.entryIn? place s, e.isLink = false) ∧ LinkFreeFrom fs rest (place.down s)

def decideLinkFreeFrom (fs : FileSystem) : ∀ segments place, Decidable (fs.LinkFreeFrom segments place)
  | [], _ => isTrue trivial
  | s :: rest, place =>
    have := decideLinkFreeFrom fs rest place
    have := decideLinkFreeFrom fs rest place.up
    have := decideLinkFreeFrom fs rest (place.down s)
    inferInstanceAs (Decidable (if s = Path.dot then LinkFreeFrom fs rest place
      else if s = Path.dotDot then LinkFreeFrom fs rest place.up
      else (∀ e ∈ fs.entryIn? place s, e.isLink = false) ∧ LinkFreeFrom fs rest (place.down s)))

def LinkFree (fs : FileSystem) (p : Path) : Prop := fs.LinkFreeFrom p.segments (fs.startOf p)

instance (fs : FileSystem) (p : Path) : Decidable (fs.LinkFree p) := decideLinkFreeFrom fs _ _

section LinkFreeFrom

variable {fs : FileSystem} {s : Bytes} {rest : List Bytes} {place : Place}

lemma linkFreeFrom_dot : fs.LinkFreeFrom (Path.dot :: rest) place ↔ fs.LinkFreeFrom rest place := by
  rw [LinkFreeFrom, if_pos rfl]

lemma linkFreeFrom_dotDot : fs.LinkFreeFrom (Path.dotDot :: rest) place ↔ fs.LinkFreeFrom rest place.up := by
  rw [LinkFreeFrom, if_neg (by decide), if_pos rfl]

lemma linkFreeFrom_name (hs : LookedUp s) :
    fs.LinkFreeFrom (s :: rest) place ↔
      (∀ e ∈ fs.entryIn? place s, e.isLink = false) ∧ fs.LinkFreeFrom rest (place.down s) := by
  rw [LinkFreeFrom, if_neg hs.ne_dot, if_neg hs.ne_dotDot]

end LinkFreeFrom

lemma linkFreeFrom_filter {fs : FileSystem} {segments : List Bytes} {place : Place} :
    fs.LinkFreeFrom (segments.filter (· ≠ Path.dot)) place ↔ fs.LinkFreeFrom segments place := by
  induction segments generalizing place with
  | nil => rfl
  | cons s segments ih =>
    by_cases hs : s = Path.dot
    · subst hs
      rw [List.filter_cons_of_neg (by simp), linkFreeFrom_dot, ih]
    · rw [List.filter_cons_of_pos (by simpa using hs), LinkFreeFrom, LinkFreeFrom, if_neg hs, if_neg hs,
        ih, ih]

lemma Walks.filter {fs : FileSystem} {segments : List Bytes} {place goal : Place}
    (h : Walks fs segments place goal) : Walks fs (segments.filter (· ≠ Path.dot)) place goal := by
  induction h with
  | done => exact .done
  | current _ ih => rwa [List.filter_cons_of_neg (by simp)]
  | parent _ ih =>
    rw [List.filter_cons_of_pos (by decide)]
    exact .parent ih
  | enter hs he _ ih =>
    rw [List.filter_cons_of_pos (by simpa using hs.ne_dot)]
    exact .enter hs he ih

lemma Walks.of_filter {fs : FileSystem} {segments : List Bytes} {place goal : Place}
    (h : Walks fs (segments.filter (· ≠ Path.dot)) place goal) : Walks fs segments place goal := by
  induction segments generalizing place with
  | nil => exact h
  | cons s segments ih =>
    by_cases hs : s = Path.dot
    · subst hs
      rw [List.filter_cons_of_neg (by simp)] at h
      exact .current (ih h)
    · rw [List.filter_cons_of_pos (by simpa using hs)] at h
      cases h with
      | current => exact absurd rfl hs
      | parent h => exact .parent (ih h)
      | enter hs he h => exact .enter hs he (ih h)

lemma Place.up_of_standing {place : Place} (h : place.removed = 0) :
    place.up.removed = 0 ∧ place.up.location = place.location.dropLast := by
  obtain ⟨l, n⟩ := place
  obtain rfl : n = 0 := h
  exact ⟨rfl, rfl⟩

lemma Walks.goal_eq {fs : FileSystem} {segments : List Bytes} {place goal : Place}
    (h : Walks fs segments place goal) (hp : place.removed = 0) :
    goal.removed = 0 ∧ goal.location = segments.foldl Location.step place.location := by
  induction h with
  | done => exact ⟨hp, rfl⟩
  | current _ ih => exact ih hp
  | @parent rest place goal _ ih =>
    obtain ⟨hu, hl⟩ := Place.up_of_standing hp
    rw [List.foldl_cons, Location.step_dotDot, ← hl]
    exact ih hu
  | @enter s rest place goal hs _ _ ih =>
    rw [List.foldl_cons, Location.step_name _ hs.ne_dot hs.ne_dotDot]
    exact ih hp

lemma Leads.standing {fs : FileSystem} {ending : Ending} {links : Nat} {slash : Bool}
    {segments : List Bytes} {place goal : Place}
    (h : Leads fs ending links slash segments place (.directory goal)) (hp : place.removed = 0) :
    goal.removed = 0 := by
  generalize hg : Found.directory goal = found at h
  induction h with
  | done =>
    cases hg
    exact hp
  | current _ ih => exact ih hp hg
  | parent _ ih => exact ih (Place.up_of_standing hp).1 hg
  | enter _ _ _ _ ih => exact ih hp hg
  | file | link | missing => cases hg
  | follow _ _ _ _ _ ih =>
    refine ih ?_ hg
    split
    · rfl
    · exact hp

lemma startOf_eq {fs : FileSystem} (h : fs.workingDirectory.removed = 0) (p : Path) :
    fs.startOf p = ⟨if p.isAbsolute then [] else fs.workingDirectory.location, 0⟩ := by
  rw [startOf]
  split
  · rfl
  · rw [← h]

lemma resolve_standing {fs : FileSystem} (h : fs.workingDirectory.removed = 0) {ending : Ending} {p : Path}
    {goal : Place} (hr : fs.resolve ending p = .ok (.directory goal)) : goal.removed = 0 := by
  have hstart := startOf_eq h p
  exact (resolve_eq_ok_iff.mp hr).2.standing (by rw [hstart])

lemma Walks.goal_eq_absolute {fs : FileSystem} (h : fs.workingDirectory.removed = 0) {p : Path}
    {goal : Place} (hw : Walks fs p.segments (fs.startOf p) goal) :
    goal = ⟨p.absolute fs.workingDirectory.location, 0⟩ := by
  rw [startOf_eq h] at hw
  obtain ⟨hr, hl⟩ := hw.goal_eq rfl
  rw [Path.absolute_eq, ← hl, ← hr]

lemma Leads.walks {fs : FileSystem} {ending : Ending} {links : Nat} {slash : Bool} {segments : List Bytes}
    {place goal : Place} (h : Leads fs ending links slash segments place (.directory goal))
    (hf : fs.LinkFreeFrom segments place) : Walks fs segments place goal := by
  generalize hg : Found.directory goal = found at h
  induction h with
  | done =>
    cases hg
    exact .done
  | current _ ih => exact .current (ih (linkFreeFrom_dot.mp hf) hg)
  | parent _ ih => exact .parent (ih (linkFreeFrom_dotDot.mp hf) hg)
  | enter hs _ he _ ih => exact .enter hs he (ih ((linkFreeFrom_name hs).mp hf).2 hg)
  | file | link | missing => cases hg
  | follow hs _ _ he => exact absurd (((linkFreeFrom_name hs).mp hf).1 _ he) (by simp [Entry.isLink])

lemma Leads.walks_init {fs : FileSystem} {ending : Ending} {links : Nat} {slash : Bool}
    {init : List Bytes} {last : Bytes} {place : Place} {found : Found}
    (h : Leads fs ending links slash (init ++ [last]) place found)
    (hf : fs.LinkFreeFrom init place) : ∃ goal, Walks fs init place goal := by
  induction init generalizing place with
  | nil => exact ⟨place, .done⟩
  | cons s init ih =>
    rw [List.cons_append] at h
    generalize hr : init ++ [last] = rest at h ih
    cases h with
    | file | link | missing => simp at hr
    | current h =>
      obtain ⟨goal, hw⟩ := ih h (linkFreeFrom_dot.mp hf)
      exact ⟨goal, .current hw⟩
    | parent h =>
      obtain ⟨goal, hw⟩ := ih h (linkFreeFrom_dotDot.mp hf)
      exact ⟨goal, .parent hw⟩
    | enter hs _ he h =>
      obtain ⟨goal, hw⟩ := ih h ((linkFreeFrom_name hs).mp hf).2
      exact ⟨goal, .enter hs he hw⟩
    | follow hs _ _ he => exact absurd (((linkFreeFrom_name hs).mp hf).1 _ he) (by simp [Entry.isLink])

lemma Walks.leads {fs : FileSystem} {ending : Ending} (hk : ending ≠ .create) {links : Nat} {slash : Bool}
    {segments rest : List Bytes} {place middle : Place} {found : Found} (h : Walks fs segments place middle)
    (hl : Leads fs ending links slash rest middle found) :
    Leads fs ending links slash (segments ++ rest) place found := by
  induction h with
  | done => exact hl
  | current _ ih => exact .current (ih hl)
  | parent _ ih => exact .parent (ih hl)
  | enter hs he _ ih => exact .enter hs (fun hr => hk hr.1) he (ih hl)

lemma Walks.reaches {fs : FileSystem} {ending : Ending} (hk : ending ≠ .create) {links : Nat}
    {segments : List Bytes} {place goal : Place} (h : Walks fs segments place goal) (slash : Bool) :
    Leads fs ending links slash segments place (.directory goal) := by
  have hend : Leads fs ending links slash [] goal (.directory goal) := .done
  simpa using h.leads hk hend

lemma Walks.resolve {fs : FileSystem} (ending : Ending) (hk : ending ≠ .create) {p : Path} (hp : p.Accepted)
    {goal : Place} (h : Walks fs p.segments (fs.startOf p) goal) : fs.resolve ending p = .ok (.directory goal) :=
  resolve_eq_ok_iff.mpr ⟨hp, h.reaches hk _⟩

lemma LinkFree.walks {fs : FileSystem} {p : Path} (hf : fs.LinkFree p) {ending : Ending} {goal : Place}
    (h : fs.resolve ending p = .ok (.directory goal)) : p.Accepted ∧ Walks fs p.segments (fs.startOf p) goal := by
  obtain ⟨hp, hl⟩ := resolve_eq_ok_iff.mp h
  exact ⟨hp, hl.walks hf⟩

lemma walks_up (fs : FileSystem) (common up : Location) :
    Walks fs (up.map fun _ => Path.dotDot) ⟨common ++ up, 0⟩ ⟨common, 0⟩ := by
  induction up using List.reverseRecOn with
  | nil => simpa using Walks.done
  | append_singleton up n ih =>
    have hmap : (up ++ [n]).map (fun _ => Path.dotDot) = Path.dotDot :: up.map fun _ => Path.dotDot := by
      rw [List.map_const', List.map_const', List.length_append, List.length_singleton, List.replicate_succ]
    have hup : Place.up ⟨common ++ (up ++ [n]), 0⟩ = ⟨common ++ up, 0⟩ := by
      rw [Place.up, ← List.append_assoc, List.dropLast_concat]
    rw [hmap]
    exact .parent (hup ▸ ih)

lemma walks_down {fs : FileSystem} (h : fs.WellFormed) {names : List FileName} {l : Location}
    (he : fs.entryAt? (l ++ names) = some .directory) : Walks fs names ⟨l, 0⟩ ⟨l ++ names, 0⟩ := by
  induction names generalizing l with
  | nil => simpa using Walks.done
  | cons n names ih =>
    rw [List.append_cons] at he ⊢
    have hn : fs.entryAt? (l ++ [n]) = some .directory := by
      by_cases hnames : names = []
      · simpa [hnames] using he
      · exact entryAt?_above hnames he
    exact .enter (h.name_valid hn).toLookedUp (entryIn?_eq_some_iff.mpr ⟨rfl, hn⟩) (ih he)

lemma leads_down {fs : FileSystem} (h : fs.WellFormed) {links : Nat} {l init : Location} {n : FileName}
    {e : Entry} (he : fs.entryAt? (l ++ (init ++ [n])) = some e) (hk : e ≠ .directory) :
    Leads fs .stay links false (init ++ [n]) ⟨l, 0⟩ (.node (l ++ init) (e.node n)) := by
  rw [← List.append_assoc] at he
  have hn : LookedUp n := (h.name_valid he).toLookedUp
  have hin : fs.entryIn? ⟨l ++ init, 0⟩ n = some e := entryIn?_eq_some_iff.mpr ⟨rfl, he⟩
  refine (walks_down h (entryAt?_above (by simp) he)).leads (by decide) ?_
  cases e with
  | directory => exact absurd rfl hk
  | file content => exact .file hn hin
  | link target => exact .link hn rfl hin

lemma Leads.append {fs : FileSystem} {links : Nat} {slash : Bool} {segments rest : List Bytes}
    {place goal : Place} {found : Found} (h : Leads fs .stay links slash segments place (.directory goal))
    (hn : rest ≠ []) (hr : ∀ links, Leads fs .stay links false rest goal found) :
    Leads fs .stay links false (segments ++ rest) place found := by
  generalize hg : Found.directory goal = middle at h
  induction h with
  | done =>
    cases hg
    exact hr _
  | current _ ih => exact .current (ih hg)
  | parent _ ih => exact .parent (ih hg)
  | enter hs _ he _ ih => exact .enter hs (by simp [Refuses]) he (ih hg)
  | file | link | missing => cases hg
  | @follow _ _ _ between _ target _ hs _ _ he _ ih =>
    have hnext : between ++ rest ≠ [] := by simp [hn]
    refine .follow hs (by simp [Refuses]) (fun hk => hnext hk.1) he ?_
    have hslash : (false || (decide (between ++ rest = []) && target.endsInSlash)) = false := by simp [hn]
    rw [List.append_eq, hslash, ← List.append_assoc]
    exact ih hg

lemma denotes_of_leads {fs : FileSystem} (h : fs.WellFormed) {p : Path} (hs : p.endsInSlash = false)
    (slash : Bool) {segments : List Bytes} {l names : Location} (hsegments : p.segments = segments ++ names)
    (hl : Leads fs .stay mostLinks slash segments (fs.startOf p) (.directory ⟨l, 0⟩)) {e : Entry}
    (he : fs.entryAt? (l ++ names) = some e) (hk : e ≠ .directory) (hn : names ≠ []) :
    fs.Denotes p (l ++ names) := by
  obtain ⟨init, n, rfl⟩ : ∃ init n, names = init ++ [n] :=
    ⟨_, _, (List.dropLast_append_getLast hn).symm⟩
  refine ⟨l ++ init, e.node n, by simp, lead_eq_ok_iff.mpr ?_⟩
  rw [hs, hsegments]
  exact hl.append hn fun _ => leads_down h he hk

lemma resolve_below {fs : FileSystem} (h : fs.WellFormed) {p : Path} {l names : Location}
    (hd : fs.resolve .stay p = .ok (.directory ⟨l, 0⟩)) (he : fs.entryAt? (l ++ names) = some .directory)
    (hf : (p.childOf names).Fits) : fs.resolve .stay (p.childOf names) = .ok (.directory ⟨l ++ names, 0⟩) := by
  by_cases hn : names = []
  · simpa [hn, Path.childOf] using hd
  obtain ⟨hp, hl⟩ := resolve_eq_ok_iff.mp hd
  have hs : ∀ n ∈ names, Segment n :=
    fun n hm => (h.location_valid he n (List.mem_append_right l hm)).toSegment
  refine resolve_eq_ok_iff.mpr ⟨⟨hp.childOf hs, hf⟩, ?_⟩
  rw [Path.childOf_endsInSlash hn hs, Path.segments_childOf hs, startOf, Path.childOf_isAbsolute hs]
  exact hl.append hn fun _ => (walks_down h he).reaches (by decide) false

end BarrelModule.FileSystem
