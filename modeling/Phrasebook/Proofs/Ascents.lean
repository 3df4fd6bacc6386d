import Mathlib.Data.List.Induction
import Phrasebook.Proofs.Listings

/-!
# Going up from a file

The root of a project and the workspace around it are found by going up the names of a path. A name of two points takes a
step up too, so a path with such detours has other paths above it than the straight one to the same place. Wherever both
ascents come to one place, what is found from there on down is the same; and the straight ascent comes to no place that
the other does not come to.

Results:
1. `Path.upwards`: a path and those above it.
2. `Workspace.LeadAlike`: paths to one place, and what cannot tell them apart.
3. `LeadsToDirectory.leadAlike_straight`, `LeadsToDirectory.exists_mem_upwards`: the straight path to a directory.
4. `Project.findWorkspaceRoot_straight`, `Project.findRoot_straight`: the roots above it.
-/

namespace Phrasebook

namespace Path

/-! ## 1. Paths above -/

/-- A path and those above it, nearest first. -/
def upwards (p : Path) : List Path := p :: p.ancestors

theorem ancestors_child (p : Path) (name : String) : (p.child name).ancestors = p.upwards := by
  have htake : (List.range p.names.length).map (fun n => (⟨p.root, (p.names ++ [name]).take n⟩ : Path)) =
      (List.range p.names.length).map fun n => ⟨p.root, p.names.take n⟩ := by
    refine List.map_congr_left fun n hn => ?_
    rw [List.take_append_of_le_length (Nat.le_of_lt (List.mem_range.mp hn))]
  rw [ancestors, child, List.length_append, List.length_singleton, List.range_succ, List.map_append, List.reverse_append,
    htake, upwards, ancestors]
  simp

theorem upwards_child (p : Path) (name : String) : (p.child name).upwards = p.child name :: p.upwards := by
  rw [upwards, ancestors_child]

theorem mem_ancestors {p d : Path} : d ∈ p.ancestors ↔ ∃ n < p.names.length, d = ⟨p.root, p.names.take n⟩ := by
  simp only [ancestors, List.mem_reverse, List.mem_map, List.mem_range]
  exact exists_congr fun n => and_congr_right fun _ => eq_comm

theorem mem_upwards {p d : Path} : d ∈ p.upwards ↔ ∃ n, d = ⟨p.root, p.names.take n⟩ := by
  rw [upwards, List.mem_cons, mem_ancestors]
  constructor
  · rintro (rfl | ⟨n, -, rfl⟩)
    · exact ⟨d.names.length, by rw [List.take_length]⟩
    · exact ⟨n, rfl⟩
  · rintro ⟨n, rfl⟩
    by_cases hn : n < p.names.length
    · exact .inr ⟨n, hn, rfl⟩
    · exact .inl (by rw [List.take_of_length_le (Nat.le_of_not_lt hn)])

/-- A path goes on from each of those above it. -/
theorem exists_below_of_mem_upwards {p d : Path} (h : d ∈ p.upwards) : ∃ names, p = d.below names := by
  obtain ⟨n, rfl⟩ := mem_upwards.mp h
  exact ⟨p.names.drop n, by rw [below, List.take_append_drop]⟩

theorem below_nil (p : Path) : p.below [] = p := by rw [below, List.append_nil]

theorem below_concat (p : Path) (names : List String) (name : String) :
    p.below (names ++ [name]) = (p.below names).child name := by
  rw [below, child, below, List.append_assoc]

theorem below_inj {p : Path} {names names' : List String} : p.below names = p.below names' ↔ names = names' := by
  rw [below, below, Path.mk.injEq, List.append_cancel_left_eq]
  exact and_iff_right rfl

theorem mem_upwards_of_parent {p d : Path} (h : d ∈ p.parent.upwards) : d ∈ p.upwards := by
  obtain ⟨n, rfl⟩ := mem_upwards.mp h
  refine mem_upwards.mpr ⟨min n (p.names.length - 1), ?_⟩
  rw [parent, List.dropLast_eq_take, List.take_take]

theorem eq_of_below_mem_upwards {p : Path} {names : List String} (h : p.below names ∈ p.upwards) : names = [] := by
  obtain ⟨n, hn⟩ := mem_upwards.mp h
  have hlength := congrArg (fun q : Path => q.names.length) hn
  simp only [below, List.length_append, List.length_take] at hlength
  exact List.length_eq_zero_iff.mp (by omega)

/-- Two ascents that go through the same names come to the same of them, if what is looked for is the same on both. -/
theorem find?_upwards_below {p : Path → Bool} {d e : Path} (hsame : ∀ names, p (d.below names) = p (e.below names))
    {names found : List String} (h : (d.below names).upwards.find? p = some (d.below found)) :
    (e.below names).upwards.find? p = some (e.below found) := by
  -- the induction goes up along the common names; above them only the first path can be found
  induction names using List.reverseRecOn with
  | nil =>
    rw [below_nil] at h ⊢
    have hnil := eq_of_below_mem_upwards (List.mem_of_find?_eq_some h)
    have hfound := List.find?_some h
    rw [hnil, hsame] at hfound
    rw [hnil, upwards, List.find?_cons_of_pos (by rwa [below_nil] at hfound), below_nil]
  | append_singleton names name ih =>
    rw [below_concat, upwards_child] at h ⊢
    have hchild := hsame (names ++ [name])
    rw [below_concat, below_concat] at hchild
    cases hhere : p ((d.below names).child name) with
    | true =>
      rw [List.find?_cons_of_pos hhere, Option.some.injEq, ← below_concat, below_inj] at h
      rw [List.find?_cons_of_pos (hchild ▸ hhere), ← h, below_concat]
    | false =>
      rw [List.find?_cons_of_neg (by rw [hhere]; decide)] at h
      rw [List.find?_cons_of_neg (by rw [← hchild, hhere]; decide)]
      exact ih h

/-! ### Straight paths -/

theorem collapsed_append_of_not_mem (names : List String) {more : List String} (h : ".." ∉ more) :
    collapsed (names ++ more) = collapsed names ++ more := by
  induction more using List.reverseRecOn with
  | nil => rw [List.append_nil, List.append_nil]
  | append_singleton more name ih =>
    rw [List.mem_append, not_or, List.mem_singleton] at h
    rw [← List.append_assoc, ← List.append_assoc, ← ih h.1]
    exact Disk.placeOf_child ⟨"", names ++ more⟩ (Ne.symm h.2)

theorem collapsed_concat_up (names : List String) : collapsed (names ++ [".."]) = (collapsed names).dropLast := by
  rw [collapsed, List.foldl_append]
  rfl

/-- No name is new in a straight path, and none takes a step up. -/
theorem mem_of_mem_collapsed {names : List String} {name : String} (h : name ∈ collapsed names) :
    name ∈ names ∧ name ≠ ".." := by
  induction names using List.reverseRecOn with
  | nil => exact absurd h List.not_mem_nil
  | append_singleton names last ih =>
    by_cases hlast : last = ".."
    · rw [hlast, collapsed_concat_up] at h
      obtain ⟨hmem, hne⟩ := ih (List.dropLast_subset _ h)
      exact ⟨List.mem_append_left _ hmem, hne⟩
    · rw [collapsed_append_of_not_mem _ (by simpa using Ne.symm hlast), List.mem_append, List.mem_singleton] at h
      rcases h with h | rfl
      · exact ⟨List.mem_append_left _ (ih h).1, (ih h).2⟩
      · exact ⟨List.mem_append_right _ (List.mem_singleton_self _), hlast⟩

def straight (p : Path) : Path := ⟨p.root, collapsed p.names⟩

theorem not_mem_straight (p : Path) : ".." ∉ p.straight.names := fun h => (mem_of_mem_collapsed h).2 rfl

theorem straight_of_not_mem {p : Path} (h : ".." ∉ p.names) : p.straight = p := by
  rw [straight, Disk.collapsed_of_not_mem h]

theorem straight_below (p : Path) {names : List String} (h : ".." ∉ names) :
    (p.below names).straight = p.straight.below names := by
  rw [straight, below, collapsed_append_of_not_mem _ h, straight, below]

theorem straight_child (p : Path) {name : String} (h : name ≠ "..") :
    (p.child name).straight = p.straight.child name :=
  straight_below p (by simpa using Ne.symm h)

end Path

namespace Workspace

variable {w : Workspace} {d e : Path}

/-! ## 2. Paths to one place -/

/-- Two paths from the root on lead to one place, or fail alike. -/
structure LeadAlike (w : Workspace) (d e : Path) : Prop where
  absolute : d.isAbsolute = true
  absolute' : e.isAbsolute = true
  locate : w.disk.locate d = w.disk.locate e

namespace LeadAlike

theorem refl (h : d.isAbsolute = true) : LeadAlike w d d := ⟨h, h, rfl⟩

/-- They lead alike when they go on alike. -/
theorem below (h : LeadAlike w d e) (names : List String) : LeadAlike w (d.below names) (e.below names) := by
  refine ⟨h.absolute, h.absolute', ?_⟩
  have hlocate := h.locate
  rw [Disk.locate, Disk.locate] at hlocate
  rw [Disk.locate, Disk.locate, Path.below, Path.below, List.foldlM_append, List.foldlM_append, hlocate]

theorem child (h : LeadAlike w d e) (name : String) : LeadAlike w (d.child name) (e.child name) := h.below [name]

theorem find (h : LeadAlike w d e) : w.disk.find d = w.disk.find e := by rw [Disk.find, Disk.find, h.locate]

theorem holds (h : LeadAlike w d e) : w.holds d = w.holds e := by
  rw [Workspace.holds, Workspace.holds, w.absolute_of_isAbsolute h.absolute, w.absolute_of_isAbsolute h.absolute',
    Disk.holds, Disk.holds, h.find]

theorem read (h : LeadAlike w d e) : w.read d = w.read e := by
  rw [Workspace.read, Workspace.read, w.absolute_of_isAbsolute h.absolute, w.absolute_of_isAbsolute h.absolute',
    Disk.read, Disk.read, h.find]

end LeadAlike

/-! ## 3. Straight paths -/

/-- A path from the root on leads to a directory. -/
def LeadsToDirectory (w : Workspace) (d : Path) : Prop :=
  d.isAbsolute = true ∧ ∃ place, w.disk.locate d = .ok place ∧ w.disk.IsReached place

theorem isReached_of_at? {disk : Disk} {place : Place} (habove : disk.IsReached place.dropLast)
    (h : disk.at? place = some .directory) : disk.IsReached place := by
  rcases List.eq_nil_or_concat place with rfl | ⟨names, last, rfl⟩
  · exact fun n => by rw [List.take_nil]; rfl
  · rw [List.concat_eq_append] at h habove ⊢
    rw [List.dropLast_concat] at habove
    exact habove.append h

/-- Where a path goes on, it leads through a directory. -/
theorem leadsToDirectory_of_locate {names : List String} {place : Place} (habsolute : d.isAbsolute = true)
    (hnames : names ≠ []) (h : w.disk.locate (d.below names) = .ok place) : LeadsToDirectory w d := by
  obtain ⟨start, hstart, hrest⟩ := Project.locate_below_eq_ok_iff.mp h
  obtain ⟨name, more, rfl⟩ := List.exists_cons_of_ne_nil hnames
  obtain ⟨next, hstep, -⟩ := Disk.foldlM_step_cons.mp hrest
  exact ⟨habsolute, start, hstart, isReached_of_at? (Disk.isReached_of_locate hstart) (Disk.eq_of_step hstep).1⟩

theorem LeadsToDirectory.above {names : List String} (h : LeadsToDirectory w (d.below names)) : LeadsToDirectory w d := by
  obtain ⟨habsolute, place, hlocate, hreached⟩ := h
  cases names with
  | nil =>
    rw [Path.below_nil] at hlocate
    exact ⟨habsolute, place, hlocate, hreached⟩
  | cons name names => exact leadsToDirectory_of_locate habsolute (List.cons_ne_nil _ _) hlocate

/-- The straight path leads to the same directory. -/
theorem LeadsToDirectory.leadAlike_straight (h : LeadsToDirectory w d) : LeadAlike w d d.straight := by
  obtain ⟨habsolute, place, hlocate, hreached⟩ := h
  refine ⟨habsolute, habsolute, ?_⟩
  have hplace := Disk.placeOf_eq_of_locate hlocate
  rw [hlocate, hplace]
  rw [hplace] at hreached
  exact (Disk.locate_of_isReached d.not_mem_straight hreached.dropLast).symm

/-- Above the straight path to a directory there is nothing but what is above the path. -/
theorem LeadsToDirectory.exists_mem_upwards (h : LeadsToDirectory w d) (he : e ∈ d.straight.upwards) :
    ∃ d' ∈ d.upwards, LeadAlike w d' e := by
  obtain ⟨root, names⟩ := d
  induction names using List.reverseRecOn generalizing e with
  | nil =>
    obtain ⟨n, rfl⟩ := Path.mem_upwards.mp he
    refine ⟨_, List.mem_cons_self, ?_⟩
    rw [show Path.straight ⟨root, []⟩ = ⟨root, []⟩ from rfl, List.take_nil]
    exact .refl h.1
  | append_singleton names name ih =>
    have habove : LeadsToDirectory w ⟨root, names⟩ := @LeadsToDirectory.above w ⟨root, names⟩ [name] h
    have hup {d' : Path} (hd' : d' ∈ Path.upwards ⟨root, names⟩) : d' ∈ Path.upwards ⟨root, names ++ [name]⟩ := by
      rw [show (⟨root, names ++ [name]⟩ : Path) = Path.child ⟨root, names⟩ name from rfl, Path.upwards_child]
      exact List.mem_cons_of_mem _ hd'
    by_cases hname : name = ".."
    · -- a step up comes to a place above that the path has come to already
      have hparent : Path.straight ⟨root, names ++ [name]⟩ = (Path.straight ⟨root, names⟩).parent := by
        rw [Path.straight, hname, Path.collapsed_concat_up, Path.parent, Path.straight]
      rw [hparent] at he
      obtain ⟨d', hd', halike⟩ := ih habove (Path.mem_upwards_of_parent he)
      exact ⟨d', hup hd', halike⟩
    · have hchild : Path.straight ⟨root, names ++ [name]⟩ = (Path.straight ⟨root, names⟩).child name :=
        Path.straight_child ⟨root, names⟩ hname
      rw [hchild, Path.upwards_child, List.mem_cons] at he
      rcases he with rfl | he
      · exact ⟨_, List.mem_cons_self, hchild ▸ h.leadAlike_straight⟩
      · obtain ⟨d', hd', halike⟩ := ih habove he
        exact ⟨d', hup hd', halike⟩

end Workspace

/-! ## 4. Roots -/

namespace Project

variable {w : Workspace} {settings : Settings} {d e : Path}

/-- Whether a directory holds the configuration of a project. -/
def holdsConfig (w : Workspace) (d : Path) : Bool := configFiles.any fun name => w.holds (d.child name)

theorem findRoot_eq (w : Workspace) (path : Path) :
    findRoot w path = (path.ancestors.find? (holdsConfig w)).getD w.directory := rfl

theorem findWorkspaceRoot_eq (w : Workspace) (start : Path) :
    findWorkspaceRoot w start = (start.upwards.find? (isWorkspaceRoot w)).getD start := rfl

theorem holdsConfig_congr (h : w.LeadAlike d e) : holdsConfig w d = holdsConfig w e := by
  rw [holdsConfig, holdsConfig]
  exact List.any_congr rfl fun name => (h.child name).holds

theorem isWorkspaceRoot_congr (h : w.LeadAlike d e) : isWorkspaceRoot w d = isWorkspaceRoot w e := by
  rw [isWorkspaceRoot, isWorkspaceRoot, packageTells?, packageTells?, (h.child _).holds, (h.child _).read]

theorem leadsToDirectory_of_holdsConfig (habsolute : d.isAbsolute = true) (h : holdsConfig w d = true) :
    w.LeadsToDirectory d := by
  obtain ⟨name, -, hholds⟩ := List.any_eq_true.mp h
  have hchild : (d.child name).isAbsolute = true := habsolute
  rw [Workspace.holds, w.absolute_of_isAbsolute hchild, Disk.holds] at hholds
  cases hfind : w.disk.find (d.child name) with
  | error e =>
    rw [hfind] at hholds
    exact absurd hholds (by simp [Except.isOk, Except.toBool])
  | ok item =>
    exact Workspace.leadsToDirectory_of_locate habsolute (List.cons_ne_nil name []) (Disk.find_eq_ok_iff.mp hfind).1

/-- The root of the workspace is at or above where the search starts. -/
theorem findWorkspaceRoot_mem (w : Workspace) (start : Path) : findWorkspaceRoot w start ∈ start.upwards := by
  rw [findWorkspaceRoot_eq]
  cases h : start.upwards.find? (isWorkspaceRoot w) with
  | none => exact List.mem_cons_self
  | some found => exact List.mem_of_find?_eq_some h

/-- From one place on down, both ascents find the root of the workspace at this place. -/
theorem findWorkspaceRoot_straight {names : List String} (hd : w.LeadsToDirectory d)
    (h : findWorkspaceRoot w (d.below names) = d) :
    findWorkspaceRoot w (d.straight.below names) = d.straight := by
  have halike := hd.leadAlike_straight
  rw [findWorkspaceRoot_eq] at h ⊢
  cases hfound : (d.below names).upwards.find? (isWorkspaceRoot w) with
  | some found =>
    rw [hfound, Option.getD_some] at h
    rw [h] at hfound
    have hfound' : (d.below names).upwards.find? (isWorkspaceRoot w) = some (d.below []) := by rw [hfound, Path.below_nil]
    have hsame (more : List String) : isWorkspaceRoot w (d.below more) = isWorkspaceRoot w (d.straight.below more) :=
      isWorkspaceRoot_congr (halike.below more)
    rw [Path.find?_upwards_below hsame hfound', Path.below_nil, Option.getD_some]
  | none =>
    -- then the search has started here, and nothing is found above by either ascent
    rw [hfound, Option.getD_none] at h
    obtain rfl : names = [] := Path.below_inj.mp (h.trans (Path.below_nil d).symm)
    rw [Path.below_nil] at hfound ⊢
    have hnone : d.straight.upwards.find? (isWorkspaceRoot w) = none := by
      refine List.find?_eq_none.mpr fun e he => ?_
      obtain ⟨d', hd', halike'⟩ := hd.exists_mem_upwards he
      rw [← isWorkspaceRoot_congr halike']
      exact List.find?_eq_none.mp hfound d' hd'
    rw [hnone, Option.getD_none]

/-- And both find the root of the project at the same place below it. -/
theorem findRoot_straight {names found : List String} (halike : w.LeadAlike d e) (hnames : names ≠ [])
    (h : (d.below names).ancestors.find? (holdsConfig w) = some (d.below found)) :
    findRoot w (e.below names) = e.below found := by
  rcases List.eq_nil_or_concat names with rfl | ⟨more, name, rfl⟩
  · exact absurd rfl hnames
  · rw [List.concat_eq_append, Path.below_concat, Path.ancestors_child] at h
    have hsame (more : List String) : holdsConfig w (d.below more) = holdsConfig w (e.below more) :=
      holdsConfig_congr (halike.below more)
    rw [List.concat_eq_append, findRoot_eq, Path.below_concat, Path.ancestors_child,
      Path.find?_upwards_below hsame h, Option.getD_some]

end Project
end Phrasebook
