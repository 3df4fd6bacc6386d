import Phrasebook.Proofs.Consolidations

/-!
# What is left of a catalog that cannot be read

A consolidation that cannot read the earlier catalog sets it aside, so that its translations can still be recovered by
hand, and starts with an empty one. There is one name to set a catalog aside under. A directory that has this name keeps
the catalog where it is, and there it is written over; and a later catalog that cannot be read takes the place of the
one that was set aside before it. Apart from these two cases no such catalog is ever lost.

Results:
1. `at?_run_of_finds`: what a consolidation leaves that cannot read the earlier catalog.
2. `at?_run_of_not_finds`: any other one leaves what was set aside.
3. `History.backup`: over a history of consolidations, the catalogs that were set aside are where they were put.
4. `keepsUnreadable_iff`: when every catalog that could not be read is still there.
-/

namespace Phrasebook.Consolidation

variable {c : Consolidation} {w w' : Workspace} {content : Bytes}

/-! ## 1. Catalogs that cannot be read -/

/-- Bytes are no catalog. What is nested too deep is none of these: a consolidation stops there and changes nothing. -/
def IsUnreadable (room : Json.Room) (content : Bytes) : Prop :=
  ∃ complaint, Catalog.ofBytes room content = .error complaint ∧ complaint ≠ .json (.excess .nesting)

theorem IsUnreadable.ne_ok {room : Json.Room} (h : IsUnreadable room content) (loaded : Catalog.Loaded) :
    Catalog.ofBytes room content ≠ .ok loaded := by
  obtain ⟨complaint, hbytes, -⟩ := h
  rw [hbytes]
  exact nofun

/-- A consolidation that has a sink finds a catalog that it cannot read. -/
structure Finds (c : Consolidation) (w : Workspace) (content : Bytes) : Prop where
  sink : w.isFile c.sink = true
  catalog : w.read c.store.file = .ok content
  unreadable : IsUnreadable w.room content

/-- The catalog has a name; the sink, the catalog, the lookup module and the catalog that was set aside are different
files, in directories. -/
structure IsPlaced (c : Consolidation) (w : Workspace) : Prop where
  apart : c.IsApart w
  named : c.store.file.names ≠ []
  aside : c.asidePlace w ∉ w.placeOf c.sink :: c.store.places w
  tree : w.disk.IsTree

/-- The content of a catalog is still in its file, or in the one that it was set aside in. -/
def IsKept (c : Consolidation) (w : Workspace) (content : Bytes) : Prop :=
  w.disk.at? (w.placeOf c.store.file) = some (.file content) ∨ w.disk.at? (c.asidePlace w) = some (.file content)

theorem asidePlace_of_directory (h : w'.directory = w.directory) : c.asidePlace w' = c.asidePlace w :=
  Workspace.placeOf_of_directory h _

theorem IsPlaced.aside_ne_file (h : c.IsPlaced w) : c.asidePlace w ≠ w.placeOf c.store.file :=
  fun heq => h.aside (List.mem_cons_of_mem _ (heq ▸ List.mem_cons_self))

/-- So it is in a project that has its files under their standard names. -/
theorem isPlaced_ofProject {settings : Settings} (hsink : settings.sinkFilename = Settings.standard.sinkFilename)
    (hcatalog : settings.catalogPath = Settings.standard.catalogPath)
    (hmodule : settings.lookupModulePath = Settings.standard.lookupModulePath) (root : Path) (htree : w.disk.IsTree) :
    (ofProject settings root).IsPlaced w where
  apart := isApart_ofProject hsink hcatalog hmodule root w
  named := by
    have hpath : Path.ofString Settings.standard.catalogPath = (Path.ofString ".next").child "extracted-strings.json" := by
      decide
    show (settings.catalogFile root).names ≠ []
    rw [Settings.catalogFile, hcatalog, hpath, Workspace.join_child, Path.child]
    simp
  aside := by
    have haside := getLast?_asidePlace hcatalog root w
    have hother {place : Place} {name : String} (hname : place.getLast? = some name)
        (hne : name ≠ "extracted-strings.json.corrupt") : (ofProject settings root).asidePlace w ≠ place := by
      rintro rfl
      exact hne (Option.some.inj (hname.symm.trans haside))
    simp only [CatalogStore.places, List.mem_cons, Option.mem_toList, List.mem_map, not_or, not_exists, not_and]
    refine ⟨hother (getLast?_sinkPath hsink root w) (by decide),
      hother (getLast?_catalogFile hcatalog root w) (by decide), ?_⟩
    rintro _ ⟨⟩
    exact Ne.symm (hother (getLast?_lookupModuleFile hmodule root w) (by decide))
  tree := htree

/-- A catalog that is not found to be unreadable is read, if a consolidation goes as far as that. -/
theorem exists_load {log : Record.Log} (hready : c.IsReady w log) (h : ∀ content, ¬ c.Finds w content) :
    ∃ loaded, c.store.load w = .ok loaded := by
  cases hload : c.store.load w with
  | ok loaded => exact ⟨loaded, rfl⟩
  | error failure =>
    obtain ⟨content, complaint, hread, hbytes, hnesting⟩ := CatalogStore.read_of_load_error hload
    refine absurd ⟨hready.isFile, hread, complaint, hbytes, fun hdeep => ?_⟩ (h content)
    have htooDeep := CatalogStore.isTooDeep_eq_true_iff.mpr (hload.trans (congrArg Except.error (hnesting.mpr hdeep)))
    exact absurd (hready.writable.1.symm.trans htooDeep) (by simp)

theorem load_of_finds (h : c.Finds w content) : ∃ failure, c.store.load w = .error failure ∧ failure ≠ .nesting := by
  obtain ⟨complaint, hbytes, hother⟩ := h.unreadable
  cases hload : c.store.load w with
  | error failure =>
    obtain ⟨content', complaint', hread, hbytes', hnesting⟩ := CatalogStore.read_of_load_error hload
    obtain rfl := Except.ok.inj (h.catalog.symm.trans hread)
    obtain rfl := Except.error.inj (hbytes.symm.trans hbytes')
    exact ⟨failure, rfl, fun hdeep => hother (hnesting.mp hdeep)⟩
  | ok loaded =>
    rw [CatalogStore.load, CatalogStore.isThere, if_pos (Workspace.isFile_of_read h.catalog), h.catalog] at hload
    simp only [hbytes] at hload
    exact absurd hload (by simp)

/-- A consolidation that finds such a catalog has something to write: it starts with an empty catalog. -/
theorem isReady_of_finds (h : c.Finds w content) : ∃ log, c.IsReady w log := by
  obtain ⟨bytes, hread⟩ := Workspace.isFile_iff.mp h.sink
  obtain ⟨failure, hload, hother⟩ := load_of_finds h
  have hshallow : c.store.isTooDeep w = false := by
    rw [← Bool.not_eq_true, CatalogStore.isTooDeep_eq_true_iff, hload]
    exact fun hdeep => hother (Except.error.inj hdeep)
  refine ⟨Record.ofLog bytes, h.sink, by rw [Sink.read, hread], ?_⟩
  rcases prior_cases c w with ⟨loaded, hloaded, -⟩ | ⟨-, -, hempty, -⟩
  · exact absurd (hload.symm.trans hloaded) (by simp)
  · rw [IsWritable, hempty]
    exact ⟨hshallow, rfl⟩

/-! ## 2. What a consolidation leaves of them -/

theorem setAsideName_ne (file : Path) : file.name ++ ".corrupt" ≠ ".." := by
  intro h
  have hlength := congrArg String.length h
  rw [String.length_append] at hlength
  have hsuffix : ".corrupt".length = 8 := by decide
  have hpoints : "..".length = 2 := by decide
  omega

/-- The place that a catalog is set aside at can be reached where its file can. -/
theorem absolute_setAsideName (h : c.store.file.names ≠ []) :
    w.absolute (setAsideName c.store.file) =
      (w.absolute c.store.file).withName (c.store.file.name ++ ".corrupt") ∧ (w.absolute c.store.file).names ≠ [] := by
  have hfile : w.absolute c.store.file = (w.absolute c.store.file.parent).child c.store.file.name := by
    rw [← Workspace.absolute_child, Disk.child_parent_name h]
  rw [hfile]
  refine ⟨?_, by simp [Path.child]⟩
  rw [setAsideName, Path.withName, Path.withName, Workspace.absolute_child]
  simp [Path.parent, Path.child]

/-- A catalog that is in a file is set aside where no directory has the name. -/
theorem rename_eq_ok_iff (h : c.IsPlaced w) (hread : w.read c.store.file = .ok content) :
    (∃ disk, w.disk.rename (w.absolute c.store.file) (w.absolute (setAsideName c.store.file)) = .ok disk) ↔
      w.disk.at? (c.asidePlace w) ≠ some .directory := by
  obtain ⟨hpath, hnames⟩ := absolute_setAsideName (w := w) h.named
  have hlocate := Disk.locate_withName (Disk.read_eq_ok_iff.mp hread).1 hnames (setAsideName_ne c.store.file)
  rw [← hpath] at hlocate
  rw [Disk.rename_eq_ok_iff hread h.aside_ne_file]
  refine ⟨?_, fun hfree => ⟨_, Disk.putFile_eq_ok_iff.mpr ⟨hlocate, Disk.at?_dropLast_of_locate hlocate, hfree, rfl⟩⟩⟩
  rintro ⟨disk, hput⟩
  exact (Disk.putFile_eq_ok_iff.mp hput).2.2.1

/-- What is left where the earlier catalog cannot be read: it was set aside, or a directory has the name. -/
theorem at?_prior_of_finds (h : c.IsPlaced w) (hfinds : c.Finds w content) :
    (c.prior w).2.disk.at? (c.asidePlace w) =
      if w.disk.at? (c.asidePlace w) = some .directory then some .directory else some (.file content) := by
  obtain ⟨failure, hload, -⟩ := load_of_finds hfinds
  rcases prior_cases c w with ⟨loaded, hloaded, -⟩ | ⟨-, -, -, -, hcases⟩
  · exact absurd (hload.symm.trans hloaded) (by simp)
  rcases hcases with ⟨disk, hrename, hdisk⟩ | ⟨e, hrename, hdisk⟩
  · obtain ⟨content', hread, hread'⟩ := Disk.read_rename hrename h.aside_ne_file
    obtain rfl : content' = content := Except.ok.inj (hread.symm.trans hfinds.catalog)
    rw [if_neg ((rename_eq_ok_iff h hfinds.catalog).mp ⟨disk, hrename⟩), hdisk]
    exact (Disk.read_eq_ok_iff.mp hread').2
  · have hdirectory : w.disk.at? (c.asidePlace w) = some .directory := by
      by_contra hfree
      obtain ⟨disk, hok⟩ := (rename_eq_ok_iff h hfinds.catalog).mpr hfree
      exact absurd (hrename.symm.trans hok) (by simp)
    rw [if_pos hdirectory, hdisk, hdirectory]

/-- What a consolidation leaves that cannot read the earlier catalog: another catalog, and what was set aside. -/
theorem at?_run_of_finds (h : c.IsPlaced w) (hfinds : c.Finds w content) :
    (∃ more, (c.run w).2.disk.at? (w.placeOf c.store.file) = some (.file more) ∧
      ∃ loaded, ∀ room, Catalog.ofBytes room more = .ok loaded) ∧
    (c.run w).2.disk.at? (c.asidePlace w) =
      if w.disk.at? (c.asidePlace w) = some .directory then some .directory else some (.file content) := by
  obtain ⟨log, hready⟩ := isReady_of_finds hfinds
  refine ⟨⟨c.catalogBytes w log, ?_, _, fun room =>
    Catalog.ofBytes_fileText room c.store.sorted (isSound_merged hready.read)⟩, ?_⟩
  · rcases run_cases h.apart hready with ⟨e, hfile, -⟩ | ⟨disk, path, e, hfile, -, -, -, hdisk, -⟩ |
      ⟨-, -, ⟨log', hready', hcatalog, -⟩, -⟩
    · obtain ⟨disk, hwritten⟩ := replace_prior h.tree hfinds.catalog (c.catalogBytes w log)
      exact absurd (hfile.symm.trans hwritten) (by simp)
    · rw [hdisk]
      exact (Disk.read_eq_ok_iff.mp (Disk.read_replace hfile)).2
    · obtain rfl := eq_of_isReady hready hready'
      have hread := (Disk.read_eq_ok_iff.mp (Workspace.content?_eq_some_iff.mp hcatalog)).2
      rwa [Workspace.absolute_of_directory (changesOnly_run c w).directory] at hread
  · obtain ⟨w₁, report, -, hdisk, hdirectory, -, hrun⟩ := run_of_isReady hready
    have hpublished := (changesOnly_publish c w₁ (c.merged w log) report).disk
    rw [CatalogStore.places_of_directory hdirectory, Workspace.placeOf_of_directory hdirectory, hdisk] at hpublished
    have hprior := at?_prior_of_finds h hfinds
    rw [hrun]
    split
    · rename_i hat
      rw [if_pos hat] at hprior
      exact hpublished.at? h.aside hprior
    · rename_i hat
      rw [if_neg hat] at hprior
      exact hpublished.at? h.aside hprior

/-- A consolidation that finds no such catalog leaves what was set aside. -/
theorem at?_run_of_not_finds (h : c.IsPlaced w) (hnone : ∀ content, ¬ c.Finds w content) {item : Item}
    (hat : w.disk.at? (c.asidePlace w) = some item) : (c.run w).2.disk.at? (c.asidePlace w) = some item := by
  by_cases hready : ∃ log, c.IsReady w log
  · obtain ⟨log, hready⟩ := hready
    obtain ⟨loaded, hload⟩ := exists_load hready hnone
    have hprior : c.prior w = (loaded, w) := by rw [prior, hload]
    obtain ⟨w₁, report, -, hdisk, hdirectory, -, hrun⟩ := run_of_isReady hready
    have hpublished := (changesOnly_publish c w₁ (c.merged w log) report).disk
    rw [CatalogStore.places_of_directory hdirectory, Workspace.placeOf_of_directory hdirectory, hdisk, hprior] at hpublished
    rw [hrun]
    exact hpublished.at? h.aside hat
  · rw [(run_of_not_isReady (not_exists.mp hready)).2.1]
    exact hat

/-- After a consolidation that found a catalog that it could not read, that one is still there if no directory has the
name that it is set aside under; any other such catalog is not. -/
theorem isKept_run_iff (h : c.IsPlaced w) (hfinds : c.Finds w content) {room : Json.Room} {earlier : Bytes}
    (hunreadable : IsUnreadable room earlier) :
    c.IsKept (c.run w).2 earlier ↔ w.disk.at? (c.asidePlace w) ≠ some .directory ∧ earlier = content := by
  obtain ⟨⟨more, hfile, loaded, hloaded⟩, haside⟩ := at?_run_of_finds h hfinds
  have hdirectory := (changesOnly_run c w).directory
  have hother : earlier ≠ more := fun heq => hunreadable.ne_ok loaded (heq ▸ hloaded room)
  rw [IsKept, asidePlace_of_directory hdirectory, Workspace.placeOf_of_directory hdirectory, hfile, haside]
  split
  · rename_i hat
    simp [hat, Ne.symm hother]
  · rename_i hat
    refine ⟨fun hkept => ⟨hat, ?_⟩, fun ⟨_, heq⟩ => .inr (by rw [heq])⟩
    rcases hkept with hmore | hcontent
    · exact absurd (Item.file.inj (Option.some.inj hmore)).symm hother
    · exact (Item.file.inj (Option.some.inj hcontent)).symm

/-! ## 3. Histories -/

/-- What people may do after a consolidation: anything, but they do not touch a catalog that was set aside. -/
structure LeavesBackup (c : Consolidation) (w w' : Workspace) : Prop where
  directory : w'.directory = w.directory
  backup : ∀ content, w.disk.at? (c.asidePlace w) = some (.file content) →
    w'.disk.at? (c.asidePlace w) = some (.file content)

/-- Consolidations one after the other, by the workspaces that they start from, and what the last one leaves. Before each
of them the catalog, the sink and all other files may be changed. -/
inductive History (c : Consolidation) : List Workspace → Workspace → Prop
  | start (w : Workspace) : History c [] w
  | next {starts : List Workspace} {last w : Workspace} :
      History c starts last → LeavesBackup c last w → c.IsPlaced w → History c (starts ++ [w]) (c.run w).2

/-- After each consolidation of a history every catalog that could not be read so far is still there. -/
def KeepsUnreadable (c : Consolidation) (starts : List Workspace) : Prop :=
  ∀ earlier w later, starts = earlier ++ w :: later →
    ∀ v ∈ earlier ++ [w], ∀ content, c.Finds v content → c.IsKept (c.run w).2 content

/-- No directory has the name that a catalog is set aside under when there is need of it. -/
def CanSetAside (c : Consolidation) (starts : List Workspace) : Prop :=
  ∀ w ∈ starts, ∀ content, c.Finds w content → w.disk.at? (c.asidePlace w) ≠ some .directory

/-- All catalogs that could not be read had the same content. -/
def FindsOne (c : Consolidation) (starts : List Workspace) : Prop :=
  ∀ v ∈ starts, ∀ w ∈ starts, ∀ content content', c.Finds v content → c.Finds w content' → content = content'

variable {starts : List Workspace} {last : Workspace}

theorem keepsUnreadable_concat :
    c.KeepsUnreadable (starts ++ [w]) ↔
      c.KeepsUnreadable starts ∧ ∀ v ∈ starts ++ [w], ∀ content, c.Finds v content → c.IsKept (c.run w).2 content := by
  refine ⟨fun h => ⟨fun earlier v later hsplit => ?_, h starts w [] rfl⟩, ?_⟩
  · exact h earlier v (later ++ [w]) (by rw [hsplit, List.append_assoc, List.cons_append])
  · rintro ⟨hstarts, hlast⟩ earlier v later hsplit
    rcases List.eq_nil_or_concat later with rfl | ⟨later, _, rfl⟩
    · obtain ⟨rfl, hv⟩ := List.append_inj' hsplit rfl
      obtain rfl := List.singleton_inj.mp hv
      exact hlast
    · rw [List.concat_eq_append, ← List.cons_append, ← List.append_assoc] at hsplit
      exact hstarts earlier v later (List.append_inj' hsplit rfl).1

/-- The catalogs that were set aside are where they were put. -/
theorem History.backup (h : History c starts last) (hfree : c.CanSetAside starts) (hone : c.FindsOne starts)
    {v : Workspace} (hv : v ∈ starts) (hfinds : c.Finds v content) :
    last.disk.at? (c.asidePlace last) = some (.file content) := by
  induction h with
  | start w => exact absurd hv List.not_mem_nil
  | @next starts last w hbefore hleaves hplaced ih =>
    have hw : w ∈ starts ++ [w] := List.mem_append_right _ (List.mem_singleton_self w)
    rw [asidePlace_of_directory (changesOnly_run c w).directory]
    by_cases hfound : ∃ content', c.Finds w content'
    · obtain ⟨content', hfound⟩ := hfound
      rw [(at?_run_of_finds hplaced hfound).2, if_neg (hfree w hw content' hfound),
        hone v hv w hw content content' hfinds hfound]
    · rcases List.mem_append.mp hv with hv | hv
      · have hlast := ih (fun u hu => hfree u (List.mem_append_left _ hu))
          (fun u hu u' hu' => hone u (List.mem_append_left _ hu) u' (List.mem_append_left _ hu')) hv
        have hkept := hleaves.backup content hlast
        rw [← asidePlace_of_directory hleaves.directory] at hkept
        exact at?_run_of_not_finds hplaced (not_exists.mp hfound) hkept
      · rw [List.mem_singleton.mp hv] at hfinds
        exact absurd ⟨content, hfinds⟩ hfound

/-- Every catalog that could not be read is still there, after each consolidation of a history, exactly if no directory
ever had the name that it is set aside under, and no other such catalog took its place. -/
theorem keepsUnreadable_iff (h : History c starts last) :
    c.KeepsUnreadable starts ↔ c.CanSetAside starts ∧ c.FindsOne starts := by
  induction h with
  | start w =>
    refine ⟨fun _ => ⟨fun _ hw => absurd hw List.not_mem_nil, fun _ hv => absurd hv List.not_mem_nil⟩, fun _ => ?_⟩
    intro earlier w later hsplit
    exact absurd hsplit (by simp)
  | @next starts last w hbefore hleaves hplaced ih =>
    have hw : w ∈ starts ++ [w] := List.mem_append_right _ (List.mem_singleton_self w)
    rw [keepsUnreadable_concat, ih]
    constructor
    · rintro ⟨⟨hfree, hone⟩, hkept⟩
      -- what the last consolidation found is the only one that it can have left
      have hlast {v : Workspace} (hv : v ∈ starts ++ [w]) {content content' : Bytes} (hfinds : c.Finds v content)
          (hfound : c.Finds w content') : w.disk.at? (c.asidePlace w) ≠ some .directory ∧ content = content' :=
        (isKept_run_iff hplaced hfound hfinds.unreadable).mp (hkept v hv content hfinds)
      refine ⟨fun v hv content hfinds => ?_, fun v hv u hu content content' hfinds hfound => ?_⟩
      · rcases List.mem_append.mp hv with hv | hv
        · exact hfree v hv content hfinds
        · obtain rfl := List.mem_singleton.mp hv
          exact (hlast hw hfinds hfinds).1
      · rcases List.mem_append.mp hu with hearlier | hnow
        · rcases List.mem_append.mp hv with hearlier' | hnow
          · exact hone v hearlier' u hearlier content content' hfinds hfound
          · obtain rfl := List.mem_singleton.mp hnow
            exact (hlast (List.mem_append_left _ hearlier) hfound hfinds).2.symm
        · obtain rfl := List.mem_singleton.mp hnow
          exact (hlast hv hfinds hfound).2
    · rintro ⟨hfree, hone⟩
      refine ⟨⟨fun v hv => hfree v (List.mem_append_left _ hv), fun v hv u hu =>
        hone v (List.mem_append_left _ hv) u (List.mem_append_left _ hu)⟩, fun v hv content hfinds => .inr ?_⟩
      exact (History.next hbefore hleaves hplaced).backup hfree hone hv hfinds

/-! The catalog is damaged, set aside, and damaged again in another way. -/

namespace Sample

/-- A workspace with a catalog, an empty sink, and what else there is. -/
def damaged (catalog : Bytes) (others : Disk) : Workspace where
  disk := ([".next"], .directory) :: (catalogPlace, .file catalog) :: ([".text-extraction.tmp"], .file []) :: others
  directory := ⟨"/", []⟩
  events := []

/-- The catalog when it was damaged first, and no other file. -/
def damagedOnce : Workspace := damaged (CatalogStore.bytesOf "\x7b") []

/-- The catalog when it was damaged again, and the one that was set aside. -/
def damagedTwice : Workspace :=
  damaged (CatalogStore.bytesOf "[") [([".next", "extracted-strings.json.corrupt"], .file (CatalogStore.bytesOf "\x7b"))]

def isUnreadable (content : Bytes) : Bool :=
  match Catalog.ofBytes .usual content with
  | .error (.json (.fault _)) => true
  | _ => false

/-- A catalog that cannot be read is found where there is a sink. -/
theorem finds_damaged {text : String} (others : Disk)
    (h : isUnreadable (CatalogStore.bytesOf text) = true) :
    consolidation.Finds (damaged (CatalogStore.bytesOf text) others) (CatalogStore.bytesOf text) where
  sink := rfl
  catalog := rfl
  unreadable := by
    rw [isUnreadable] at h
    split at h
    · rename_i fault hbytes
      exact ⟨_, hbytes, nofun⟩
    · exact absurd h (by simp)

theorem finds_damagedOnce : consolidation.Finds damagedOnce (CatalogStore.bytesOf "\x7b") :=
  finds_damaged [] (by decide +kernel)

theorem finds_damagedTwice : consolidation.Finds damagedTwice (CatalogStore.bytesOf "[") :=
  finds_damaged _ (by decide +kernel)

theorem isPlaced_damagedOnce : consolidation.IsPlaced damagedOnce :=
  isPlaced_ofProject rfl rfl rfl ⟨"/", []⟩ (Disk.isTree_of_mem (by decide))

theorem isPlaced_damagedTwice : consolidation.IsPlaced damagedTwice :=
  isPlaced_ofProject rfl rfl rfl ⟨"/", []⟩ (Disk.isTree_of_mem (by decide))

/-- The first consolidation sets the catalog aside as the second finds it. -/
theorem leavesBackup_damaged : LeavesBackup consolidation (consolidation.run damagedOnce).2 damagedTwice where
  directory := (changesOnly_run consolidation damagedOnce).directory.symm
  backup := by
    intro content hat
    have haside := (at?_run_of_finds isPlaced_damagedOnce finds_damagedOnce).2
    rw [if_neg (by decide)] at haside
    rw [asidePlace_of_directory (changesOnly_run consolidation damagedOnce).directory, haside] at hat
    rw [← hat]
    rfl

theorem history_damaged : ∃ last, History consolidation [damagedOnce, damagedTwice] last :=
  ⟨_, .next (.next (.start damagedOnce) ⟨rfl, fun _ hat => hat⟩ isPlaced_damagedOnce) leavesBackup_damaged
    isPlaced_damagedTwice⟩

end Sample

open Sample in
theorem not_keepsUnreadable_of_second_damage : ¬ consolidation.KeepsUnreadable [damagedOnce, damagedTwice] := by
  obtain ⟨last, hhistory⟩ := history_damaged
  intro hkeeps
  have hone := ((keepsUnreadable_iff hhistory).mp hkeeps).2
  have hsame := hone damagedOnce (by simp) damagedTwice (by simp) _ _ finds_damagedOnce finds_damagedTwice
  exact absurd hsame (by decide)

end Phrasebook.Consolidation
