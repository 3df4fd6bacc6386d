import Mathlib.Data.List.Induction
import Phrasebook.Proofs.Lookups

/-!
# What lookups see while files change

A resolver on a store is used now and then, and between its uses the files change in any way: a catalog is written,
replaced, damaged or removed. What a lookup sees depends on one moment of the past alone: the first lookup, of those
since the last reload, that found a file where the catalog belongs. A file that is nested too deep is found by no lookup:
as long as none has been seen since the last reload, whoever looks then meets a failure.

Results:
1. `catalog_spec`: what one look at a store does to a resolver; `showsFile`: what it finds in a file.
2. `held_step` and `held_run`: what a resolver holds after one use, and after any number of uses.
3. `answers_after`: what lookups answer after any number of uses.
-/

namespace Phrasebook.Resolver

/-! ## 1. One look -/

variable {store : CatalogStore}

/-- What a look at a store finds, if there is a file: the catalog in it, the empty one if it cannot be read, and a failure
if it is nested too deep. -/
def sight (store : CatalogStore) (w : Workspace) : Option (Except Failure Catalog) :=
  if store.isThere w then
    some (match store.load w with
      | .ok loaded => .ok loaded.catalog
      | .error .nesting => .error .nesting
      | .error _ => .ok [])
  else none

/-- The catalog that a look finds and keeps. -/
def kept (found : Option (Except Failure Catalog)) : Option Catalog := found.bind Except.toOption

/-- What a look sees: the catalog that is held, else what is found, and the empty one if there is no file. -/
def look (held : Option Catalog) (found : Option (Except Failure Catalog)) : Except Failure Catalog :=
  match held with
  | some c => .ok c
  | none => found.getD (.ok [])

theorem sight_congr {w w' : Workspace} (hdisk : w'.disk = w.disk) (hdirectory : w'.directory = w.directory)
    (hroom : w'.room = w.room) : sight store w' = sight store w := by
  have hthere : store.isThere w' = store.isThere w := by
    rw [CatalogStore.isThere, CatalogStore.isThere, Workspace.isFile, Workspace.isFile,
      Workspace.absolute_of_directory hdirectory, hdisk]
  rw [sight, sight, hthere, CatalogStore.load_congr hdisk hdirectory hroom]

/-- A look sees the catalog that is held, else the one in the file, which is held from then on. -/
theorem catalog_spec (store : CatalogStore) (held : Option Catalog) (w : Workspace) :
    (catalog ⟨some store, held⟩ w).1 = look held (sight store w) ∧
      (catalog ⟨some store, held⟩ w).2.1 = ⟨some store, held.or (kept (sight store w))⟩ := by
  rw [catalog, sight]
  cases held with
  | some c => exact ⟨rfl, rfl⟩
  | none =>
    dsimp only
    by_cases hthere : store.isThere w = true
    · rw [if_pos hthere, if_pos hthere]
      cases store.load w with
      | ok loaded => exact ⟨rfl, rfl⟩
      | error failure => cases failure <;> exact ⟨rfl, rfl⟩
    · rw [if_neg hthere, if_neg hthere]
      exact ⟨rfl, rfl⟩

/-- A lookup answers from the catalog that it sees. -/
theorem lookup_spec (r : Resolver) (w : Workspace) (key : String) :
    (r.lookup w key).1 = (match (r.catalog w).1 with
      | .ok c => (match c.get? key with | some entry => .ok entry | none => .error (.missingKey key))
      | .error failure => .error failure) ∧ (r.lookup w key).2.1 = (r.catalog w).2.1 := by
  rw [lookup]
  obtain ⟨seen, r', w'⟩ := r.catalog w
  cases seen with
  | error failure => exact ⟨rfl, rfl⟩
  | ok c => cases hget : c.get? key <;> simp [hget]

/-- An entry shows itself, and a missing one its placeholder; only the failure of a look itself goes on. -/
theorem resolve_spec (r : Resolver) (w : Workspace) (current : Locale) (key : String) (asked : Option String)
    (h : (r.catalog w).1 = .error .nesting ∨ ∃ c, (r.catalog w).1 = .ok c) :
    (r.resolve w current key asked).1 = ((r.catalog w).1.map fun c => match c.get? key with
      | some entry => shown entry (requested asked current)
      | none => Key.placeholder key) ∧ (r.resolve w current key asked).2.1 = (r.catalog w).2.1 := by
  rw [resolve, lookup]
  revert h
  obtain ⟨seen, r', w'⟩ := r.catalog w
  rintro (rfl | ⟨c, rfl⟩)
  · exact ⟨rfl, rfl⟩
  · cases hget : c.get? key <;> simp [hget, Except.map]

/-! ## 2. Many looks -/

/-- What a resolver is used for. -/
inductive Use where
  | reload
  | lookup (key : String)
  | resolve (current : Locale) (key : String) (asked : Option String)
  deriving DecidableEq, Repr

/-- A use of a resolver, with the files that are there at that moment and the room for reading them. -/
structure UseAt where
  disk : Disk
  directory : Path
  room : Json.Room
  use : Use
  deriving Repr

namespace UseAt

def isReload (u : UseAt) : Bool := u.use == .reload

/-- A workspace with the files of a moment in place of its own. -/
def files (u : UseAt) (w : Workspace) : Workspace :=
  { w with disk := u.disk, directory := u.directory, room := u.room }

def alone (u : UseAt) : Workspace := ⟨u.disk, u.directory, [], u.room⟩

end UseAt

/-- One use of a resolver: the files are what they are at that moment, whatever they were before. -/
def step (s : Resolver × Workspace) (u : UseAt) : Resolver × Workspace :=
  match u.use with
  | .reload => (s.1.reload, u.files s.2)
  | .lookup key => (s.1.lookup (u.files s.2) key).2
  | .resolve current key asked => (s.1.resolve (u.files s.2) current key asked).2

/-- Any number of uses, one after the other. -/
def run (s : Resolver × Workspace) (past : List UseAt) : Resolver × Workspace := past.foldl step s

/-- The uses since the last reload; all of them, if there was none. -/
def sinceReload (past : List UseAt) : List UseAt := (past.reverse.takeWhile fun u => !u.isReload).reverse

/-- The catalog of the first of some uses at which there was a file with one. -/
def firstSight (store : CatalogStore) (uses : List UseAt) : Option Catalog :=
  uses.findSome? fun u => kept (sight store u.alone)

theorem sight_files (u : UseAt) (w : Workspace) : sight store (u.files w) = sight store u.alone :=
  sight_congr rfl rfl rfl

theorem firstSight_cons (u : UseAt) (uses : List UseAt) :
    firstSight store (u :: uses) = (kept (sight store u.alone)).or (firstSight store uses) := by
  rw [firstSight, List.findSome?_cons, firstSight]
  cases kept (sight store u.alone) <;> rfl

theorem firstSight_concat (uses : List UseAt) (u : UseAt) :
    firstSight store (uses ++ [u]) = (firstSight store uses).or (kept (sight store u.alone)) := by
  rw [firstSight, List.findSome?_append, List.findSome?_singleton, firstSight]

theorem sinceReload_concat (past : List UseAt) (u : UseAt) :
    sinceReload (past ++ [u]) = if u.isReload then [] else sinceReload past ++ [u] := by
  rw [sinceReload, List.reverse_append, List.reverse_singleton, List.singleton_append, List.takeWhile_cons, sinceReload]
  cases u.isReload with
  | true => rfl
  | false => simp

/-- Whatever a look finds, it sees a catalog or fails for want of room. -/
theorem look_cases (store : CatalogStore) (held : Option Catalog) (w : Workspace) :
    look held (sight store w) = .error .nesting ∨ ∃ c, look held (sight store w) = .ok c := by
  cases held with
  | some c => exact .inr ⟨c, rfl⟩
  | none =>
    rw [look, sight]
    split
    · split
      · exact .inr ⟨_, rfl⟩
      · exact .inl rfl
      · exact .inr ⟨_, rfl⟩
    · exact .inr ⟨_, rfl⟩

/-- After one use a resolver holds what it held, else what it has seen; after a reload it holds nothing. -/
theorem held_step (held : Option Catalog) (w : Workspace) (u : UseAt) :
    (step (⟨some store, held⟩, w) u).1 =
      ⟨some store, if u.isReload then none else held.or (kept (sight store u.alone))⟩ := by
  obtain ⟨hseen, hlook⟩ := catalog_spec store held (u.files w)
  rw [sight_files] at hlook
  obtain ⟨disk, directory, room, use⟩ := u
  cases use with
  | reload => rfl
  | lookup key => exact (lookup_spec _ _ key).2.trans hlook
  | resolve current key asked =>
    exact (resolve_spec _ _ current key asked (hseen ▸ look_cases store held _)).2.trans hlook

/-- After any number of uses a resolver holds the catalog that the first lookup since the last reload has seen. -/
theorem held_run (store : CatalogStore) (w : Workspace) (past : List UseAt) :
    (run (ofStore store, w) past).1 = ⟨some store, firstSight store (sinceReload past)⟩ := by
  induction past using List.reverseRecOn with
  | nil => rfl
  | append_singleton past u ih =>
    rw [run, List.foldl_append, ← run]
    show (step (run (ofStore store, w) past) u).1 = _
    rw [← Prod.eta (run (ofStore store, w) past), ih, held_step, sinceReload_concat]
    cases u.isReload with
    | true => rfl
    | false => exact congrArg (Resolver.mk (some store)) (firstSight_concat _ u).symm

/-! ## 3. Answers -/

/-- What an entry shows: the first of its translations into the locale and into the default one that is not empty, else
its text. -/
theorem shown_eq (entry : Record) (locale : String) :
    shown entry locale =
      ([entry.translation locale, entry.translation Locale.fallback.code].find? (· ≠ "")).getD entry.text := by
  rw [shown]
  dsimp only
  by_cases hlocale : entry.translation locale = ""
  · by_cases hdefault : entry.translation Locale.fallback.code = ""
    · simp [hlocale, hdefault]
    · simp [hlocale, hdefault]
  · simp [hlocale]

/-- The locale of a lookup is the one asked for; an empty one asks for none. -/
theorem requested_eq (asked : Option String) (current : Locale) :
    requested asked current = (asked.filter (· ≠ "")).getD current.code := by
  cases asked with
  | none => rfl
  | some locale =>
    by_cases hempty : locale = ""
    · simp [requested, hempty, Option.filter_some]
    · simp [requested, hempty, Option.filter_some]

theorem placeholder_eq (key : String) :
    Key.placeholder key = "[" ++ String.ofList (key.toList.take 8) ++ "]" := by
  refine String.toList_inj.mp ?_
  simp [Key.placeholder, Key.placeholderLength]

/-- What a look finds in the files of a moment: nothing if there is no file, a catalog in the file that was written for
it, the empty one in a file that cannot be read, and a failure in one that is nested too deep. -/
structure ShowsFile (store : CatalogStore) (u : UseAt) : Prop where
  absent : u.alone.isFile store.file = false → sight store u.alone = none
  written : ∀ (c : Catalog) (sorted : Bool), c.IsSound →
    u.alone.read store.file = .ok (CatalogStore.bytesOf (c.fileText sorted)) →
      ∃ seen, sight store u.alone = some (.ok seen) ∧ ∀ key, seen.get? key = c.get? key
  unreadable : ∀ bytes complaint, u.alone.read store.file = .ok bytes →
    Catalog.ofBytes u.room bytes = .error complaint → complaint ≠ .json (.excess .nesting) →
      sight store u.alone = some (.ok [])
  tooDeep : ∀ bytes, u.alone.read store.file = .ok bytes →
    Catalog.ofBytes u.room bytes = .error (.json (.excess .nesting)) → sight store u.alone = some (.error .nesting)

theorem showsFile (store : CatalogStore) (u : UseAt) : ShowsFile store u := by
  have hthere {bytes : Bytes} (hread : u.alone.read store.file = .ok bytes) : store.isThere u.alone = true :=
    Workspace.isFile_of_read hread
  refine ⟨fun habsent => ?_, fun c sorted hc hread => ?_, fun bytes complaint hread hbytes hother => ?_,
    fun bytes hread hbytes => ?_⟩
  · rw [sight, CatalogStore.isThere, habsent]
    rfl
  · have hload := CatalogStore.load_of_read hread (Catalog.ofBytes_fileText u.alone.room sorted hc)
    refine ⟨c.arranged sorted, ?_, fun key => Catalog.get?_arranged hc sorted key⟩
    rw [sight, if_pos (hthere hread), hload]
  · have hload : store.load u.alone = .error (.storage store.file.toString complaint.message) := by
      rw [CatalogStore.load, if_pos (hthere hread), hread]
      have hbytes : Catalog.ofBytes u.alone.room bytes = .error complaint := hbytes
      simp only [hbytes]
    rw [sight, if_pos (hthere hread), hload]
  · have hload : store.load u.alone = .error .nesting := by
      rw [CatalogStore.load, if_pos (hthere hread), hread]
      have hbytes : Catalog.ofBytes u.alone.room bytes = .error (.json (.excess .nesting)) := hbytes
      simp only [hbytes]
    rw [sight, if_pos (hthere hread), hload]

/-- What a lookup sees after some uses: the catalog of the first use since the last reload at which there was a file with
one, counting the lookup itself, and the empty one if there never was a file; but if there is none so far and the file
that is there now is nested too deep, a failure. -/
def seen (store : CatalogStore) (past : List UseAt) (now : UseAt) : Except Failure Catalog :=
  look (firstSight store (sinceReload past)) (sight store now.alone)

/-- A lookup fails in a way that nobody foresaw just if no catalog was seen since the last reload and the file that is
there is nested too deep. -/
theorem seen_eq_error_iff (store : CatalogStore) (past : List UseAt) (now : UseAt) (failure : Failure) :
    seen store past now = .error failure ↔
      failure = .nesting ∧ firstSight store (sinceReload past) = none ∧ store.isTooDeep now.alone = true := by
  rw [seen]
  cases firstSight store (sinceReload past) with
  | some c => simp [look]
  | none =>
    rw [CatalogStore.isTooDeep_eq_true_iff]
    by_cases hthere : store.isThere now.alone = true
    · rw [look, sight, if_pos hthere]
      cases store.load now.alone with
      | ok loaded => simp
      | error other => cases other <;> simp [eq_comm]
    · have hload : store.load now.alone = .ok ⟨[], []⟩ := CatalogStore.load_of_not_isFile (Bool.not_eq_true _ ▸ hthere)
      rw [look, sight, if_neg hthere, hload]
      simp

/-- After any uses of a resolver, while the files changed in any way, lookups answer from what is seen. An entry shows
its translation into the locale asked for, the current one if none is asked for; or else its translation into the
default locale; or else its text. A key without an entry shows its first characters. Whoever looks meets a failure just
if nothing was seen since the last reload and the file is nested too deep. -/
theorem answers_after (store : CatalogStore) (w : Workspace) (past : List UseAt) (now : UseAt) (current : Locale)
    (key : String) (asked : Option String) :
    let s := run (ofStore store, w) past
    let locale := (asked.filter (· ≠ "")).getD current.code
    (s.1.lookup (now.files s.2) key).1 = (match seen store past now with
      | .ok c => (match c.get? key with | some entry => .ok entry | none => .error (.missingKey key))
      | .error failure => .error failure) ∧
    (s.1.resolve (now.files s.2) current key asked).1 = ((seen store past now).map fun c => match c.get? key with
      | some entry => ([entry.translation locale, entry.translation "en"].find? (· ≠ "")).getD entry.text
      | none => "[" ++ String.ofList (key.toList.take 8) ++ "]") ∧
    (∀ failure, seen store past now = .error failure ↔
      failure = .nesting ∧ firstSight store (sinceReload past) = none ∧ store.isTooDeep now.alone = true) ∧
    ∀ u, ShowsFile store u := by
  intro s locale
  have hlook : (s.1.catalog (now.files s.2)).1 = seen store past now := by
    have hheld : s.1 = ⟨some store, firstSight store (sinceReload past)⟩ := held_run store w past
    rw [hheld, (catalog_spec store _ _).1, sight_files]
    rfl
  refine ⟨?_, ?_, seen_eq_error_iff store past now, showsFile store⟩
  · rw [(lookup_spec s.1 _ key).1, hlook]
  · rw [(resolve_spec s.1 _ current key asked (hlook ▸ look_cases store _ _)).1, hlook]
    refine congrArg (Except.map · (seen store past now)) (funext fun c => ?_)
    cases c.get? key with
    | some entry =>
      have hlocale : requested asked current = locale := requested_eq asked current
      dsimp only
      rw [hlocale]
      exact shown_eq entry locale
    | none => exact placeholder_eq key

/-! A catalog is written after the first lookup and removed after the second one, which shows in the third one but for a
reload. Another one is nested too deep. -/

namespace Sample

/-- The store of a project at the root. -/
def project : CatalogStore := CatalogStore.ofProject Settings.standard ⟨"/", []⟩

def entry : Record := Record.make "Hi" "k" [] ⟨"a.jsx", "A", "p"⟩ none

/-- A use of a resolver, with some content in the file of the catalog. -/
def useWith (content : Bytes) (use : Use) : UseAt where
  disk := [([".next"], .directory), ([".next", "extracted-strings.json"], .file content)]
  directory := ⟨"/", []⟩
  room := ⟨3, Nat.le_refl 3⟩
  use := use

/-- A use of a resolver without a catalog. -/
def useWithout (use : Use) : UseAt := ⟨[], ⟨"/", []⟩, ⟨3, Nat.le_refl 3⟩, use⟩

/-- The content of a catalog with one entry. -/
def written : Bytes := CatalogStore.bytesOf (Catalog.fileText project.sorted [("k", entry)])

def brackets : Bytes := CatalogStore.bytesOf "[[[["

def ask : Use := .resolve .ru "k" none

/-- What is there before the first lookup does not matter: every use brings its own files. -/
def start : Workspace := ⟨[], ⟨"/", []⟩, [], .usual⟩

theorem read_useWith (content : Bytes) (use : Use) : (useWith content use).alone.read project.file = .ok content :=
  Disk.read_eq_ok_iff.mpr ⟨rfl, rfl⟩

theorem sight_useWithout (use : Use) : sight project (useWithout use).alone = none := rfl

theorem isSound_entry : Catalog.IsSound [("k", entry)] where
  nodup := List.nodup_singleton _
  canonical := by
    intro e he
    rw [List.mem_singleton.mp he]
    exact Record.make_isCanonical _ (by decide) (by decide) _ _

theorem sight_written (use : Use) : sight project (useWith written use).alone = some (.ok [("k", entry)]) := by
  have hread := read_useWith written use
  rw [sight, CatalogStore.load_of_read_fileText isSound_entry hread, CatalogStore.isThere,
    if_pos (Workspace.isFile_of_read hread)]
  exact congrArg (fun c => some (Except.ok c)) (List.mergeSort_singleton _)

/-- What is seen when the catalog was removed: the one that was there before, until the next reload. -/
theorem seen_removed :
    seen project [useWithout ask, useWith written ask] (useWithout ask) = .ok [("k", entry)] ∧
      seen project [useWithout ask, useWith written ask, useWithout .reload] (useWithout ask) = .ok [] := by
  have hlooks : sinceReload [useWithout ask, useWith written ask] = [useWithout ask, useWith written ask] := rfl
  have hreload : sinceReload [useWithout ask, useWith written ask, useWithout .reload] = [] := rfl
  refine ⟨?_, ?_⟩
  · rw [seen, hlooks, firstSight_cons, firstSight_cons, sight_useWithout, sight_written]
    rfl
  · rw [seen, hreload, sight_useWithout]
    rfl

theorem isTooDeep_brackets : project.isTooDeep (useWith brackets ask).alone = true := by decide +kernel

end Sample

open Sample in
/-- The text of a file that was removed is shown until the next reload, and a file of brackets then makes lookups fail. -/
theorem answers_after_removal :
    let s := run (ofStore project, start) [useWithout ask, useWith written ask]
    let s' := run (ofStore project, start) [useWithout ask, useWith written ask, useWithout .reload]
    (s.1.resolve ((useWithout ask).files s.2) .ru "k" none).1 = .ok "Hi" ∧
      (s'.1.resolve ((useWithout ask).files s'.2) .ru "k" none).1 = .ok "[k]" ∧
      (s'.1.resolve ((useWith brackets ask).files s'.2) .ru "k" none).1 = .error .nesting := by
  refine ⟨?_, ?_, ?_⟩
  · rw [(answers_after project start _ (useWithout ask) .ru "k" none).2.1, seen_removed.1]
    exact congrArg Except.ok (by decide)
  · rw [(answers_after project start _ (useWithout ask) .ru "k" none).2.1, seen_removed.2]
    exact congrArg Except.ok (by decide)
  · obtain ⟨-, hanswer, hfails, -⟩ := answers_after project start
      [useWithout ask, useWith written ask, useWithout .reload] (useWith brackets ask) .ru "k" none
    rw [hanswer, (hfails .nesting).mpr ⟨rfl, rfl, isTooDeep_brackets⟩]
    rfl

end Phrasebook.Resolver
