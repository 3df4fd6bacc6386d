import Phrasebook.Catalog.Store

/-!
# Lookups

A resolver answers lookups from one catalog: one in memory, or one on disk that is read on first use and kept. A text is
shown in the locale asked for, else in the default locale, else as it was written; an unknown key shows its first
characters.
-/

namespace Phrasebook

/-- Answers lookups: where its catalog is, if it is on disk, and the catalog it holds. -/
structure Resolver where
  store : Option CatalogStore
  held : Option Catalog
  deriving Repr, Inhabited

namespace Resolver

def ofCatalog (c : Catalog) : Resolver := ⟨none, some c⟩

def ofStore (store : CatalogStore) : Resolver := ⟨some store, none⟩

/-- A resolver on the catalog of a project: of the root that its settings name, else of the working directory. -/
def ofProject (settings : Settings) (w : Workspace) : Resolver :=
  ofStore (CatalogStore.ofProject settings (settings.projectRoot.getD w.directory))

def empty : Resolver := ⟨none, none⟩

/-- The catalog that a lookup sees. One on disk is read once it is there, and kept from then on, empty if it cannot be
read. One that is nested too deep is neither kept nor taken for empty: the failure goes on to whoever looks. -/
def catalog (r : Resolver) (w : Workspace) : Except Failure Catalog × Resolver × Workspace :=
  match r.held, r.store with
  | some c, _ => (.ok c, r, w)
  | none, none => (.ok [], r, w)
  | none, some store =>
    if store.isThere w then
      match store.load w with
      | .ok loaded => (.ok loaded.catalog, { r with held := some loaded.catalog }, w)
      | .error .nesting => (.error .nesting, r, w)
      | .error failure =>
        (.ok [], { r with held := some [] },
          w.log (.warning "Cannot load catalog, lookups will use placeholders" failure.details))
    else (.ok [], r, w)

/-- Forgets a catalog that was read from disk. -/
def reload (r : Resolver) : Resolver := if r.store.isSome then { r with held := none } else r

def lookup (r : Resolver) (w : Workspace) (key : String) : Except Failure Record × Resolver × Workspace :=
  match r.catalog w with
  | (.ok c, r, w) =>
    match c.get? key with
    | some entry => (.ok entry, r, w)
    | none => (.error (.missingKey key), r, w)
  | (.error failure, r, w) => (.error failure, r, w)

/-- What an entry shows in a locale: its translation, else the default one, else its text. -/
def shown (entry : Record) (locale : String) : String :=
  let translation := entry.translation locale
  if translation != "" then translation
  else
    let default := entry.translation Locale.fallback.code
    if default != "" then default else entry.text

/-- The locale of a lookup: the one asked for, unless it is empty, else the current one. -/
def requested (asked : Option String) (current : Locale) : String :=
  match asked with
  | some locale => if locale != "" then locale else current.code
  | none => current.code

/-- What is shown for a key; of the failures only that of a missing key is caught. -/
def resolve (r : Resolver) (w : Workspace) (current : Locale) (key : String) (asked : Option String) :
    Except Failure String × Resolver × Workspace :=
  match r.lookup w key with
  | (.ok entry, r, w) => (.ok (shown entry (requested asked current)), r, w)
  | (.error (.missingKey _), r, w) =>
    (.ok (Key.placeholder key), r, w.log (.debug "String not found" [("key", .string key)]))
  | (.error failure, r, w) => (.error failure, r, w)

end Resolver
end Phrasebook
