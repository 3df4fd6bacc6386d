import Phrasebook.Catalog.File
import Phrasebook.Catalog.Merge
import Phrasebook.Settings.Basic
import Phrasebook.Workspace

/-!
# The catalog on disk

A store knows where the catalog and the lookup module are. Reading a catalog that is not there gives the empty one;
writing replaces each file at once. A catalog that is nested too deep fails in a way of its own, which those who can do
without a catalog do not foresee.
-/

namespace Phrasebook

/-- Where a catalog is kept, and how it is written. -/
structure CatalogStore where
  file : Path
  module : Option Path
  sorted : Bool
  deriving DecidableEq, Repr, Inhabited

namespace CatalogStore

def ofProject (settings : Settings) (root : Path) : CatalogStore :=
  ⟨settings.catalogFile root, some (settings.lookupModuleFile root), settings.sortCatalogKeys⟩

def isThere (store : CatalogStore) (w : Workspace) : Bool := w.isFile store.file

/-- The catalog as it is read; the empty one if there is none. -/
def load (store : CatalogStore) (w : Workspace) : Except Failure Catalog.Loaded :=
  if store.isThere w then
    match w.read store.file with
    | .error e => .error (.storage store.file.toString e.message)
    | .ok bytes =>
      match Catalog.ofBytes w.room bytes with
      | .ok loaded => .ok loaded
      | .error (.json (.excess .nesting)) => .error .nesting
      | .error complaint => .error (.storage store.file.toString complaint.message)
  else .ok ⟨[], []⟩

/-- Whether the catalog is nested too deep to be read. -/
def isTooDeep (store : CatalogStore) (w : Workspace) : Bool :=
  match store.load w with
  | .error .nesting => true
  | _ => false

def bytesOf (text : String) : Bytes := Text.Utf8.encode text.toList

/-- Writes the catalog, then the lookup module. If the second fails the first has been written: the workspace answered
is the one that is left in either case. -/
def save (store : CatalogStore) (w : Workspace) (c : Catalog) : Workspace × Option Failure :=
  match w.disk.replace (w.absolute store.file) (bytesOf (c.fileText store.sorted)) with
  | .error e => (w, some (.storage store.file.toString e.message))
  | .ok disk =>
    let w := { w with disk }
    match store.module with
    | none => (w, none)
    | some path =>
      match w.disk.replace (w.absolute path) (bytesOf (c.moduleText store.sorted)) with
      | .error e => (w, some (.storage store.file.toString e.message))
      | .ok disk => ({ w with disk }, none)

end CatalogStore
end Phrasebook
