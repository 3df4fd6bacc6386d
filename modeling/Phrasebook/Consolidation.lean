import Phrasebook.Catalog.Store
import Phrasebook.Sink

/-!
# Consolidation

After a build the records in the sink are merged into the published catalog, and the sink is removed. A catalog that
cannot be read is set aside under another name; one that is nested too deep stays where it is, and nothing is merged.
Whatever goes wrong, nothing is raised and the sink stays.
-/

namespace Phrasebook

/-- What a consolidation works on. -/
structure Consolidation where
  sink : Path
  store : CatalogStore
  prune : Bool
  deriving Repr

namespace Consolidation

def ofProject (settings : Settings) (root : Path) : Consolidation :=
  ⟨settings.sinkPath root, CatalogStore.ofProject settings root, settings.pruneStale⟩

/-- What a catalog that cannot be read is called from then on. -/
def setAsideName (file : Path) : Path := file.withName (file.name ++ ".corrupt")

/-- The earlier catalog; one that cannot be read is set aside, and the empty one takes its place. -/
def prior (c : Consolidation) (w : Workspace) : Catalog.Loaded × Workspace :=
  match c.store.load w with
  | .ok loaded => (loaded, w)
  | .error failure =>
    let backup := setAsideName c.store.file
    let (w, name) :=
      match w.onDisk fun disk => disk.rename (w.absolute c.store.file) (w.absolute backup) with
      | .ok w' => (w', Json.string backup.toString)
      | .error _ => (w, Json.null)
    (⟨[], []⟩,
      w.log (.warning "Cannot read prior catalog, starting empty" (("backup", name) :: failure.details)))

/-- Whether damage to an earlier catalog is still there after a merge: what comes from records is whole, translations
are kept, and so is all of a stale entry but what is made from its text. -/
def survives (records : List Record) (merged : Catalog) (d : Catalog.Damage) : Bool :=
  (merged.get? d.key).isSome &&
    match d.part with
    | .translation locale =>
      if (records.map (·.key)).contains d.key then !Locale.isGenerated locale else locale != Locale.pseudo.code
    | _ => !(records.map (·.key)).contains d.key

/-- The event of a catalog that was published. -/
def published (r : Report) (file : Path) : Event :=
  .info "Consolidated extracted strings"
    [("strings", .integer r.strings), ("preserved", .integer r.preserved), ("dropped", .integer r.dropped),
      ("stale", .integer r.stale), ("skipped_lines", .integer r.skippedLines), ("catalog", .string file.toString)]

def failed (sink : Path) : Event := .unforeseen "Catalog consolidation failed" [("sink", .string sink.toString)]

/-- Publishes a merged catalog and removes the sink. -/
def publish (c : Consolidation) (w : Workspace) (merged : Catalog) (report : Report) : Report × Workspace :=
  match c.store.save w merged with
  | (w, some failure) =>
    ({ report with ran := false },
      w.log (.warning "Cannot write catalog, sink kept for the next run" failure.details))
  | (w, none) =>
    match Sink.clear w c.sink with
    | .ok w => (report, w.log (published report c.store.file))
    | .error _ => (.idle, w.log (failed c.sink))

/-- Merges the records of a log into the earlier catalog and publishes the result. -/
def mergeLog (c : Consolidation) (w : Workspace) (log : Record.Log) : Report × Workspace :=
  let w := w.logAll (log.failures.map fun f => .warning "Skipping corrupt sink line" f.details)
  if c.store.isTooDeep w then (.idle, w.log (failed c.sink))
  else
    let (loaded, w) := c.prior w
    let merged := Merge.catalog log.records loaded.catalog c.prune
    let report :=
      { Merge.report log.records loaded.catalog c.prune with skippedLines := log.failures.length }
    if loaded.damage.any (survives log.records merged) then (.idle, w.log (failed c.sink))
    else c.publish w merged report

def run (c : Consolidation) (w : Workspace) : Report × Workspace :=
  if w.isFile c.sink then
    match Sink.read w c.sink with
    | .ok log => c.mergeLog w log
    | .error failure =>
      (.idle, w.log (.warning "Cannot read extraction sink, catalog left unchanged" failure.details))
  else
    (.idle,
      w.log (.warning "No extraction sink found, catalog left unchanged" [("sink", .string c.sink.toString)]))

end Consolidation
end Phrasebook
