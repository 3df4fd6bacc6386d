import Phrasebook.Catalog.Basic

/-!
# Merging records into a catalog

The last record of a key tells its text and context. A translation that the earlier catalog holds is kept, else the last
one among the records counts. Keys without a record are dropped, or kept and marked as stale.
-/

namespace Phrasebook

/-- What a merge or a consolidation did. -/
structure Report where
  ran : Bool
  strings : Nat
  preserved : Nat
  dropped : Nat
  stale : Nat
  skippedLines : Nat
  deriving DecidableEq, Repr, Inhabited

namespace Report

/-- The report of a consolidation that did not run. -/
def idle : Report := ⟨false, 0, 0, 0, 0, 0⟩

end Report

namespace Merge

/-- The last record of every key, in the order in which the keys first come. -/
def latest (records : List Record) : Entries String Record :=
  Entries.ofList (records.map fun r => (r.key, r))

/-- The translations that are not made by the program and not empty. -/
def authored (translations : Entries String String) : List (String × String) :=
  translations.filter fun slot => !Locale.isGenerated slot.1 && slot.2 != ""

/-- The authored translations among the records of a key; of each locale the last counts. -/
def gathered (records : List Record) (key : String) : Entries String String :=
  Entries.ofList ((records.filter (·.key == key)).flatMap fun r => authored r.translations)

/-- The authored translations of a key in the earlier catalog. -/
def kept (prior : Catalog) (key : String) : List (String × String) :=
  match prior.get? key with
  | some r => authored r.translations
  | none => []

/-- The entry of a key with records: the last record, with the translations gathered and those kept. -/
def freshEntry (records : List Record) (prior : Catalog) (key : String) (last : Record) : Record :=
  let made : Entries String String :=
    [(Locale.en.code, last.text), (Locale.pseudo.code, Pseudo.render last.text)] ++
      Locale.human.map fun l => (l.code, "")
  Record.make last.text key ((made.putAll (gathered records key)).putAll (kept prior key)) last.context none

/-- The entry of a key without records that is kept. -/
def staleEntry (r : Record) : Record :=
  { r with translations := r.translations.put Locale.pseudo.code (Pseudo.render r.text), stale := some true }

def fresh (records : List Record) (prior : Catalog) : Catalog :=
  (latest records).map fun entry => (entry.1, freshEntry records prior entry.1 entry.2)

/-- The entries of the earlier catalog whose keys have no record. -/
def missing (records : List Record) (prior : Catalog) : Catalog :=
  prior.filter fun entry => !(records.map (·.key)).contains entry.1

def catalog (records : List Record) (prior : Catalog) (prune : Bool) : Catalog :=
  fresh records prior ++
    if prune then [] else (missing records prior).map fun entry => (entry.1, staleEntry entry.2)

def report (records : List Record) (prior : Catalog) (prune : Bool) : Report where
  ran := true
  strings := (catalog records prior prune).length
  preserved := (latest records).countP fun entry => !(kept prior entry.1).isEmpty
  dropped := if prune then (missing records prior).length else 0
  stale := if prune then 0 else (missing records prior).length
  skippedLines := 0

end Merge
end Phrasebook
