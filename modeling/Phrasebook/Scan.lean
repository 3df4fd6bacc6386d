import Phrasebook.Project
import Phrasebook.Rewrite
import Phrasebook.Sink

/-!
# Scanning a file

A file is rewritten and its records are appended to the sink. Whatever goes wrong, the source is handed back as it was
and the reason is told; only a working directory that is gone is told to nobody but the caller.
-/

namespace Phrasebook

/-- Why a scan left a file alone. -/
inductive Skip where
  | ineligible (reason : Project.Ineligible)
  | outside
  | unreadable
  | failed
  deriving DecidableEq, Repr

def Skip.message : Skip → String
  | ineligible reason => reason.message
  | outside => "outside source tree"
  | unreadable => "parse failure"
  | failed => "error"

/-- What a scan of a file gives. -/
structure Scan where
  code : String
  records : List Record
  skipped : Option Skip
  deriving Repr

namespace Scan

def changed (s : Scan) : Bool := !s.records.isEmpty

def skip (source : String) (reason : Skip) : Scan := ⟨source, [], some reason⟩

/-- The root of the project that a file belongs to. -/
def projectRoot (w : Workspace) (settings : Settings) (path : Path) : Path :=
  match settings.projectRoot with
  | some root => w.absolute root
  | none => Project.findRoot w path

/-- The event of a file from which texts were extracted. -/
def extracted (file : String) (r : Rewritten) : Event :=
  .debug "Extracted strings"
    [("file", .string file), ("component", .string r.component), ("count", .integer r.records.length)]

def failedEvent (path : Path) : Event := .unforeseen "Text extraction failed" [("file", .string path.toString)]

/-- How records are appended to a sink. -/
abbrev Appending := Workspace → Path → List Record → Sink.Ending

/-- Rewrites a source that goes by a name in records, and appends its records to a sink. -/
def store (append : Appending) (w : Workspace) (settings : Settings) (sink path : Path) (name source : String) :
    Scan × Workspace :=
  match Rewrite.rewrite settings name source with
  | .error (.unreadable failure) =>
    (skip source .unreadable,
      w.log (.warning "Skipping unparseable source"
        (("file", .string path.toString) :: failure.details.filter fun d => d.1 == "reason")))
  | .error _ => (skip source .failed, w.log (failedEvent path))
  | .ok r =>
    if r.records.isEmpty then (⟨r.code, [], none⟩, w)
    else
      let w := w.log (extracted name r)
      match append w sink r.records with
      | (w', none) => (⟨r.code, r.records, none⟩, w')
      | (w', some _) => (skip source .failed, w'.log (failedEvent path))

/-- Scans a file; its records go to the sink given, or to that of its project. -/
def runWith (append : Appending) (w : Workspace) (settings : Settings) (sink : Option Path) (resource : Path)
    (source : String) : Scan × Workspace :=
  let path := w.absolute resource
  match Project.ineligible? settings path with
  | some reason => (skip source (.ineligible reason), w)
  | none =>
    let root := projectRoot w settings path
    match Project.nameBelow path (Project.findWorkspaceRoot w root) with
    | none =>
      (skip source .outside,
        w.log (.debug "Skipping file outside source tree" [("file", .string path.toString)]))
    | some name => store append w settings (sink.getD (settings.sinkPath root)) path name source

/-- A scan where nothing but the disk itself can fail: all that it writes is taken, the working directory is there, and
no package file is nested too deep. -/
def run (w : Workspace) (settings : Settings) (sink : Option Path) (resource : Path) (source : String) :
    Scan × Workspace :=
  runWith Sink.appendWhole w settings sink resource source

/-- Whether the search for the root of the project that a file belongs to, and of the workspace around it, fails. -/
def rootFails (w : Workspace) (settings : Settings) (path : Path) : Bool :=
  let isTold := match settings.projectRoot with
    | some root => root.isAbsolute || w.isHere
    | none => (Project.findRoot? w path).isSome || w.isHere
  !isTold || Project.breaksOff w (projectRoot w settings path)

/-- Scans a file wherever that may be, with a system that may stop writing after so many bytes. A working directory that
is gone fails a file that is named from there, before anything that would catch the failure. -/
def scan (limit : Option Nat) (w : Workspace) (settings : Settings) (sink : Option Path) (resource : Path)
    (source : String) : Except DiskError (Scan × Workspace) :=
  match w.absolute? resource with
  | .error e => .error e
  | .ok path =>
    if (Project.ineligible? settings path).isNone && rootFails w settings path then
      .ok (skip source .failed, w.log (failedEvent path))
    else .ok (runWith (Sink.appendUpTo limit) w settings sink resource source)

end Scan
end Phrasebook
