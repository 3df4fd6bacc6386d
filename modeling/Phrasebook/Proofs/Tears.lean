import Phrasebook.Proofs.Sinks
import Phrasebook.Proofs.TornLines

/-!
# Sinks with a torn end

An append that breaks off leaves a line without its end. Reading such a sink finds all whole lines, and the last one if
nothing but its end is missing. Appending to it does not look at how the file ends: the first record of what is appended
goes onto the cut line, and is lost with it.

Results:
1. `read_built`: what is read from a sink that appends, foreign lines and a torn append have left.
2. `keepsAllButTorn_iff`: after later appends a torn sink has lost more than the torn record just where a line was cut and
   a record was appended; it is the first of them that is lost.
-/

namespace Phrasebook.Sink

open Record (Line linesBytes endedBytes written cut? stump cutLine lastLine faultyNumbers)

/-! ## 1. What a sink is built from -/

/-- What puts whole lines into a sink: an append, or something else that writes a line of its own. -/
inductive Deposit where
  | batch (records : List Record)
  | foreign (bytes : Bytes)

namespace Deposit

def lines : Deposit → List Line
  | batch records => records.map .record
  | foreign bytes => [.other bytes]

def records : Deposit → List Record
  | batch records => records
  | foreign _ => []

/-- The workspace with these lines in a sink. -/
def put (w : Workspace) (sink : Path) : Deposit → Except DiskError Workspace
  | batch records => append w sink records
  | foreign bytes => addBytes w sink (bytes ++ [Record.lineEnd])

end Deposit

/-- The workspace with the lines of several deposits in a sink. -/
def putAll (w : Workspace) (sink : Path) (deposits : List Deposit) : Except DiskError Workspace :=
  deposits.foldlM (fun w deposit => deposit.put w sink) w

/-- The sink holds some bytes; if it holds none it need not be there. -/
def Holds (w : Workspace) (sink : Path) (bytes : Bytes) : Prop :=
  w.disk.at? (w.placeOf sink) = none ∧ bytes = [] ∨ w.read sink = .ok bytes

namespace Holds

variable {w w' : Workspace} {sink : Path} {bytes : Bytes}

theorem bytesAt (h : Holds w sink bytes) : w.disk.bytesAt (w.placeOf sink) = bytes := by
  rcases h with ⟨hnone, rfl⟩ | hread
  · rw [Disk.bytesAt, hnone]
  · exact Disk.bytesAt_of_read hread

theorem addBytes (h : Holds w sink bytes) {more : Bytes} (hadd : addBytes w sink more = .ok w') :
    Holds w' sink (bytes ++ more) := by
  rw [← h.bytesAt]
  exact .inr (read_addBytes hadd)

theorem append (h : Holds w sink bytes) {records : List Record} (happend : append w sink records = .ok w') :
    Holds w' sink (bytes ++ linesBytes records) := by
  rw [Sink.append] at happend
  split at happend
  · rename_i hempty
    cases happend
    rw [List.isEmpty_iff.mp hempty]
    exact (List.append_nil bytes).symm ▸ h
  · exact h.addBytes happend

theorem appendTorn (h : Holds w sink bytes) {records : List Record} {n : Nat}
    (happend : appendTorn w sink records n = .ok w') : Holds w' sink (bytes ++ (linesBytes records).take n) := by
  rw [Sink.appendTorn] at happend
  split at happend
  · rename_i hempty
    cases happend
    rw [List.isEmpty_iff.mp hempty, linesBytes, List.flatMap_nil, List.take_nil, List.append_nil]
    exact h
  · exact h.addBytes happend

theorem put (h : Holds w sink bytes) {deposit : Deposit} (hput : deposit.put w sink = .ok w') :
    Holds w' sink (bytes ++ endedBytes deposit.lines) := by
  cases deposit with
  | batch records =>
    rw [Deposit.lines, Record.endedBytes_records]
    exact h.append hput
  | foreign bytes =>
    rw [Deposit.lines, endedBytes, List.flatMap_singleton]
    exact h.addBytes hput

theorem putAll (h : Holds w sink bytes) {deposits : List Deposit} (hput : putAll w sink deposits = .ok w') :
    Holds w' sink (bytes ++ endedBytes (deposits.flatMap Deposit.lines)) := by
  induction deposits generalizing w bytes with
  | nil =>
    cases hput
    exact (List.append_nil bytes).symm ▸ h
  | cons deposit deposits ih =>
    rw [Sink.putAll, List.foldlM_cons] at hput
    cases hone : deposit.put w sink with
    | error e =>
      rw [hone] at hput
      exact absurd hput (by simp [bind, Except.bind])
    | ok next =>
      rw [hone] at hput
      rw [List.flatMap_cons, Record.endedBytes_append, ← List.append_assoc]
      exact ih (h.put hone) hput

/-- A sink that is there is read. -/
theorem read (h : Holds w sink bytes) (hthere : w.holds sink = true) : w.read sink = .ok bytes := by
  rcases h with ⟨hnone, -⟩ | hread
  · rw [Workspace.holds, Disk.holds] at hthere
    cases hfind : w.disk.find (w.absolute sink) with
    | error e => rw [hfind] at hthere; exact absurd hthere (by simp [Except.isOk, Except.toBool])
    | ok item => exact absurd (hnone.symm.trans (Disk.find_eq_ok_iff.mp hfind).2) (by simp)
  · exact hread

end Holds

/-! ## 2. What is read from it -/

/-- The record of a cut line, if nothing but the end of the line is missing. -/
def wholeCut (n : Nat) (batch : List Record) : List Record :=
  match cut? n batch with
  | some (r, k) => if k = (Text.Utf8.encode r.lineText.toList).length then [r] else []
  | none => []

/-- The lines of a sink after several deposits and a torn batch. -/
def builtLines (deposits : List Deposit) (batch : List Record) (n : Nat) : List Line :=
  deposits.flatMap Deposit.lines ++ (written n batch).map .record ++ [lastLine n batch]

theorem filterMap_records (records : List Record) : (records.map Line.record).filterMap Line.record? = records := by
  rw [List.filterMap_map]
  exact List.filterMap_some

theorem filterMap_lines (deposits : List Deposit) :
    (deposits.flatMap Deposit.lines).filterMap Line.record? = deposits.flatMap Deposit.records := by
  induction deposits with
  | nil => rfl
  | cons deposit deposits ih =>
    rw [List.flatMap_cons, List.filterMap_append, ih, List.flatMap_cons]
    cases deposit with
    | batch records => rw [Deposit.lines, filterMap_records]; rfl
    | foreign bytes => rfl

theorem filterMap_lastLine (n : Nat) (batch : List Record) :
    [lastLine n batch].filterMap Line.record? = wholeCut n batch := by
  rw [lastLine, wholeCut]
  cases cut? n batch with
  | none => rfl
  | some cut =>
    rw [Option.map_some, Option.getD_some, cutLine]
    dsimp only
    split
    · rfl
    · rfl

/-- From a sink that is built by whole lines of records, foreign lines and one torn batch all records of whole lines are
read in their order, and the record of the cut line just if its whole text is there. Every other line that is not blank
gives one failure with its number. -/
theorem read_built {w built w' : Workspace} {sink : Path} {deposits : List Deposit} {batch : List Record} {n : Nat}
    (hnone : w.disk.at? (w.placeOf sink) = none)
    (hsound : ∀ deposit ∈ deposits, ∀ line ∈ deposit.lines, line.IsSound) (hbatch : ∀ r ∈ batch, r.IsCanonical)
    (hput : putAll w sink deposits = .ok built) (htorn : appendTorn built sink batch n = .ok w')
    (hthere : w'.holds sink = true) :
    ∃ content log, w'.read sink = .ok content ∧
      Text.splitOn Record.lineEnd content = (builtLines deposits batch n).map Line.bytes ∧
      read w' sink = .ok log ∧
      log.records = deposits.flatMap Deposit.records ++ written n batch ++ wholeCut n batch ∧
      log.failures.map Failure.lineNumber? = (faultyNumbers 1 (builtLines deposits batch n)).map some := by
  have hstart : Holds w sink [] := .inl ⟨hnone, rfl⟩
  have hread := ((hstart.putAll hput).appendTorn htorn).read hthere
  rw [List.nil_append, Record.take_linesBytes_eq_endedBytes, ← List.append_assoc, ← Record.endedBytes_append] at hread
  have hlines : ∀ line ∈ deposits.flatMap Deposit.lines ++ (written n batch).map .record, line.IsSound := by
    intro line hline
    rcases List.mem_append.mp hline with hline | hline
    · obtain ⟨deposit, hdeposit, hline⟩ := List.mem_flatMap.mp hline
      exact hsound deposit hdeposit line hline
    · obtain ⟨r, hr, rfl⟩ := List.mem_map.mp hline
      exact hbatch r (Record.mem_of_mem_written hr)
  have hlast := Record.isSound_lastLine n hbatch
  obtain ⟨hrecords, hfailures⟩ := Record.ofLog_bytes hlines hlast
  refine ⟨_, _, hread, Record.splitOn_endedBytes hlines hlast, by rw [read, hread], ?_, hfailures⟩
  rw [hrecords, List.filterMap_append, List.filterMap_append, filterMap_lines, filterMap_records, filterMap_lastLine]

namespace Sample

def sink : Path := ⟨"", [".text-extraction.tmp"]⟩

/-- A record with a text that is its own key. -/
def record (text : String) : Record := Record.make text text [] ⟨"a.jsx", "A", "p"⟩ none

theorem isCanonical_record {text : String} (h : text ≠ "") : (record text).IsCanonical :=
  Record.make_isCanonical text h (by decide) _ _

def empty : Workspace := { disk := [], directory := ⟨"/", []⟩, events := [] }

/-- A batch, a line that is not in UTF-8, and an empty line. -/
def deposits : List Deposit := [.batch [record "One"], .foreign [0xff], .foreign []]

/-- The workspace with these lines in the sink. -/
def built : Workspace := (putAll empty sink deposits).toOption.getD default

/-- The same after an append of one record that broke off. -/
def torn : Workspace := (appendTorn built sink [record "Two"] 5).toOption.getD default

theorem isSound_deposits : ∀ deposit ∈ deposits, ∀ line ∈ deposit.lines, line.IsSound := by
  simp only [deposits, List.forall_mem_cons, List.not_mem_nil, false_implies, implies_true, and_true, Deposit.lines,
    List.map_cons, List.map_nil]
  refine ⟨isCanonical_record (by decide), ⟨by decide, fun _ => rfl⟩, ⟨by decide, fun _ => rfl⟩⟩

end Sample

open Sample in
theorem read_built_of_foreign_lines : ∃ log, read torn sink = .ok log ∧ log.records = [record "One"] ∧
    log.failures.map Failure.lineNumber? = [some 2, some 4] := by
  obtain ⟨content, log, -, -, hread, hrecords, hfailures⟩ := @read_built empty built torn sink deposits [record "Two"] 5
    rfl isSound_deposits
    (by simpa using isCanonical_record (by decide)) rfl rfl rfl
  refine ⟨log, hread, ?_, ?_⟩
  · rw [hrecords]
    decide +kernel
  · rw [hfailures]
    decide +kernel

/-! ## 3. Appending to a torn sink -/

def appendAll (w : Workspace) (sink : Path) (batches : List (List Record)) : Except DiskError Workspace :=
  batches.foldlM (fun w records => append w sink records) w

theorem appendAll_of_read {w : Workspace} {sink : Path} {content : Bytes} (h : w.read sink = .ok content)
    (batches : List (List Record)) :
    ∃ w', appendAll w sink batches = .ok w' ∧ w'.read sink = .ok (content ++ linesBytes batches.flatten) := by
  induction batches generalizing w content with
  | nil => exact ⟨w, rfl, h.trans (congrArg Except.ok (List.append_nil content).symm)⟩
  | cons records batches ih =>
    obtain ⟨next, hnext, hread⟩ := append_of_read h records
    obtain ⟨w', hw', hread'⟩ := ih hread
    refine ⟨w', ?_, ?_⟩
    · rw [appendAll, List.foldlM_cons, hnext]
      exact hw'
    · rw [hread', List.flatten_cons, Record.linesBytes_append, List.append_assoc]

/-- The bytes of complete appends, and after them those of an append that broke off. -/
def tornBytes (done batch : List Record) (n : Nat) : Bytes := linesBytes done ++ (linesBytes batch).take n

/-- Of all records before a tear and of all after it none is missing, but perhaps the one whose line was cut. -/
def KeepsAllButTorn (done batch : List Record) (n : Nat) (later : List Record) (log : Record.Log) : Prop :=
  log.records = done ++ written n batch ++ later ∨
    ∃ cut, cut? n batch = some cut ∧ log.records = done ++ written n batch ++ cut.1 :: later

section Torn

variable {done batch : List Record} {n : Nat} (hdone : ∀ r ∈ done, r.IsCanonical)
  (hbatch : ∀ r ∈ batch, r.IsCanonical)

include hdone hbatch

theorem isSound_whole : ∀ line ∈ (done ++ written n batch).map Line.record, line.IsSound := by
  intro line hline
  obtain ⟨r, hr, rfl⟩ := List.mem_map.mp hline
  rcases List.mem_append.mp hr with hr | hr
  · exact hdone r hr
  · exact hbatch r (Record.mem_of_mem_written hr)

/-- Where nothing comes after the tear, nothing but the torn record is missing. -/
theorem keepsAllButTorn_of_nil : KeepsAllButTorn done batch n [] (Record.ofLog (tornBytes done batch n)) := by
  have hbytes : tornBytes done batch n =
      endedBytes ((done ++ written n batch).map .record) ++ (lastLine n batch).bytes := by
    rw [tornBytes, Record.take_linesBytes_eq_endedBytes, List.map_append, Record.endedBytes_append,
      Record.endedBytes_records done, List.append_assoc]
  have hrecords := (Record.ofLog_bytes (isSound_whole (n := n) hdone hbatch) (Record.isSound_lastLine n hbatch)).1
  rw [← hbytes, List.filterMap_append, filterMap_records, filterMap_lastLine, wholeCut] at hrecords
  rw [KeepsAllButTorn, hrecords]
  split
  · rename_i r k hcut
    split
    · exact .inr ⟨(r, k), hcut, rfl⟩
    · exact .inl rfl
  · exact .inl rfl

/-- Where no line is cut, nothing is missing. -/
theorem ofLog_of_cut?_eq_none (hcut : cut? n batch = none) {later : List Record}
    (hlater : ∀ r ∈ later, r.IsCanonical) :
    Record.ofLog (tornBytes done batch n ++ linesBytes later) = ⟨done ++ written n batch ++ later, []⟩ := by
  have hbytes : tornBytes done batch n ++ linesBytes later = linesBytes (done ++ written n batch ++ later) := by
    rw [tornBytes, Record.take_linesBytes, hcut, Record.linesBytes_append, Record.linesBytes_append, Option.map_none,
      Option.getD_none, List.append_nil]
  rw [hbytes]
  refine Record.ofLog_linesBytes fun r hr => ?_
  rcases List.mem_append.mp hr with hr | hr
  · rcases List.mem_append.mp hr with hr | hr
    · exact hdone r hr
    · exact hbatch r (Record.mem_of_mem_written hr)
  · exact hlater r hr

/-- Where a line is cut, the first record after it is missing: its line is the one of the tear. -/
theorem ofLog_of_cut?_eq_some {cut : Record × Nat} (hcut : cut? n batch = some cut) (r : Record) {later : List Record}
    (hlater : ∀ r ∈ later, r.IsCanonical) :
    (Record.ofLog (tornBytes done batch n ++ linesBytes (r :: later))).records = done ++ written n batch ++ later ∧
      (Record.ofLog (tornBytes done batch n ++ linesBytes (r :: later))).failures.map Failure.lineNumber? =
        [some (done.length + (written n batch).length + 1)] := by
  let joined : Line := .other (stump cut ++ (Line.record r).bytes)
  have hbytes : tornBytes done batch n ++ linesBytes (r :: later) =
      endedBytes ((done ++ written n batch).map .record ++ joined :: later.map .record) ++ (Line.other []).bytes := by
    have hline : joined.bytes ++ Record.lineEnd :: linesBytes later = stump cut ++ linesBytes (r :: later) := by
      rw [linesBytes, linesBytes, List.flatMap_cons, Record.lineBytes_eq, List.append_assoc, List.singleton_append,
        ← List.append_assoc]
      rfl
    rw [Record.endedBytes_append, Record.endedBytes_cons, Record.endedBytes_records, Record.endedBytes_records, hline,
      tornBytes, Record.take_linesBytes, hcut, Record.linesBytes_append, Option.map_some, Option.getD_some]
    simp only [Line.bytes, List.append_assoc, List.append_nil]
  have hsound : ∀ line ∈ (done ++ written n batch).map Line.record ++ joined :: later.map .record, line.IsSound := by
    refine List.forall_mem_append.mpr ⟨isSound_whole hdone hbatch, List.forall_mem_cons.mpr ⟨?_, ?_⟩⟩
    · exact Record.isSound_joined hcut r
    · exact List.forall_mem_map.mpr hlater
  obtain ⟨hrecords, hfailures⟩ := Record.ofLog_bytes hsound Record.isSound_nil
  rw [hbytes]
  refine ⟨?_, ?_⟩
  · rw [hrecords, List.filterMap_append, List.filterMap_append, filterMap_records, List.filterMap_cons_none rfl,
      filterMap_records]
    exact List.append_nil _
  · have hnone : faultyNumbers (1 + (done ++ written n batch).length + 1) (later.map Line.record ++ [.other []]) = [] := by
      rw [Record.faultyNumbers_append, Record.faultyNumbers_records]
      rfl
    rw [hfailures, List.append_assoc, Record.faultyNumbers_append, Record.faultyNumbers_records, List.nil_append,
      List.length_map, List.cons_append, Record.faultyNumbers_cons, if_pos (Record.isFaulty_joined hcut r), hnone,
      List.length_append, Nat.add_comm]
    rfl

end Torn

/-- A torn write costs more than the torn record just where a line was cut and a record is appended later: then the first
such record is lost, and the line that both stand on gives one failure. Nothing else is lost in any case. -/
theorem keepsAllButTorn_iff {w : Workspace} {sink : Path} {done batch : List Record} {n : Nat}
    {later : List (List Record)} (hread : w.read sink = .ok (tornBytes done batch n))
    (hdone : ∀ r ∈ done, r.IsCanonical) (hbatch : ∀ r ∈ batch, r.IsCanonical)
    (hlater : ∀ r ∈ later.flatten, r.IsCanonical) :
    ∃ w' log, appendAll w sink later = .ok w' ∧ read w' sink = .ok log ∧
      (KeepsAllButTorn done batch n later.flatten log ↔ cut? n batch = none ∨ later.flatten = []) ∧
      ∀ cut first rest, cut? n batch = some cut → later.flatten = first :: rest →
        log.records = done ++ written n batch ++ rest ∧
          log.failures.map Failure.lineNumber? = [some (done.length + (written n batch).length + 1)] := by
  obtain ⟨w', happend, hread'⟩ := appendAll_of_read hread later
  refine ⟨w', Record.ofLog (tornBytes done batch n ++ linesBytes later.flatten), happend, by rw [read, hread'], ?_, ?_⟩
  · cases hcut : cut? n batch with
    | none =>
      rw [ofLog_of_cut?_eq_none hdone hbatch hcut hlater]
      exact ⟨fun _ => .inl rfl, fun _ => .inl rfl⟩
    | some cut =>
      cases hflat : later.flatten with
      | nil =>
        rw [linesBytes, List.flatMap_nil, List.append_nil]
        exact ⟨fun _ => .inr rfl, fun _ => keepsAllButTorn_of_nil hdone hbatch⟩
      | cons first rest =>
        rw [hflat] at hlater
        have hlost := (ofLog_of_cut?_eq_some hdone hbatch hcut first (List.forall_mem_cons.mp hlater).2).1
        refine ⟨fun hkeeps => ?_, fun h => absurd h (by simp)⟩
        -- there are fewer records than there should be
        rw [KeepsAllButTorn, hlost] at hkeeps
        rcases hkeeps with h | ⟨cut', -, h⟩
        · have hlength := congrArg List.length (List.append_cancel_left h)
          rw [List.length_cons] at hlength
          omega
        · have hlength := congrArg List.length (List.append_cancel_left h)
          rw [List.length_cons, List.length_cons] at hlength
          omega
  · intro cut first rest hcut hflat
    rw [hflat] at hlater ⊢
    exact ofLog_of_cut?_eq_some hdone hbatch hcut first (List.forall_mem_cons.mp hlater).2

namespace Sample

/-- A sink with one record, and the first bytes of another one. -/
def cutOff : Workspace where
  disk := [([".text-extraction.tmp"], .file (tornBytes [record "One"] [record "Two"] 5))]
  directory := ⟨"/", []⟩
  events := []

end Sample

open Sample in
theorem not_keepsAllButTorn_of_cut_line : ∃ w' log, appendAll cutOff sink [[record "Three", record "Four"]] = .ok w' ∧
    read w' sink = .ok log ∧ ¬ KeepsAllButTorn [record "One"] [record "Two"] 5 [record "Three", record "Four"] log ∧
      log.records = [record "One", record "Four"] := by
  obtain ⟨w', log, happend, hread, hkeeps, hlost⟩ := @keepsAllButTorn_iff cutOff sink [record "One"]
    [record "Two"] 5 [[record "Three", record "Four"]] rfl
    (by simpa using isCanonical_record (by decide)) (by simpa using isCanonical_record (by decide))
    (by simpa using ⟨isCanonical_record (by decide), isCanonical_record (by decide)⟩)
  have hcut : cut? 5 [record "Two"] = some (record "Two", 5) := by decide +kernel
  have hwritten : written 5 [record "Two"] = [] := by decide +kernel
  refine ⟨w', log, happend, hread, fun h => ?_, ?_⟩
  · rcases hkeeps.mp h with hnone | hnil
    · exact absurd (hcut.symm.trans hnone) (by simp)
    · exact absurd hnil (by simp)
  · rw [(hlost _ _ _ hcut rfl).1, hwritten]
    rfl

end Phrasebook.Sink
