import Phrasebook.Proofs.Records
import Phrasebook.Proofs.Workspaces
import Phrasebook.Sink

/-!
# What is in a sink

Appending adds records after those that are there, reading finds them all, and clearing leaves no sink. None of this
touches another file.

Results:
1. `bytesAt_append` and `read_append`: what is in the sink after appending; `append_of_read`: appending to a sink that is
   there does not fail.
2. `read_linesBytes`: the records of a sink are read.
3. `clear_of_read`: a sink that is there can be cleared.
4. `ends_appendUpTo`: how an append ends that may be broken off.
-/

namespace Phrasebook.Sink

variable {w w' : Workspace} {sink : Path} {records : List Record}

theorem changesOnly_addBytes {bytes : Bytes} (h : addBytes w sink bytes = .ok w') :
    Workspace.ChangesOnly [w.placeOf sink] w w' := by
  obtain ⟨disk, hdisk, rfl⟩ := Workspace.onDisk_eq_ok_iff.mp h
  refine ⟨rfl, rfl, ?_⟩
  split at hdisk
  · rename_i hensure
    exact ((Disk.changesOnly_ensureDirectories hensure).mono (by simp)).trans (Disk.changesOnly_append hdisk)
  · cases hdisk

theorem read_addBytes {bytes : Bytes} (h : addBytes w sink bytes = .ok w') :
    w'.read sink = .ok (w.disk.bytesAt (w.placeOf sink) ++ bytes) := by
  obtain ⟨disk, hdisk, rfl⟩ := Workspace.onDisk_eq_ok_iff.mp h
  split at hdisk
  · rename_i hensure
    have hread := Disk.read_append hdisk
    rwa [(Disk.changesOnly_ensureDirectories hensure).bytesAt List.not_mem_nil] at hread
  · cases hdisk

/-- Whatever is added to a sink, it is a file then. -/
theorem at?_addBytes {bytes : Bytes} (h : addBytes w sink bytes = .ok w') :
    w'.disk.at? (w.placeOf sink) = some (.file (w.disk.bytesAt (w.placeOf sink) ++ bytes)) := by
  have hread := (Disk.read_eq_ok_iff.mp (read_addBytes h)).2
  rwa [(changesOnly_addBytes h).absolute] at hread

/-- Events make no difference to what is added. -/
theorem addBytes_log (w : Workspace) (sink : Path) (bytes : Bytes) (e : Event) :
    addBytes (w.log e) sink bytes = (addBytes w sink bytes).map (·.log e) := by
  have hmap (found : Except DiskError Disk) : (found.map fun disk => { w.log e with disk }) =
      (found.map fun disk => { w with disk }).map (·.log e) := by
    cases found <;> rfl
  exact hmap _

theorem append_of_ne (hr : records ≠ []) : append w sink records = addBytes w sink (Record.linesBytes records) :=
  if_neg (by simpa using hr)

theorem changesOnly_append (h : append w sink records = .ok w') :
    Workspace.ChangesOnly [w.placeOf sink] w w' := by
  rw [append] at h
  split at h
  · rw [Except.ok.injEq] at h
    rw [← h]
    exact .refl _ _
  · exact changesOnly_addBytes h

/-- What is in the sink after appending. -/
theorem bytesAt_append (h : append w sink records = .ok w') :
    w'.disk.bytesAt (w.placeOf sink) = w.disk.bytesAt (w.placeOf sink) ++ Record.linesBytes records := by
  rw [append] at h
  split at h
  · rename_i hempty
    rw [Except.ok.injEq] at h
    rw [← h, List.isEmpty_iff.mp hempty]
    exact (List.append_nil _).symm
  · exact Disk.bytesAt_of_file (at?_addBytes h)

/-- After appending records there is a sink. -/
theorem read_append (h : append w sink records = .ok w') (hr : records ≠ []) :
    w'.read sink = .ok (w.disk.bytesAt (w.placeOf sink) ++ Record.linesBytes records) :=
  read_addBytes (append_of_ne hr ▸ h)

/-- A file that is there is there after appending, even if it is the sink. -/
theorem exists_read_append {content : Bytes} {p : Path} (h : append w sink records = .ok w') (hread : w.read p = .ok content) :
    ∃ content', w'.read p = .ok content' := by
  have hchanges := changesOnly_append h
  by_cases hplace : w.placeOf p = w.placeOf sink
  · by_cases hr : records = []
    · rw [append, hr] at h
      exact ⟨content, (Except.ok.inj h) ▸ hread⟩
    · have hsink := (Disk.read_eq_ok_iff.mp (read_append h hr)).2
      have hlocate := hchanges.disk.locate (Disk.read_eq_ok_iff.mp hread).1
      rw [hchanges.absolute, ← Workspace.placeOf, ← hplace] at hsink
      rw [Workspace.read, hchanges.absolute]
      exact ⟨_, Disk.read_eq_ok_iff.mpr ⟨hlocate, hsink⟩⟩
  · exact ⟨content, hchanges.read (fun hmem => hplace (List.mem_singleton.mp hmem)) hread⟩

/-- To a sink that is there can be appended. -/
theorem append_of_read {content : Bytes} (h : w.read sink = .ok content) (records : List Record) :
    ∃ w', append w sink records = .ok w' ∧ w'.read sink = .ok (content ++ Record.linesBytes records) := by
  obtain ⟨disk, hdisk⟩ := Disk.append_of_read h (Record.linesBytes records)
  have hcontent := Disk.read_append hdisk
  rw [Disk.bytesAt_of_read h] at hcontent
  rw [append]
  split
  · rename_i hempty
    rw [List.isEmpty_iff.mp hempty]
    exact ⟨w, rfl, h.trans (congrArg Except.ok (List.append_nil content).symm)⟩
  · refine ⟨{ w with disk }, Workspace.onDisk_eq_ok_iff.mpr ⟨disk, ?_, rfl⟩, hcontent⟩
    rw [Disk.ensureDirectories_of_locate (Disk.read_eq_ok_iff.mp h).1]
    exact hdisk

/-- The records of a sink are read. -/
theorem read_linesBytes (h : w.read sink = .ok (Record.linesBytes records)) (hr : ∀ r ∈ records, r.IsCanonical) :
    read w sink = .ok ⟨records, []⟩ := by
  rw [read, h]
  dsimp only
  rw [Record.ofLog_linesBytes hr]

theorem changesOnly_clear (h : clear w sink = .ok w') : Workspace.ChangesOnly [w.placeOf sink] w w' := by
  rw [clear] at h
  split at h
  · rw [Except.ok.injEq] at h
    rw [← h]
    exact .refl _ _
  · obtain ⟨disk, hdisk, rfl⟩ := Workspace.onDisk_eq_ok_iff.mp h
    exact ⟨rfl, rfl, Disk.changesOnly_removeFile hdisk⟩

/-- A sink that is there can be cleared. -/
theorem clear_of_read {content : Bytes} (h : w.read sink = .ok content) :
    ∃ w', clear w sink = .ok w' ∧ Workspace.ChangesOnly [w.placeOf sink] w w' ∧ w'.holds sink = false ∧
      w'.disk.bytesAt (w.placeOf sink) = [] := by
  obtain ⟨disk, hremove⟩ : ∃ disk, w.disk.removeFile (w.absolute sink) = .ok disk :=
    ⟨_, Disk.removeFile_eq_ok_iff.mpr ⟨⟨content, h⟩, rfl⟩⟩
  have hclear : w.onDisk (fun disk => disk.removeFile (w.absolute sink)) = .ok { w with disk } :=
    Workspace.onDisk_eq_ok_iff.mpr ⟨disk, hremove, rfl⟩
  have hcleared : clear w sink = .ok { w with disk } := by rw [clear, hclear]
  refine ⟨{ w with disk }, hcleared, changesOnly_clear hcleared, ?_, Disk.bytesAt_removeFile hremove⟩
  have hfind := Disk.find_removeFile hremove
  rw [Workspace.holds, Disk.holds]
  exact congrArg Except.isOk hfind

/-- How an append of records ends that may be broken off. -/
inductive Ends (limit : Option Nat) (w : Workspace) (sink : Path) (records : List Record) : Ending → Prop where
  /-- All records are in the sink. -/
  | whole (w' : Workspace) (happend : append w sink records = .ok w')
      (hroom : ∀ n, limit = some n → (Record.linesBytes records).length ≤ n) : Ends limit w sink records (w', none)
  /-- There is no room for all lines, and the first bytes are in the sink. -/
  | torn (n : Nat) (w' : Workspace) (hlimit : limit = some n) (hlt : n < (Record.linesBytes records).length)
      (hnamed : (sink.isAbsolute || w.isHere) = true)
      (hadd : addBytes w sink ((Record.linesBytes records).take n) = .ok w') : Ends limit w sink records (w', some .full)
  /-- Nothing has come to the sink, and nothing could. -/
  | failed (e : DiskError) (hnot : ∀ n, limit = some n → n < (Record.linesBytes records).length →
      (sink.isAbsolute || w.isHere) = true → ∀ w', addBytes w sink ((Record.linesBytes records).take n) ≠ .ok w') :
      Ends limit w sink records (w, some e)

theorem ends_appendUpTo (limit : Option Nat) (w : Workspace) (sink : Path) (hr : records ≠ []) :
    Ends limit w sink records (appendUpTo limit w sink records) := by
  rw [appendUpTo, if_neg (by simpa using hr), Workspace.absolute?]
  split
  · rename_i habsolute
    refine .failed _ fun _ _ _ hnamed => ?_
    rw [if_pos hnamed] at habsolute
    cases habsolute
  · rename_i habsolute
    have hnamed : (sink.isAbsolute || w.isHere) = true := by
      by_contra hnot
      rw [if_neg hnot] at habsolute
      cases habsolute
    split
    · rename_i hfilter
      have hroom (n : Nat) (hlimit : limit = some n) : (Record.linesBytes records).length ≤ n := by
        rw [hlimit, Option.filter_eq_none_iff] at hfilter
        simpa using hfilter n rfl
      rw [appendWhole]
      split
      · rename_i w' happend
        exact .whole w' happend hroom
      · exact .failed _ fun n hlimit hlt => absurd (hroom n hlimit) (Nat.not_le_of_lt hlt)
    · rename_i n hfilter
      obtain ⟨hlimit, hlt⟩ := Option.filter_eq_some_iff.mp hfilter
      rw [appendTorn, if_neg (by simpa using hr)]
      split
      · rename_i w' hadd
        exact .torn n w' hlimit (of_decide_eq_true hlt) hnamed hadd
      · rename_i e hadd
        refine .failed e fun m hlimit' _ _ w' hadd' => ?_
        obtain rfl : n = m := Option.some.inj (hlimit.symm.trans hlimit')
        cases hadd.symm.trans hadd'

end Phrasebook.Sink
