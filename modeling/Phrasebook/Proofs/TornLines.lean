import Phrasebook.Proofs.Nesting
import Phrasebook.Proofs.Records

/-!
# Logs with a torn end

A write that breaks off leaves whole lines of records and, of the next one, the first bytes. These bytes are read as that
record if they are its whole text, and otherwise as no record at all. What is written after them stands on the same line,
and this line is no record in any case.

Results:
1. `ofLine_cut` and `ofLine_joined`: a cut line is no record, alone or with the text of a record after it, and neither are
   two records on one line.
2. `ofLog_bytes`: a log of sound lines gives their records, and a failure for each faulty line with its number.
3. `take_linesBytes`: what the first bytes of a batch are; `isSound_cutLine` and `isSound_joined`: how they are read.
-/

/-- The number of the line that a failure is about. -/
def Phrasebook.Failure.lineNumber? : Phrasebook.Failure → Option Nat
  | .line number _ => some number
  | _ => none

namespace Phrasebook.Record

open Json (walk IsBalanced)

/-! ## 1. Cut lines -/

/-- A record is written in braces, and all brackets between them are closed. -/
theorem exists_inner (r : Record) : ∃ inner, r.lineText.toList = '{' :: inner ++ ['}'] ∧ IsBalanced inner := by
  obtain ⟨m, ms, hjson⟩ : ∃ m ms, r.toJson = .object (m :: ms) := ⟨_, _, rfl⟩
  have hplain := isPlain_toJson r
  rw [hjson, Json.isPlain] at hplain
  rw [lineText, Json.write, String.toList_ofList, hjson]
  exact Json.isBalanced_members Json.compact_isStandard 0 hplain

theorem isBalanced_lineText (r : Record) : IsBalanced r.lineText.toList := by
  obtain ⟨inner, htext, hinner⟩ := exists_inner r
  rw [htext]
  exact hinner.bracketed (.inl rfl) (.inl rfl)

/-- The first name in it is `text`. -/
theorem exists_start (r : Record) : ∃ rest, r.lineText.toList = ['{', '"', 't', 'e', 'x'] ++ rest := by
  have hname : Json.stringText false "text" = ['"', 't', 'e', 'x', 't', '"'] := by decide
  rw [lineText, Json.write, String.toList_ofList, toJson, List.cons_append, Json.valueText]
  simp only [Json.Layout.compact, hname]
  exact ⟨_, rfl⟩

/-- Where a string is open the text of a record closes it, and its own first name is no part of a value. -/
theorem walk_lineText_of_open (r : Record) (depth : Nat) {place : Json.Place} (hplace : place ≠ .outside) :
    walk ⟨depth, place⟩ r.lineText.toList = none := by
  obtain ⟨rest, htext⟩ := exists_start r
  rw [htext]
  cases place with
  | outside => exact absurd rfl hplace
  | inside => rfl
  | escaped => rfl

section Cut

variable {r : Record} {cut : List Char} (hcut : cut <+: r.lineText.toList) (hne : cut ≠ [])
  (hproper : cut ≠ r.lineText.toList)

include hcut hne hproper

/-- A cut text is no value. -/
theorem readStrict_cut : Json.readStrict cut = none := by
  obtain ⟨inner, htext, hinner⟩ := exists_inner r
  rw [htext] at hcut hproper
  obtain ⟨depth, place, hwalk⟩ := Json.walk_cut hinner hcut hne hproper
  refine Option.eq_none_iff_forall_not_mem.mpr fun j hj => ?_
  rw [Json.walk_of_readStrict hj] at hwalk
  exact absurd hwalk (by simp)

/-- Nor is it one with the text of a record after it. -/
theorem readStrict_cut_append (r' : Record) : Json.readStrict (cut ++ r'.lineText.toList) = none := by
  obtain ⟨inner, htext, hinner⟩ := exists_inner r
  rw [htext] at hcut hproper
  obtain ⟨depth, place, hwalk⟩ := Json.walk_cut hinner hcut hne hproper
  refine Option.eq_none_iff_forall_not_mem.mpr fun j hj => ?_
  have hwhole := Json.walk_of_readStrict hj
  rw [Json.walk_append, hwalk, Option.bind_some] at hwhole
  by_cases hplace : place = .outside
  · rw [hplace, isBalanced_lineText r'] at hwhole
    exact absurd hwhole (by simp)
  · rw [walk_lineText_of_open r' _ hplace] at hwhole
    exact absurd hwhole (by simp)

end Cut

/-- Two texts of records are no value. -/
theorem readStrict_joined (r r' : Record) : Json.readStrict (r.lineText.toList ++ r'.lineText.toList) = none := by
  obtain ⟨rest, hrest⟩ := exists_start r'
  have hread := Json.readChars_valueText_append Json.compact_isStandard (isPlain_toJson r) r'.lineText.toList
  have hskip : Json.skip r'.lineText.toList = r'.lineText.toList := by rw [hrest]; rfl
  rw [hskip, hrest] at hread
  rw [Json.readStrict, lineText, Json.write, String.toList_ofList, hrest, hread]
  rfl

/-- A line that cannot be read, or that is no value, is set aside. -/
theorem ofLine_of_error {bytes : List UInt8} {fault : Text.Utf8.Fault} (h : Text.Utf8.decode bytes = .error fault)
    (number : Nat) : ∃ reason, ofLine number bytes = .error (.line number reason) :=
  ⟨_, by rw [ofLine, h]⟩

theorem ofLine_of_none {cs : List Char} (h : Json.readStrict cs = none) (number : Nat) :
    ∃ reason, ofLine number (Text.Utf8.encode cs) = .error (.line number reason) :=
  ⟨faultsMessage 1, by rw [ofLine, Text.Utf8.decode_encode]; simp only [ofText, h]⟩

/-- The first bytes of the text of a record, with nothing or another record after them. -/
theorem ofLine_cut {r : Record} {part : List UInt8} (hpart : part <+: Text.Utf8.encode r.lineText.toList)
    (hne : part ≠ []) (hproper : part ≠ Text.Utf8.encode r.lineText.toList) (number : Nat) :
    (∃ reason, ofLine number part = .error (.line number reason)) ∧
      ∀ r' : Record, ∃ reason,
        ofLine number (part ++ Text.Utf8.encode r'.lineText.toList) = .error (.line number reason) := by
  obtain ⟨front, hfront, rfl | ⟨c, piece, hpiece, hpieceNe, hpieceProper, rfl⟩⟩ :=
    Text.Utf8.exists_of_prefix_encode hpart
  · -- cut between two characters
    have hfrontNe : front ≠ [] := fun h => hne (by rw [h]; rfl)
    have hfrontProper : front ≠ r.lineText.toList := fun h => hproper (by rw [h])
    refine ⟨ofLine_of_none (readStrict_cut hfront hfrontNe hfrontProper) number, fun r' => ?_⟩
    rw [← Text.Utf8.encode_append]
    exact ofLine_of_none (readStrict_cut_append hfront hfrontNe hfrontProper r') number
  · -- cut within one
    have hfault (rest : List UInt8) (hrest : Text.Utf8.IsForeign rest) :
        ∃ fault, Text.Utf8.decode (Text.Utf8.encode front ++ (piece ++ rest)) = .error fault := by
      obtain ⟨fault, hfault⟩ := Text.Utf8.decodeFrom_cut (0 + (Text.Utf8.encode front).length) hpiece hpieceNe
        hpieceProper hrest
      exact ⟨fault, by rw [Text.Utf8.decode, Text.Utf8.decodeFrom_encode_append, hfault]; rfl⟩
    refine ⟨?_, fun r' => ?_⟩
    · obtain ⟨fault, h⟩ := hfault [] (by simp [Text.Utf8.IsForeign])
      rw [List.append_nil] at h
      exact ofLine_of_error h number
    · obtain ⟨rest, hrest⟩ := exists_start r'
      obtain ⟨fault, h⟩ := hfault (Text.Utf8.encode r'.lineText.toList) (by
        rw [hrest, Text.Utf8.encode_append]
        simp [Text.Utf8.IsForeign, Text.Utf8.encode, String.utf8EncodeChar])
      rw [List.append_assoc]
      exact ofLine_of_error h number

/-- Two records on one line are none. -/
theorem ofLine_joined (r r' : Record) (number : Nat) :
    ∃ reason, ofLine number (Text.Utf8.encode r.lineText.toList ++ Text.Utf8.encode r'.lineText.toList) =
      .error (.line number reason) := by
  rw [← Text.Utf8.encode_append]
  exact ofLine_of_none (readStrict_joined r r') number

/-! ## 2. Lines of a log -/

/-- A line of a log without its end: a record, or bytes that hold none. -/
inductive Line where
  | record (r : Record)
  | other (bytes : List UInt8)

namespace Line

def bytes : Line → List UInt8
  | record r => Text.Utf8.encode r.lineText.toList
  | other bytes => bytes

def record? : Line → Option Record
  | record r => some r
  | other _ => none

/-- Whether a line is neither a record nor blank. -/
def isFaulty : Line → Bool
  | record _ => false
  | other bytes => !bytes.all isBlankByte

/-- Records are canonical, and other bytes are one line that is read as no record. -/
def IsSound : Line → Prop
  | record r => r.IsCanonical
  | other bytes => lineEnd ∉ bytes ∧ ∀ number, (ofLine number bytes).isOk = false

theorem lineEnd_not_mem {line : Line} (h : line.IsSound) : lineEnd ∉ line.bytes := by
  cases line with
  | record r => exact Record.lineEnd_not_mem r
  | other bytes => exact h.1

end Line

/-- The numbers of the faulty ones among lines that are numbered from some number on. -/
def faultyNumbers (number : Nat) (lines : List Line) : List Nat :=
  ((lines.zipIdx number).filter fun line => line.1.isFaulty).map Prod.snd

theorem faultyNumbers_cons (number : Nat) (line : Line) (lines : List Line) :
    faultyNumbers number (line :: lines) =
      if line.isFaulty then number :: faultyNumbers (number + 1) lines else faultyNumbers (number + 1) lines := by
  rw [faultyNumbers, List.zipIdx_cons, List.filter_cons]
  split
  · rfl
  · rfl

theorem faultyNumbers_append (number : Nat) (lines more : List Line) :
    faultyNumbers number (lines ++ more) = faultyNumbers number lines ++ faultyNumbers (number + lines.length) more := by
  rw [faultyNumbers, List.zipIdx_append, List.filter_append, List.map_append]
  rfl

theorem faultyNumbers_records (number : Nat) (records : List Record) : faultyNumbers number (records.map .record) = [] := by
  induction records generalizing number with
  | nil => rfl
  | cons r records ih => exact ih (number + 1)

theorem exists_of_isOk_eq_false {number : Nat} {bytes : List UInt8} (h : (ofLine number bytes).isOk = false) :
    ∃ reason, ofLine number bytes = .error (.line number reason) := by
  rw [ofLine] at h ⊢
  split
  · exact ⟨_, rfl⟩
  · split
    · simp_all [Except.isOk, Except.toBool]
    · exact ⟨_, rfl⟩

/-- Every line but a blank one gives a record or a failure with its number. -/
theorem ofLines_bytes {lines : List Line} (h : ∀ line ∈ lines, line.IsSound) (number : Nat) :
    (ofLines number (lines.map Line.bytes)).records = lines.filterMap Line.record? ∧
      (ofLines number (lines.map Line.bytes)).failures.map Failure.lineNumber? =
        (faultyNumbers number lines).map some := by
  induction lines generalizing number with
  | nil => exact ⟨rfl, rfl⟩
  | cons line lines ih =>
    obtain ⟨hline, hlines⟩ := List.forall_mem_cons.mp h
    obtain ⟨hrecords, hfailures⟩ := ih hlines (number + 1)
    rw [faultyNumbers_cons, List.map_cons, ofLines]
    cases line with
    | record r =>
      rw [Line.bytes, not_all_isBlankByte, ofLine_lineText hline]
      exact ⟨congrArg (r :: ·) hrecords, hfailures⟩
    | other bytes =>
      rw [Line.bytes]
      split
      · rename_i hblank
        rw [if_neg (by simp [Line.isFaulty, hblank])]
        exact ⟨hrecords, hfailures⟩
      · rename_i hblank
        obtain ⟨reason, hreason⟩ := exists_of_isOk_eq_false (hline.2 number)
        rw [hreason, if_pos (by simp [Line.isFaulty, hblank])]
        exact ⟨hrecords, congrArg (some number :: ·) hfailures⟩

/-- The bytes of lines, each with its end. -/
def endedBytes (lines : List Line) : List UInt8 := lines.flatMap fun line => line.bytes ++ [lineEnd]

theorem endedBytes_cons (line : Line) (lines : List Line) :
    endedBytes (line :: lines) = line.bytes ++ lineEnd :: endedBytes lines := by
  rw [endedBytes, List.flatMap_cons, List.append_assoc]
  rfl

theorem splitOn_endedBytes {lines : List Line} (h : ∀ line ∈ lines, line.IsSound) {last : Line} (hlast : last.IsSound) :
    Text.splitOn lineEnd (endedBytes lines ++ last.bytes) = (lines ++ [last]).map Line.bytes := by
  induction lines with
  | nil => exact Text.splitOn_of_not_mem (Line.lineEnd_not_mem hlast)
  | cons line lines ih =>
    obtain ⟨hline, hlines⟩ := List.forall_mem_cons.mp h
    rw [endedBytes_cons, List.append_assoc, List.cons_append, Text.splitOn_append (Line.lineEnd_not_mem hline), ih hlines]
    rfl

/-- A log of sound lines, the last of which has no end. -/
theorem ofLog_bytes {lines : List Line} (h : ∀ line ∈ lines, line.IsSound) {last : Line} (hlast : last.IsSound) :
    (ofLog (endedBytes lines ++ last.bytes)).records = (lines ++ [last]).filterMap Line.record? ∧
      (ofLog (endedBytes lines ++ last.bytes)).failures.map Failure.lineNumber? =
        (faultyNumbers 1 (lines ++ [last])).map some := by
  rw [ofLog, splitOn_endedBytes h hlast]
  exact ofLines_bytes (List.forall_mem_append.mpr ⟨h, by simpa using hlast⟩) 1

theorem endedBytes_append (lines more : List Line) : endedBytes (lines ++ more) = endedBytes lines ++ endedBytes more :=
  List.flatMap_append

theorem endedBytes_records (records : List Record) : endedBytes (records.map .record) = linesBytes records := by
  rw [endedBytes, linesBytes, List.flatMap_map]
  exact List.flatMap_congr fun r _ => (lineBytes_eq r).symm

/-! ## 3. Cut batches -/

/-- The records of a batch whose lines are all among the first bytes. -/
def written : Nat → List Record → List Record
  | _, [] => []
  | n, r :: records => if r.lineBytes.length ≤ n then r :: written (n - r.lineBytes.length) records else []

/-- The record whose line is cut after the first bytes, with how much of it is among them. -/
def cut? : Nat → List Record → Option (Record × Nat)
  | _, [] => none
  | n, r :: records =>
    if r.lineBytes.length ≤ n then cut? (n - r.lineBytes.length) records else if n = 0 then none else some (r, n)

/-- What is there of a line that is cut. -/
def stump (cut : Record × Nat) : List UInt8 := (Text.Utf8.encode cut.1.lineText.toList).take cut.2

/-- The line that is left of it: the whole record where nothing but its end is missing. -/
def cutLine (cut : Record × Nat) : Line :=
  if cut.2 = (Text.Utf8.encode cut.1.lineText.toList).length then .record cut.1 else .other (stump cut)

theorem cut?_spec {n : Nat} {batch : List Record} {cut : Record × Nat} (h : cut? n batch = some cut) :
    cut.1 ∈ batch ∧ 0 < cut.2 ∧ cut.2 ≤ (Text.Utf8.encode cut.1.lineText.toList).length := by
  induction batch generalizing n with
  | nil => exact absurd h (by simp [cut?])
  | cons r batch ih =>
    rw [cut?] at h
    split at h
    · obtain ⟨hmem, hrest⟩ := ih h
      exact ⟨List.mem_cons_of_mem r hmem, hrest⟩
    · rename_i hlength
      split at h
      · exact absurd h (by simp)
      · rw [Option.some.injEq] at h
        rw [lineBytes_eq, List.length_append, List.length_singleton] at hlength
        rw [← h]
        exact ⟨List.mem_cons_self, Nat.pos_of_ne_zero ‹_›, Nat.le_of_lt_succ (Nat.lt_of_not_le hlength)⟩

/-- The first bytes of a batch are those of whole lines and of the line that is cut. -/
theorem take_linesBytes (n : Nat) (batch : List Record) :
    (linesBytes batch).take n = linesBytes (written n batch) ++ ((cut? n batch).map stump).getD [] := by
  induction batch generalizing n with
  | nil => rw [linesBytes, List.flatMap_nil, List.take_nil]; rfl
  | cons r batch ih =>
    rw [linesBytes, List.flatMap_cons, ← linesBytes, written, cut?, List.take_append]
    split
    · rename_i hlength
      rw [List.take_of_length_le hlength, ih, linesBytes, linesBytes, List.flatMap_cons, List.append_assoc]
    · rename_i hlength
      have hzero : n - r.lineBytes.length = 0 := by omega
      rw [hzero, List.take_zero, List.append_nil]
      split
      · rename_i hn
        rw [hn]
        rfl
      · have hn : n ≤ (Text.Utf8.encode r.lineText.toList).length := by
          rw [lineBytes_eq, List.length_append, List.length_singleton] at hlength
          omega
        rw [lineBytes_eq, List.take_append_of_le_length hn]
        rfl

theorem mem_of_mem_written {n : Nat} {batch : List Record} {r : Record} (h : r ∈ written n batch) : r ∈ batch := by
  induction batch generalizing n with
  | nil => exact h
  | cons r' batch ih =>
    rw [written] at h
    split at h
    · rcases List.mem_cons.mp h with rfl | h
      · exact List.mem_cons_self
      · exact List.mem_cons_of_mem _ (ih h)
    · exact absurd h List.not_mem_nil

theorem bytes_cutLine (cut : Record × Nat) : (cutLine cut).bytes = stump cut := by
  rw [cutLine]
  split
  · rename_i hwhole
    rw [Line.bytes, stump, hwhole, List.take_length]
  · rfl

section Stump

variable {n : Nat} {batch : List Record} {cut : Record × Nat} (h : cut? n batch = some cut)

include h

/-- What is left of a line begins with the brace of its record. -/
theorem stump_head : ∃ rest, stump cut = 0x7b :: rest := by
  obtain ⟨rest, htext⟩ := exists_start cut.1
  obtain ⟨m, hm⟩ := Nat.exists_eq_succ_of_ne_zero (Nat.pos_iff_ne_zero.mp (cut?_spec h).2.1)
  rw [stump, htext, hm, Text.Utf8.encode_append]
  exact ⟨_, rfl⟩

/-- What is left of a line is no record, with or without another one after it, unless it is the whole text of its own. -/
theorem ofLine_stump (hproper : cut.2 ≠ (Text.Utf8.encode cut.1.lineText.toList).length) (number : Nat) :
    (∃ reason, ofLine number (stump cut) = .error (.line number reason)) ∧
      ∀ r : Record, ∃ reason,
        ofLine number (stump cut ++ Text.Utf8.encode r.lineText.toList) = .error (.line number reason) := by
  refine ofLine_cut (List.take_prefix _ _) ?_ ?_ number
  · obtain ⟨rest, hrest⟩ := stump_head h
    exact fun hnil => List.cons_ne_nil _ _ (hrest.symm.trans hnil)
  · intro hwhole
    have hlength := congrArg List.length hwhole
    rw [List.length_take_of_le (cut?_spec h).2.2] at hlength
    exact hproper hlength

theorem isSound_cutLine (hbatch : ∀ r ∈ batch, r.IsCanonical) : (cutLine cut).IsSound := by
  rw [cutLine]
  split
  · exact hbatch _ (cut?_spec h).1
  · rename_i hproper
    refine ⟨fun hmem => lineEnd_not_mem cut.1 (List.mem_of_mem_take hmem), fun number => ?_⟩
    obtain ⟨reason, hreason⟩ := (ofLine_stump h hproper number).1
    rw [hreason]
    rfl

/-- Whatever is left of a line, the text of a record after it does not make it one. -/
theorem isSound_joined (r : Record) : (Line.other (stump cut ++ (Line.record r).bytes)).IsSound := by
  refine ⟨?_, fun number => ?_⟩
  · rw [List.mem_append, not_or]
    exact ⟨fun hmem => lineEnd_not_mem cut.1 (List.mem_of_mem_take hmem), lineEnd_not_mem r⟩
  · have hread : ∃ reason, ofLine number (stump cut ++ (Line.record r).bytes) = .error (.line number reason) := by
      by_cases hwhole : cut.2 = (Text.Utf8.encode cut.1.lineText.toList).length
      · rw [stump, hwhole, List.take_length]
        exact ofLine_joined cut.1 r number
      · exact (ofLine_stump h hwhole number).2 r
    obtain ⟨reason, hreason⟩ := hread
    rw [hreason]
    rfl

theorem isFaulty_joined (r : Record) : (Line.other (stump cut ++ (Line.record r).bytes)).isFaulty = true := by
  obtain ⟨rest, hrest⟩ := stump_head h
  rw [hrest]
  rfl

end Stump

/-- The line that a torn batch ends in; empty where none is cut. -/
def lastLine (n : Nat) (batch : List Record) : Line := ((cut? n batch).map cutLine).getD (.other [])

theorem isSound_nil : (Line.other []).IsSound := ⟨List.not_mem_nil, fun _ => rfl⟩

theorem isSound_lastLine (n : Nat) {batch : List Record} (h : ∀ r ∈ batch, r.IsCanonical) :
    (lastLine n batch).IsSound := by
  rw [lastLine]
  cases hcut : cut? n batch with
  | none => exact isSound_nil
  | some cut => exact isSound_cutLine hcut h

/-- The first bytes of a batch as lines. -/
theorem take_linesBytes_eq_endedBytes (n : Nat) (batch : List Record) :
    (linesBytes batch).take n = endedBytes ((written n batch).map .record) ++ (lastLine n batch).bytes := by
  rw [take_linesBytes, endedBytes_records, lastLine]
  cases cut? n batch with
  | none => rfl
  | some cut => rw [Option.map_some, Option.map_some, Option.getD_some, Option.getD_some, bytes_cutLine]

end Phrasebook.Record
