import Phrasebook.Proofs.Replacements
import Phrasebook.Proofs.RewrittenTrees
import Phrasebook.Proofs.Scans

/-!
# All of a scan or nothing

A scan that is skipped hands the source back and leaves the sink as it was. Any other scan adds its records to the sink, and
it changes the source just if there are any: a call that is put in starts with a brace, and a text that is taken out has
none. There are two exceptions. A file that is named from a working directory that is gone fails the caller; and where the
system stops writing, the first bytes of the records stay in the sink.

Results:
1. `code_ne_iff`: a rewrite changes its source just if something was taken out of it.
2. `isAllOrNothing_scan_iff`: whatever is scanned and wherever, these are the only exceptions.
-/

/-! ## 1. Sources that change -/

namespace Phrasebook.Rewrite

open Source
open Splice (Patch)

variable {settings : Settings} {file source : String}

/-- If braces are put in for parts that have none, there are more of them. -/
theorem count_original_le {patches : List Patch} (hcores : ∀ p ∈ patches, '\x7b' ∉ p.core)
    (hreplacements : ∀ p ∈ patches, '\x7b' ∈ p.replacement) :
    (Splice.original patches).count '\x7b' + patches.length ≤ (Splice.patched patches).count '\x7b' := by
  induction patches with
  | nil => exact Nat.le_refl _
  | cons p ps ih =>
    obtain ⟨hp, hps⟩ := List.forall_mem_cons.mp hcores
    obtain ⟨hput, hputs⟩ := List.forall_mem_cons.mp hreplacements
    have hcore := List.count_eq_zero.mpr hp
    have hreplacement := List.one_le_count_iff.mpr hput
    have hrest := ih hps hputs
    simp only [Splice.original_cons, Splice.patched_cons, List.count_append, List.length_cons]
    omega

/-- What is taken out of a source has no brace in it. -/
theorem not_mem_core_of_isCut {o : Outline} {r : Rewritten} {prologue added tail : List Char}
    {patches : List Patch} (h : outline file source = .ok o)
    (hcut : IsCut settings o source r prologue added patches tail) :
    ∀ p ∈ patches, '\x7b' ∉ p.core := by
  intro p hp hbrace
  have hmem := List.mem_map_of_mem (f := Patch.core) hp
  rw [hcut.cores_eq] at hmem
  obtain ⟨t, ht, hcore⟩ := List.mem_map.mp hmem
  obtain ⟨d, hd, rfl⟩ := exists_document_of_outline h
  rw [← hcore] at hbrace
  exact (isLiteralText_of_mem_placedTexts hd t (List.mem_filter.mp ht).1).not_mem (Text.mem_of_mem_trim hbrace)

/-- A rewrite changes its source just if something was taken out of it. -/
theorem code_ne_iff {r : Rewritten} (h : rewrite settings file source = .ok r) : r.code ≠ source ↔ r.records ≠ [] := by
  refine ⟨fun hcode hnil => hcode (code_of_records_eq_nil h hnil), fun hne heq => ?_⟩
  obtain ⟨o, prologue, patches, tail, ho, hcut⟩ := isCut_of_rewrite h hne
  have hreplacements (p : Patch) (hp : p ∈ patches) : '\x7b' ∈ p.replacement := by
    have hmem := List.mem_map_of_mem (f := Patch.replacement) hp
    rw [hcut.replacements_eq] at hmem
    obtain ⟨record, -, hcall⟩ := List.mem_map.mp hmem
    rw [← hcall, ← lookupCall_eq]
    exact List.mem_cons_self
  have hlength : patches.length = r.records.length := by simpa using congrArg List.length hcut.replacements_eq
  have hpos := List.length_pos_of_ne_nil hne
  have hmore := count_original_le (not_mem_core_of_isCut ho hcut) hreplacements
  have hcount := congrArg (fun code : String => code.toList.count '\x7b') heq
  simp only [hcut.code_eq, hcut.source_eq, List.count_append] at hcount
  omega

end Phrasebook.Rewrite

/-! ## 2. Scans -/

namespace Phrasebook.Scan

open Sink (addBytes)

/-- All comes of a scan that should, or nothing. -/
inductive IsAllOrNothing (w : Workspace) (sink : Path) (source : String) : Except DiskError (Scan × Workspace) → Prop where
  /-- A reason is told, the source is handed back, and the sink is as it was, there or not. -/
  | nothing (s : Scan) (w' : Workspace) (reason : Skip) (skipped_eq : s.skipped = some reason) (code_eq : s.code = source)
      (records_eq : s.records = []) (sink_eq : w'.disk.at? (w.placeOf sink) = w.disk.at? (w.placeOf sink)) :
      IsAllOrNothing w sink source (.ok (s, w'))
  /-- The lines of the records have come to the sink, and the source was changed if there are any. -/
  | all (s : Scan) (w' : Workspace) (skipped_eq : s.skipped = none)
      (bytesAt_eq : w'.disk.bytesAt (w.placeOf sink) = w.disk.bytesAt (w.placeOf sink) ++ Record.linesBytes s.records)
      (read_eq : s.records ≠ [] → w'.read sink = .ok (w.disk.bytesAt (w.placeOf sink) ++ Record.linesBytes s.records))
      (sink_eq : s.records = [] → w'.disk.at? (w.placeOf sink) = w.disk.at? (w.placeOf sink))
      (code_ne_iff : s.code ≠ source ↔ s.records ≠ []) :
      IsAllOrNothing w sink source (.ok (s, w'))

/-- The system stops a scan from writing after the first bytes of its records, and these make a difference to the sink. -/
structure TearsSink (limit : Option Nat) (settings : Settings) (w : Workspace) (sink : Path) (path : Path) (source : String)
    (r : Rewritten) (n : Nat) : Prop where
  rewritesAs : ∃ name, RewritesAs settings w path source name r
  rootFails_eq : rootFails w settings (w.absolute path) = false
  limit_eq : limit = some n
  lt_length : n < (Record.linesBytes r.records).length
  isNamed : (sink.isAbsolute || w.isHere) = true
  exists_added : ∃ w', addBytes w sink ((Record.linesBytes r.records).take n) = .ok w'
  differs : 0 < n ∨ w.disk.at? (w.placeOf sink) = none

section

variable {limit : Option Nat} {settings : Settings} {w w' : Workspace} {sink : Option Path} {path : Path}
  {name source : String} {r : Rewritten} {n : Nat}

theorem RewritesAs.unique {name' : String} {r' : Rewritten} (h : RewritesAs settings w path source name r)
    (h' : RewritesAs settings w path source name' r') : name = name' ∧ r = r' := by
  obtain rfl : name = name' := Option.some.inj (h.name_eq.symm.trans h'.name_eq)
  exact ⟨rfl, Except.ok.inj (h.rewrite_eq.symm.trans h'.rewrite_eq)⟩

theorem TearsSink.records_ne {p : Path} (h : TearsSink limit settings w p path source r n) : r.records ≠ [] := by
  intro hnil
  have hlt := h.lt_length
  rw [hnil] at hlt
  exact absurd hlt (Nat.not_lt_zero n)

/-- A scan of a file that can be named, and whose root can be found, is one with a limit to what it appends. -/
theorem scan_eq (hnamed : (path.isAbsolute || w.isHere) = true)
    (hfound : (Project.ineligible? settings (w.absolute path)).isNone = true → rootFails w settings (w.absolute path) = false) :
    scan limit w settings sink path source = .ok (runWith (Sink.appendUpTo limit) w settings sink path source) := by
  rw [scan, Workspace.absolute?, if_pos hnamed]
  dsimp only
  rw [if_neg]
  rw [Bool.and_eq_true, not_and, Bool.not_eq_true]
  exact hfound

theorem TearsSink.of_torn {p : Path} (hr : RewritesAs settings w path source name r)
    (hfound : rootFails w settings (w.absolute path) = false) (hlimit : limit = some n)
    (hlt : n < (Record.linesBytes r.records).length) (hnamed : (p.isAbsolute || w.isHere) = true) {e : Event}
    (hadd : addBytes (w.log e) p ((Record.linesBytes r.records).take n) = .ok w')
    (hdiffers : 0 < n ∨ w.disk.at? (w.placeOf p) = none) : TearsSink limit settings w p path source r n := by
  refine ⟨⟨name, hr⟩, hfound, hlimit, hlt, hnamed, ?_, hdiffers⟩
  rw [Sink.addBytes_log] at hadd
  cases h : addBytes w p ((Record.linesBytes r.records).take n) with
  | ok w₁ => exact ⟨w₁, rfl⟩
  | error e => rw [h] at hadd; cases hadd

/-- What is left of a scan whose records are cut off in the sink. -/
theorem scan_of_tearsSink (hnamed : (path.isAbsolute || w.isHere) = true)
    (h : TearsSink limit settings w (sink.getD (sinkOf settings w path)) path source r n) :
    ∃ w', scan limit w settings sink path source = .ok (skip source .failed, w') ∧
      w'.disk.at? (w.placeOf (sink.getD (sinkOf settings w path))) =
        some (.file (w.disk.bytesAt (w.placeOf (sink.getD (sinkOf settings w path))) ++
          (Record.linesBytes r.records).take n)) := by
  obtain ⟨name, hr⟩ := h.rewritesAs
  obtain ⟨w₁, hadd⟩ := h.exists_added
  have hadd {e : Event} : addBytes (w.log e) (sink.getD (sinkOf settings w path))
      ((Record.linesBytes r.records).take n) = .ok (w₁.log e) := by
    rw [Sink.addBytes_log, hadd]
    rfl
  rw [scan_eq hnamed fun _ => h.rootFails_eq]
  have hcomes := comes_runWith (Sink.appendUpTo limit) settings w sink path source
  generalize runWith (Sink.appendUpTo limit) w settings sink path source = result at hcomes
  cases hcomes with
  | left reason w' hnot hsame => exact absurd hr (hnot name r)
  | empty name' r' hr' hnil =>
    obtain ⟨rfl, rfl⟩ := hr.unique hr'
    exact absurd hnil h.records_ne
  | kept name' r' hr' hne w' happend =>
    obtain ⟨rfl, rfl⟩ := hr.unique hr'
    have hends := Sink.ends_appendUpTo limit (w.log (extracted name r)) (sink.getD (sinkOf settings w path)) hne
    rw [happend] at hends
    cases hends with
    | whole w' _ hroom => exact absurd (hroom n h.limit_eq) (Nat.not_le_of_lt h.lt_length)
  | broken name' r' hr' hne w' e happend =>
    obtain ⟨rfl, rfl⟩ := hr.unique hr'
    have hends := Sink.ends_appendUpTo limit (w.log (extracted name r)) (sink.getD (sinkOf settings w path)) hne
    rw [happend] at hends
    cases hends with
    | torn m w' hlimit _ _ hadd' =>
      obtain rfl : n = m := Option.some.inj (h.limit_eq.symm.trans hlimit)
      have hat := Sink.at?_addBytes hadd'
      exact ⟨_, rfl, hat⟩
    | failed e hnot => exact absurd hadd (hnot n h.limit_eq h.lt_length h.isNamed _)

/-- A sink stays as it is if nothing is added to it, as long as it is there. -/
theorem at?_addBytes_nil {p : Path} (hadd : addBytes w p [] = .ok w') (hthere : w.disk.at? (w.placeOf p) ≠ none) :
    w'.disk.at? (w.placeOf p) = w.disk.at? (w.placeOf p) := by
  have hat := Sink.at?_addBytes hadd
  cases hbefore : w.disk.at? (w.placeOf p) with
  | none => exact absurd hbefore hthere
  | some item =>
    cases item with
    | file content => rw [hat, Disk.bytesAt_of_file hbefore, List.append_nil]
    | directory =>
      rw [(Sink.changesOnly_addBytes hadd).disk.directory _ hbefore] at hat
      cases hat

/-- A scan whose records are not cut off in the sink takes all that comes of it, or nothing. -/
theorem isAllOrNothing_runWith
    (hfound : (Project.ineligible? settings (w.absolute path)).isNone = true → rootFails w settings (w.absolute path) = false)
    (hwhole : ∀ r n, ¬ TearsSink limit settings w (sink.getD (sinkOf settings w path)) path source r n) :
    IsAllOrNothing w (sink.getD (sinkOf settings w path)) source
      (.ok (runWith (Sink.appendUpTo limit) w settings sink path source)) := by
  have hcomes := comes_runWith (Sink.appendUpTo limit) settings w sink path source
  generalize runWith (Sink.appendUpTo limit) w settings sink path source = result at hcomes
  cases hcomes with
  | left reason w' hnot hsame => exact .nothing _ _ reason rfl rfl rfl (by rw [hsame.disk])
  | empty name r hr hnil =>
    refine .all _ _ rfl ?_ (fun hne => absurd hnil hne) (fun _ => rfl) (Rewrite.code_ne_iff hr.rewrite_eq)
    dsimp only
    rw [hnil]
    exact (List.append_nil _).symm
  | kept name r hr hne w' happend =>
    have hends := Sink.ends_appendUpTo limit (w.log (extracted name r)) (sink.getD (sinkOf settings w path)) hne
    rw [happend] at hends
    cases hends with
    | whole w' hall _ =>
      have hbytes := Sink.bytesAt_append hall
      have hread := Sink.read_append hall hne
      exact .all _ _ rfl hbytes (fun _ => hread) (fun hnil => absurd hnil hne) (Rewrite.code_ne_iff hr.rewrite_eq)
  | broken name r hr hne w' e happend =>
    have hends := Sink.ends_appendUpTo limit (w.log (extracted name r)) (sink.getD (sinkOf settings w path)) hne
    rw [happend] at hends
    refine .nothing _ _ .failed rfl rfl rfl ?_
    cases hends with
    | failed e hnot => rfl
    | torn n w' hlimit hlt hnamed hadd =>
      -- what is cut off makes no difference, so nothing was added to a sink that was there
      have hroot := hfound (by rw [hr.eligible]; rfl)
      have hsame := mt (TearsSink.of_torn hr hroot hlimit hlt hnamed hadd) (hwhole r n)
      rw [not_or, Nat.pos_iff_ne_zero, not_not] at hsame
      obtain ⟨rfl, hthere⟩ := hsame
      have hat := at?_addBytes_nil hadd hthere
      exact hat

/-- All comes of a scan that should or nothing, just if the file can be named and no records are cut off in the sink. -/
theorem isAllOrNothing_scan_iff (limit : Option Nat) (settings : Settings) (w : Workspace) (sink : Option Path) (path : Path)
    (source : String) :
    IsAllOrNothing w (sink.getD (sinkOf settings w path)) source (scan limit w settings sink path source) ↔
      (path.isAbsolute || w.isHere) = true ∧
        ∀ r n, ¬ TearsSink limit settings w (sink.getD (sinkOf settings w path)) path source r n := by
  by_cases hnamed : (path.isAbsolute || w.isHere) = true
  · rw [and_iff_right hnamed]
    constructor
    · rintro hwhole r n htears
      obtain ⟨w', hscan, hat⟩ := scan_of_tearsSink hnamed htears
      rw [hscan] at hwhole
      cases hwhole with
      | nothing _ _ _ _ _ _ hsame =>
        -- then the sink was there, and no byte was added to it
        rw [hat] at hsame
        have hcontent := Disk.bytesAt_of_file hsame.symm
        rw [List.self_eq_append_right, List.take_eq_nil_iff] at hcontent
        have hlines := List.ne_nil_of_length_pos (Nat.lt_of_le_of_lt (Nat.zero_le n) htears.lt_length)
        have hzero := hcontent.resolve_right hlines
        rcases htears.differs with hpos | hnone
        · exact absurd hzero (Nat.ne_of_gt hpos)
        · rw [hnone] at hsame
          cases hsame
      | all _ _ hskipped => cases hskipped
    · intro hwhole
      by_cases hroot : (Project.ineligible? settings (w.absolute path)).isNone = true →
          rootFails w settings (w.absolute path) = false
      · rw [scan_eq hnamed hroot]
        exact isAllOrNothing_runWith hroot hwhole
      · rw [Classical.not_imp, Bool.not_eq_false] at hroot
        rw [scan, Workspace.absolute?, if_pos hnamed]
        dsimp only
        rw [if_pos (by rw [hroot.1, hroot.2]; rfl)]
        exact .nothing _ _ .failed rfl rfl rfl rfl
  · refine iff_of_false (fun hwhole => ?_) fun h => hnamed h.1
    rw [scan, Workspace.absolute?, if_neg hnamed] at hwhole
    cases hwhole

end

/-! A working directory that is gone, and a disk that takes no more bytes. -/

namespace Sample

def gone : Workspace := { disk := [], directory := ⟨"/", ["app"]⟩, events := [] }

def full : Workspace := { disk := [], directory := ⟨"/", []⟩, events := [] }

def page : Path := Path.ofString "a.jsx"

theorem exists_tearsSink :
    ∃ r, TearsSink (some 0) Settings.standard full (sinkOf Settings.standard full page) page "<p>Hi</p>" r 0 := by
  obtain ⟨d, hd, htaken⟩ : ∃ d, Source.Document.ofChars? (Rewrite.dialectOf "a.jsx") "<p>Hi</p>".toList = some d ∧
      decide (Rewrite.takenTexts (Source.Outline.ofDocument d) ≠ []) = true :=
    Option.any_eq_true _ _ |>.mp (by decide +kernel)
  obtain ⟨r, hr, hlength, -⟩ := Rewrite.exists_rewrite_isCut Settings.standard (Rewrite.outline_of_ofChars? hd)
  have hpos := List.length_pos_of_ne_nil (of_decide_eq_true htaken)
  rw [← hlength] at hpos
  refine ⟨r, ⟨"a.jsx", by decide +kernel, by decide +kernel, hr⟩, by decide +kernel, rfl, ?_, by decide +kernel, ?_,
    .inr (by decide +kernel)⟩
  · exact List.length_pos_of_ne_nil (Record.linesBytes_ne_nil (List.ne_nil_of_length_pos hpos))
  · have hadd : (addBytes full (sinkOf Settings.standard full page) []).isOk = true := by decide +kernel
    cases h : addBytes full (sinkOf Settings.standard full page) [] with
    | ok w' => exact ⟨w', h⟩
    | error e => rw [h] at hadd; cases hadd

end Sample

open Sample in
theorem not_isAllOrNothing_of_gone_of_full :
    scan none gone Settings.standard none page "<p>Hi</p>" = .error .missing ∧
      ¬ IsAllOrNothing gone (sinkOf Settings.standard gone page) "<p>Hi</p>"
        (scan none gone Settings.standard none page "<p>Hi</p>") ∧
      ¬ IsAllOrNothing full (sinkOf Settings.standard full page) "<p>Hi</p>"
        (scan (some 0) full Settings.standard none page "<p>Hi</p>") := by
  have hgone : (page.isAbsolute || gone.isHere) = false := by decide +kernel
  refine ⟨?_, fun hwhole => ?_, fun hwhole => ?_⟩
  · rw [scan, Workspace.absolute?, hgone]
    rfl
  · have hnamed := (isAllOrNothing_scan_iff none Settings.standard gone none page "<p>Hi</p>").mp hwhole
    exact absurd (hgone.symm.trans hnamed.1) (by decide)
  · obtain ⟨r, htears⟩ := exists_tearsSink
    exact ((isAllOrNothing_scan_iff (some 0) Settings.standard full none page "<p>Hi</p>").mp hwhole).2 r 0 htears

end Phrasebook.Scan
