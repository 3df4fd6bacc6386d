import Mathlib.Data.List.TakeWhile
import Phrasebook.CharRef.Decode
import Phrasebook.Proofs.Utf8
import Phrasebook.Text.Blank

/-!
# References and the blanks around them

No reference reaches into the blanks that stand at the ends of a text: what the blanks stand for is themselves, and what
is between them stands for the same with or without them. A name may run on into blanks that do not end it, but no known
name holds a blank, so the longest known name is the same.

Results:
1. `plain_of_named?`: known names have at least two characters, and no blank is among them.
2. `decode_blank_append`: blanks before a text.
3. `decode_append_blank`: blanks after a text.
-/

namespace Phrasebook.CharRef

open Text (isBlank)

/-! ## 1. Names -/

/-- Whether the bytes of a name are those of two or more letters, digits or signs that are no blanks. -/
def hasPlainBytes (name : String) : Bool :=
  let bytes := name.toByteArray.data.toList
  Nat.ble 2 bytes.length && bytes.all fun b => Nat.ble 0x30 b.toNat && Nat.ble b.toNat 0x7a

theorem names_havePlainBytes : ∀ entry ∈ names, hasPlainBytes entry.1 = true := by decide +kernel

theorem bytes_ofList (cs : List Char) : (String.ofList cs).toByteArray.data.toList = Text.Utf8.encode cs := by
  rw [← String.utf8Encode_toList, String.toList_ofList, List.utf8Encode, Text.Utf8.encode, List.data_toByteArray]

/-- A character of bytes below 0x80 is one such byte. -/
theorem encodeChar_of_lt {c : Char} (h : ∀ b ∈ String.utf8EncodeChar c, b.toNat < 0x80) :
    c.toNat < 0x80 ∧ (String.utf8EncodeChar c).length = 1 := by
  obtain ⟨b, hb⟩ := List.exists_mem_of_ne_nil _ (List.ne_nil_of_length_pos
    (by rw [String.length_utf8EncodeChar]; exact c.utf8Size_pos))
  have hcode := Text.Utf8.mem_encodeChar_lt (h b hb) hb
  have hlt : c.toNat < 0x80 := hcode ▸ h b hb
  refine ⟨hlt, ?_⟩
  rw [String.length_utf8EncodeChar, Char.utf8Size_eq_one_iff, UInt32.le_iff_toNat_le]
  exact Nat.le_of_lt_succ hlt

theorem length_encode_of_lt {cs : List Char} (h : ∀ b ∈ Text.Utf8.encode cs, b.toNat < 0x80) :
    (Text.Utf8.encode cs).length = cs.length := by
  induction cs with
  | nil => rfl
  | cons c cs ih =>
    rw [Text.Utf8.encode, List.flatMap_cons, ← Text.Utf8.encode, List.forall_mem_append] at h
    rw [Text.Utf8.encode, List.flatMap_cons, ← Text.Utf8.encode, List.length_append, ih h.2, (encodeChar_of_lt h.1).2,
      List.length_cons, Nat.add_comm]

/-- Known names hold no blanks, and they have more than one character. -/
theorem plain_of_named? {name cs : List Char} (h : named? name = some cs) :
    (∀ c ∈ name, isBlank c = false) ∧ 2 ≤ name.length := by
  obtain ⟨entry, hfind, -⟩ := Option.map_eq_some_iff.mp h
  have hname := List.find?_some hfind
  rw [beq_iff_eq] at hname
  have hplain := names_havePlainBytes entry (List.mem_of_find?_eq_some hfind)
  rw [hasPlainBytes, hname, bytes_ofList] at hplain
  simp only [Bool.and_eq_true, Nat.ble_eq, List.all_eq_true] at hplain
  obtain ⟨htwo, hrange⟩ := hplain
  have hlt : ∀ b ∈ Text.Utf8.encode name, b.toNat < 0x80 := fun b hb => Nat.lt_of_le_of_lt (hrange b hb).2 (by decide)
  refine ⟨fun c hc => ?_, by rwa [length_encode_of_lt hlt] at htwo⟩
  have hmem : ∀ b ∈ String.utf8EncodeChar c, b ∈ Text.Utf8.encode name := fun b hb => List.mem_flatMap.mpr ⟨c, hc, hb⟩
  obtain ⟨b, hb⟩ := List.exists_mem_of_ne_nil _ (List.ne_nil_of_length_pos
    (by rw [String.length_utf8EncodeChar]; exact c.utf8Size_pos))
  have hcode := Text.Utf8.mem_encodeChar_lt (hlt b (hmem b hb)) hb
  obtain ⟨hlow, hhigh⟩ := hrange b (hmem b hb)
  rw [hcode] at hlow hhigh
  simp only [isBlank]
  rw [Bool.eq_false_iff]
  simp only [ne_eq, Bool.or_eq_true, Bool.and_eq_true, decide_eq_true_eq, beq_iff_eq]
  omega

theorem named?_eq_none {name : List Char} {c : Char} (hc : c ∈ name) (hblank : isBlank c = true) :
    named? name = none := by
  cases h : named? name with
  | none => rfl
  | some cs => exact absurd ((plain_of_named? h).1 c hc) (by simp [hblank])

theorem longestName_add_two (text : List Char) (n : Nat) :
    longestName text (n + 2) =
      match named? (text.take (n + 2)) with
      | some cs => some (cs ++ text.drop (n + 2))
      | none => longestName text (n + 1) := rfl

/-- What a name stands for is what the longest known name at its front does. -/
theorem ofName_eq (name : List Char) : ofName name = (longestName name name.length).getD ('&' :: name) := by
  have hnone (hlt : name.length < 2) : named? name = none := by
    cases h : named? name with
    | none => rfl
    | some cs => exact absurd (plain_of_named? h).2 (Nat.not_le_of_lt hlt)
  rw [ofName]
  match hlength : name.length with
  | 0 => rw [hnone (by omega)]
  | 1 =>
    rw [hnone (by omega)]
    rfl
  | n + 2 =>
    rw [longestName_add_two, List.take_of_length_le (Nat.le_of_eq hlength),
      List.drop_of_length_le (Nat.le_of_eq hlength)]
    cases named? name with
    | some cs => exact (List.append_nil cs).symm
    | none => rfl

/-! ## 2. Names and blanks -/

/-- Blanks that follow a name take no part in it. -/
theorem longestName_append_of_le {name blanks : List Char} {n : Nat} (h : n ≤ name.length) :
    longestName (name ++ blanks) n = (longestName name n).map (· ++ blanks) := by
  induction n with
  | zero => rfl
  | succ n ih =>
    cases n with
    | zero => rfl
    | succ n =>
      rw [longestName_add_two, longestName_add_two, List.take_append_of_le_length h, List.drop_append_of_le_length h,
        ih (Nat.le_of_succ_le h)]
      cases named? (name.take (n + 2)) with
      | some cs => exact congrArg some (List.append_assoc _ _ _).symm
      | none => rfl

theorem longestName_append_blanks {name blanks : List Char} (hblanks : ∀ c ∈ blanks, isBlank c = true) (n : Nat)
    (hn : n ≤ blanks.length) :
    longestName (name ++ blanks) (name.length + n) = longestName (name ++ blanks) name.length := by
  induction n with
  | zero => rfl
  | succ n ih =>
    rw [← ih (Nat.le_of_succ_le hn)]
    rcases Nat.eq_zero_or_pos (name.length + n) with hzero | hpos
    · rw [← Nat.add_assoc, hzero]
      rfl
    · obtain ⟨m, hm⟩ := Nat.exists_eq_succ_of_ne_zero (Nat.pos_iff_ne_zero.mp hpos)
      -- the longer name holds a blank
      have hmem : blanks[n] ∈ (name ++ blanks).take (name.length + (n + 1)) := by
        rw [List.take_length_add_append]
        exact List.mem_append_right _ (List.mem_take_iff_getElem.mpr ⟨n, by omega, rfl⟩)
      have hnone := named?_eq_none hmem (hblanks _ (List.getElem_mem _))
      rw [← Nat.add_assoc, hm] at hnone ⊢
      rw [longestName_add_two, hnone]

/-- Blanks after a name stand for themselves. -/
theorem ofName_append {name blanks : List Char} (hblanks : ∀ c ∈ blanks, isBlank c = true) :
    ofName (name ++ blanks) = ofName name ++ blanks := by
  rw [ofName_eq, ofName_eq, List.length_append, longestName_append_blanks hblanks _ (Nat.le_refl _),
    longestName_append_of_le (Nat.le_refl _)]
  cases longestName name name.length with
  | some cs => rfl
  | none => rfl

/-! ## 3. References and blanks -/

theorem not_isHexDigit_of_isBlank (c : Char) (h : isBlank c = true) : isHexDigit c = false := by
  rw [Bool.eq_false_iff]
  intro hdigit
  simp only [isBlank, Bool.or_eq_true, Bool.and_eq_true, decide_eq_true_eq, beq_iff_eq] at h
  simp only [isHexDigit, Char.isDigit, Bool.or_eq_true, Bool.and_eq_true, decide_eq_true_eq, ge_iff_le, Char.le_def,
    UInt32.le_iff_toNat_le, Char.reduceVal, UInt32.reduceToNat] at hdigit
  rw [Char.toNat] at h
  omega

theorem not_isDigit_of_isBlank (c : Char) (h : isBlank c = true) : c.isDigit = false := by
  have hhex := not_isHexDigit_of_isBlank c h
  rw [isHexDigit, Bool.or_assoc, Bool.or_eq_false_iff] at hhex
  exact hhex.1

theorem length_closed_le (run rest : List Char) : (closed run rest).length ≤ run.length + rest.length := by
  rw [closed]
  split
  · rename_i h
    cases rest with
    | nil => exact absurd h (by decide)
    | cons c rest =>
      rw [List.length_append, List.length_singleton, List.length_cons]
      omega
  · exact Nat.le_add_right _ _

theorem length_takeWhile_add_dropWhile (p : Char → Bool) (cs : List Char) :
    (cs.takeWhile p).length + (cs.dropWhile p).length = cs.length := by
  rw [← List.length_append, List.takeWhile_append_dropWhile]

theorem reference_number (r : List Char) :
    reference ('#' :: r) =
      if !(r.takeWhile Char.isDigit).isEmpty then
        if maxDigits < (r.takeWhile Char.isDigit).length then .endless
        else .found (1 + (closed (r.takeWhile Char.isDigit) (r.dropWhile Char.isDigit)).length)
          (ofNumber (value 10 (r.takeWhile Char.isDigit)))
      else match r with
        | x :: r' =>
          if (x == 'x' || x == 'X') && !(r'.takeWhile isHexDigit).isEmpty then
            .found (2 + (closed (r'.takeWhile isHexDigit) (r'.dropWhile isHexDigit)).length)
              (ofNumber (value 16 (r'.takeWhile isHexDigit)))
          else .none
        | [] => .none := rfl

/-- The characters after an ampersand that may be those of a name. -/
def nameRun (cs : List Char) : List Char := (cs.take maxName).takeWhile fun c => !endsName c

theorem nameRun_front (cs : List Char) : nameRun cs <+: cs := (List.takeWhile_prefix _).trans (List.take_prefix _ _)

theorem reference_of_ne {cs : List Char} (h : cs.head? ≠ some '#') :
    reference cs =
      if (nameRun cs).isEmpty then .none
      else .found (closed (nameRun cs) (cs.drop (nameRun cs).length)).length
        (ofName (closed (nameRun cs) (cs.drop (nameRun cs).length))) := by
  rw [reference.eq_def]
  split
  · exact absurd rfl h
  · rfl

/-- A reference is part of the text that it is at the front of. -/
theorem length_le_of_reference {cs replacement : List Char} {n : Nat} (h : reference cs = .found n replacement) :
    n ≤ cs.length := by
  by_cases hhash : cs.head? = some '#'
  · obtain ⟨r, rfl⟩ := List.head?_eq_some_iff.mp hhash
    rw [reference_number] at h
    split at h
    · split at h
      · exact absurd h (by simp)
      · have hle := length_closed_le (r.takeWhile Char.isDigit) (r.dropWhile Char.isDigit)
        rw [length_takeWhile_add_dropWhile] at hle
        cases h
        rw [List.length_cons]
        omega
    · split at h
      · rename_i x r' _
        split at h
        · have hle := length_closed_le (r'.takeWhile isHexDigit) (r'.dropWhile isHexDigit)
          rw [length_takeWhile_add_dropWhile] at hle
          cases h
          rw [List.length_cons, List.length_cons]
          omega
        · exact absurd h (by simp)
      · exact absurd h (by simp)
  · rw [reference_of_ne hhash] at h
    split at h
    · exact absurd h (by simp)
    · have hle := length_closed_le (nameRun cs) (cs.drop (nameRun cs).length)
      have hfront := (nameRun_front cs).length_le
      cases h
      rw [List.length_drop] at hle
      omega

section Blanks

variable {blanks : List Char} (hblanks : ∀ c ∈ blanks, isBlank c = true)

include hblanks

theorem takeWhile_append_blanks {p : Char → Bool} (hp : ∀ c, isBlank c = true → p c = false) (cs : List Char) :
    (cs ++ blanks).takeWhile p = cs.takeWhile p := by
  have hnil : blanks.takeWhile p = [] := by
    cases blanks with
    | nil => rfl
    | cons c blanks => rw [List.takeWhile_cons, hp c (hblanks c List.mem_cons_self)]; rfl
  rw [List.takeWhile_append, hnil, List.append_nil]
  split
  · rename_i hall
    exact (List.takeWhile_prefix p).eq_of_length hall |>.symm
  · rfl

theorem dropWhile_append_blanks {p : Char → Bool} (hp : ∀ c, isBlank c = true → p c = false) (cs : List Char) :
    (cs ++ blanks).dropWhile p = cs.dropWhile p ++ blanks := by
  have h := List.takeWhile_append_dropWhile (p := p) (l := cs ++ blanks)
  rw [takeWhile_append_blanks hblanks hp] at h
  have h' := List.takeWhile_append_dropWhile (p := p) (l := cs)
  refine List.append_cancel_left (h.trans ?_)
  rw [← List.append_assoc, h']

/-- A blank is no semicolon. -/
theorem closed_append_blanks (run rest : List Char) : closed run (rest ++ blanks) = closed run rest := by
  rw [closed, closed]
  cases rest with
  | cons c rest => rfl
  | nil =>
    cases blanks with
    | nil => rfl
    | cons c blanks =>
      have hne : c ≠ ';' := by
        rintro rfl
        exact absurd (hblanks _ List.mem_cons_self) (by decide)
      rw [if_neg (by simpa using hne), if_neg (by simp)]

theorem reference_number_append_blanks (r : List Char) : reference ('#' :: (r ++ blanks)) = reference ('#' :: r) := by
  rw [reference_number, reference_number, takeWhile_append_blanks hblanks not_isDigit_of_isBlank,
    dropWhile_append_blanks hblanks not_isDigit_of_isBlank, closed_append_blanks hblanks]
  split
  · rfl
  · cases r with
    | nil =>
      cases blanks with
      | nil => rfl
      | cons c blanks =>
        have hne {d : Char} (hd : isBlank d = false) : (c == d) = false := by
          rw [beq_eq_false_iff_ne]
          rintro rfl
          exact absurd (hblanks _ List.mem_cons_self) (by simp [hd])
        simp only [List.nil_append, hne (d := 'x') (by decide), hne (d := 'X') (by decide), Bool.or_self, Bool.false_and,
          Bool.false_eq_true, if_false]
    | cons x r =>
      simp only [List.cons_append]
      rw [takeWhile_append_blanks hblanks not_isHexDigit_of_isBlank,
        dropWhile_append_blanks hblanks not_isHexDigit_of_isBlank, closed_append_blanks hblanks]

omit hblanks in
/-- A name ends where it ends without blanks, or it takes some of them along if nothing else comes before them. -/
theorem nameRun_append_blanks (cs blanks : List Char) :
    nameRun (cs ++ blanks) = nameRun cs ∨
      nameRun cs = cs ∧ ∃ k ≤ blanks.length, nameRun (cs ++ blanks) = cs ++ blanks.take k := by
  rw [nameRun, List.take_append, List.takeWhile_append]
  split
  · rename_i hall
    have htake : nameRun cs = cs.take maxName := (List.takeWhile_prefix _).eq_of_length hall
    by_cases hlength : cs.length ≤ maxName
    · rw [List.take_of_length_le hlength] at htake ⊢
      refine .inr ⟨htake, ?_⟩
      have hfront := (List.takeWhile_prefix (fun c => !endsName c)).trans (List.take_prefix (maxName - cs.length) blanks)
      exact ⟨_, hfront.length_le, congrArg (cs ++ ·) (List.prefix_iff_eq_take.mp hfront)⟩
    · have hzero : maxName - cs.length = 0 := by omega
      rw [hzero, List.take_zero, List.takeWhile_nil, List.append_nil]
      exact .inl htake.symm
  · exact .inl rfl

/-- Where a text with blanks after it has another reference than without them, the reference is all of the text, and it
takes blanks along. -/
theorem reference_append_blanks {cs : List Char} (hne : cs ≠ []) :
    reference (cs ++ blanks) = reference cs ∨ ∃ replacement k, reference cs = .found cs.length replacement ∧
      k ≤ blanks.length ∧ reference (cs ++ blanks) = .found (cs.length + k) (replacement ++ blanks.take k) := by
  by_cases hhash : cs.head? = some '#'
  · obtain ⟨r, rfl⟩ := List.head?_eq_some_iff.mp hhash
    exact .inl (reference_number_append_blanks hblanks r)
  · have hhash' : (cs ++ blanks).head? ≠ some '#' := by
      obtain ⟨c, cs, rfl⟩ := List.exists_cons_of_ne_nil hne
      exact hhash
    rw [reference_of_ne hhash', reference_of_ne hhash]
    rcases nameRun_append_blanks cs blanks with hrun | ⟨hrun, k, hk, hlong⟩
    · rw [hrun, List.drop_append_of_le_length (nameRun_front cs).length_le, closed_append_blanks hblanks]
      exact .inl rfl
    · have hclosed : closed (cs ++ blanks.take k) (blanks.drop k) = cs ++ blanks.take k :=
        closed_append_blanks (fun c hc => hblanks c (List.mem_of_mem_drop hc)) (cs ++ blanks.take k) []
      have hdrop : (cs ++ blanks).drop (cs ++ blanks.take k).length = blanks.drop k := by
        rw [List.length_append, List.drop_length_add_append, List.length_take_of_le hk]
      have hname : ofName (cs ++ blanks.take k) = ofName cs ++ blanks.take k :=
        ofName_append fun c hc => hblanks c (List.mem_of_mem_take hc)
      refine .inr ⟨ofName cs, k, ?_, hk, ?_⟩
      · rw [hrun, if_neg (by simpa using hne), List.drop_length]
        rfl
      · rw [hlong, if_neg (by simp [hne]), hdrop, hclosed, hname, List.length_append, List.length_take_of_le hk]

/-- An ampersand before blanks alone is no reference, or one that stands for itself. -/
theorem reference_blanks :
    reference blanks = .none ∨ ∃ k ≤ blanks.length, reference blanks = .found k ('&' :: blanks.take k) := by
  have hhash : blanks.head? ≠ some '#' := by
    cases blanks with
    | nil => simp
    | cons c blanks =>
      rw [List.head?_cons, ne_eq, Option.some.injEq]
      rintro rfl
      exact absurd (hblanks _ List.mem_cons_self) (by decide)
  rw [reference_of_ne hhash]
  split
  · exact .inl rfl
  · have hfront := nameRun_front blanks
    have hrun := List.prefix_iff_eq_take.mp hfront
    generalize nameRun blanks = run at hfront hrun
    have hclosed : closed run (blanks.drop run.length) = run :=
      closed_append_blanks (fun c hc => hblanks c (List.mem_of_mem_drop hc)) run []
    have hname : ofName run = '&' :: run := by
      have h : ofName ([] ++ run) = ofName [] ++ run := ofName_append fun c hc => hblanks c (hfront.subset hc)
      rwa [List.nil_append, ofName_eq []] at h
    refine .inr ⟨run.length, hfront.length_le, ?_⟩
    rw [hclosed, hname, ← hrun]

/-! ## 4. Texts -/

omit hblanks in
theorem decodeFrom_length_add (cs ds : List Char) (n : Nat) : decodeFrom (cs.length + n) (cs ++ ds) = decodeFrom n ds := by
  induction cs with
  | nil => rw [List.length_nil, Nat.zero_add]; rfl
  | cons c cs ih => rw [List.length_cons, Nat.add_right_comm, List.cons_append, decodeFrom, ih]

omit hblanks in
theorem ne_ampersand_of_isBlank {c : Char} (h : isBlank c = true) : (c == '&') = false := by
  rw [beq_eq_false_iff_ne]
  rintro rfl
  exact absurd h (by decide)

/-- Blanks before a text stand for themselves. -/
theorem decode_blank_append (cs : List Char) : decode (blanks ++ cs) = (decode cs).map (blanks ++ ·) := by
  induction blanks with
  | nil =>
    rw [List.nil_append]
    exact Option.map_id'.symm
  | cons c blanks ih =>
    obtain ⟨hc, hrest⟩ := List.forall_mem_cons.mp hblanks
    have hrest := ih hrest
    rw [decode] at hrest ⊢
    rw [List.cons_append, decodeFrom, ne_ampersand_of_isBlank hc, if_neg Bool.false_ne_true, hrest, Option.map_map]
    rfl

theorem decode_blanks : decode blanks = some blanks := by
  have h := decode_blank_append hblanks []
  rw [List.append_nil] at h
  rw [h]
  exact congrArg some (List.append_nil blanks)

theorem decodeFrom_blanks {k : Nat} (hk : k ≤ blanks.length) : decodeFrom k blanks = some (blanks.drop k) := by
  have h := decodeFrom_length_add (blanks.take k) (blanks.drop k) 0
  rw [List.take_append_drop, List.length_take_of_le hk, Nat.add_zero] at h
  rw [h]
  exact decode_blanks fun c hc => hblanks c (List.mem_of_mem_drop hc)

theorem decodeFrom_append_blank {n : Nat} {cs : List Char} (hn : n ≤ cs.length) :
    decodeFrom n (cs ++ blanks) = (decodeFrom n cs).map (· ++ blanks) := by
  induction cs generalizing n with
  | nil =>
    rw [Nat.le_zero.mp hn, List.nil_append]
    exact decode_blanks hblanks
  | cons c cs ih =>
    cases n with
    | succ n =>
      rw [List.cons_append, decodeFrom, decodeFrom]
      exact ih (Nat.le_of_succ_le_succ hn)
    | zero =>
      rw [List.cons_append, decodeFrom, decodeFrom, ih (Nat.zero_le _)]
      split
      · rename_i hampersand
        rcases eq_or_ne cs [] with rfl | hne
        · rcases reference_blanks hblanks with hnone | ⟨k, hk, hfound⟩
          · rw [List.nil_append, hnone]
            rfl
          · rw [List.nil_append, hfound, beq_iff_eq.mp hampersand]
            dsimp only
            rw [decodeFrom_blanks hblanks hk, Option.map_some, List.cons_append, List.take_append_drop]
            rfl
        · rcases reference_append_blanks hblanks hne with hsame | ⟨replacement, k, hshort, hk, hlong⟩
          · rw [hsame]
            split
            · rw [Option.map_map, Option.map_map]
              rfl
            · rfl
            · rename_i hfound
              rw [ih (length_le_of_reference hfound), Option.map_map, Option.map_map]
              exact congrArg (Option.map · _) (funext fun ds => (List.append_assoc _ _ _).symm)
          · have hwhole := decodeFrom_length_add cs [] 0
            rw [List.append_nil, Nat.add_zero] at hwhole
            rw [hshort, hlong]
            dsimp only
            rw [decodeFrom_length_add, decodeFrom_blanks hblanks hk, hwhole]
            simp only [decodeFrom, Option.map_some, List.append_assoc, List.take_append_drop, List.nil_append]
      · rw [Option.map_map, Option.map_map]
        rfl

/-- Blanks after a text stand for themselves. -/
theorem decode_append_blank (cs : List Char) : decode (cs ++ blanks) = (decode cs).map (· ++ blanks) :=
  decodeFrom_append_blank hblanks (Nat.zero_le _)

end Blanks

end Phrasebook.CharRef
