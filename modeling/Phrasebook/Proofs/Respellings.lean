import Mathlib.Logic.Relation
import Phrasebook.Proofs.Records
import Phrasebook.Proofs.Squeezing

/-!
# Spellings of one record

The line of a record is the normal form of all lines that spell it. A record that was read from some line reads back
from its own line, and is written there again as it stands. Lines whose objects have no name twice hold the same record
if they differ in blanks between their parts, in the order of members, at any depth, and in the names of the text and
the key of the record, which have two names each.

Results:
1. `Json.Reordered`: one value with the members of its objects in another order.
2. `member?_reordered`: members are found in it all the same.
3. `ofJson_reordered`, `ofJson_renamed`: it is the same record, and so it is under the other names.
4. `ofLine_lineBytes`, `ofText_of_spellAlike`: one record has one line, and its line holds it.
-/

namespace Phrasebook

namespace Json

/-! ## 1. Order -/

/-- One value is the other but for the order of the members of its objects. -/
inductive Reordered : Json → Json → Prop
  | refl (j : Json) : Reordered j j
  | members {ms ms' : List (String × Json)} : ms.Perm ms' → Reordered (.object ms) (.object ms')
  | inItem {j k : Json} (front back : List Json) :
      Reordered j k → Reordered (.array (front ++ j :: back)) (.array (front ++ k :: back))
  | inMember {j k : Json} (front : List (String × Json)) (name : String) (back : List (String × Json)) :
      Reordered j k → Reordered (.object (front ++ (name, j) :: back)) (.object (front ++ (name, k) :: back))

theorem Reordered.symm {j k : Json} (h : Reordered j k) : Reordered k j := by
  induction h with
  | refl j => exact .refl j
  | members hperm => exact .members hperm.symm
  | inItem front back _ ih => exact .inItem front back ih
  | inMember front name back _ ih => exact .inMember front name back ih

def names (ms : List (String × Json)) : List String := ms.map Prod.fst

mutual
/-- No object in a value has a name twice. -/
def HasUniqueNames : Json → Prop
  | array items => HaveUniqueNames items
  | object members => (names members).Nodup ∧ MembersHaveUniqueNames members
  | _ => True
/-- No object in some values has a name twice. -/
def HaveUniqueNames : List Json → Prop
  | [] => True
  | j :: js => HasUniqueNames j ∧ HaveUniqueNames js
/-- No object in some members has a name twice. -/
def MembersHaveUniqueNames : List (String × Json) → Prop
  | [] => True
  | (_, j) :: ms => HasUniqueNames j ∧ MembersHaveUniqueNames ms
end

theorem haveUniqueNames_iff (items : List Json) : HaveUniqueNames items ↔ ∀ j ∈ items, j.HasUniqueNames := by
  induction items with
  | nil => simp [HaveUniqueNames]
  | cons j js ih => rw [HaveUniqueNames, ih, List.forall_mem_cons]

theorem membersHaveUniqueNames_iff (ms : List (String × Json)) :
    MembersHaveUniqueNames ms ↔ ∀ m ∈ ms, m.2.HasUniqueNames := by
  induction ms with
  | nil => simp [MembersHaveUniqueNames]
  | cons m ms ih => rw [MembersHaveUniqueNames, ih, List.forall_mem_cons]

theorem hasUniqueNames_array (items : List Json) :
    (array items).HasUniqueNames ↔ ∀ j ∈ items, j.HasUniqueNames := by
  rw [HasUniqueNames, haveUniqueNames_iff]

theorem hasUniqueNames_object (ms : List (String × Json)) :
    (object ms).HasUniqueNames ↔ (names ms).Nodup ∧ ∀ m ∈ ms, m.2.HasUniqueNames := by
  rw [HasUniqueNames, membersHaveUniqueNames_iff]

/-- Another order gives no object a name twice. -/
theorem HasUniqueNames.reordered {j k : Json} (hj : j.HasUniqueNames) (h : Reordered j k) : k.HasUniqueNames := by
  induction h with
  | refl => exact hj
  | members hperm =>
    rw [hasUniqueNames_object] at hj ⊢
    exact ⟨(hperm.map Prod.fst).nodup_iff.mp hj.1, fun m hm => hj.2 m (hperm.mem_iff.mpr hm)⟩
  | inItem front back _ ih =>
    simp only [hasUniqueNames_array, List.forall_mem_append, List.forall_mem_cons] at hj ⊢
    exact ⟨hj.1, ih hj.2.1, hj.2.2⟩
  | inMember front name back _ ih =>
    simp only [hasUniqueNames_object, names, List.map_append, List.map_cons, List.forall_mem_append,
      List.forall_mem_cons] at hj ⊢
    exact ⟨hj.1, hj.2.1, ih hj.2.2.1, hj.2.2.2⟩

/-! ## 2. Members -/

theorem member?_append (name : String) (ms more : List (String × Json)) :
    member? name (ms ++ more) = (member? name more).or (member? name ms) := by
  have hfold (found : Option Json) (ms : List (String × Json)) :
      ms.foldl (fun found m => if m.1 == name then some m.2 else found) found = (member? name ms).or found := by
    induction ms generalizing found with
    | nil => rfl
    | cons m ms ih =>
      rw [member?, List.foldl_cons, List.foldl_cons, ih, ih (if m.1 == name then some m.2 else none), Option.or_assoc]
      split <;> rfl
  rw [member?, List.foldl_append, hfold]
  rfl

theorem member?_cons (name : String) (m : String × Json) (ms : List (String × Json)) :
    member? name (m :: ms) = (member? name ms).or (if m.1 == name then some m.2 else none) :=
  member?_append name [m] ms

theorem member?_eq_none {name : String} {ms : List (String × Json)} (h : name ∉ names ms) : member? name ms = none := by
  induction ms with
  | nil => rfl
  | cons m ms ih =>
    rw [names, List.map_cons, List.mem_cons, not_or] at h
    rw [member?_cons, ih h.2, if_neg (by simpa using Ne.symm h.1)]
    rfl

/-- Where names are unique the last member of a name is the only one. -/
theorem member?_eq_get? {ms : List (String × Json)} (hn : (names ms).Nodup) (name : String) :
    member? name ms = Entries.get? name ms := by
  induction ms with
  | nil => rfl
  | cons m ms ih =>
    rw [names, List.map_cons, List.nodup_cons] at hn
    rw [member?_cons, ih hn.2, Entries.get?_cons]
    by_cases h : m.1 = name
    · rw [← ih hn.2, member?_eq_none (h ▸ hn.1), if_pos h, if_pos (by simpa using h)]
      rfl
    · rw [if_neg h, if_neg (by simpa using h), Option.or_none]

theorem hasUniqueNames_of_member? {ms : List (String × Json)} (hms : (object ms).HasUniqueNames) {name : String}
    {j : Json} (h : member? name ms = some j) : j.HasUniqueNames := by
  rw [hasUniqueNames_object] at hms
  rw [member?_eq_get? hms.1] at h
  exact hms.2 _ (Entries.mem_of_get? h)

/-- The same members are found in another order. -/
theorem member?_reordered {ms ms' : List (String × Json)} (h : Reordered (.object ms) (.object ms'))
    (hn : (names ms).Nodup) (name : String) : Option.Rel Reordered (member? name ms) (member? name ms') := by
  have hsame (found : Option Json) : Option.Rel Reordered found found := by
    cases found with
    | none => exact .none
    | some j => exact .some (.refl j)
  generalize hobject : object ms = j, hobject' : object ms' = k at h
  cases h with
  | refl j =>
    obtain rfl := Json.object.inj (hobject.trans hobject'.symm)
    exact hsame _
  | members hperm =>
    obtain rfl := Json.object.inj hobject
    obtain rfl := Json.object.inj hobject'
    rw [member?_eq_get? hn, member?_eq_get? ((hperm.map Prod.fst).nodup_iff.mp hn), Entries.get?_perm hperm hn]
    exact hsame _
  | inItem front back _ => exact absurd hobject (by simp)
  | @inMember j k front name' back hinner =>
    obtain rfl := Json.object.inj hobject
    obtain rfl := Json.object.inj hobject'
    simp only [member?_append, member?_cons]
    cases member? name back with
    | some found => exact hsame _
    | none =>
      by_cases hname : (name' == name) = true
      · rw [if_pos hname, if_pos hname]
        exact .some hinner
      · rw [if_neg hname, if_neg hname]
        exact hsame _

end Json

namespace Record

open Json (Reordered HasUniqueNames member? member?_append member?_cons member?_reordered)

/-! ## 3. Records -/

section Parts

variable {found found' : Option Json} (h : Option.Rel Reordered found found')
include h

theorem rel_or {other other' : Option Json} (h' : Option.Rel Reordered other other') :
    Option.Rel Reordered (found.or other) (found'.or other') := by
  cases h with
  | none => exact h'
  | some hj => exact .some hj

theorem requireString_reordered : requireString found = requireString found' := by
  cases h with
  | none => rfl
  | some hj => cases hj <;> rfl

theorem optionalString_reordered (absent : String) : optionalString absent found = optionalString absent found' := by
  cases h with
  | none => rfl
  | some hj => cases hj <;> rfl

theorem requireKey_reordered : requireKey found = requireKey found' := by
  cases h with
  | none => rfl
  | some hj => cases hj <;> rfl

theorem checkStale_reordered : checkStale found = checkStale found' := by
  cases h with
  | none => rfl
  | some hj => cases hj <;> rfl

theorem checkContext_reordered (hn : ∀ j, found = some j → j.HasUniqueNames) :
    checkContext found = checkContext found' := by
  -- the members of a context are checked one by one
  have hobject {ms ms' : List (String × Json)} (h : Reordered (.object ms) (.object ms'))
      (hms : (Json.object ms).HasUniqueNames) : checkContext (some (.object ms)) = checkContext (some (.object ms')) := by
    have hnodup := ((Json.hasUniqueNames_object ms).mp hms).1
    rw [checkContext, checkContext, requireString_reordered (member?_reordered h hnodup _),
      optionalString_reordered (member?_reordered h hnodup _),
      optionalString_reordered (member?_reordered h hnodup _)]
  cases h with
  | none => rfl
  | some hj =>
    have hms := hn _ rfl
    cases hj with
    | refl => rfl
    | members hperm => exact hobject (.members hperm) hms
    | inItem front back _ => rfl
    | inMember front name back hinner => exact hobject (.inMember front name back hinner) hms

end Parts

/-- Two checks of slots: both give the same slots in some order, or both count the same faults. -/
inductive SlotsAgree : Checked (Entries String String) → Checked (Entries String String) → Prop
  | ok {slots slots' : Entries String String} : slots.Perm slots' → slots.keys.Nodup → SlotsAgree (.ok slots) (.ok slots')
  | error (faults : Nat) : SlotsAgree (.error faults) (.error faults)

/-- The slots of members in another order. -/
theorem checkSlots_perm {ms ms' : List (String × Json)} (h : ms.Perm ms') :
    (∃ slots slots', checkSlots ms = .ok slots ∧ checkSlots ms' = .ok slots' ∧ slots.Perm slots') ∨
      ∃ faults, checkSlots ms = .error faults ∧ checkSlots ms' = .error faults := by
  induction h with
  | nil => exact .inl ⟨[], [], rfl, rfl, .nil⟩
  | cons m _ ih =>
    obtain ⟨name, j⟩ := m
    rw [checkSlots, checkSlots]
    rcases ih with ⟨slots, slots', h, h', hperm⟩ | ⟨faults, h, h'⟩
    · rw [h, h']
      cases checkString j with
      | ok s => exact .inl ⟨_, _, rfl, rfl, hperm.cons _⟩
      | error n => exact .inr ⟨n, rfl, rfl⟩
    · rw [h, h']
      cases checkString j with
      | ok s => exact .inr ⟨faults, rfl, rfl⟩
      | error n => exact .inr ⟨n + faults, rfl, rfl⟩
  | swap m m' ms =>
    obtain ⟨name, j⟩ := m
    obtain ⟨name', j'⟩ := m'
    simp only [checkSlots]
    cases checkString j with
    | ok s =>
      cases checkString j' with
      | ok s' =>
        cases checkSlots ms with
        | ok slots => exact .inl ⟨_, _, rfl, rfl, .swap _ _ _⟩
        | error n => exact .inr ⟨n, rfl, rfl⟩
      | error n' =>
        cases checkSlots ms with
        | ok slots => exact .inr ⟨n', rfl, rfl⟩
        | error n => exact .inr ⟨n' + n, rfl, rfl⟩
    | error n =>
      cases checkString j' with
      | ok s' =>
        cases checkSlots ms with
        | ok slots => exact .inr ⟨n, rfl, rfl⟩
        | error m => exact .inr ⟨n + m, rfl, rfl⟩
      | error n' =>
        cases checkSlots ms with
        | ok slots => exact .inr ⟨n' + n, rfl, congrArg Except.error (Nat.add_comm n n')⟩
        | error m => exact .inr ⟨n' + (n + m), rfl, congrArg Except.error (by omega)⟩
  | trans _ _ ih ih' =>
    rcases ih with ⟨slots, slots₁, h, h₁, hperm⟩ | ⟨faults, h, h₁⟩
    · rcases ih' with ⟨slots₁', slots', h₁', h', hperm'⟩ | ⟨faults, h₁', -⟩
      · obtain rfl := Except.ok.inj (h₁.symm.trans h₁')
        exact .inl ⟨slots, slots', h, h', hperm.trans hperm'⟩
      · exact absurd (h₁.symm.trans h₁') (by simp)
    · rcases ih' with ⟨slots₁', slots', h₁', -, -⟩ | ⟨faults', h₁', h'⟩
      · exact absurd (h₁.symm.trans h₁') (by simp)
      · obtain rfl := Except.error.inj (h₁.symm.trans h₁')
        exact .inr ⟨faults, h, h'⟩

/-- A member that is no string is a fault, whatever is in it. -/
theorem checkSlots_inMember (front : List (String × Json)) (name : String) {j k : Json} (h : Reordered j k)
    (back : List (String × Json)) :
    checkSlots (front ++ (name, j) :: back) = checkSlots (front ++ (name, k) :: back) := by
  have hstring : checkString j = checkString k := by cases h <;> rfl
  induction front with
  | nil => rw [List.nil_append, List.nil_append, checkSlots, checkSlots, hstring]
  | cons m front ih => rw [List.cons_append, List.cons_append, checkSlots, checkSlots, ih]

theorem checkTranslations_reordered {found found' : Option Json} (h : Option.Rel Reordered found found')
    (hn : ∀ j, found = some j → j.HasUniqueNames) :
    SlotsAgree (checkTranslations found) (checkTranslations found') := by
  have hsame (found : Option Json) : SlotsAgree (checkTranslations found) (checkTranslations found) := by
    cases hslots : checkTranslations found with
    | ok slots => exact .ok (.refl _) (nodup_of_checkTranslations hslots)
    | error n => exact .error n
  have hnodup {ms : List (String × Json)} (h : (Json.object ms).HasUniqueNames) : (Entries.keys ms).Nodup :=
    ((Json.hasUniqueNames_object ms).mp h).1
  cases h with
  | none => exact hsame none
  | some hj =>
    have hms := hn _ rfl
    cases hj with
    | refl => exact hsame (some _)
    | @members ms ms' hperm =>
      have hms' := hms.reordered (.members hperm)
      rw [checkTranslations, checkTranslations, Entries.ofList_of_nodup (hnodup hms),
        Entries.ofList_of_nodup (hnodup hms')]
      rcases checkSlots_perm hperm with ⟨slots, slots', hslots, hslots', hslotsPerm⟩ | ⟨faults, hslots, hslots'⟩
      · rw [hslots, hslots']
        exact .ok hslotsPerm (keys_of_checkSlots hslots ▸ hnodup hms)
      · rw [hslots, hslots']
        exact .error faults
    | inItem front back _ => exact hsame (some (.array (front ++ _ :: back)))
    | @inMember j k front name back hinner =>
      have hms' := hms.reordered (.inMember front name back hinner)
      rw [checkTranslations, checkTranslations, Entries.ofList_of_nodup (hnodup hms),
        Entries.ofList_of_nodup (hnodup hms'), checkSlots_inMember front name hinner back]
      have hslots := hsame (some (.object (front ++ (name, k) :: back)))
      rwa [checkTranslations, Entries.ofList_of_nodup (hnodup hms')] at hslots

/-- The same record is made of slots in any order. -/
theorem assemble_congr (text key : Checked String) {slots slots' : Checked (Entries String String)}
    (context : Checked Context) (stale : Checked (Option Bool)) (h : SlotsAgree slots slots') :
    (match both text (both key (both slots (both context stale))) with
      | .ok (text, key, translations, context, stale) => .ok (make text key translations context stale)
      | .error n => .error n : Checked Record) =
    match both text (both key (both slots' (both context stale))) with
      | .ok (text, key, translations, context, stale) => .ok (make text key translations context stale)
      | .error n => .error n := by
  cases h with
  | error => rfl
  | ok hperm hn =>
    have hn' := (hperm.map Prod.fst).nodup_iff.mp hn
    have hmake (text key : String) (context : Context) (stale : Option Bool) :
        make text key _ context stale = make text key _ context stale :=
      congrArg (Record.mk text key · context stale) (canonical_congr text hn hn' (Entries.get?_perm hperm hn))
    cases text with
    | error n => cases key <;> cases context <;> cases stale <;> rfl
    | ok text =>
      cases key with
      | error n => cases context <;> cases stale <;> rfl
      | ok key =>
        cases context with
        | error n => cases stale <;> rfl
        | ok context =>
          cases stale with
          | error n => rfl
          | ok stale => exact congrArg Except.ok (hmake text key context stale)

/-- One value with its members in another order is the same record, or has the same faults. -/
theorem ofJson_reordered {j k : Json} (h : Reordered j k) (hj : j.HasUniqueNames) : ofJson j = ofJson k := by
  have hobject {ms ms' : List (String × Json)} (h : Reordered (.object ms) (.object ms'))
      (hms : (Json.object ms).HasUniqueNames) : ofJson (.object ms) = ofJson (.object ms') := by
    have hfound (name : String) := member?_reordered h ((Json.hasUniqueNames_object ms).mp hms).1 name
    have hinner (name : String) (j : Json) (hj : member? name ms = some j) : j.HasUniqueNames :=
      Json.hasUniqueNames_of_member? hms hj
    rw [ofJson, ofJson, requireString_reordered (rel_or (hfound _) (hfound _)),
      requireKey_reordered (rel_or (hfound _) (hfound _)),
      checkContext_reordered (hfound _) (hinner _), checkStale_reordered (hfound _)]
    exact assemble_congr _ _ _ _ (checkTranslations_reordered (hfound _) (hinner _))
  cases h with
  | refl => rfl
  | members hperm => exact hobject (.members hperm) hj
  | inItem front back _ => rfl
  | inMember front name back hinner => exact hobject (.inMember front name back hinner) hj

/-- The members of a record that have another name: its text and its key. -/
def otherNames : List (String × String) := [("text", "source_text"), ("hash", "key")]

/-- One object is the other but for the other name of a member that has two. -/
inductive Renamed : Json → Json → Prop
  | mk {name other : String} (front : List (String × Json)) (j : Json) (back : List (String × Json)) :
      (name, other) ∈ otherNames → (∀ m ∈ front ++ back, m.1 ≠ name ∧ m.1 ≠ other) →
      Renamed (.object (front ++ (name, j) :: back)) (.object (front ++ (other, j) :: back))

theorem hasUniqueNames_renamed {j k : Json} (h : Renamed j k) : j.HasUniqueNames ↔ k.HasUniqueNames := by
  cases h with
  | @mk name other front j back _ hfree =>
    have hnames {given : String} (h : ∀ m ∈ front ++ back, m.1 ≠ given) :
        (Json.names (front ++ (given, j) :: back)).Nodup ↔ (Json.names (front ++ back)).Nodup := by
      rw [Json.names, List.map_append, List.map_cons, List.nodup_middle, List.nodup_cons, ← List.map_append, Json.names,
        and_iff_right]
      intro hmem
      obtain ⟨m, hm, heq⟩ := List.mem_map.mp hmem
      exact h m hm heq
    rw [Json.hasUniqueNames_object, Json.hasUniqueNames_object, hnames fun m hm => (hfree m hm).1,
      hnames fun m hm => (hfree m hm).2]
    simp only [List.forall_mem_append, List.forall_mem_cons]

/-- A member by its other name is the same part of the same record. -/
theorem ofJson_renamed {j k : Json} (h : Renamed j k) : ofJson j = ofJson k := by
  cases h with
  | @mk name other front j back hmem hfree =>
    -- a lookup by any third name passes the member, and one by either name finds it alone
    have hpassed {given asked : String} (h : given ≠ asked) :
        member? asked (front ++ (given, j) :: back) = (member? asked back).or (member? asked front) := by
      rw [member?_append, member?_cons, if_neg (by simpa using h), Option.or_none]
    have hthird {asked : String} (h : name ≠ asked) (h' : other ≠ asked) :
        member? asked (front ++ (name, j) :: back) = member? asked (front ++ (other, j) :: back) := by
      rw [hpassed h, hpassed h']
    have hnone {asked : String} (h : ∀ m ∈ front ++ back, m.1 ≠ asked) :
        member? asked front = none ∧ member? asked back = none := by
      constructor
      · exact Json.member?_eq_none fun hmem => by
          obtain ⟨m, hm, heq⟩ := List.mem_map.mp hmem
          exact h m (List.mem_append_left _ hm) heq
      · exact Json.member?_eq_none fun hmem => by
          obtain ⟨m, hm, heq⟩ := List.mem_map.mp hmem
          exact h m (List.mem_append_right _ hm) heq
    have hname := hnone fun m hm => (hfree m hm).1
    have hother := hnone fun m hm => (hfree m hm).2
    have hfound {given : String} (h : member? given front = none ∧ member? given back = none) :
        member? given (front ++ (given, j) :: back) = some j := by
      rw [member?_append, member?_cons, h.1, h.2, if_pos (by simp)]
      rfl
    have hne : name ≠ other := (show ∀ p ∈ otherNames, p.1 ≠ p.2 by decide) _ hmem
    have hpart : (member? name (front ++ (name, j) :: back)).or (member? other (front ++ (name, j) :: back)) =
        (member? name (front ++ (other, j) :: back)).or (member? other (front ++ (other, j) :: back)) := by
      rw [hfound hname, hpassed hne.symm, hname.1, hname.2, hfound hother]
      rfl
    simp only [otherNames, List.mem_cons, List.not_mem_nil, or_false, Prod.mk.injEq] at hmem
    rcases hmem with ⟨rfl, rfl⟩ | ⟨rfl, rfl⟩
    · rw [ofJson, ofJson, hpart, hthird (by decide) (by decide), hthird (by decide) (by decide),
        hthird (by decide) (by decide), hthird (by decide) (by decide), hthird (by decide) (by decide)]
    · rw [ofJson, ofJson, hpart, hthird (by decide) (by decide), hthird (by decide) (by decide),
        hthird (by decide) (by decide), hthird (by decide) (by decide), hthird (by decide) (by decide)]

/-! ## 4. Lines -/

/-- One text is the other with other blanks between its parts, with its members in another order, or with the other
name of a member that has two. -/
inductive Respelled : List Char → List Char → Prop
  | blanks {cs ds : List Char} : Json.squeeze cs = Json.squeeze ds → Respelled cs ds
  | members {cs ds : List Char} {j k : Json} :
      Json.readStrict cs = some j → Json.readStrict ds = some k → Reordered j k → Respelled cs ds
  | names {cs ds : List Char} {j k : Json} :
      Json.readStrict cs = some j → Json.readStrict ds = some k → Renamed j k → Respelled cs ds

/-- Texts that differ by any number of such changes, made in either direction. -/
def SpellAlike : List Char → List Char → Prop := Relation.EqvGen Respelled

/-- Whether no object in a text has a name twice. -/
def IsUnambiguous (cs : List Char) : Prop := ∀ j, Json.readStrict cs = some j → j.HasUniqueNames

/-- A text holds a value without a name twice in an object that is read as some record or has some faults, whatever
blanks are between its parts. -/
def Holds (cs : List Char) (found : Checked Record) : Prop :=
  ∃ j, Json.readStrict (Json.squeeze cs) = some j ∧ j.HasUniqueNames ∧ ofJson j = found

/-- No change of the spelling changes what is held. -/
theorem holds_of_respelled {cs ds : List Char} (h : Respelled cs ds) (found : Checked Record) :
    Holds cs found ↔ Holds ds found := by
  have hheld {cs : List Char} {j : Json} (hj : Json.readStrict cs = some j) :
      Holds cs found ↔ j.HasUniqueNames ∧ ofJson j = found := by
    constructor
    · rintro ⟨j', hj', h⟩
      obtain rfl := Option.some.inj ((Json.readStrict_squeeze hj).symm.trans hj')
      exact h
    · exact fun h => ⟨j, Json.readStrict_squeeze hj, h⟩
  cases h with
  | blanks hsqueeze => rw [Holds, Holds, hsqueeze]
  | members hj hk hreordered =>
    rw [hheld hj, hheld hk]
    constructor
    · exact fun h => ⟨h.1.reordered hreordered, (ofJson_reordered hreordered h.1).symm.trans h.2⟩
    · exact fun h => ⟨h.1.reordered hreordered.symm, (ofJson_reordered hreordered.symm h.1).symm.trans h.2⟩
  | names hj hk hrenamed =>
    rw [hheld hj, hheld hk, hasUniqueNames_renamed hrenamed, ofJson_renamed hrenamed]

theorem holds_of_spellAlike {cs ds : List Char} (h : SpellAlike cs ds) (found : Checked Record) :
    Holds cs found ↔ Holds ds found := by
  induction h with
  | rel _ _ h => exact holds_of_respelled h found
  | refl => rfl
  | symm _ _ _ ih => exact ih.symm
  | trans _ _ _ _ _ ih ih' => exact ih.trans ih'

/-- Texts that spell alike hold one record, if both hold one at all. -/
theorem ofText_of_spellAlike {cs ds : List Char} {r r' : Record} (h : SpellAlike cs ds) (hunique : IsUnambiguous cs)
    (hr : ofText cs = .ok r) (hr' : ofText ds = .ok r') : r = r' := by
  obtain ⟨j, hj, hrecord⟩ := exists_of_ofText hr
  obtain ⟨k, hk, hrecord'⟩ := exists_of_ofText hr'
  obtain ⟨k', hk', -, hsame⟩ := (holds_of_spellAlike h _).mp ⟨j, Json.readStrict_squeeze hj, hunique j hj, hrecord⟩
  obtain rfl := Option.some.inj ((Json.readStrict_squeeze hk).symm.trans hk')
  exact Except.ok.inj (hsame.symm.trans hrecord')

/-- Lines whose texts spell alike and give no object a name twice. -/
def LinesSpellAlike (bytes bytes' : List UInt8) : Prop :=
  ∃ cs ds, Text.Utf8.decode bytes = .ok cs ∧ Text.Utf8.decode bytes' = .ok ds ∧ IsUnambiguous cs ∧ SpellAlike cs ds

/-- The line of a record is the normal form of the lines that are read as this record: it is read as the record and is
the line of what is read, and every line that is read and spells the record alike has this normal form. -/
theorem lineBytes_isNormalForm {number : Nat} {bytes : List UInt8} {r : Record} (h : ofLine number bytes = .ok r) :
    ofLine number r.lineBytes = .ok r ∧ (ofLine number r.lineBytes).map lineBytes = .ok r.lineBytes ∧
      ∀ number' bytes' r', ofLine number' bytes' = .ok r' → LinesSpellAlike bytes bytes' →
        r'.lineBytes = r.lineBytes := by
  have hagain := ofLine_lineBytes (isCanonical_of_ofLine h) number
  refine ⟨hagain, by rw [hagain]; rfl, ?_⟩
  rintro number' bytes' r' h' ⟨cs, ds, hcs, hds, hunique, halike⟩
  obtain ⟨cs', hcs', hr⟩ := exists_of_ofLine h
  obtain ⟨ds', hds', hr'⟩ := exists_of_ofLine h'
  obtain rfl := Except.ok.inj (hcs.symm.trans hcs')
  obtain rfl := Except.ok.inj (hds.symm.trans hds')
  rw [ofText_of_spellAlike halike hunique hr hr']

namespace Sample

/-- The members of a record with some slots, under one name of its key. -/
def members (name : String) (slots : List (String × Json)) : List (String × Json) :=
  [("context", .object [("file", .string "f")]), ("translations", .object slots), (name, .string "k"),
    ("text", .string "a")]

def russian : String × Json := ("ru", .string "b")

def english : String × Json := ("en", .string "c")

def compact (ms : List (String × Json)) : List Char := Json.valueText .compact 0 (.object ms)

def dense : List Char := compact (members "key" [russian, english])

/-- A text with blanks, with the other name of the key, and with all members in another order. -/
def spaced : List Char :=
  ("\x7b \"text\": \"a\", \"hash\": \"k\", \"translations\": \x7b\"en\": \"c\", \"ru\": \"b\"\x7d,\t" ++
    "\"context\": \x7b\"file\": \"f\"\x7d\x7d\r").toList

def record : Record := make "a" "k" [("en", "c"), ("ru", "b")] ⟨"f", defaultComponent, rootPath⟩ none

theorem readStrict_compact {ms : List (String × Json)} (hms : (Json.object ms).isPlain = true)
    (hdepth : (Json.object ms).depth ≤ Json.maxDepth) : Json.readStrict (compact ms) = some (.object ms) :=
  Json.readStrict_valueText Json.compact_isStandard hms hdepth

theorem readStrict_dense : Json.readStrict dense = some (.object (members "key" [russian, english])) :=
  readStrict_compact rfl (by decide)

/-- The slots change places, the key takes its other name, all members change places, and blanks come in. -/
theorem spellAlike : SpellAlike dense spaced := by
  have hkey : Json.readStrict (compact (members "key" [english, russian])) = _ := readStrict_compact rfl (by decide)
  have hhash : Json.readStrict (compact (members "hash" [english, russian])) = _ := readStrict_compact rfl (by decide)
  have hback : Json.readStrict (compact (members "hash" [english, russian]).reverse) = _ :=
    readStrict_compact rfl (by decide)
  have hslots := Respelled.members readStrict_dense hkey
    (.inMember [_] "translations" [_, _] (.members (.swap english russian [])))
  have hname := Respelled.names hhash hkey (.mk [_, _] (.string "k") [_] (by decide) (by decide))
  have hmembers := Respelled.members hhash hback (.members (List.reverse_perm _).symm)
  have hblanks : Respelled (compact (members "hash" [english, russian]).reverse) spaced := .blanks (by decide)
  exact .trans _ _ _ (.rel _ _ hslots) (.trans _ _ _ (.symm _ _ (.rel _ _ hname))
    (.trans _ _ _ (.rel _ _ hmembers) (.rel _ _ hblanks)))

theorem isUnambiguous_dense : IsUnambiguous dense := by
  intro j hj
  obtain rfl := Option.some.inj (readStrict_dense.symm.trans hj)
  simp [members, russian, english, Json.HasUniqueNames, Json.MembersHaveUniqueNames, Json.names]

theorem ofLine_encode {cs : List Char} (h : ofText cs = .ok record) (number : Nat) :
    ofLine number (Text.Utf8.encode cs) = .ok record := by
  rw [ofLine, Text.Utf8.decode_encode]
  simp only [h]

end Sample

open Sample in
theorem lineBytes_isNormalForm_spaced :
    ofLine 1 (Text.Utf8.encode dense) = .ok record ∧ ofLine 1 record.lineBytes = .ok record ∧
      ∃ r, ofLine 2 (Text.Utf8.encode spaced) = .ok r ∧ r.lineBytes = record.lineBytes := by
  have hdense : ofLine 1 (Text.Utf8.encode dense) = .ok record := ofLine_encode (by decide +kernel) 1
  have hspaced : ofLine 2 (Text.Utf8.encode spaced) = .ok record := ofLine_encode (by decide +kernel) 2
  obtain ⟨hagain, -, hsame⟩ := lineBytes_isNormalForm hdense
  exact ⟨hdense, hagain, record, hspaced, hsame 2 _ _ hspaced
    ⟨dense, spaced, Text.Utf8.decode_encode _, Text.Utf8.decode_encode _, isUnambiguous_dense, spellAlike⟩⟩

end Record
end Phrasebook
