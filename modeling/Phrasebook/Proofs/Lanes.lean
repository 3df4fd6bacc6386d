import Phrasebook.Locale.Program

/-!
# Locales of lines of control

Which locale a lookup uses can be read off the program text of its own line of control: it is the one that the innermost
request before it names, or the one the line started with. No order of the steps of all lines makes a difference.

Results:
1. `predict`: what is seen of a line of control, by its program text.
2. `Follows.next`: a step does what the text predicts next.
3. `Machine.lanes_step_of_ne`: no step shows in another lane.
4. `Machine.exists_over_of_count`: a line of control comes to its end once it has had enough steps.
5. `Machine.isScoped_run`: so it is for every program, in every order of steps.
-/

namespace Phrasebook.Locale

/-! ## 1. What a text predicts -/

/-- The locale that a request names; anything that names none stands for the default. -/
def namedBy : Json → Locale
  | .string "en" => .en
  | .string "ru" => .ru
  | .string "pseudo" => .pseudo
  | _ => .en

theorem coerce_eq (asked : Json) : coerce asked = namedBy asked := by
  cases asked with
  | string name =>
    by_cases hen : name = "en"
    · rw [hen]; rfl
    by_cases hru : name = "ru"
    · rw [hru]; rfl
    by_cases hpseudo : name = "pseudo"
    · rw [hpseudo]; rfl
    have hnone : ofCode? name = none := by
      simp [ofCode?, all, code, Ne.symm hen, Ne.symm hru, Ne.symm hpseudo]
    have hother : namedBy (.string name) = .en := by
      unfold namedBy
      split <;> simp_all
    rw [coerce, hnone, hother]
    rfl
  | _ => rfl

/-- The name under which a lookup looks: what it asks for, or the locale in force if it asks for nothing. -/
def lookedIn (current : Locale) : Option String → String
  | none => current.code
  | some "" => current.code
  | some name => name

theorem requested_eq (asked : Option String) (current : Locale) :
    Resolver.requested asked current = lookedIn current asked := by
  unfold Resolver.requested lookedIn
  split <;> split <;> simp_all

/-- The locale in force in a line of control: of the innermost request there was, else what the line started with. -/
def inForce (start : Locale) (setting : Option Json) : Locale := (setting.map namedBy).getD start

/-- What a program text predicts: what is seen, the request in force at the end, and whether the end is a failure. -/
structure Prediction where
  observed : List Observation
  setting : Option Json
  failed : Bool

namespace Prediction

def after (t : Prediction) (before : List Observation) : Prediction := { t with observed := before ++ t.observed }

/-- What is predicted at the end of a block with a locale of its own: the request from before it is in force again. -/
def leave (t : Prediction) (entry : Option Json) (rest : Prediction) : Prediction :=
  if t.failed then { t with setting := entry } else rest.after t.observed

theorem after_after (t : Prediction) (early late : List Observation) :
    (t.after late).after early = t.after (early ++ late) := by
  simp [after]

theorem leave_after (t : Prediction) (before : List Observation) (entry : Option Json) (rest : Prediction) :
    (t.after before).leave entry rest = (t.leave entry rest).after before := by
  cases h : t.failed <;> simp [leave, after, h]

end Prediction

/-- What a program text predicts under a request in force. -/
def predict (start : Locale) (setting : Option Json) : Program → Prediction
  | .done => ⟨[], setting, false⟩
  | .fail => ⟨[], setting, true⟩
  | .set asked rest => predict start (some asked) rest
  | .lookup key asked rest =>
    (predict start setting rest).after [.looked key (lookedIn (inForce start setting) asked)]
  | .scope asked body rest => (predict start (some asked) body).leave setting (predict start setting rest)
  | .attempt body rest =>
    let inner := predict start setting body
    (predict start inner.setting rest).after inner.observed
  | .thread body rest => (predict start setting rest).after [.thread body]
  | .task body rest => (predict start setting rest).after [.task body (inForce start setting)]

/-- What the text of a line of control predicts from its start on. -/
def predicted (start : Locale) (program : Program) : Prediction := predict start none program

/-- What is predicted in all after a prediction for the innermost block, by the blocks around it and the requests in force at the
entries of those with a locale of their own. -/
def finish (start : Locale) (t : Prediction) : List Frame → List (Option Json) → Prediction
  | .scope rest :: frames, entry :: entries => finish start (t.leave entry (predict start entry rest)) frames entries
  | .attempt rest :: frames, entries => finish start ((predict start t.setting rest).after t.observed) frames entries
  | _, _ => t

theorem finish_after (start : Locale) (t : Prediction) (before : List Observation) (frames : List Frame)
    (entries : List (Option Json)) :
    finish start (t.after before) frames entries = (finish start t frames entries).after before := by
  induction frames generalizing t entries with
  | nil => rfl
  | cons frame frames ih =>
    cases frame with
    | scope rest =>
      cases entries with
      | nil => rfl
      | cons entry entries => rw [finish, finish, Prediction.leave_after, ih]
    | attempt rest =>
      rw [finish, finish, ← ih, Prediction.after_after]
      rfl

/-! ## 2. A step -/

/-- The lane of a line of control after a step. -/
def Effect.lane (lane : Lane) : Effect → Lane
  | .set asked => lane.set asked
  | .enter asked => lane.enter asked
  | .leave => lane.leave
  | _ => lane

def Effect.observed (lane : Lane) : Effect → List Observation
  | .lookup key asked => [.looked key (lookedIn lane.current asked)]
  | .thread body => [.thread body]
  | .task body => [.task body lane.current]
  | _ => []

/-- Whether a block has a locale of its own. -/
def Frame.isScope : Frame → Bool
  | .scope _ => true
  | .attempt _ => false

/-- A line of control has done what its text predicts, up to what is left of it: its lane holds the locale in force and
those to go back to. -/
def Follows (start : Locale) (program : Program) (lane : Lane) (own : List Observation) (control : Control) : Prop :=
  ∃ setting entries, lane = ⟨inForce start setting, entries.map (inForce start)⟩ ∧
    (control.frames.filter Frame.isScope).length = entries.length ∧
    (finish start (predict start setting control.todo) control.frames entries).after own = predicted start program

theorem follows_start (start : Locale) (program : Program) : Follows start program ⟨start, []⟩ [] (.start program) :=
  ⟨none, [], rfl, rfl, rfl⟩

/-- A step does what the text predicts next. -/
theorem Follows.next {start : Locale} {program : Program} {lane : Lane} {own : List Observation} {control control' : Control}
    {effect : Effect} (h : Follows start program lane own control) (hnext : control.next = some (effect, control')) :
    Follows start program (effect.lane lane) (own ++ effect.observed lane) control' := by
  obtain ⟨setting, entries, rfl, hlength, hpredicted⟩ := h
  obtain ⟨todo, frames⟩ := control
  -- what is predicted is what is seen of the step, and then what is predicted for what is left
  have hstep : ∀ {t : Prediction} {seen : List Observation},
      t.after seen = finish start (predict start setting todo) frames entries →
        t.after (own ++ seen) = predicted start program :=
    fun hseen => by rw [← Prediction.after_after, hseen, hpredicted]
  cases todo with
  | done =>
    rcases frames with - | ⟨⟨rest⟩ | ⟨rest⟩, frames⟩
    · cases hnext
    · cases hnext
      rcases entries with - | ⟨entry, entries⟩
      · cases hlength
      · exact ⟨entry, entries, rfl, Nat.succ.inj hlength, hstep rfl⟩
    · cases hnext
      exact ⟨setting, entries, rfl, hlength, hstep rfl⟩
  | fail =>
    rcases frames with - | ⟨⟨rest⟩ | ⟨rest⟩, frames⟩
    · cases hnext
    · cases hnext
      rcases entries with - | ⟨entry, entries⟩
      · cases hlength
      · exact ⟨entry, entries, rfl, Nat.succ.inj hlength, hstep rfl⟩
    · cases hnext
      exact ⟨setting, entries, rfl, hlength, hstep rfl⟩
  | set asked rest =>
    cases hnext
    exact ⟨some asked, entries, congrArg (Lane.mk · _) (coerce_eq asked), hlength, hstep rfl⟩
  | lookup key asked rest =>
    cases hnext
    exact ⟨setting, entries, rfl, hlength, hstep (finish_after ..).symm⟩
  | scope asked body rest =>
    cases hnext
    exact ⟨some asked, setting :: entries, congrArg (Lane.mk · _) (coerce_eq asked), congrArg (· + 1) hlength, hstep rfl⟩
  | attempt body rest =>
    cases hnext
    exact ⟨setting, entries, rfl, hlength, hstep rfl⟩
  | thread body rest =>
    cases hnext
    exact ⟨setting, entries, rfl, hlength, hstep (finish_after ..).symm⟩
  | task body rest =>
    cases hnext
    exact ⟨setting, entries, rfl, hlength, hstep (finish_after ..).symm⟩

theorem Control.eq_of_next_eq_none {control : Control} (h : control.next = none) :
    control = ⟨.done, []⟩ ∨ control = ⟨.fail, []⟩ := by
  unfold Control.next at h
  split at h
  case h_1 => exact .inl rfl
  case h_4 => exact .inr rfl
  all_goals cases h

/-- A line of control that is over has done all that its text predicts, and left every block. -/
theorem Follows.of_over {start : Locale} {program : Program} {lane : Lane} {own : List Observation} {control : Control}
    (h : Follows start program lane own control) (hover : control.next = none) :
    own = (predicted start program).observed ∧ lane = ⟨inForce start (predicted start program).setting, []⟩ := by
  obtain ⟨setting, entries, rfl, hlength, hpredicted⟩ := h
  rw [← hpredicted]
  rcases Control.eq_of_next_eq_none hover with rfl | rfl
  all_goals
    obtain rfl : entries = [] := List.eq_nil_of_length_eq_zero hlength.symm
    exact ⟨(List.append_nil own).symm, rfl⟩

/-- And one that is not has done the first part of it. -/
theorem Follows.own_isPrefix {start : Locale} {program : Program} {lane : Lane} {own : List Observation} {control : Control}
    (h : Follows start program lane own control) : own <+: (predicted start program).observed := by
  obtain ⟨setting, entries, -, -, hpredicted⟩ := h
  rw [← hpredicted]
  exact List.prefix_append ..

/-! ## 3. Lanes apart -/

namespace Machine

variable {m : Machine} {number other : Nat}

theorem lanes_perform (hnumber : number < m.workers.length) (effect : Effect) :
    (m.perform number effect).lanes number = effect.lane (m.lanes number) := by
  cases effect with
  | nothing => rfl
  | lookup key asked => rfl
  | set asked => exact if_pos rfl
  | enter asked => exact if_pos rfl
  | leave => exact if_pos rfl
  | thread body => exact if_neg (Nat.ne_of_lt hnumber)
  | task body => exact if_neg (Nat.ne_of_lt hnumber)

theorem lanes_perform_of_ne (hother : other < m.workers.length) (hne : other ≠ number) (effect : Effect) :
    (m.perform number effect).lanes other = m.lanes other := by
  cases effect with
  | nothing => rfl
  | lookup key asked => rfl
  | set asked => exact if_neg hne
  | enter asked => exact if_neg hne
  | leave => exact if_neg hne
  | thread body => exact if_neg (Nat.ne_of_lt hother)
  | task body => exact if_neg (Nat.ne_of_lt hother)

/-- The line of control that a step starts. -/
def started (lane : Lane) : Effect → Option Worker
  | .thread body => some ⟨body, Lane.thread.current, .start body⟩
  | .task body => some ⟨body, lane.current, .start body⟩
  | _ => none

theorem workers_perform (effect : Effect) :
    (m.perform number effect).workers = m.workers ++ (started (m.lanes number) effect).toList := by
  cases effect with
  | thread body =>
    rw [perform, begin, started]
    exact congrArg (fun lane : Lane => m.workers ++ [⟨body, lane.current, .start body⟩]) (if_pos rfl)
  | task body =>
    rw [perform, begin, started]
    exact congrArg (fun lane : Lane => m.workers ++ [⟨body, lane.current, .start body⟩]) (if_pos rfl)
  | _ => exact (List.append_nil _).symm

theorem log_perform (effect : Effect) :
    (m.perform number effect).log = m.log ++ (effect.observed (m.lanes number)).map (number, ·) := by
  cases effect with
  | thread body => rfl
  | task body =>
    rw [perform, begin, Effect.observed]
    exact congrArg (fun lane : Lane => m.log ++ [(number, .task body lane.current)]) (if_pos rfl)
  | lookup key asked => rw [perform, requested_eq]; rfl
  | _ => exact (List.append_nil _).symm

/-- A line of control that is started has a lane of its own, with no block entered. -/
theorem lanes_perform_started {effect : Effect} {worker : Worker} (h : started (m.lanes number) effect = some worker) :
    (m.perform number effect).lanes m.workers.length = ⟨worker.start, []⟩ ∧ worker.control = .start worker.program := by
  cases effect with
  | thread body =>
    cases h
    exact ⟨if_pos rfl, rfl⟩
  | task body =>
    cases h
    exact ⟨if_pos rfl, rfl⟩
  | _ => cases h

theorem own_perform (effect : Effect) : (m.perform number effect).own number = m.own number ++ effect.observed (m.lanes number) := by
  rw [own, own, log_perform, List.filter_append, List.map_append]
  simp [List.filter_map, Function.comp_def]

theorem own_perform_of_ne (hne : other ≠ number) (effect : Effect) : (m.perform number effect).own other = m.own other := by
  rw [own, own, log_perform, List.filter_append, List.map_append]
  simp [List.filter_map, Function.comp_def, hne.symm]

/-- The machine in which what is left of one line of control has been replaced. -/
def leftOf (m : Machine) (number : Nat) (worker : Worker) (control : Control) : Machine :=
  { m with workers := m.workers.set number { worker with control } }

/-- A step is one of a line of control that is there and not over, or it is none. -/
theorem step_cases (m : Machine) (number : Nat) :
    (m.step number = m ∧ ∀ worker, m.workers[number]? = some worker → worker.control.next = none) ∨
    ∃ worker effect control, m.workers[number]? = some worker ∧ worker.control.next = some (effect, control) ∧
      m.step number = (m.leftOf number worker control).perform number effect := by
  rw [step]
  cases hworker : m.workers[number]? with
  | none => exact .inl ⟨rfl, fun _ h => nomatch h⟩
  | some worker =>
    dsimp only
    cases hnext : worker.control.next with
    | none => exact .inl ⟨rfl, fun _ h => Option.some.inj h ▸ hnext⟩
    | some next => exact .inr ⟨worker, next.1, next.2, rfl, hnext, rfl⟩

/-- No step shows in another lane. -/
theorem lanes_step_of_ne (hother : other < m.workers.length) (hne : other ≠ number) :
    (m.step number).lanes other = m.lanes other := by
  rcases step_cases m number with ⟨h, -⟩ | ⟨worker, effect, control, -, -, h⟩
  · rw [h]
  · rw [h]
    exact lanes_perform_of_ne (by rwa [leftOf, List.length_set]) hne effect

end Machine

/-! ## 4. The end -/

/-- How many steps a program takes at most in its own line of control: two for a block. -/
def Program.size : Program → Nat
  | .done => 0
  | .fail => 0
  | .set _ rest => rest.size + 1
  | .lookup _ _ rest => rest.size + 1
  | .scope _ body rest => body.size + rest.size + 2
  | .attempt body rest => body.size + rest.size + 2
  | .thread _ rest => rest.size + 1
  | .task _ rest => rest.size + 1

def Frame.size : Frame → Nat
  | .scope rest => rest.size + 1
  | .attempt rest => rest.size + 1

/-- And with what comes after all of them. -/
def Frame.sizes : List Frame → Nat
  | [] => 0
  | frame :: frames => frame.size + Frame.sizes frames

def Control.size (control : Control) : Nat := control.todo.size + Frame.sizes control.frames

theorem Control.size_next {control control' : Control} {effect : Effect} (h : control.next = some (effect, control')) :
    control'.size < control.size := by
  obtain ⟨todo, frames⟩ := control
  cases todo with
  | done =>
    rcases frames with - | ⟨⟨rest⟩ | ⟨rest⟩, frames⟩
    · cases h
    all_goals
      cases h
      simp only [size, Program.size, Frame.sizes, Frame.size]
      omega
  | fail =>
    rcases frames with - | ⟨⟨rest⟩ | ⟨rest⟩, frames⟩
    · cases h
    all_goals
      cases h
      simp only [size, Program.size, Frame.sizes, Frame.size]
      omega
  | _ =>
    cases h
    simp only [size, Program.size, Frame.sizes, Frame.size]
    omega

theorem Control.next_eq_none_of_size {control : Control} (h : control.size = 0) : control.next = none := by
  cases hnext : control.next with
  | none => rfl
  | some next =>
    have := Control.size_next hnext
    omega

namespace Machine

variable {m : Machine} {number other : Nat}

/-- A step of a line of control leaves less of it, and a step of another one leaves what there was. -/
theorem exists_size_step {worker : Worker} (h : m.workers[number]? = some worker) (other : Nat) :
    ∃ now, (m.step other).workers[number]? = some now ∧ now.program = worker.program ∧ now.start = worker.start ∧
      now.control.size ≤ worker.control.size - if other = number then 1 else 0 := by
  have hnumber := (List.getElem?_eq_some_iff.mp h).1
  rcases step_cases m other with ⟨hsame, hover⟩ | ⟨worker', effect, control, hworker', hnext, hstep⟩
  · rw [hsame]
    refine ⟨worker, h, rfl, rfl, ?_⟩
    split
    · rename_i heq
      subst heq
      rcases Control.eq_of_next_eq_none (hover worker h) with hcontrol | hcontrol <;> rw [hcontrol] <;> exact Nat.zero_le _
    · exact Nat.le.refl
  · rw [hstep, workers_perform, List.getElem?_append_left (by rwa [leftOf, List.length_set]), leftOf]
    by_cases heq : other = number
    · subst heq
      obtain rfl := Option.some.inj (h.symm.trans hworker')
      rw [List.getElem?_set_self hnumber, if_pos rfl]
      exact ⟨_, rfl, rfl, rfl, Nat.le_sub_one_of_lt (Control.size_next hnext)⟩
    · rw [List.getElem?_set_ne heq, if_neg heq]
      exact ⟨worker, h, rfl, rfl, Nat.le.refl⟩

/-- A line of control comes to its end once it has had enough steps, whatever the others do meanwhile. -/
theorem exists_over_of_count {worker : Worker} (h : m.workers[number]? = some worker) {order : List Nat}
    (hcount : worker.control.size ≤ order.count number) :
    ∃ now, (order.foldl step m).workers[number]? = some now ∧ now.program = worker.program ∧ now.start = worker.start ∧
      now.control.next = none := by
  induction order generalizing m worker with
  | nil => exact ⟨worker, h, rfl, rfl, Control.next_eq_none_of_size (Nat.eq_zero_of_le_zero hcount)⟩
  | cons other order ih =>
    obtain ⟨now, hnow, hprogram, hstart, hsize⟩ := exists_size_step h other
    rw [← hprogram, ← hstart]
    refine ih hnow (Nat.le_trans hsize ?_)
    rw [List.count_cons] at hcount
    simp only [beq_iff_eq] at hcount
    omega

end Machine

/-! ## 5. Every order of steps -/

theorem coerce_code (l : Locale) : coerce (.string l.code) = l := by rw [coerce, ofCode?_code, Option.getD_some]

theorem coerce_of_isSupported_eq_false {asked : Json} (h : isSupported asked = false) : coerce asked = fallback := by
  cases asked with
  | string name =>
    have hnone : ofCode? name = none := by simpa [isSupported] using h
    rw [coerce, hnone]
    rfl
  | _ => rfl

/-- A lookup in a locale uses it, whatever the current one is. -/
theorem requested_code (asked current : Locale) :
    Resolver.requested (some asked.code) current = asked.code := by
  cases asked <;> rfl

namespace Machine

variable {m : Machine} {number other : Nat}

/-- A line of control was started by another: as a thread, which has the default locale, or as a task, with the locale
that was in force in its maker then. -/
def IsStarted (m : Machine) (worker : Worker) : Prop :=
  ∃ maker, ((maker, .thread worker.program) ∈ m.log ∧ worker.start = fallback) ∨
    (maker, .task worker.program worker.start) ∈ m.log

/-- All lines of control follow their texts. -/
structure IsSound (program : Program) (m : Machine) : Prop where
  logged : ∀ entry ∈ m.log, entry.1 < m.workers.length
  first : ∃ worker, m.workers[0]? = some worker ∧ worker.program = program ∧ worker.start = fallback
  follows : ∀ number worker, m.workers[number]? = some worker →
    Follows worker.start worker.program (m.lanes number) (m.own number) worker.control
  started : ∀ number worker, m.workers[number]? = some worker → number ≠ 0 → m.IsStarted worker

theorem isSound_init (program : Program) : IsSound program (init program) where
  logged _ h := absurd h List.not_mem_nil
  first := ⟨_, rfl, rfl, rfl⟩
  follows number worker h := by
    obtain ⟨rfl, rfl⟩ : number = 0 ∧ worker = ⟨program, fallback, .start program⟩ := by
      rcases number with - | number
      · exact ⟨rfl, (Option.some.inj h).symm⟩
      · cases h
    exact follows_start fallback program
  started number worker h hne := by
    rcases number with - | number
    · exact absurd rfl hne
    · cases h

theorem own_of_logged (h : ∀ entry ∈ m.log, entry.1 < m.workers.length) : m.own m.workers.length = [] := by
  rw [own, List.filter_eq_nil_iff.mpr, List.map_nil]
  intro entry hentry hnumber
  exact absurd (of_decide_eq_true hnumber) (Nat.ne_of_lt (h entry hentry))

theorem IsStarted.perform {worker : Worker} (h : m.IsStarted worker) (number : Nat) (effect : Effect) :
    (m.perform number effect).IsStarted worker := by
  have hmem : ∀ {entry}, entry ∈ m.log → entry ∈ (m.perform number effect).log := fun hentry => by
    rw [log_perform]
    exact List.mem_append_left _ hentry
  obtain ⟨maker, ⟨hthread, hstart⟩ | htask⟩ := h
  · exact ⟨maker, .inl ⟨hmem hthread, hstart⟩⟩
  · exact ⟨maker, .inr (hmem htask)⟩

theorem isStarted_of_started {effect : Effect} {worker : Worker} (h : Machine.started (m.lanes number) effect = some worker) :
    (m.perform number effect).IsStarted worker := by
  rw [IsStarted, log_perform]
  cases effect with
  | thread body =>
    cases h
    exact ⟨number, .inl ⟨List.mem_append_right _ (List.mem_singleton.mpr rfl), rfl⟩⟩
  | task body =>
    cases h
    exact ⟨number, .inr (List.mem_append_right _ (List.mem_singleton.mpr rfl))⟩
  | _ => cases h

/-- A line of control after a step is the one that did it, another one, or the one that it started. -/
theorem worker_cases {worker now : Worker} {effect : Effect} {control : Control}
    (h : ((m.leftOf number worker control).perform number effect).workers[other]? = some now) :
    (other = number ∧ now = { worker with control }) ∨ (other ≠ number ∧ m.workers[other]? = some now) ∨
      (other = m.workers.length ∧ started (m.lanes number) effect = some now) := by
  rw [workers_perform, List.getElem?_append] at h
  split at h
  · by_cases hsame : other = number
    · subst hsame
      rename_i hlt
      rw [leftOf, List.length_set] at hlt
      rw [leftOf, List.getElem?_set_self hlt] at h
      exact .inl ⟨rfl, (Option.some.inj h).symm⟩
    · rw [leftOf, List.getElem?_set_ne (Ne.symm hsame)] at h
      exact .inr (.inl ⟨hsame, h⟩)
  · rename_i hge
    rw [leftOf, List.length_set] at hge h
    change (started (m.lanes number) effect).toList[other - m.workers.length]? = some now at h
    cases hstarted : started (m.lanes number) effect with
    | none =>
      rw [hstarted] at h
      cases h
    | some new =>
      rw [hstarted] at h
      obtain ⟨hlt, hnow⟩ := List.getElem?_eq_some_iff.mp h
      have hlt : other - m.workers.length < 1 := hlt
      exact .inr (.inr ⟨by omega, congrArg some (by simpa using hnow)⟩)

theorem IsSound.perform {program : Program} (h : IsSound program m) {worker : Worker} {effect : Effect} {control : Control}
    (hworker : m.workers[number]? = some worker) (hnext : worker.control.next = some (effect, control)) :
    IsSound program ((m.leftOf number worker control).perform number effect) := by
  have hnumber := (List.getElem?_eq_some_iff.mp hworker).1
  have hlength : (m.leftOf number worker control).workers.length = m.workers.length := List.length_set
  constructor
  case logged =>
    intro entry hentry
    rw [workers_perform, List.length_append, hlength]
    rw [log_perform] at hentry
    rcases List.mem_append.mp hentry with hbefore | hseen
    · have := h.logged entry hbefore
      omega
    · obtain ⟨_, -, rfl⟩ := List.mem_map.mp hseen
      dsimp only
      omega
  case first =>
    obtain ⟨first, hfirst, hprogram, hstart⟩ := h.first
    have hpos : 0 < ((m.leftOf number worker control).perform number effect).workers.length := by
      rw [workers_perform, List.length_append, hlength]
      omega
    refine ⟨_, List.getElem?_eq_getElem hpos, ?_⟩
    rcases worker_cases (List.getElem?_eq_getElem hpos) with ⟨rfl, hnow⟩ | ⟨-, hbefore⟩ | ⟨hzero, -⟩
    · obtain rfl : first = worker := Option.some.inj (hfirst.symm.trans hworker)
      rw [hnow]
      exact ⟨hprogram, hstart⟩
    · obtain rfl := Option.some.inj (hfirst.symm.trans hbefore)
      exact ⟨hprogram, hstart⟩
    · omega
  case follows =>
    intro other now hnow
    rcases worker_cases hnow with ⟨rfl, rfl⟩ | ⟨hne, hbefore⟩ | ⟨rfl, hstarted⟩
    · rw [lanes_perform (by rwa [hlength]), own_perform]
      exact (h.follows _ _ hworker).next hnext
    · rw [lanes_perform_of_ne (by rw [hlength]; exact (List.getElem?_eq_some_iff.mp hbefore).1) hne,
        own_perform_of_ne hne]
      exact h.follows _ _ hbefore
    · have hown : ((m.leftOf number worker control).perform number effect).own m.workers.length = [] := by
        rw [own_perform_of_ne (Nat.ne_of_gt hnumber)]
        exact own_of_logged h.logged
      obtain ⟨hlane, hcontrol⟩ := lanes_perform_started (m := m.leftOf number worker control) hstarted
      rw [hlength] at hlane
      rw [hown, hlane, hcontrol]
      exact follows_start _ _
  case started =>
    intro other now hnow hne
    rcases worker_cases hnow with ⟨rfl, rfl⟩ | ⟨-, hbefore⟩ | ⟨rfl, hstarted⟩
    · exact IsStarted.perform (m := m.leftOf other worker control) (h.started _ _ hworker hne) _ effect
    · exact IsStarted.perform (m := m.leftOf number worker control) (h.started _ _ hbefore hne) _ effect
    · exact isStarted_of_started (m := m.leftOf number worker control) hstarted

theorem IsSound.step {program : Program} (h : IsSound program m) (number : Nat) : IsSound program (m.step number) := by
  rcases step_cases m number with ⟨hsame, -⟩ | ⟨worker, effect, control, hworker, hnext, hstep⟩
  · rwa [hsame]
  · rw [hstep]
    exact h.perform hworker hnext

theorem IsSound.foldl {program : Program} (h : IsSound program m) (order : List Nat) :
    IsSound program (order.foldl Machine.step m) := by
  induction order generalizing m with
  | nil => exact h
  | cons number order ih => exact ih (h.step number)

/-- What is true of the locales in a machine that does a program. -/
structure IsScoped (program : Program) (m : Machine) : Prop where
  /-- The first line of control does the program, from the default locale on. -/
  first : ∃ worker, m.workers[0]? = some worker ∧ worker.program = program ∧ worker.start = fallback
  /-- Every other one was started: a thread has the default locale, a task the one that was in force in its maker then. -/
  started : ∀ number worker, m.workers[number]? = some worker → number ≠ 0 → m.IsStarted worker
  /-- What was seen of a line of control is the first part of what its text predicts. -/
  observed : ∀ number worker, m.workers[number]? = some worker →
    m.own number <+: (predicted worker.start worker.program).observed
  /-- In one that is over it is all of it, and the locale is the one that its text leaves. -/
  complete : ∀ number worker, m.workers[number]? = some worker → worker.control.next = none →
    m.own number = (predicted worker.start worker.program).observed ∧
    (m.lanes number).current = inForce worker.start (predicted worker.start worker.program).setting
  /-- It comes to its end once it has had enough steps, whatever the others do meanwhile, and has done all of its text. -/
  ends : ∀ number worker, m.workers[number]? = some worker → ∀ order : List Nat,
    worker.control.size ≤ order.count number →
    ∃ now, (order.foldl Machine.step m).workers[number]? = some now ∧ now.control.next = none ∧
      (order.foldl Machine.step m).own number = (predicted worker.start worker.program).observed
  /-- No step shows in another lane. -/
  apart : ∀ number other, other < m.workers.length → other ≠ number → (m.step number).lanes other = m.lanes other

/-- Every program, in every order of the steps of its lines of control. A request selects the supported locale that it
names, or the default one if it names none, and a lookup without a locale shows what one in the current locale shows. -/
theorem isScoped_run (program : Program) (order : List Nat) : IsScoped program (run program order) ∧
    (∀ locale : Locale, coerce (.string locale.code) = locale) ∧
    (∀ asked, isSupported asked = false → coerce asked = .en) ∧
    ∀ (r : Resolver) (w : Workspace) (current other : Locale) (key : String),
      r.resolve w current key none = r.resolve w other key (some current.code) := by
  refine ⟨?_, coerce_code, ?_, ?_⟩
  · have h : IsSound program (run program order) := (isSound_init program).foldl order
    exact {
      first := h.first
      started := h.started
      observed := fun number worker hworker => (h.follows number worker hworker).own_isPrefix
      complete := fun number worker hworker hover =>
        ((h.follows number worker hworker).of_over hover).imp_right (congrArg Lane.current)
      ends := fun number worker hworker order hcount => by
        obtain ⟨now, hnow, hprogram, hstart, hover⟩ := exists_over_of_count hworker hcount
        have hall := (((h.foldl order).follows number now hnow).of_over hover).1
        rw [hprogram, hstart] at hall
        exact ⟨now, hnow, hover, hall⟩
      apart := fun number other hother hne => lanes_step_of_ne hother hne }
  · exact fun asked h => coerce_of_isSupported_eq_false h
  · intro r w current other key
    rw [Resolver.resolve, Resolver.resolve, requested_code]
    rfl

/-- A task that starts in the locale of its maker: it looks in a block with an unsupported locale, and fails there. -/
def nested : Program :=
  .set (.string "ru") (.task (.scope (.string "xx") (.lookup "k" none .fail) .done)
    (.set (.string "pseudo") (.lookup "k" none .done)))

/-- The task comes to its end whatever its maker does meanwhile: it looks in the default locale, and in the end it has the
locale of its maker again, which has set another one. -/
theorem own_nested_of_interleaved :
    IsScoped nested (run nested [0, 0, 1, 0, 1, 0, 1]) ∧
      (run nested [0, 0, 1, 0, 1, 0, 1]).own 1 = [.looked "k" "en"] ∧
      ((run nested [0, 0, 1, 0, 1, 0, 1]).lanes 1).current = .ru ∧
      ((run nested [0, 0, 1, 0, 1, 0, 1]).lanes 0).current = .pseudo :=
  ⟨(isScoped_run nested [0, 0, 1, 0, 1, 0, 1]).1, rfl, rfl, rfl⟩

end Machine
end Phrasebook.Locale
