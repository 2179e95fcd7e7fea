import GlobalHotkeys.Proofs.Listener.Accounted
import GlobalHotkeys.Proofs.Listener.Replay

namespace GlobalHotkeys

variable {β : Type}

namespace Listener

def perform (listener : Listener β) (next : Step β) : Listener β :=
  (({ listener } : Course β).step next).listener

theorem listener_register (course : Course β) (hotkey : String) (binding : β) :
    (course.register hotkey binding).listener =
      match course.listener.register hotkey binding with
      | .ok after => after
      | .error _ => course.listener := by
  unfold Course.register
  generalize course.listener.register hotkey binding = answer
  cases answer with
  | ok after => rfl
  | error cause => rfl

theorem listener_start (course : Course β) (opened : Except HotkeyError (List Keyboard)) :
    (course.start opened).listener =
      match course.listener.start opened with
      | .ok after => after
      | .error _ => course.listener := by
  unfold Course.start
  generalize course.listener.start opened = answer
  cases answer with
  | ok after => rfl
  | error cause => rfl

theorem listener_step (course : Course β) (next : Step β) :
    (course.step next).listener = course.listener.perform next := by
  cases next with
  | register hotkey binding =>
      rw [perform, Course.step, Course.step, listener_register, listener_register]
  | start opened => rw [perform, Course.step, Course.step, listener_start, listener_start]
  | stop => rfl
  | read index reading => rfl

theorem listener_after (steps : List (Step β)) :
    (Course.after steps).listener = steps.foldl perform {} := by
  induction steps using List.reverseRecOn with
  | nil => rfl
  | append_singleton steps next ih =>
      rw [Course.after, List.foldl_concat, List.foldl_concat, ← ih]
      exact listener_step _ next

theorem start_of_idle {listener : Listener β} (idle : listener.reading = none)
    (opened : Except HotkeyError (List Keyboard)) :
    listener.start opened = (Pool.acquired opened).map fun keyboards =>
      { listener with held := {}, reading := some keyboards } := by
  have silent : listener.isListening = false := by rw [isListening, idle]; rfl
  unfold start
  rw [silent]
  cases opened with
  | error cause => rfl
  | ok keyboards =>
      cases keyboards with
      | nil => rfl
      | cons keyboard rest => rfl

theorem read_failure (listener : Listener β) (index : Nat) (reason : String) :
    (listener.read index (.failure reason)).2 =
      { listener with reading := listener.reading.map (without index) } := by
  unfold read
  split_ifs with open_
  · rfl
  · have kept : listener.reading.map (without index) = listener.reading := by
      cases reading : listener.reading with
      | none => rfl
      | some keyboards =>
          rw [reads, openKeyboards, reading, Option.getD_some] at open_
          refine congrArg some (List.filter_eq_self.mpr fun keyboard member => ?_)
          rw [bne_iff_ne]
          rintro rfl
          exact open_ (List.any_eq_true.mpr ⟨keyboard, member, beq_self_eq_true _⟩)
    rw [kept]

end Listener

namespace Pool

/-! ## The listener as a whole -/

/-- What a step of the tasks is for the listener as a whole. When a task that was told to end does so,
its keyboard is lost. -/
def meaning (pool : Pool β) : Step β → List (Listener.Step β)
  | .register hotkey binding => if pool.stopping then [] else [.register hotkey binding]
  | .start opened => if pool.stopping then [] else [.start opened]
  | .stopped => if pool.stopping ∧ pool.tasksOf .listener = [] then [.stop] else []
  | .read .listener index reading => [.read index reading]
  | .leave .listener index => if pool.stopping then [.read index (.failure "stopped")] else []
  | .stop | .capture .. | .decide _ | .returned _ | .read (.capture _) .. | .leave (.capture _) _ => []

def history (pool : Pool β) : List (Step β) → List (Listener.Step β)
  | [] => []
  | next :: rest => pool.meaning next ++ history (pool.step next) rest

section Whole

variable {pool : Pool β}

theorem Spares.table_eq {after : Pool β} {number : Nat}
    (spares : Spares (.capture number) pool after) : after.table = pool.table :=
  (spares.listener (by simp)).1

theorem Spares.listening_eq {after : Pool β} {number : Nat}
    (spares : Spares (.capture number) pool after) : after.listening = pool.listening :=
  (spares.listener (by simp)).2.2.1

theorem Spares.listener_eq {after : Pool β} {number : Nat}
    (spares : Spares (.capture number) pool after) : after.listener = pool.listener := by
  rw [← listener_only, only_of_spares spares (by simp), listener_only]

theorem Sound.reading (sound : pool.Sound) (idle : (pool.listening || pool.stopping) = false) :
    pool.handles .listener = [] := by
  obtain ⟨idle, still⟩ := Bool.or_eq_false_iff.mp idle
  rw [handles, sound.tasksOf_listener idle still]
  rfl

theorem any_handles (pool : Pool β) (reader : Reader) (index : Nat) :
    (pool.handles reader).any (·.index == index) = pool.runs reader index := by
  simp only [handles, tasksOf, runs, List.any_map, List.any_filter]
  rfl

theorem Sound.reads_eq (sound : pool.Sound) (index : Nat) :
    pool.listener.reads index = pool.runs .listener index := by
  rw [← any_handles, Listener.reads, Listener.openKeyboards]
  unfold listener
  dsimp only
  split_ifs with reading
  · rfl
  · rw [sound.reading (Bool.not_eq_true _ ▸ reading)]
    rfl

theorem handles_close (reader : Reader) (index : Nat) :
    (pool.close reader index).handles reader = Listener.without index (pool.handles reader) := by
  simp only [handles, tasksOf, close, Listener.without, List.filter_map, List.filter_filter]
  congr 1
  apply List.filter_congr
  intro task member
  simp only [ReadingTask.reads, Function.comp_apply]
  rw [Bool.and_comm]
  cases task.reader == reader with
  | true => rw [Bool.true_and, Bool.and_true, Bool.and_true, bne]
  | false => rw [Bool.and_false, Bool.and_false]

theorem listener_close (index : Nat) :
    (pool.close .listener index).listener =
      { pool.listener with reading := pool.listener.reading.map (Listener.without index) } := by
  have same : ∀ reading : Bool,
      (if reading then some (Listener.without index (pool.handles .listener)) else none) =
        (if reading then some (pool.handles .listener) else none).map (Listener.without index) := by
    intro reading
    cases reading <;> rfl
  simp only [listener, handles_close, ← same]
  rfl

theorem handles_tell : (pool.tell .listener).handles .listener = pool.handles .listener := by
  have same : ReadingTask.keyboard ∘ ReadingTask.hear .listener = ReadingTask.keyboard := by
    funext task
    simp only [Function.comp_apply, ReadingTask.hear]
    split_ifs
    · rfl
    · rfl
  simp only [handles, tasksOf, tell, filter_hear, List.map_map, same]

theorem leave_of_told {reader : Reader} (told : Bool)
    (same : ∀ task ∈ pool.tasks, task.reader = reader → task.told = told) (index : Nat) :
    pool.leave reader index = if told then pool.close reader index else pool := by
  have leaves : ∀ task ∈ pool.tasks,
      (task.told && task.reads reader index) = (told && task.reads reader index) := by
    intro task member
    by_cases own : task.reader = reader
    · rw [same task member own]
    · have other : task.reads reader index = false := by
        rw [ReadingTask.reads, beq_eq_false_iff_ne.mpr own, Bool.false_and]
      rw [other, Bool.and_false, Bool.and_false]
  have left : pool.tasks.filter (fun task => !(task.told && task.reads reader index)) =
      pool.tasks.filter fun task => !(told && task.reads reader index) := by
    apply List.filter_congr
    intro task member
    rw [leaves task member]
  rw [leave, left]
  cases told with
  | true => rfl
  | false => simp

theorem Sound.leave_listener (sound : pool.Sound) (index : Nat) :
    pool.leave .listener index = if pool.stopping then pool.close .listener index else pool := by
  apply leave_of_told
  intro task member own
  exact ((accounts_listener_iff own).mp (sound.accounted task member)).2

theorem listener_registered (hotkey : String) (binding : β) :
    (pool.register hotkey binding).listener = pool.listener.perform (.register hotkey binding) := by
  rw [Listener.perform, Listener.Course.step, Listener.listener_register]
  unfold register
  cases registered : pool.listener.register hotkey binding with
  | error cause => rfl
  | ok after =>
      obtain ⟨-, -, rfl⟩ := Listener.register_eq_ok_iff.mp registered
      rfl

theorem Sound.handles_started (sound : pool.Sound) (idle : pool.listening = false)
    (still : pool.stopping = false) (keyboards : List Keyboard) :
    (pool.started keyboards).handles .listener = keyboards := by
  have none : pool.tasks.filter (·.reader == .listener) = [] := sound.tasksOf_listener idle still
  simp [handles, tasksOf, Pool.started, none, List.filter_map, Function.comp_def]

theorem isListening_eq : pool.listener.isListening = (pool.listening || pool.stopping) := by
  simp only [Listener.isListening, listener]
  cases pool.listening || pool.stopping with
  | true => rfl
  | false => rfl

theorem Sound.start_eq (sound : pool.Sound) (still : pool.stopping = false)
    (opened : Except HotkeyError (List Keyboard)) :
    pool.listener.start opened =
      ((start opened).run pool).1.map fun _ => ((start opened).run pool).2.listener := by
  rw [start_run]
  cases listening : pool.listening with
  | true =>
      rw [Listener.start, isListening_eq, listening]
      rfl
  | false =>
      have idle : pool.listener.reading = none := by simp [listener, listening, still]
      rw [Listener.start_of_idle idle]
      cases acquired opened with
      | error cause => rfl
      | ok keyboards =>
          have whole : (pool.started keyboards).listener =
              { pool.listener with held := {}, reading := some keyboards } := by
            rw [listener, sound.handles_started listening still keyboards]
            rfl
          exact congrArg Except.ok whole.symm

theorem Sound.listener_started (sound : pool.Sound) (still : pool.stopping = false)
    (opened : Except HotkeyError (List Keyboard)) :
    (pool.step (.start opened)).listener = pool.listener.perform (.start opened) := by
  rw [Listener.perform, Listener.Course.step, Listener.listener_start, sound.start_eq still, start_run]
  rw [step_start, still, Bool.false_or]
  split_ifs
  · rfl
  · cases acquired opened with
    | error cause => rfl
    | ok keyboards => rfl

theorem listener_beginStop (listening : pool.listening = true) :
    pool.beginStop.listener = pool.listener := by
  have handles : pool.beginStop.handles .listener = pool.handles .listener := handles_tell
  simp only [listener, handles, listening]
  rfl

theorem Sound.listener_stopped (sound : pool.Sound) :
    (pool.step .stopped).listener = (pool.meaning .stopped).foldl Listener.perform pool.listener := by
  rw [Pool.step, meaning]
  cases stopping : pool.stopping with
  | true =>
      have idle : pool.listening = false := by
        by_contra listening
        rw [sound.apart (by simpa using listening)] at stopping
        cases stopping
      by_cases ended : pool.tasksOf .listener = []
      · rw [if_pos ended, if_pos ⟨rfl, ended⟩]
        simp [listener, idle, Listener.perform, Listener.Course.step, Listener.stop]
      · rw [if_neg ended, if_neg fun both => ended both.2]
        rfl
  | false =>
      have unchanged : { pool with stopping := false } = pool := by rw [← stopping]
      have none : ¬ (false = true ∧ pool.tasksOf .listener = []) := by simp
      rw [if_neg none]
      split_ifs
      · exact congrArg listener unchanged
      · rfl

theorem listener_failed (index : Nat) (reason : String) :
    pool.listener.perform (.read index (.failure reason)) = (pool.close .listener index).listener := by
  rw [listener_close]
  exact Listener.read_failure pool.listener index reason

theorem Sound.listener_read (sound : pool.Sound) (index : Nat) (reading : Reading) :
    (pool.step (.read .listener index reading)).listener = pool.listener.perform (.read index reading) := by
  show _ = (pool.listener.read index reading).2
  unfold Listener.read
  rw [Pool.step, sound.reads_eq]
  split_ifs
  · cases reading with
    | event event => rfl
    | failure reason => exact listener_close index
  · rfl

theorem Sound.listener_leave (sound : pool.Sound) (index : Nat) :
    (pool.step (.leave .listener index)).listener =
      (pool.meaning (.leave .listener index)).foldl Listener.perform pool.listener := by
  rw [Pool.step, meaning, sound.leave_listener index]
  split_ifs
  · exact (listener_failed index "stopped").symm
  · rfl

theorem Sound.listener_step (sound : pool.Sound) (next : Step β) :
    (pool.step next).listener = (pool.meaning next).foldl Listener.perform pool.listener := by
  have spares := spares_step pool next
  cases next with
  | register hotkey binding =>
      rw [Pool.step, meaning]
      split_ifs
      · rfl
      · exact listener_registered hotkey binding
  | start opened =>
      cases still : pool.stopping with
      | true => simp [Pool.step, meaning, still]
      | false =>
          rw [sound.listener_started still]
          simp [meaning, still]
  | stop =>
      rw [Pool.step, meaning]
      split_ifs with listening
      · exact listener_beginStop listening
      · rfl
  | stopped => exact sound.listener_stopped
  | capture number limit opened => exact spares.listener_eq
  | decide number => exact spares.listener_eq
  | returned number => exact spares.listener_eq
  | read reader index reading =>
      cases reader with
      | listener => exact sound.listener_read index reading
      | capture number => exact spares.listener_eq
  | leave reader index =>
      cases reader with
      | listener => exact sound.listener_leave index
      | capture number => exact spares.listener_eq

theorem listener_run (sound : pool.Sound) (steps : List (Step β)) :
    (pool.run steps).listener = (pool.history steps).foldl Listener.perform pool.listener := by
  induction steps generalizing pool with
  | nil => rfl
  | cons next rest ih =>
      rw [history, List.foldl_append, ← sound.listener_step next, ← ih (sound.step next)]
      rfl

end Whole

/-! ## What is open while the listener listens -/

def Step.fails (index : Nat) : Step β → Bool
  | .read .listener other (.failure _) => other == index
  | _ => false

section Listening

variable {pool : Pool β}

theorem handles_of_spares {after : Pool β} {reader other : Reader} (spares : Spares reader pool after)
    (different : other ≠ reader) : after.handles other = pool.handles other := by
  rw [handles, handles, spares.tasks other different]

theorem step_failure (pool : Pool β) (reader : Reader) (index : Nat) (reason : String) :
    pool.step (.read reader index (.failure reason)) = pool.close reader index := by
  rw [step]
  split_ifs with running
  · rfl
  · have kept : pool.tasks.filter (fun task => !task.reads reader index) = pool.tasks := by
      rw [List.filter_eq_self]
      intro task member
      rw [Bool.not_eq_true']
      by_contra reads
      exact running (List.any_eq_true.mpr ⟨task, member, by simpa using reads⟩)
    rw [close, kept]

theorem listening_step_eq {next : Step β} (unstopped : .stop ≠ next)
    (unstarted : ∀ opened, next ≠ .start opened) : (pool.step next).listening = pool.listening := by
  have spares := spares_step pool next
  cases next with
  | register hotkey binding =>
      obtain ⟨table, registered⟩ := register_eq_with hotkey binding pool
      rw [step, registered, apply_ite Pool.listening, ite_self]
  | start opened => exact absurd rfl (unstarted opened)
  | stop => exact absurd rfl unstopped
  | stopped => rw [step, apply_ite Pool.listening, ite_self]
  | capture number limit opened => exact spares.listening_eq
  | decide number => exact spares.listening_eq
  | returned number => exact spares.listening_eq
  | read reader index reading =>
      cases reader with
      | capture number => exact spares.listening_eq
      | listener =>
          rw [step, apply_ite Pool.listening]
          cases reading with
          | event event => exact ite_self _
          | failure reason => exact ite_self _
  | leave reader index => rfl

theorem Sound.handles_step (sound : pool.Sound) (listening : pool.listening = true) {next : Step β}
    (on : .stop ≠ next) :
    (pool.step next).handles .listener =
      (pool.handles .listener).filter fun keyboard => !next.fails keyboard.index := by
  have still := sound.apart listening
  -- Whatever is no failure keeps all of the handles.
  have keeps (steady : ∀ index, next.fails index = false)
      (same : (pool.step next).handles .listener = pool.handles .listener) :
      (pool.step next).handles .listener =
        (pool.handles .listener).filter fun keyboard => !next.fails keyboard.index := by
    simp [steady, same]
  have elsewhere {number : Nat} (spares : Spares (.capture number) pool (pool.step next)) :
      (pool.step next).handles .listener = pool.handles .listener :=
    handles_of_spares spares (by simp)
  have spares := spares_step pool next
  cases next with
  | register hotkey binding =>
      obtain ⟨table, registered⟩ := register_eq_with hotkey binding pool
      apply keeps fun _ => rfl
      rw [Pool.step, if_neg (by simp [still]), registered]
      rfl
  | start opened =>
      apply keeps fun _ => rfl
      rw [step_start, listening, Bool.or_true, if_pos rfl]
  | stop => exact absurd rfl on
  | stopped =>
      apply keeps fun _ => rfl
      rw [Pool.step, apply_ite (handles · .listener)]
      exact ite_self _
  | capture number limit opened => exact keeps (fun _ => rfl) (elsewhere spares)
  | decide number => exact keeps (fun _ => rfl) (elsewhere spares)
  | returned number => exact keeps (fun _ => rfl) (elsewhere spares)
  | read reader index reading =>
      cases reader with
      | capture number => exact keeps (fun _ => rfl) (elsewhere spares)
      | listener =>
          cases reading with
          | event event =>
              apply keeps fun _ => rfl
              rw [Pool.step, apply_ite (handles · .listener)]
              exact ite_self _
          | failure reason =>
              rw [step_failure, handles_close]
              apply List.filter_congr
              intro keyboard member
              rw [Step.fails, bne, Bool.beq_comm]
  | leave reader index =>
      cases reader with
      | capture number => exact keeps (fun _ => rfl) (elsewhere spares)
      | listener =>
          apply keeps fun _ => rfl
          rw [Pool.step, sound.leave_listener index, still, if_neg (by decide)]

theorem listening_step (listening : pool.listening = true) {next : Step β}
    (on : .stop ≠ next) : (pool.step next).listening = true := by
  by_cases starts : ∃ opened, next = .start opened
  · obtain ⟨opened, rfl⟩ := starts
    rw [step_start, listening, Bool.or_true, if_pos rfl, listening]
  · rw [listening_step_eq on (fun opened same => starts ⟨opened, same⟩), listening]

theorem Sound.handles_run (sound : pool.Sound) (listening : pool.listening = true) {steps : List (Step β)}
    (on : .stop ∉ steps) :
    (pool.run steps).listening = true ∧
      (pool.run steps).handles .listener =
        (pool.handles .listener).filter fun keyboard => !steps.any (·.fails keyboard.index) := by
  induction steps generalizing pool with
  | nil => simpa [run] using listening
  | cons next rest ih =>
      rw [List.mem_cons, not_or] at on
      obtain ⟨last, open_⟩ := ih (sound.step next) (listening_step listening on.1) on.2
      refine ⟨last, open_.trans ?_⟩
      rw [sound.handles_step listening on.1, List.filter_filter]
      simp only [List.any_cons, Bool.not_or, Bool.and_comm]

theorem started_of_listening {next : Step β} (listens : (pool.step next).listening = true) :
    (pool.listening = true ∧ .stop ≠ next) ∨
      ∃ keyboards, next = .start (.ok keyboards) ∧ keyboards ≠ [] ∧ pool.listening = false ∧
        pool.stopping = false := by
  by_cases starts : ∃ opened, next = .start opened
  · obtain ⟨opened, rfl⟩ := starts
    rw [step_start] at listens
    split_ifs at listens with busy
    · exact .inl ⟨listens, by simp⟩
    · obtain ⟨still, idle⟩ := Bool.or_eq_false_iff.mp (Bool.not_eq_true _ ▸ busy)
      cases given : acquired opened with
      | error cause =>
          rw [given, idle] at listens
          cases listens
      | ok keyboards =>
          obtain ⟨rfl, nonempty⟩ := acquired_eq_ok_iff.mp given
          exact .inr ⟨keyboards, rfl, nonempty, idle, still⟩
  · by_cases stops : .stop = next
    · subst stops
      rw [step] at listens
      split_ifs at listens with listening
      · cases listens
      · exact absurd listens listening
    · rw [listening_step_eq stops (fun opened same => starts ⟨opened, same⟩)] at listens
      exact .inl ⟨listens, stops⟩

theorem after_split (before : List (Step β)) (next : Step β) (later : List (Step β)) :
    after (before ++ next :: later) = ((after before).step next).run later := by
  simp only [after, run, List.foldl_append, List.foldl_cons]

theorem exists_start {steps : List (Step β)} (listening : (after steps).listening = true) :
    ∃ before keyboards later, steps = before ++ .start (.ok keyboards) :: later ∧ .stop ∉ later ∧
      (after before).listening = false ∧ (after before).stopping = false ∧ keyboards ≠ [] := by
  induction steps using List.reverseRecOn with
  | nil => cases listening
  | append_singleton steps next ih =>
      rw [after_split] at listening
      rcases started_of_listening listening with ⟨earlier, on⟩ | ⟨keyboards, rfl, nonempty, idle, still⟩
      · obtain ⟨before, keyboards, later, rfl, unstopped, rest⟩ := ih earlier
        refine ⟨before, keyboards, later ++ [next], by simp, ?_, rest⟩
        simpa [not_or] using ⟨unstopped, on⟩
      · exact ⟨steps, keyboards, [], rfl, List.not_mem_nil, idle, still, nonempty⟩

theorem start_run_of_idle (idle : pool.listening = false) {keyboards : List Keyboard}
    (nonempty : keyboards ≠ []) :
    (start (.ok keyboards)).run pool = (.ok (), pool.started keyboards) := by
  rw [start_run, idle, if_neg (by decide), acquired_eq_ok_iff.mpr ⟨rfl, nonempty⟩]

theorem handles_since_start {steps : List (Step β)} (listening : (after steps).listening = true) :
    ∃ before keyboards later,
      steps = before ++ .start (.ok keyboards) :: later ∧
      (after before).stopping = false ∧ ((start (.ok keyboards)).run (after before)).1 = .ok () ∧
      (∀ first rest, later = first ++ rest →
        (after (before ++ .start (.ok keyboards) :: first)).listening = true) ∧
      (after steps).handles .listener =
        keyboards.filter fun keyboard => !later.any (·.fails keyboard.index) := by
  obtain ⟨before, keyboards, later, rfl, unstopped, idle, still, nonempty⟩ := exists_start listening
  have granted := start_run_of_idle idle nonempty
  have began : (after before).step (.start (.ok keyboards)) = (after before).started keyboards := by
    rw [step, still, if_neg (by decide), granted]
  have earlier : (after before).Sound := sound_after before
  have begun := earlier.started idle still keyboards
  refine ⟨before, keyboards, later, rfl, still, congrArg Prod.fst granted, ?_, ?_⟩
  · rintro first rest rfl
    rw [after_split, began]
    exact (begun.handles_run rfl fun stop => unstopped (List.mem_append_left rest stop)).1
  · rw [after_split, began, (begun.handles_run rfl unstopped).2,
      earlier.handles_started idle still]

theorem start_run_cases (opened : Except HotkeyError (List Keyboard)) (pool : Pool β) :
    (∃ cause, (start opened).run pool = (.error cause, pool)) ∨
      ∃ keyboards, (start opened).run pool = (.ok (), pool.started keyboards) := by
  rw [start_run]
  split_ifs
  · exact .inl ⟨_, rfl⟩
  · cases acquired opened with
    | error cause => exact .inl ⟨cause, rfl⟩
    | ok keyboards => exact .inr ⟨keyboards, rfl⟩

theorem listener_of_start_run {opened : Except HotkeyError (List Keyboard)} {started : Pool β}
    (granted : (start opened).run pool = (.ok (), started)) :
    started.listener.table = pool.table ∧ started.listener.held = {} := by
  rcases start_run_cases opened pool with ⟨cause, error⟩ | ⟨keyboards, ok⟩
  · rw [error] at granted
    cases granted
  · rw [ok] at granted
    obtain rfl := (Prod.mk.inj granted).2
    exact ⟨rfl, rfl⟩

/-! ## The table -/

theorem table_step {next : Step β} (unregistered : ∀ hotkey binding, .register hotkey binding ≠ next) :
    (pool.step next).table = pool.table := by
  have spares := spares_step pool next
  cases next with
  | register hotkey binding => exact absurd rfl (unregistered hotkey binding)
  | start opened =>
      rw [step_start, apply_ite Pool.table]
      cases acquired opened with
      | error cause => exact ite_self _
      | ok keyboards => exact ite_self _
  | stop =>
      rw [step, apply_ite Pool.table]
      exact ite_self _
  | stopped => rw [step, apply_ite Pool.table, ite_self]
  | capture number limit opened => exact spares.table_eq
  | decide number => exact spares.table_eq
  | returned number => exact spares.table_eq
  | read reader index reading =>
      cases reader with
      | capture number => exact spares.table_eq
      | listener =>
          rw [step, apply_ite Pool.table]
          cases reading with
          | event event => exact ite_self _
          | failure reason => exact ite_self _
  | leave reader index => rfl

theorem table_run {steps : List (Step β)}
    (unregistered : ∀ hotkey binding, .register hotkey binding ∉ steps) :
    (pool.run steps).table = pool.table := by
  induction steps generalizing pool with
  | nil => rfl
  | cons next rest ih =>
      simp only [List.mem_cons, not_or] at unregistered
      have later := @ih (pool.step next) fun hotkey binding => (unregistered hotkey binding).2
      exact later.trans (table_step fun hotkey binding => (unregistered hotkey binding).1)

end Listening

/-- In every run of a listener and captures beside it, whatever the keyboards do: the tasks of the
listener together do what the listener does. Once a stop has returned, none of its handles is open. While
it listens, the open ones are those that the start gave it after which it has been listening ever since,
except for the keyboards that have failed since then. A start that fails changes nothing at all, and so
does a stop while it does not listen. The table changes only by registrations. A later start makes of the
listener what it would make of a new one with this table. On whatever keyboards the new one starts, once
both have heard the same events, the next event fires the same. -/
theorem handles_follow_starts (steps : List (Step β)) :
    let pool := after steps
    pool.listener = (Listener.Course.after (history {} steps)).listener ∧
    (pool.listening = false → pool.stopping = false → pool.handles .listener = []) ∧
    (pool.listening = true → ∃ before keyboards later,
      steps = before ++ .start (.ok keyboards) :: later ∧
      (after before).stopping = false ∧ ((start (.ok keyboards)).run (after before)).1 = .ok () ∧
      (∀ first rest, later = first ++ rest →
        (after (before ++ .start (.ok keyboards) :: first)).listening = true) ∧
      pool.handles .listener = keyboards.filter fun keyboard => !later.any (·.fails keyboard.index)) ∧
    (pool.stopping = false → ∀ opened,
      let started := (start opened).run pool
      pool.listener.start opened = started.1.map (fun _ => started.2.listener) ∧
      ∀ cause, started.1 = .error cause → started.2 = pool) ∧
    (pool.listening = false → pool.step .stop = pool) ∧
    ∀ later, (∀ hotkey binding, .register hotkey binding ∉ later) →
      (pool.run later).table = pool.table ∧
      ∀ opened started, (start opened).run (pool.run later) = (.ok (), started) →
        ((pool.run later).stopping = false →
          ({ table := pool.table } : Listener β).start opened = .ok started.listener) ∧
        ∀ others earlier, ({ table := pool.table } : Listener β).start (.ok others) = .ok earlier →
          ∀ given replayed, started.listener.heard given = earlier.heard replayed →
          ∀ index other, (started.listener.readAll given).reads index = true →
            (earlier.readAll replayed).reads other = true → ∀ event,
            ((started.listener.readAll given).read index (.event event)).1 =
              ((earlier.readAll replayed).read other (.event event)).1 := by
  intro pool
  have sound : pool.Sound := sound_after steps
  refine ⟨?_, fun idle still => ?_, handles_since_start,
    fun still opened => ⟨sound.start_eq still opened, fun cause failed => ?_⟩, fun idle => ?_,
    fun later unregistered => ⟨table_run unregistered, fun opened started granted =>
      ⟨fun still => ?_, fun others earlier began given replayed same index other reads readsOther event => ?_⟩⟩⟩
  · rw [Listener.listener_after]
    exact listener_run (sound_after []) steps
  · exact sound.reading (by rw [idle, still]; rfl)
  · rcases start_run_cases opened pool with ⟨_, error⟩ | ⟨keyboards, ok⟩
    · rw [error]
    · rw [ok] at failed
      cases failed
  · rw [step, if_neg (by simp [idle])]
  · have whole := (sound_run sound later).start_eq still opened
    rw [granted] at whole
    obtain ⟨-, keyboards, rfl, nonempty, fresh⟩ := Listener.start_eq_ok_iff.mp whole
    refine Listener.start_eq_ok_iff.mpr ⟨rfl, keyboards, rfl, nonempty, fresh.trans ?_⟩
    rw [← table_run unregistered]
    rfl
  · obtain ⟨-, keyboards, -, -, rfl⟩ := Listener.start_eq_ok_iff.mp began
    obtain ⟨table, held⟩ := listener_of_start_run granted
    exact Listener.read_event_congr (table.trans (table_run unregistered)) held same reads readsOther event

/-- A listener with two keyboards, of which the first fails; a capture goes on when it is stopped. -/
example :
    let keyboards : List Keyboard := [⟨0, "first"⟩, ⟨1, "second"⟩]
    let before : List (Step Unit) :=
      [.start (.ok keyboards), .capture 0 (.ofSeconds 10) (.ok keyboards), .read .listener 0 (.failure "gone")]
    let later : List (Step Unit) := [.stop, .leave .listener 1, .stopped]
    (after before).handles .listener = [⟨1, "second"⟩] ∧
    (after (before ++ later)).handles .listener = [] ∧
    (after (before ++ later)).handles (.capture 0) = keyboards := by
  decide +kernel

end Pool

end GlobalHotkeys
