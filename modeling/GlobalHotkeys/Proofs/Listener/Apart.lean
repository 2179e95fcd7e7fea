import GlobalHotkeys.Proofs.Listener.Tasks

namespace GlobalHotkeys

variable {β : Type}

namespace Pool

/-- Whatever is not this reader's is the same in both pools. -/
structure Spares (reader : Reader) (pool after : Pool β) : Prop where
  tasks : ∀ other ≠ reader, after.tasksOf other = pool.tasksOf other
  captures : ∀ number, reader ≠ .capture number → after.captures number = pool.captures number
  listener : reader ≠ .listener → after.table = pool.table ∧ after.held = pool.held ∧
    after.listening = pool.listening ∧ after.stopping = pool.stopping

section Frame

variable {pool between final : Pool β} {reader : Reader}

theorem Spares.refl (reader : Reader) (pool : Pool β) : Spares reader pool pool :=
  ⟨fun _ _ => rfl, fun _ _ => rfl, fun _ => ⟨rfl, rfl, rfl, rfl⟩⟩

theorem Spares.trans (first : Spares reader pool between) (second : Spares reader between final) :
    Spares reader pool final where
  tasks other different := (second.tasks other different).trans (first.tasks other different)
  captures number different := (second.captures number different).trans (first.captures number different)
  listener different := by
    obtain ⟨table, held, listening, stopping⟩ := first.listener different
    obtain ⟨table', held', listening', stopping'⟩ := second.listener different
    exact ⟨table'.trans table, held'.trans held, listening'.trans listening, stopping'.trans stopping⟩

theorem spares_of_tasks {tasks : List ReadingTask}
    (same : ∀ other ≠ reader, tasks.filter (·.reader == other) = pool.tasksOf other) :
    Spares reader pool { pool with tasks } :=
  ⟨same, fun _ _ => rfl, fun _ => ⟨rfl, rfl, rfl, rfl⟩⟩

theorem spares_filter {keep : ReadingTask → Bool}
    (own : ∀ task, keep task = false → task.reader = reader) :
    Spares reader pool { pool with tasks := pool.tasks.filter keep } := by
  apply spares_of_tasks
  intro other different
  rw [List.filter_filter, tasksOf]
  apply List.filter_congr
  intro task member
  cases kept : keep task with
  | true => rw [Bool.and_true]
  | false =>
      have elsewhere : (task.reader == other) = false := by
        rw [own task kept, beq_eq_false_iff_ne]
        exact different.symm
      rw [elsewhere, Bool.false_and]

theorem spares_close (reader : Reader) (index : Nat) (pool : Pool β) :
    Spares reader pool (pool.close reader index) := by
  apply spares_filter
  intro task dropped
  simp [ReadingTask.reads] at dropped
  exact dropped.1

theorem spares_leave (reader : Reader) (index : Nat) (pool : Pool β) :
    Spares reader pool (pool.leave reader index) := by
  apply spares_filter
  intro task dropped
  simp [ReadingTask.reads] at dropped
  exact dropped.2.1

@[simp] theorem reader_hear (reader : Reader) (task : ReadingTask) :
    (task.hear reader).reader = task.reader := by
  unfold ReadingTask.hear
  split_ifs
  · rfl
  · rfl

theorem filter_hear (reader other : Reader) (tasks : List ReadingTask) :
    (tasks.map (ReadingTask.hear reader)).filter (·.reader == other) =
      (tasks.filter (·.reader == other)).map (ReadingTask.hear reader) := by
  rw [List.filter_map]
  simp only [Function.comp_def, reader_hear]

theorem spares_tell (reader : Reader) (pool : Pool β) : Spares reader pool (pool.tell reader) := by
  apply spares_of_tasks
  intro other different
  have unheard : ∀ task ∈ pool.tasks.filter (·.reader == other), task.hear reader = task := by
    intro task member
    have own : task.reader = other := by simpa using (List.mem_filter.mp member).2
    exact if_neg (own ▸ different)
  rw [filter_hear, List.map_congr_left unheard, List.map_id', tasksOf]

theorem spares_append {tasks : List ReadingTask} (own : ∀ task ∈ tasks, task.reader = reader) :
    Spares reader pool { pool with tasks := pool.tasks ++ tasks } := by
  apply spares_of_tasks
  intro other different
  have none : tasks.filter (·.reader == other) = [] := by
    rw [List.filter_eq_nil_iff]
    intro task member
    simp [own task member, different.symm]
  rw [List.filter_append, none, List.append_nil, tasksOf]

theorem spares_setCapture (number : Nat) (capturing : Option Capturing) (pool : Pool β) :
    Spares (.capture number) pool (pool.setCapture number capturing) := by
  refine ⟨fun _ _ => rfl, fun other different => ?_, fun _ => ⟨rfl, rfl, rfl, rfl⟩⟩
  rw [setCapture]
  apply if_neg
  rintro rfl
  exact different rfl

theorem spares_listener {table : List (Registration β)} {held : Held} {listening stopping : Bool} :
    Spares .listener pool { pool with table, held, listening, stopping } :=
  ⟨fun _ _ => rfl, fun _ _ => rfl, fun different => absurd rfl different⟩

theorem spares_started (keyboards : List Keyboard) (pool : Pool β) :
    Spares .listener pool (pool.started keyboards) := by
  have spawned : Spares .listener pool { pool with
      tasks := pool.tasks ++ keyboards.map fun keyboard => { reader := .listener, keyboard } } := by
    apply spares_append
    simp
  exact spawned.trans spares_listener

theorem spares_capture (number : Nat) (limit : Duration) (opened : Except HotkeyError (List Keyboard))
    (pool : Pool β) : Spares (.capture number) pool ((capture number limit opened).run pool).2 := by
  rw [capture_run]
  cases acquired opened with
  | error cause => exact spares_setCapture number _ pool
  | ok keyboards =>
      apply (spares_setCapture number _ pool).trans
      apply spares_append
      simp

theorem spares_handle (reader : Reader) (index : Nat) (reading : Reading) (pool : Pool β) :
    Spares reader pool (pool.handle reader index reading) := by
  cases reading with
  | failure reason => exact spares_close reader index pool
  | event event =>
      cases reader with
      | listener => exact spares_listener
      | capture number =>
          simp only [handle]
          cases event.pressedKey? with
          | some key => exact (spares_close _ index pool).trans (spares_setCapture number _ _)
          | none => exact spares_setCapture number _ pool

theorem spares_register (hotkey : String) (binding : β) (pool : Pool β) :
    Spares .listener pool (pool.register hotkey binding) := by
  obtain ⟨table, registered⟩ := register_eq_with hotkey binding pool
  rw [registered]
  exact spares_listener

/-- A step is about one reader and spares all others. -/
theorem spares_step (pool : Pool β) (next : Step β) : Spares next.reader pool (pool.step next) := by
  cases next with
  | register hotkey binding =>
      rw [step]
      split_ifs
      · exact .refl _ _
      · exact spares_register hotkey binding pool
  | start opened =>
      rw [step_start]
      split_ifs
      · exact .refl _ _
      · cases acquired opened with
        | ok keyboards => exact spares_started keyboards pool
        | error cause => exact .refl _ _
  | stop =>
      simp only [step]
      split_ifs
      · exact (spares_tell .listener pool).trans spares_listener
      · exact .refl _ _
  | stopped =>
      simp only [step]
      split_ifs
      · exact spares_listener
      · exact .refl _ _
  | capture number limit opened =>
      simp only [step]
      split_ifs
      · exact .refl _ _
      · exact spares_capture number limit opened pool
  | decide number =>
      simp only [step]
      cases pool.captures number with
      | none => exact .refl _ _
      | some capturing =>
          dsimp only
          split_ifs
          · exact .refl _ _
          · exact (spares_tell _ pool).trans (spares_setCapture number _ _)
  | returned number =>
      simp only [step]
      split_ifs
      · exact spares_setCapture number _ pool
      · exact .refl _ _
  | read reader index reading =>
      simp only [step]
      split_ifs
      · exact spares_handle reader index reading pool
      · exact .refl _ _
  | leave reader index => exact spares_leave reader index pool

end Frame

/-- What the pool has of this reader. -/
def only (reader : Reader) (pool : Pool β) : Pool β :=
  match reader with
  | .listener => { pool with tasks := pool.tasksOf .listener, captures := fun _ => none }
  | .capture number =>
    { tasks := pool.tasksOf (.capture number)
      captures := fun other => if other = number then pool.captures other else none }

section Alone

variable (pool : Pool β) (reader : Reader)

theorem tasks_only : (pool.only reader).tasks = pool.tasksOf reader := by
  cases reader <;> rfl

@[simp] theorem tasksOf_only : (pool.only reader).tasksOf reader = pool.tasksOf reader := by
  rw [tasksOf, tasks_only, tasksOf, List.filter_filter]
  simp only [Bool.and_self]

@[simp] theorem handles_only : (pool.only reader).handles reader = pool.handles reader := by
  rw [handles, tasksOf_only, handles]

@[simp] theorem runs_only (index : Nat) :
    (pool.only reader).runs reader index = pool.runs reader index := by
  simp only [runs, tasks_only, tasksOf, ReadingTask.reads, List.any_filter, ← Bool.and_assoc,
    Bool.and_self]

@[simp] theorem captures_only (number : Nat) :
    (pool.only (.capture number)).captures number = pool.captures number :=
  if_pos rfl

@[simp] theorem listener_only : (pool.only .listener).listener = pool.listener := by
  simp only [listener, handles_only]
  rfl

variable {pool reader}

theorem only_withTasks (change : List ReadingTask → List ReadingTask)
    (own : (change pool.tasks).filter (·.reader == reader) = change (pool.tasksOf reader)) :
    ({ pool with tasks := change pool.tasks } : Pool β).only reader =
      { pool.only reader with tasks := change (pool.only reader).tasks } := by
  rw [tasks_only, ← own]
  cases reader with
  | listener => rfl
  | capture number => rfl

theorem only_close (index : Nat) :
    (pool.close reader index).only reader = (pool.only reader).close reader index :=
  only_withTasks _ (List.filter_comm ..)

theorem only_leave (index : Nat) :
    (pool.leave reader index).only reader = (pool.only reader).leave reader index :=
  only_withTasks _ (List.filter_comm ..)

theorem only_tell : (pool.tell reader).only reader = (pool.only reader).tell reader :=
  only_withTasks _ (filter_hear reader reader pool.tasks)

theorem only_beginStop : pool.beginStop.only .listener = (pool.only .listener).beginStop := by
  have told : (pool.tell .listener).only .listener = (pool.only .listener).tell .listener := only_tell
  exact congrArg (fun pool : Pool β => { pool with listening := false, stopping := true }) told

theorem only_append {tasks : List ReadingTask} (own : ∀ task ∈ tasks, task.reader = reader) :
    ({ pool with tasks := pool.tasks ++ tasks } : Pool β).only reader =
      { pool.only reader with tasks := (pool.only reader).tasks ++ tasks } := by
  apply only_withTasks (· ++ tasks)
  have all : tasks.filter (·.reader == reader) = tasks := by
    rw [List.filter_eq_self]
    intro task member
    simp [own task member]
  rw [List.filter_append, all, tasksOf]

theorem only_setCapture (number : Nat) (capturing : Option Capturing) :
    (pool.setCapture number capturing).only (.capture number) =
      (pool.only (.capture number)).setCapture number capturing := by
  simp only [only, setCapture, tasksOf, Pool.mk.injEq, true_and]
  funext other
  split_ifs <;> rfl

theorem only_mapCapture (number : Nat) (change : Capturing → Capturing) :
    (pool.mapCapture number change).only (.capture number) =
      (pool.only (.capture number)).mapCapture number change := by
  rw [mapCapture, mapCapture, only_setCapture, captures_only]

theorem only_started (keyboards : List Keyboard) :
    (pool.started keyboards).only .listener = (pool.only .listener).started keyboards := by
  have own : ∀ task ∈ keyboards.map fun keyboard => ({ reader := .listener, keyboard } : ReadingTask),
      task.reader = .listener := by simp
  have spawned := @only_append _ pool _ _ own
  exact congrArg (fun pool : Pool β => { pool with held := {}, listening := true }) spawned

theorem only_register (hotkey : String) (binding : β) :
    (pool.register hotkey binding).only .listener = (pool.only .listener).register hotkey binding := by
  unfold register
  rw [listener_only]
  cases pool.listener.register hotkey binding with
  | ok after => rfl
  | error cause => rfl

theorem only_capture (number : Nat) (limit : Duration) (opened : Except HotkeyError (List Keyboard)) :
    ((capture number limit opened).run pool).2.only (.capture number) =
      ((capture number limit opened).run (pool.only (.capture number))).2 := by
  rw [capture_run, capture_run]
  cases acquired opened with
  | error cause => exact only_setCapture number _
  | ok keyboards =>
      dsimp only
      rw [← only_setCapture]
      apply only_append
      simp

theorem only_handle (index : Nat) (reading : Reading) :
    (pool.handle reader index reading).only reader = (pool.only reader).handle reader index reading := by
  cases reading with
  | failure reason => exact only_close index
  | event event =>
      cases reader with
      | listener => rfl
      | capture number =>
          simp only [handle]
          cases event.pressedKey? with
          | some key => rw [only_mapCapture, only_close]
          | none => exact only_mapCapture number _

end Alone

theorem only_step (pool : Pool β) (next : Step β) :
    (pool.step next).only next.reader = (pool.only next.reader).step next := by
  cases next with
  | register hotkey binding =>
      have same : (pool.only .listener).stopping = pool.stopping := rfl
      rw [step, step, Step.reader, same]
      split_ifs
      · rfl
      · exact only_register hotkey binding
  | start opened =>
      have same : (pool.only .listener).stopping = pool.stopping := rfl
      have also : (pool.only .listener).listening = pool.listening := rfl
      rw [step_start, step_start, Step.reader, same, also]
      split_ifs
      · rfl
      · cases acquired opened with
        | ok keyboards => exact only_started keyboards
        | error cause => rfl
  | stop =>
      have same : (pool.only .listener).listening = pool.listening := rfl
      rw [step, step, Step.reader, same]
      split_ifs
      · exact only_beginStop
      · rfl
  | stopped =>
      rw [step, step, Step.reader, tasksOf_only]
      split_ifs
      · rfl
      · rfl
  | capture number limit opened =>
      rw [step, step, Step.reader, captures_only]
      split_ifs
      · rfl
      · exact only_capture number limit opened
  | decide number =>
      simp only [step, Step.reader, captures_only]
      cases pool.captures number with
      | none => rfl
      | some capturing =>
          dsimp only
          split_ifs
          · rfl
          · simp only [decideCapture, race, handles_only, only_setCapture, only_tell]
  | returned number =>
      rw [step, step, Step.reader, tasksOf_only]
      split_ifs
      · exact only_mapCapture number _
      · rfl
  | read reader index reading =>
      rw [step, step, Step.reader, runs_only]
      split_ifs
      · exact only_handle index reading
      · rfl
  | leave reader index => exact only_leave index

theorem only_of_spares {pool after : Pool β} {reader other : Reader} (spares : Spares reader pool after)
    (different : other ≠ reader) : after.only other = pool.only other := by
  have tasks := spares.tasks other different
  cases other with
  | listener =>
      obtain ⟨table, held, listening, stopping⟩ := spares.listener different.symm
      simp only [only, tasks, table, held, listening, stopping]
  | capture number =>
      have captures := spares.captures number different.symm
      simp only [only, tasks, Pool.mk.injEq, true_and]
      funext other
      split_ifs with same
      · rw [same, captures]
      · rfl

/-- What a pool comes to have of a reader is what the steps of this reader alone bring about. -/
theorem only_run (pool : Pool β) (steps : List (Step β)) (reader : Reader) :
    (pool.run steps).only reader = (pool.only reader).run (steps.filter (·.reader == reader)) := by
  induction steps generalizing pool with
  | nil => rfl
  | cons next rest ih =>
      rw [run, List.foldl_cons, ← run, ih]
      -- Steps of other readers leave what this one has as it is.
      by_cases own : next.reader = reader
      · subst own
        rw [List.filter_cons_of_pos (by simp), only_step]
        rfl
      · rw [List.filter_cons_of_neg (by simpa using own),
          only_of_spares (spares_step pool next) (Ne.symm own)]

end Pool

end GlobalHotkeys
