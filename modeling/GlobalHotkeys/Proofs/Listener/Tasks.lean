import GlobalHotkeys.Proofs.Capture.Race

/-!
# The tasks that read keyboards

A listener and any number of captures read the same keyboards, each through handles of its own. A task
owns each handle and reads it, and the handle is open as long as its task runs. A task ends when its
keyboard fails, when it has sent what it captured, or after it was told to end. Whoever tells its tasks
to end waits until all of them have ended. The tasks take their steps in any order.
-/

namespace GlobalHotkeys

variable {β : Type}

inductive Reader where
  | listener
  | capture (number : Nat)
  deriving DecidableEq

structure ReadingTask where
  reader : Reader
  keyboard : Keyboard
  told : Bool := false
  deriving DecidableEq

def ReadingTask.reads (task : ReadingTask) (reader : Reader) (index : Nat) : Bool :=
  task.reader == reader && task.keyboard.index == index

def ReadingTask.hear (reader : Reader) (task : ReadingTask) : ReadingTask :=
  if task.reader = reader then { task with told := true } else task

structure Capturing where
  limit : Duration
  held : Held := {}
  sent : Option Captured := none
  answer : Option (Except HotkeyError String) := none
  returned : Bool := false

/-- The listener, the captures, and all tasks that run. -/
structure Pool (β : Type) where
  table : List (Registration β) := []
  held : Held := {}
  listening : Bool := false
  /-- Whether a stop waits for the tasks of the listener. -/
  stopping : Bool := false
  tasks : List ReadingTask := []
  captures : Nat → Option Capturing := fun _ => none

namespace Pool

def runs (pool : Pool β) (reader : Reader) (index : Nat) : Bool :=
  pool.tasks.any (·.reads reader index)

def tasksOf (pool : Pool β) (reader : Reader) : List ReadingTask :=
  pool.tasks.filter (·.reader == reader)

def handles (pool : Pool β) (reader : Reader) : List Keyboard :=
  (pool.tasksOf reader).map ReadingTask.keyboard

def spawn (reader : Reader) (keyboard : Keyboard) (pool : Pool β) : Pool β :=
  { pool with tasks := pool.tasks ++ [{ reader, keyboard }] }

def close (reader : Reader) (index : Nat) (pool : Pool β) : Pool β :=
  { pool with tasks := pool.tasks.filter fun task => !task.reads reader index }

def leave (reader : Reader) (index : Nat) (pool : Pool β) : Pool β :=
  { pool with tasks := pool.tasks.filter fun task => !(task.told && task.reads reader index) }

def tell (reader : Reader) (pool : Pool β) : Pool β :=
  { pool with tasks := pool.tasks.map (ReadingTask.hear reader) }

def acquired (opened : Except HotkeyError (List Keyboard)) : Except HotkeyError (List Keyboard) := do
  let keyboards ← opened
  if keyboards.isEmpty then throw .noKeyboard
  pure keyboards

def spawnAll (reader : Reader) (keyboards : List Keyboard) : StateM (Pool β) PUnit :=
  keyboards.forM fun keyboard => modify (spawn reader keyboard)

def start (opened : Except HotkeyError (List Keyboard)) : StateM (Pool β) (Except HotkeyError Unit) := do
  if (← get).listening then return .error .alreadyStarted
  match acquired opened with
  | .error cause => return .error cause
  | .ok keyboards =>
    modify fun pool => { pool with held := {} }
    spawnAll .listener keyboards
    modify fun pool => { pool with listening := true }
    return .ok ()

/-- The listener as a whole. Until a stop returns, the keyboards are still read. -/
def listener (pool : Pool β) : Listener β where
  table := pool.table
  held := pool.held
  reading := if pool.listening || pool.stopping then some (pool.handles .listener) else none

def register (hotkey : String) (binding : β) (pool : Pool β) : Pool β :=
  match pool.listener.register hotkey binding with
  | .ok after => { pool with table := after.table }
  | .error _ => pool

def beginStop (pool : Pool β) : Pool β :=
  { pool.tell .listener with listening := false, stopping := true }

def setCapture (number : Nat) (capturing : Option Capturing) (pool : Pool β) : Pool β :=
  { pool with captures := fun other => if other = number then capturing else pool.captures other }

def mapCapture (number : Nat) (change : Capturing → Capturing) (pool : Pool β) : Pool β :=
  pool.setCapture number ((pool.captures number).map change)

def capture (number : Nat) (limit : Duration) (opened : Except HotkeyError (List Keyboard)) :
    StateM (Pool β) PUnit := do
  match acquired opened with
  | .error cause =>
    modify (setCapture number (some { limit, answer := some (.error cause), returned := true }))
  | .ok keyboards =>
    spawnAll (.capture number) keyboards
    modify (setCapture number (some { limit }))

def race (pool : Pool β) (number : Nat) (capturing : Capturing) : CaptureRace where
  held := capturing.held
  listening := (pool.handles (.capture number)).map Keyboard.index
  sent := capturing.sent

def decideCapture (number : Nat) (capturing : Capturing) (pool : Pool β) : Pool β :=
  let answer := (pool.race number capturing).answer capturing.limit
  (pool.tell (.capture number)).setCapture number (some { capturing with answer := some answer })

def handle (reader : Reader) (index : Nat) (pool : Pool β) : Reading → Pool β
  | .failure _ => pool.close reader index
  | .event event =>
    match reader with
    | .listener => { pool with held := pool.held.track event }
    | .capture number =>
      match event.pressedKey? with
      | some key =>
        (pool.close reader index).mapCapture number fun capturing =>
          { capturing with sent := capturing.sent.or (some (capturedBy key capturing.held)) }
      | none =>
        pool.mapCapture number fun capturing =>
          { capturing with held := capturing.held.track event }

inductive Step (β : Type) where
  | register (hotkey : String) (binding : β)
  | start (opened : Except HotkeyError (List Keyboard))
  | stop
  | stopped
  | capture (number : Nat) (limit : Duration) (opened : Except HotkeyError (List Keyboard))
  | decide (number : Nat)
  | returned (number : Nat)
  | read (reader : Reader) (index : Nat) (reading : Reading)
  | leave (reader : Reader) (index : Nat)

def Step.reader : Step β → Reader
  | register .. | start _ | stop | stopped => .listener
  | capture number .. | decide number | returned number => .capture number
  | read reader .. | leave reader _ => reader

/-- One step; what cannot happen now changes nothing. While a stop waits, the listener takes no other
call, and each capture is begun, decided and returned once. -/
def step (pool : Pool β) : Step β → Pool β
  | .register hotkey binding => if pool.stopping then pool else pool.register hotkey binding
  | .start opened => if pool.stopping then pool else ((start opened).run pool).2
  | .stop => if pool.listening then pool.beginStop else pool
  | .stopped => if pool.tasksOf .listener = [] then { pool with stopping := false } else pool
  | .capture number limit opened =>
    if (pool.captures number).isSome then pool else ((capture number limit opened).run pool).2
  | .decide number =>
    match pool.captures number with
    | some capturing => if capturing.answer.isSome then pool else pool.decideCapture number capturing
    | none => pool
  | .returned number =>
    if pool.tasksOf (.capture number) = [] then
      pool.mapCapture number fun capturing => { capturing with returned := capturing.answer.isSome }
    else pool
  | .read reader index reading => if pool.runs reader index then pool.handle reader index reading else pool
  | .leave reader index => pool.leave reader index

def run (pool : Pool β) (steps : List (Step β)) : Pool β :=
  steps.foldl step pool

def after (steps : List (Step β)) : Pool β :=
  run {} steps

theorem spawnAll_run (reader : Reader) (keyboards : List Keyboard) (pool : Pool β) :
    (spawnAll reader keyboards).run pool =
      (⟨⟩, { pool with tasks := pool.tasks ++ keyboards.map fun keyboard => { reader, keyboard } }) := by
  induction keyboards generalizing pool with
  | nil =>
      rw [List.map_nil, List.append_nil]
      rfl
  | cons keyboard rest ih =>
      have next := ih (pool.spawn reader keyboard)
      simp only [spawn, List.append_assoc, List.singleton_append] at next
      exact next

theorem acquired_eq_ok_iff {opened : Except HotkeyError (List Keyboard)} {keyboards : List Keyboard} :
    acquired opened = .ok keyboards ↔ opened = .ok keyboards ∧ keyboards ≠ [] := by
  unfold acquired
  cases opened with
  | error cause => simp [bind, Except.bind]
  | ok keyboards =>
      cases keyboards with
      | nil => simp [bind, Except.bind, throw, throwThe, MonadExceptOf.throw]
      | cons keyboard rest =>
          simp only [bind, Except.bind, pure, Except.pure, List.isEmpty_cons, Bool.false_eq_true, if_false]
          constructor
          · rintro ⟨⟩
            exact ⟨rfl, List.cons_ne_nil _ _⟩
          · exact And.left

def started (keyboards : List Keyboard) (pool : Pool β) : Pool β :=
  { pool with
    held := {}
    listening := true
    tasks := pool.tasks ++ keyboards.map fun keyboard => { reader := .listener, keyboard } }

theorem start_run (opened : Except HotkeyError (List Keyboard)) (pool : Pool β) :
    (start opened).run pool =
      if pool.listening then (.error .alreadyStarted, pool)
      else match acquired opened with
        | .error cause => (.error cause, pool)
        | .ok keyboards => (.ok (), pool.started keyboards) := by
  simp only [start, StateT.run_bind, StateT.run_get, pure_bind]
  split_ifs with listening
  · rfl
  · cases acquired opened with
    | error cause => rfl
    | ok keyboards =>
        simp only [StateT.run_bind, spawnAll_run, StateT.run_modify, pure_bind]
        rfl

theorem register_eq_with (hotkey : String) (binding : β) (pool : Pool β) :
    ∃ table, pool.register hotkey binding = { pool with table } := by
  unfold register
  cases pool.listener.register hotkey binding with
  | ok after => exact ⟨after.table, rfl⟩
  | error cause => exact ⟨pool.table, rfl⟩

theorem step_start (opened : Except HotkeyError (List Keyboard)) (pool : Pool β) :
    pool.step (.start opened) =
      if pool.stopping || pool.listening then pool
      else match acquired opened with
        | .error _ => pool
        | .ok keyboards => pool.started keyboards := by
  rw [step, start_run]
  cases pool.stopping with
  | true => rfl
  | false =>
      cases pool.listening with
      | true => rfl
      | false =>
          cases acquired opened with
          | error cause => rfl
          | ok keyboards => rfl

theorem capture_run (number : Nat) (limit : Duration) (opened : Except HotkeyError (List Keyboard))
    (pool : Pool β) :
    (capture number limit opened).run pool =
      (⟨⟩, match acquired opened with
        | .error cause =>
          pool.setCapture number (some { limit, answer := some (.error cause), returned := true })
        | .ok keyboards =>
          { pool.setCapture number (some { limit }) with
            tasks := pool.tasks ++
              keyboards.map fun keyboard => { reader := .capture number, keyboard } }) := by
  unfold capture
  cases acquired opened with
  | error cause => rfl
  | ok keyboards =>
      simp only [StateT.run_bind, spawnAll_run, StateT.run_modify]
      rfl

end Pool

end GlobalHotkeys
