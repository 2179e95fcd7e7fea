import GlobalHotkeys.Proofs.Listener.Handles

namespace GlobalHotkeys

variable {β : Type}

namespace Pool

/-- The event that the listener handles in this step, what that fires, and the modifiers held then. -/
def dispatched (pool : Pool β) (next : Step β) : List (KeyEvent × List (Registration β) × Held) :=
  match next with
  | .read .listener index reading =>
    (pool.listener.handled index reading).map fun event =>
      (event, (pool.listener.read index reading).1, (pool.step next).held)
  | _ => []

def dispatches (pool : Pool β) : List (Step β) → List (KeyEvent × List (Registration β) × Held)
  | [] => []
  | next :: rest => pool.dispatched next ++ dispatches (pool.step next) rest

theorem dispatched_of_capture {pool : Pool β} {next : Step β} (other : next.reader ≠ .listener) :
    pool.dispatched next = [] := by
  cases next with
  | read reader index reading =>
      cases reader with
      | listener => exact absurd rfl other
      | capture number => rfl
  | _ => rfl

theorem dispatched_only (pool : Pool β) (next : Step β) :
    (pool.only .listener).dispatched next = pool.dispatched next := by
  cases next with
  | read reader index reading =>
      cases reader with
      | capture number => rfl
      | listener =>
          have same := only_step pool (.read .listener index reading)
          simp only [Step.reader] at same
          simp only [dispatched, listener_only, ← same]
          rfl
  | _ => rfl

theorem dispatches_only (pool : Pool β) (steps : List (Step β)) :
    pool.dispatches steps = (pool.only .listener).dispatches (steps.filter (·.reader == .listener)) := by
  induction steps generalizing pool with
  | nil => rfl
  | cons next rest ih =>
      rw [dispatches, ih]
      by_cases own : next.reader = .listener
      · have same := only_step pool next
        rw [own] at same
        rw [List.filter_cons_of_pos (by simp [own]), dispatches, dispatched_only, same]
      · rw [List.filter_cons_of_neg (by simpa using own), dispatched_of_capture own,
          only_of_spares (spares_step pool next) (Ne.symm own)]
        rfl

theorem only_empty (reader : Reader) : ({} : Pool β).only reader = {} := by
  cases reader with
  | listener => rfl
  | capture number => simp [only, tasksOf]

section Captures

variable {pool : Pool β} {number : Nat} {capturing : Capturing}

theorem mapCapture_self {change : Capturing → Capturing}
    (same : ∀ capturing, pool.captures number = some capturing → change capturing = capturing) :
    pool.mapCapture number change = pool := by
  have unchanged : (pool.mapCapture number change).captures = pool.captures := by
    funext other
    simp only [mapCapture, setCapture]
    split_ifs with own
    · subst own
      cases found : pool.captures other with
      | none => rfl
      | some capturing => exact congrArg some (same capturing found)
    · rfl
  exact congrArg (fun captures => { pool with captures }) unchanged

theorem Sound.step_of_returned (sound : pool.Sound) (found : pool.captures number = some capturing)
    (returned : capturing.returned = true) {next : Step β} (own : next.reader = .capture number) :
    pool.step next = pool := by
  have ended : pool.tasksOf (.capture number) = [] := by
    apply sound.tasksOf_capture
    simp [found, returned]
  have decided := sound.answered number capturing found returned
  cases next with
  | capture other limit opened =>
      obtain rfl := Reader.capture.inj own
      rw [Pool.step, found, if_pos Option.isSome_some]
  | decide other =>
      obtain rfl := Reader.capture.inj own
      simp only [Pool.step, found, decided, if_true]
  | returned other =>
      obtain rfl := Reader.capture.inj own
      rw [Pool.step, if_pos ended]
      apply mapCapture_self
      intro same found'
      obtain rfl := Option.some.inj (found.symm.trans found')
      rw [decided, ← returned]
  | read reader index reading =>
      obtain rfl : reader = .capture number := own
      rw [Pool.step, ← any_handles, handles, ended]
      rfl
  | leave reader index =>
      obtain rfl : reader = .capture number := own
      rw [Pool.step, leave_of_told false, if_neg (by decide)]
      exact fun task member mine => absurd mine (not_mem_of_tasksOf_eq_nil ended member)
  | _ => cases own

theorem Sound.only_run_of_returned (sound : pool.Sound) (found : pool.captures number = some capturing)
    (returned : capturing.returned = true) (steps : List (Step β)) :
    (pool.run steps).only (.capture number) = pool.only (.capture number) := by
  induction steps generalizing pool with
  | nil => rfl
  | cons next rest ih =>
      have kept : (pool.step next).only (.capture number) = pool.only (.capture number) := by
        by_cases own : next.reader = .capture number
        · rw [sound.step_of_returned found returned own]
        · exact only_of_spares (spares_step pool next) (Ne.symm own)
      have still : (pool.step next).captures number = some capturing := by
        rw [← captures_only, kept, captures_only, found]
      exact (ih (sound.step next) still).trans kept

def givenTo (number : Nat) (steps : List (Step β)) : List (Nat × Reading) :=
  steps.filterMap fun
    | .read (.capture other) index reading => if other = number then some (index, reading) else none
    | _ => none

theorem givenTo_cons (number : Nat) (next : Step β) (rest : List (Step β)) :
    givenTo number (next :: rest) = givenTo number [next] ++ givenTo number rest := by
  rw [givenTo, givenTo, givenTo, ← List.filterMap_append, List.singleton_append]

theorem givenTo_of_ne {next : Step β} (other : next.reader ≠ .capture number) :
    givenTo number [next] = [] := by
  cases next with
  | read reader index reading =>
      cases reader with
      | listener => rfl
      | capture another =>
          have different : another ≠ number := fun same => other (congrArg Reader.capture same)
          simp [givenTo, different]
  | _ => rfl

/-- The capture has not been decided, and this is where its race stands. -/
def Racing (pool : Pool β) (number : Nat) (limit : Duration) (race : CaptureRace) : Prop :=
  ∃ capturing, pool.captures number = some capturing ∧ capturing.limit = limit ∧
    capturing.answer = none ∧ pool.race number capturing = race

theorem Racing.of_spares {after : Pool β} {reader : Reader} {limit : Duration} {race : CaptureRace}
    (racing : pool.Racing number limit race) (spares : Spares reader pool after)
    (other : reader ≠ .capture number) : after.Racing number limit race := by
  obtain ⟨capturing, found, limited, undecided, rfl⟩ := racing
  refine ⟨capturing, (spares.captures number other).trans found, limited, undecided, ?_⟩
  rw [race, race, handles_of_spares spares other.symm]

theorem contains_listening (capturing : Capturing) (index : Nat) :
    (pool.race number capturing).listening.contains index = pool.runs (.capture number) index := by
  rw [← any_handles, race, List.contains_eq_any_beq, List.any_map]
  simp only [Function.comp_def, Bool.beq_comm]

theorem race_close (capturing : Capturing) (index : Nat) :
    (pool.close (.capture number) index).race number capturing =
      (pool.race number capturing).leave index := by
  simp only [race, handles_close, Listener.without, CaptureRace.leave, List.filter_map]
  rfl

theorem captures_setCapture (capturing : Option Capturing) :
    (pool.setCapture number capturing).captures number = capturing :=
  if_pos rfl

theorem captures_mapCapture (change : Capturing → Capturing) :
    (pool.mapCapture number change).captures number = (pool.captures number).map change :=
  if_pos rfl

theorem Racing.handle {limit : Duration} {race : CaptureRace} (racing : pool.Racing number limit race)
    (index : Nat) (reading : Reading) :
    (pool.step (.read (.capture number) index reading)).Racing number limit
      (race.handle index reading) := by
  obtain ⟨capturing, found, limited, undecided, rfl⟩ := racing
  unfold CaptureRace.handle
  rw [step, contains_listening]
  split_ifs with running
  · cases reading with
    | failure reason => exact ⟨capturing, found, limited, undecided, race_close capturing index⟩
    | event event =>
        simp only [Pool.handle]
        cases event.pressedKey? with
        | none => exact ⟨_, (captures_mapCapture _).trans (congrArg _ found), limited, undecided, rfl⟩
        | some key =>
            refine ⟨_, (captures_mapCapture _).trans (congrArg _ found), limited, undecided, ?_⟩
            exact congrArg (CaptureRace.trySend · (capturedBy key capturing.held))
              (race_close capturing index)
  · exact ⟨capturing, found, limited, undecided, rfl⟩

theorem Sound.racing_step (sound : pool.Sound) {limit : Duration} {race : CaptureRace}
    (racing : pool.Racing number limit race) {next : Step β} (on : .decide number ≠ next) :
    (pool.step next).Racing number limit
      (race.run ((givenTo number [next]).map fun given => .handle given.1 given.2)) := by
  by_cases own : next.reader = .capture number
  · cases next with
    | capture other limit opened =>
        obtain rfl := Reader.capture.inj own
        have taken : (pool.captures other).isSome = true := by
          obtain ⟨capturing, found, -⟩ := racing
          rw [found]
          rfl
        rw [Pool.step, if_pos taken]
        exact racing
    | decide other =>
        obtain rfl := Reader.capture.inj own
        exact absurd rfl on
    | returned other =>
        obtain rfl := Reader.capture.inj own
        rw [Pool.step]
        split_ifs
        · obtain ⟨capturing, found, limited, undecided, rfl⟩ := racing
          exact ⟨_, (captures_mapCapture _).trans (congrArg _ found), limited, undecided, rfl⟩
        · exact racing
    | read reader index reading =>
        obtain rfl : reader = .capture number := own
        have given : givenTo number [(.read (.capture number) index reading : Step β)] =
            [(index, reading)] := by
          simp [givenTo]
        rw [given]
        exact racing.handle index reading
    | leave reader index =>
        obtain rfl : reader = .capture number := own
        -- The tasks of a capture are told to end only when it is decided.
        have untold : ∀ task ∈ pool.tasks, task.reader = .capture number → task.told = false := by
          intro task member mine
          obtain ⟨capturing, found, -, undecided, -⟩ := racing
          obtain ⟨same, found', -, told⟩ := (accounts_capture_iff mine).mp (sound.accounted task member)
          obtain rfl := Option.some.inj (found.symm.trans found')
          rw [told, undecided]
          rfl
        rw [Pool.step, leave_of_told false untold, if_neg (by decide)]
        exact racing
    | _ => cases own
  · rw [givenTo_of_ne own]
    exact racing.of_spares (spares_step pool next) own

theorem Sound.racing_run (sound : pool.Sound) {limit : Duration} {race : CaptureRace}
    (racing : pool.Racing number limit race) {steps : List (Step β)} (on : .decide number ∉ steps) :
    (pool.run steps).Racing number limit
      (race.run ((givenTo number steps).map fun given => .handle given.1 given.2)) := by
  induction steps generalizing pool race with
  | nil => exact racing
  | cons next rest ih =>
      rw [List.mem_cons, not_or] at on
      have later := ih (sound.step next) (sound.racing_step racing on.1) on.2
      rw [givenTo_cons, List.map_append, CaptureRace.run, List.foldl_append]
      exact later

theorem decided_step {answer : Except HotkeyError String}
    (decided : (pool.captures number).map Capturing.answer = some (some answer)) (next : Step β) :
    ((pool.step next).captures number).map Capturing.answer = some (some answer) := by
  obtain ⟨capturing, found, answered⟩ := Option.map_eq_some_iff.mp decided
  have mapped (change : Capturing → Capturing)
      (keeps : ∀ capturing, (change capturing).answer = capturing.answer) :
      ((pool.mapCapture number change).captures number).map Capturing.answer = some (some answer) := by
    rw [captures_mapCapture, found, Option.map_some, Option.map_some, keeps, answered]
  by_cases own : next.reader = .capture number
  · cases next with
    | capture other limit opened =>
        obtain rfl := Reader.capture.inj own
        rw [step, found, if_pos Option.isSome_some]
        exact decided
    | decide other =>
        obtain rfl := Reader.capture.inj own
        simp only [step, found, answered, Option.isSome_some, if_true, Option.map_some]
    | returned other =>
        obtain rfl := Reader.capture.inj own
        rw [step]
        split_ifs
        · exact mapped _ fun _ => rfl
        · exact decided
    | read reader index reading =>
        obtain rfl : reader = .capture number := own
        rw [step]
        split_ifs
        · cases reading with
          | failure reason => exact decided
          | event event =>
              simp only [handle]
              cases event.pressedKey? with
              | some key => exact mapped _ fun _ => rfl
              | none => exact mapped _ fun _ => rfl
        · exact decided
    | leave reader index => exact decided
    | _ => cases own
  · rw [(spares_step pool next).captures number own]
    exact decided

theorem decided_run {answer : Except HotkeyError String}
    (decided : (pool.captures number).map Capturing.answer = some (some answer)) (steps : List (Step β)) :
    ((pool.run steps).captures number).map Capturing.answer = some (some answer) := by
  induction steps generalizing pool with
  | nil => exact decided
  | cons next rest ih => exact ih (decided_step decided next)

theorem Racing.decide {limit : Duration} {race : CaptureRace}
    (racing : pool.Racing number limit race) :
    ((pool.step (.decide number)).captures number).map Capturing.answer =
      some (some (race.answer limit)) := by
  obtain ⟨capturing, found, rfl, undecided, rfl⟩ := racing
  have decides : pool.step (.decide number) = pool.decideCapture number capturing := by
    simp [step, found, undecided]
  rw [decides]
  exact congrArg (Option.map Capturing.answer) (captures_setCapture _)

theorem Sound.racing_capture (sound : pool.Sound) (new : pool.captures number = none) (limit : Duration)
    {opened : Except HotkeyError (List Keyboard)} {keyboards : List Keyboard}
    (given : acquired opened = .ok keyboards) :
    (pool.step (.capture number limit opened)).Racing number limit (CaptureRace.begin keyboards) := by
  have without : pool.tasks.filter (·.reader == .capture number) = [] := by
    apply sound.tasksOf_capture
    simp [new]
  rw [Pool.step, new, if_neg (by simp), capture_run, given]
  refine ⟨{ limit }, if_pos rfl, rfl, rfl, ?_⟩
  simp [race, CaptureRace.begin, handles, tasksOf, without, List.filter_map, Function.comp_def]

theorem captureOnce_eq (opened : Except HotkeyError (List Keyboard)) (limit : Duration)
    (given : List (Nat × Reading)) :
    captureOnce opened limit given = (do
      let keyboards ← acquired opened
      ((CaptureSession.fresh keyboards).readAll given).answer limit) := by
  cases opened with
  | error cause => rfl
  | ok keyboards =>
      cases keyboards with
      | nil => rfl
      | cons keyboard rest => rfl

theorem readings_handle (given : List (Nat × Reading)) :
    CaptureRace.readings (given.map fun reading => .handle reading.1 reading.2) = given := by
  simp [CaptureRace.readings, List.filterMap_map]

theorem Sound.only_of_new (sound : pool.Sound) (new : pool.captures number = none) :
    pool.only (.capture number) = {} := by
  have ended : pool.tasksOf (.capture number) = [] := by
    apply sound.tasksOf_capture
    simp [new]
  have none : (fun other => if other = number then pool.captures other else Option.none) =
      fun _ => Option.none := by
    funext other
    split_ifs with own
    · rw [own, new]
    · rfl
  rw [only, ended, none]

theorem Sound.capture_answer (sound : pool.Sound) (new : pool.captures number = none) (limit : Duration)
    (opened : Except HotkeyError (List Keyboard)) {between : List (Step β)}
    (on : .decide number ∉ between) (rest : List (Step β)) :
    ((pool.run (.capture number limit opened :: (between ++ .decide number :: rest))).captures number).map
      Capturing.answer = some (some (captureOnce opened limit (givenTo number between))) := by
  rw [captureOnce_eq]
  cases given : acquired opened with
  | error cause =>
      have failed : pool.step (.capture number limit opened) =
          pool.setCapture number (some { limit, answer := some (.error cause), returned := true }) := by
        rw [Pool.step, new, if_neg (by simp), capture_run, given]
      rw [run, List.foldl_cons, failed]
      apply decided_run
      exact congrArg (Option.map Capturing.answer) (captures_setCapture _)
  | ok keyboards =>
      have began := sound.racing_capture new limit given
      have raced := (sound.step (.capture number limit opened)).racing_run began on
      rw [run, List.foldl_cons, List.foldl_append, List.foldl_cons]
      apply decided_run
      rw [← run, raced.decide, CaptureRace.answer_run, readings_handle]
      rfl

end Captures

/-- In every run of a listener and captures beside it: without the captures, the listener would be where
it is and would have handled the same events, with the same modifiers held, and each would have fired the
same. A capture that has returned, with whatever answer, has no handle open, then or later. What a new
capture does and returns is the same as if nothing had happened before it began: once that is decided, it
is what these keyboards capture from what they gave since then. -/
theorem captures_run_apart (steps : List (Step β)) :
    let pool := after steps
    let alone := steps.filter (·.reader == .listener)
    pool.only .listener = after alone ∧ dispatches {} steps = dispatches {} alone ∧
    (∀ number capturing, pool.captures number = some capturing → capturing.returned = true → ∀ later,
      (pool.run later).handles (.capture number) = [] ∧
      (pool.run later).captures number = some capturing) ∧
    ∀ number, pool.captures number = none → ∀ limit opened,
      (∀ later, (pool.run (.capture number limit opened :: later)).only (.capture number) =
        (after (.capture number limit opened :: later)).only (.capture number)) ∧
      ∀ between rest, .decide number ∉ between →
        ((pool.run (.capture number limit opened :: (between ++ .decide number :: rest))).captures number).map
          Capturing.answer = some (some (captureOnce opened limit (givenTo number between))) := by
  intro pool alone
  have sound : pool.Sound := sound_after steps
  refine ⟨?_, ?_, fun number capturing found returned later => ?_, fun number new limit opened =>
    ⟨fun later => ?_, fun between rest on => sound.capture_answer new limit opened on rest⟩⟩
  · show (run {} steps).only .listener = _
    rw [only_run, only_empty]
    rfl
  · rw [dispatches_only, only_empty]
  · have kept := sound.only_run_of_returned found returned later
    constructor
    · rw [← handles_only, kept, handles_only, handles, sound.tasksOf_capture (by simp [found, returned])]
      rfl
    · rw [← captures_only, kept, captures_only, found]
  · have nothing := sound.only_of_new new
    rw [only_run, nothing, after, only_run, only_empty]

/-- A combination is captured of which the modifier key was pressed before: the listener, which heard
that, fires its hotkey, and the capture knows only of the key that was pressed then. -/
example :
    let keyboard : Keyboard := ⟨0, "first"⟩
    let both (event : KeyEvent) : List (Step Unit) :=
      [.read .listener 0 (.event event), .read (.capture 0) 0 (.event event)]
    let steps : List (Step Unit) :=
      [.register "ctrl+f9" (), .start (.ok [keyboard]), .read .listener 0 (.event (.press 29)),
        .capture 0 (.ofSeconds 10) (.ok [keyboard])] ++ both (.press 67) ++ [.decide 0, .returned 0]
    let pool := after steps
    (pool.captures 0).map Capturing.answer = some (some (.ok "f9")) ∧
    (pool.captures 0).map Capturing.returned = some true ∧
    pool.handles .listener = [keyboard] ∧ pool.handles (.capture 0) = [] ∧
    (dispatches {} steps).map (fun entry => entry.2.1.map Registration.id) = [[], ["ctrl+f9"]] := by
  decide +kernel

end Pool

end GlobalHotkeys
