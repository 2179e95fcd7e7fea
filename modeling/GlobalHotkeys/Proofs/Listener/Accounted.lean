import GlobalHotkeys.Proofs.Listener.Apart

namespace GlobalHotkeys

variable {β : Type}

def Capturing.account (capturing : Capturing) : Bool × Option (Except HotkeyError String) :=
  (capturing.returned, capturing.answer)

namespace Pool

def Accounts (pool : Pool β) (task : ReadingTask) : Prop :=
  match task.reader with
  | .listener => (pool.listening || pool.stopping) = true ∧ task.told = pool.stopping
  | .capture number => ∃ capturing, pool.captures number = some capturing ∧
      capturing.returned = false ∧ task.told = capturing.answer.isSome

structure Sound (pool : Pool β) : Prop where
  apart : pool.listening = true → pool.stopping = false
  accounted : ∀ task ∈ pool.tasks, pool.Accounts task
  answered : ∀ number capturing, pool.captures number = some capturing → capturing.returned = true →
    capturing.answer.isSome = true

section Accounts

variable {pool after : Pool β} {reader : Reader} {task : ReadingTask}

theorem accounts_listener_iff (own : task.reader = .listener) :
    pool.Accounts task ↔ (pool.listening || pool.stopping) = true ∧ task.told = pool.stopping := by
  rw [Accounts, own]

theorem accounts_capture_iff {number : Nat} (own : task.reader = .capture number) :
    pool.Accounts task ↔ ∃ capturing, pool.captures number = some capturing ∧
      capturing.returned = false ∧ task.told = capturing.answer.isSome := by
  rw [Accounts, own]

theorem Spares.mem (spares : Spares reader pool after) (different : task.reader ≠ reader)
    (member : task ∈ after.tasks) : task ∈ pool.tasks := by
  have kept : task ∈ after.tasksOf task.reader := List.mem_filter.mpr ⟨member, beq_self_eq_true _⟩
  rw [spares.tasks task.reader different] at kept
  exact List.mem_of_mem_filter kept

theorem Accounts.of_spares (accounts : pool.Accounts task) (spares : Spares reader pool after)
    (different : task.reader ≠ reader) : after.Accounts task := by
  cases own : task.reader with
  | listener =>
      rw [accounts_listener_iff own] at accounts ⊢
      obtain ⟨-, -, listening, stopping⟩ := spares.listener (own ▸ different.symm)
      rw [listening, stopping]
      exact accounts
  | capture number =>
      rw [accounts_capture_iff own] at accounts ⊢
      rw [spares.captures number (own ▸ different.symm)]
      exact accounts

theorem Sound.of_listener (sound : pool.Sound) (spares : Spares .listener pool after)
    (apart : after.listening = true → after.stopping = false)
    (own : ∀ task ∈ after.tasks, task.reader = .listener → after.Accounts task) : after.Sound where
  apart := apart
  accounted task member := by
    by_cases mine : task.reader = .listener
    · exact own task member mine
    · exact (sound.accounted task (spares.mem mine member)).of_spares spares mine
  answered number capturing found := by
    rw [spares.captures number (by simp)] at found
    exact sound.answered number capturing found

theorem Sound.of_capture {number : Nat} (sound : pool.Sound) (spares : Spares (.capture number) pool after)
    (own : ∀ task ∈ after.tasks, task.reader = .capture number → after.Accounts task)
    (answered : ∀ capturing, after.captures number = some capturing → capturing.returned = true →
      capturing.answer.isSome = true) : after.Sound where
  apart := by
    obtain ⟨-, -, listening, stopping⟩ := spares.listener (by simp)
    rw [listening, stopping]
    exact sound.apart
  accounted task member := by
    by_cases mine : task.reader = .capture number
    · exact own task member mine
    · exact (sound.accounted task (spares.mem mine member)).of_spares spares mine
  answered other capturing found := by
    by_cases mine : other = number
    · subst mine
      exact answered capturing found
    · rw [spares.captures other (by simpa [eq_comm] using mine)] at found
      exact sound.answered other capturing found

theorem Sound.tasksOf_listener (sound : pool.Sound) (idle : pool.listening = false)
    (still : pool.stopping = false) : pool.tasksOf .listener = [] := by
  rw [tasksOf, List.filter_eq_nil_iff]
  intro task member
  rw [beq_iff_eq]
  intro own
  have accounts := (accounts_listener_iff own).mp (sound.accounted task member)
  simp [idle, still] at accounts

theorem Sound.tasksOf_capture {number : Nat} (sound : pool.Sound)
    (gone : ∀ capturing, pool.captures number = some capturing → capturing.returned = true) :
    pool.tasksOf (.capture number) = [] := by
  rw [tasksOf, List.filter_eq_nil_iff]
  intro task member
  rw [beq_iff_eq]
  intro own
  obtain ⟨capturing, found, running, -⟩ := (accounts_capture_iff own).mp (sound.accounted task member)
  rw [gone capturing found] at running
  cases running

theorem not_mem_of_tasksOf_eq_nil (none : pool.tasksOf reader = []) (member : task ∈ pool.tasks) :
    task.reader ≠ reader := by
  intro own
  have kept : task ∈ pool.tasksOf reader := List.mem_filter.mpr ⟨member, beq_iff_eq.mpr own⟩
  rw [none] at kept
  cases kept

end Accounts

section Steps

variable {pool : Pool β}

theorem Sound.register (sound : pool.Sound) (hotkey : String) (binding : β) :
    (pool.register hotkey binding).Sound := by
  obtain ⟨table, registered⟩ := register_eq_with hotkey binding pool
  rw [registered]
  exact ⟨sound.apart, sound.accounted, sound.answered⟩

theorem Sound.started (sound : pool.Sound) (idle : pool.listening = false) (still : pool.stopping = false)
    (keyboards : List Keyboard) : (pool.started keyboards).Sound := by
  apply sound.of_listener (spares_started keyboards pool)
  · exact fun _ => still
  · intro task member own
    rw [accounts_listener_iff own]
    rcases List.mem_append.mp member with earlier | new
    · exact absurd own (not_mem_of_tasksOf_eq_nil (sound.tasksOf_listener idle still) earlier)
    · obtain ⟨keyboard, -, rfl⟩ := List.mem_map.mp new
      exact ⟨rfl, still.symm⟩

theorem Sound.beginStop (sound : pool.Sound) : pool.beginStop.Sound := by
  apply sound.of_listener ((spares_tell .listener pool).trans spares_listener)
  · intro listening
    cases listening
  · intro task member own
    rw [accounts_listener_iff own]
    obtain ⟨before, -, rfl⟩ := List.mem_map.mp member
    rw [reader_hear] at own
    refine ⟨rfl, ?_⟩
    rw [ReadingTask.hear, if_pos own]

theorem Sound.stopped (sound : pool.Sound) (ended : pool.tasksOf .listener = []) :
    { pool with stopping := false }.Sound := by
  apply sound.of_listener spares_listener
  · exact fun _ => rfl
  · exact fun task member own => absurd own (not_mem_of_tasksOf_eq_nil ended member)

theorem Sound.capture (sound : pool.Sound) {number : Nat} (new : pool.captures number = none)
    (limit : Duration) (opened : Except HotkeyError (List Keyboard)) :
    ((capture number limit opened).run pool).2.Sound := by
  have without : pool.tasksOf (.capture number) = [] := by
    apply sound.tasksOf_capture
    simp [new]
  apply sound.of_capture (spares_capture number limit opened pool)
  · intro task member own
    rw [capture_run] at member ⊢
    cases given : acquired opened with
    | error cause =>
        rw [given] at member
        exact absurd own (not_mem_of_tasksOf_eq_nil without member)
    | ok keyboards =>
        rw [given] at member
        rw [accounts_capture_iff own]
        rcases List.mem_append.mp member with earlier | fresh
        · exact absurd own (not_mem_of_tasksOf_eq_nil without earlier)
        · obtain ⟨keyboard, -, rfl⟩ := List.mem_map.mp fresh
          exact ⟨{ limit }, if_pos rfl, rfl, rfl⟩
  · intro capturing found returned
    rw [capture_run] at found
    cases given : acquired opened with
    | error cause =>
        rw [given] at found
        obtain rfl := Option.some.inj ((if_pos rfl).symm.trans found)
        rfl
    | ok keyboards =>
        rw [given] at found
        obtain rfl := Option.some.inj ((if_pos rfl).symm.trans found)
        cases returned

theorem Sound.decideCapture (sound : pool.Sound) {number : Nat} {capturing : Capturing}
    (found : pool.captures number = some capturing) : (pool.decideCapture number capturing).Sound := by
  apply sound.of_capture ((spares_tell _ pool).trans (spares_setCapture number _ _))
  · intro task member own
    rw [accounts_capture_iff own]
    obtain ⟨before, earlier, rfl⟩ := List.mem_map.mp member
    rw [reader_hear] at own
    obtain ⟨same, found', running, -⟩ := (accounts_capture_iff own).mp (sound.accounted before earlier)
    obtain rfl := Option.some.inj (found.symm.trans found')
    refine ⟨_, if_pos rfl, running, ?_⟩
    rw [ReadingTask.hear, if_pos own]
    rfl
  · intro decided found' returned
    obtain rfl := Option.some.inj ((if_pos rfl).symm.trans found')
    rfl

theorem Sound.returned (sound : pool.Sound) {number : Nat} (ended : pool.tasksOf (.capture number) = []) :
    (pool.mapCapture number fun capturing =>
      { capturing with returned := capturing.answer.isSome }).Sound := by
  apply sound.of_capture (spares_setCapture number _ pool)
  · exact fun task member own => absurd own (not_mem_of_tasksOf_eq_nil ended member)
  · intro capturing found returned
    have changed := (if_pos rfl).symm.trans found
    obtain ⟨before, -, rfl⟩ := Option.map_eq_some_iff.mp changed
    exact returned

theorem Sound.of_subset {after : Pool β} (sound : pool.Sound)
    (fewer : ∀ task ∈ after.tasks, task ∈ pool.tasks) (listening : after.listening = pool.listening)
    (stopping : after.stopping = pool.stopping)
    (captures : ∀ number, (after.captures number).map Capturing.account =
      (pool.captures number).map Capturing.account) : after.Sound where
  apart := by
    rw [listening, stopping]
    exact sound.apart
  accounted task member := by
    have accounts := sound.accounted task (fewer task member)
    cases own : task.reader with
    | listener =>
        rw [accounts_listener_iff own] at accounts ⊢
        rw [listening, stopping]
        exact accounts
    | capture number =>
        rw [accounts_capture_iff own] at accounts ⊢
        obtain ⟨capturing, found, running, told⟩ := accounts
        have same := captures number
        rw [found, Option.map_some, Option.map_eq_some_iff] at same
        obtain ⟨later, found', account⟩ := same
        obtain ⟨returned, answer⟩ := Prod.mk.inj account
        exact ⟨later, found', returned.trans running, by rw [told, answer]⟩
  answered number capturing found returned := by
    have same := (captures number).symm
    rw [found, Option.map_some, Option.map_eq_some_iff] at same
    obtain ⟨before, found', account⟩ := same
    obtain ⟨returned', answer⟩ := Prod.mk.inj account
    rw [← answer]
    exact sound.answered number before found' (returned'.trans returned)

theorem account_mapCapture (number other : Nat) {change : Capturing → Capturing}
    (same : ∀ capturing, (change capturing).account = capturing.account) :
    ((pool.mapCapture number change).captures other).map Capturing.account =
      (pool.captures other).map Capturing.account := by
  simp only [mapCapture, setCapture]
  split_ifs with mine
  · subst mine
    cases pool.captures other with
    | none => rfl
    | some capturing => exact congrArg some (same capturing)
  · rfl

theorem Sound.handle (sound : pool.Sound) (reader : Reader) (index : Nat) (reading : Reading) :
    (pool.handle reader index reading).Sound := by
  cases reading with
  | failure reason =>
      exact sound.of_subset (fun task => List.mem_of_mem_filter) rfl rfl fun _ => rfl
  | event event =>
      cases reader with
      | listener => exact sound.of_subset (fun task => id) rfl rfl fun _ => rfl
      | capture number =>
          simp only [Pool.handle]
          cases event.pressedKey? with
          | some key =>
              refine sound.of_subset ?_ rfl rfl ?_
              · exact fun task => List.mem_of_mem_filter
              · exact fun other => account_mapCapture number other fun capturing => rfl
          | none =>
              refine sound.of_subset ?_ rfl rfl ?_
              · exact fun task => id
              · exact fun other => account_mapCapture number other fun capturing => rfl

theorem Sound.step (sound : pool.Sound) (next : Step β) : (pool.step next).Sound := by
  cases next with
  | register hotkey binding =>
      rw [Pool.step]
      split_ifs
      · exact sound
      · exact sound.register hotkey binding
  | start opened =>
      rw [step_start]
      split_ifs with busy
      · exact sound
      · obtain ⟨still, idle⟩ := Bool.or_eq_false_iff.mp (Bool.not_eq_true _ ▸ busy)
        cases acquired opened with
        | ok keyboards => exact sound.started idle still keyboards
        | error cause => exact sound
  | stop =>
      rw [Pool.step]
      split_ifs
      · exact sound.beginStop
      · exact sound
  | stopped =>
      rw [Pool.step]
      split_ifs with ended
      · exact sound.stopped ended
      · exact sound
  | capture number limit opened =>
      rw [Pool.step]
      split_ifs with taken
      · exact sound
      · exact sound.capture (by simpa using taken) limit opened
  | decide number =>
      simp only [Pool.step]
      cases found : pool.captures number with
      | none => exact sound
      | some capturing =>
          dsimp only
          split_ifs
          · exact sound
          · exact sound.decideCapture found
  | returned number =>
      rw [Pool.step]
      split_ifs with ended
      · exact sound.returned ended
      · exact sound
  | read reader index reading =>
      rw [Pool.step]
      split_ifs
      · exact sound.handle reader index reading
      · exact sound
  | leave reader index =>
      exact sound.of_subset (fun task => List.mem_of_mem_filter) rfl rfl fun _ => rfl

theorem sound_run (sound : pool.Sound) (steps : List (Step β)) : (pool.run steps).Sound := by
  induction steps generalizing pool with
  | nil => exact sound
  | cons next rest ih => exact ih (sound.step next)

theorem sound_after (steps : List (Step β)) : (after steps).Sound := by
  apply sound_run
  exact ⟨fun _ => rfl, by simp, by simp⟩

end Steps

end Pool

end GlobalHotkeys
