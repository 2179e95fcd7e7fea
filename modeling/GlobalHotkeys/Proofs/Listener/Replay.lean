import GlobalHotkeys.Proofs.Listener.Firing

namespace GlobalHotkeys

variable {β : Type}

namespace Listener

def readAll (listener : Listener β) (readings : List (Nat × Reading)) : Listener β :=
  readings.foldl (fun listener reading => (listener.read reading.1 reading.2).2) listener

/-- What each of the readings in turn fires: hotkeys, and what they are bound to. -/
def dispatches (listener : Listener β) : List (Nat × Reading) → List (List (String × β))
  | [] => []
  | (index, reading) :: rest =>
    (listener.read index reading).1.map (fun registration => (registration.id, registration.binding)) ::
      (listener.read index reading).2.dispatches rest

def handled (listener : Listener β) (index : Nat) : Reading → List KeyEvent
  | .event event => if listener.reads index then [event] else []
  | .failure _ => []

/-- The events among the readings that come from a keyboard still read. -/
def heard (listener : Listener β) : List (Nat × Reading) → List KeyEvent
  | [] => []
  | (index, reading) :: rest =>
    listener.handled index reading ++ (listener.read index reading).2.heard rest

theorem dispatches_append (listener : Listener β) (first second : List (Nat × Reading)) :
    listener.dispatches (first ++ second) =
      listener.dispatches first ++ (listener.readAll first).dispatches second := by
  induction first generalizing listener with
  | nil => rfl
  | cons reading rest ih =>
      rw [List.cons_append, dispatches, ih, dispatches, List.cons_append]
      rfl

theorem table_read (listener : Listener β) (index : Nat) (reading : Reading) :
    (listener.read index reading).2.table = listener.table := by
  unfold read
  cases reading with
  | event event => split_ifs <;> rfl
  | failure reason => split_ifs <;> rfl

theorem held_read (listener : Listener β) (index : Nat) (reading : Reading) :
    (listener.read index reading).2.held =
      (listener.handled index reading).foldl Held.track listener.held := by
  unfold read handled
  cases reading with
  | event event => split_ifs <;> rfl
  | failure reason => split_ifs <;> rfl

theorem table_readAll (listener : Listener β) (readings : List (Nat × Reading)) :
    (listener.readAll readings).table = listener.table := by
  induction readings generalizing listener with
  | nil => rfl
  | cons entry rest ih => exact (ih _).trans (table_read ..)

theorem held_readAll (listener : Listener β) (readings : List (Nat × Reading)) :
    (listener.readAll readings).held = (listener.heard readings).foldl Held.track listener.held := by
  induction readings generalizing listener with
  | nil => rfl
  | cons entry rest ih =>
      rw [heard, List.foldl_append, ← held_read]
      exact ih _

theorem read_fst_of_quiet {listener : Listener β} {index : Nat} {reading : Reading}
    (quiet : ∀ event ∈ listener.handled index reading, event.pressedKey? = none) :
    (listener.read index reading).1 = [] := by
  cases reading with
  | failure reason =>
      unfold read
      split_ifs <;> rfl
  | event event =>
      rw [read_event_fst]
      split_ifs with reads
      · have silent : event.pressedKey? = none := quiet event (by simp [handled, reads])
        rw [fired, silent]
      · rfl

theorem dispatches_of_quiet {listener : Listener β} {readings : List (Nat × Reading)}
    (quiet : ∀ event ∈ listener.heard readings, event.pressedKey? = none) :
    listener.dispatches readings = List.replicate readings.length [] := by
  induction readings generalizing listener with
  | nil => rfl
  | cons entry rest ih =>
      obtain ⟨now, later⟩ := List.forall_mem_append.mp quiet
      rw [dispatches, read_fst_of_quiet now, ih later]
      rfl

theorem fired_congr {first second : Listener β} (table : first.table = second.table)
    (held : first.held = second.held) (event : KeyEvent) : first.fired event = second.fired event := by
  unfold fired triggered
  rw [table, held]

/-- What an event fires is up to the table and to the events heard before, whatever keyboards they
came from and whatever failed between them. -/
theorem read_event_congr {first second : Listener β} (table : first.table = second.table)
    (held : first.held = second.held) {given others : List (Nat × Reading)}
    (same : first.heard given = second.heard others) {index other : Nat}
    (reads : (first.readAll given).reads index = true)
    (readsOther : (second.readAll others).reads other = true) (event : KeyEvent) :
    ((first.readAll given).read index (.event event)).1 =
      ((second.readAll others).read other (.event event)).1 := by
  rw [read_event_fst, read_event_fst, if_pos reads, if_pos readsOther]
  apply fired_congr
  · rw [table_readAll, table_readAll, table]
  · rw [held_readAll, held_readAll, held, same]

end Listener

end GlobalHotkeys
