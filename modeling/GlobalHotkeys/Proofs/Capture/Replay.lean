import GlobalHotkeys.Capture.Session
import GlobalHotkeys.Proofs.Hotkey.Press
import GlobalHotkeys.Proofs.Listener.Replay

namespace GlobalHotkeys

variable {β : Type}

namespace CaptureSession

def fresh (keyboards : List Keyboard) : CaptureSession :=
  { reading := keyboards.map Keyboard.index }

def handled (session : CaptureSession) (index : Nat) (reading : Reading) : List KeyEvent :=
  match reading with
  | .event event =>
    if session.captured.isSome || !session.reading.contains index then [] else [event]
  | .failure _ => []

/-- The events that the session handles among the readings. -/
def events (session : CaptureSession) : List (Nat × Reading) → List KeyEvent
  | [] => []
  | (index, reading) :: rest =>
    session.handled index reading ++ (session.read index reading).events rest

theorem read_of_captured {session : CaptureSession} {index : Nat} {reading : Reading}
    (decided : session.captured.isSome = true) : session.read index reading = session := by
  unfold read
  rw [decided]
  rfl

theorem readAll_of_captured {session : CaptureSession} (readings : List (Nat × Reading))
    (decided : session.captured.isSome = true) : session.readAll readings = session := by
  induction readings with
  | nil => rfl
  | cons reading rest ih =>
      rw [readAll, List.foldl_cons, read_of_captured decided]
      exact ih

theorem readAll_cons (session : CaptureSession) (index : Nat) (reading : Reading)
    (rest : List (Nat × Reading)) :
    session.readAll ((index, reading) :: rest) = (session.read index reading).readAll rest :=
  rfl

theorem captured_of_readAll {session : CaptureSession} {readings : List (Nat × Reading)}
    (undecided : (session.readAll readings).captured = none) : session.captured = none := by
  by_contra decided
  rw [readAll_of_captured readings (Option.isSome_iff_ne_none.mpr decided)] at undecided
  exact decided undecided

inductive Reads (session : CaptureSession) (index : Nat) : Reading → CaptureSession → Prop where
  | unread {reading : Reading} (closed : session.reading.contains index = false) :
      Reads session index reading session
  | failed {reason : String} (opened : session.reading.contains index = true) :
      Reads session index (.failure reason)
        { session with reading := session.reading.filter (· != index) }
  | captured {event : KeyEvent} {key : String} (opened : session.reading.contains index = true)
      (pressed : event.pressedKey? = some key) :
      Reads session index (.event event)
        { session with captured := some (capturedBy key session.held) }
  | tracked {event : KeyEvent} (opened : session.reading.contains index = true)
      (quiet : event.pressedKey? = none) :
      Reads session index (.event event) { session with held := session.held.track event }

theorem reads_read {session : CaptureSession} (index : Nat) (reading : Reading)
    (undecided : session.captured = none) :
    Reads session index reading (session.read index reading) := by
  unfold read
  by_cases opened : session.reading.contains index = true
  · have handles : ¬ (session.captured.isSome || !session.reading.contains index) = true := by
      rw [undecided, opened]
      decide
    rw [if_neg handles]
    cases reading with
    | failure reason => exact .failed opened
    | event event =>
        cases pressed : event.pressedKey? with
        | some key => simpa only [pressed] using Reads.captured opened pressed
        | none => simpa only [pressed] using Reads.tracked opened pressed
  · have skips : (session.captured.isSome || !session.reading.contains index) = true := by
      rw [undecided]
      simpa using opened
    rw [if_pos skips]
    exact .unread (by simpa using opened)

theorem handled_of_opened {session : CaptureSession} {index : Nat} {event : KeyEvent}
    (undecided : session.captured = none) (opened : session.reading.contains index = true) :
    session.handled index (.event event) = [event] := by
  unfold handled
  rw [undecided, opened]
  rfl

theorem handled_of_closed {session : CaptureSession} {index : Nat} {reading : Reading}
    (closed : session.reading.contains index = false) : session.handled index reading = [] := by
  unfold handled
  rw [closed]
  cases reading with
  | failure reason => rfl
  | event event => simp

theorem handled_of_undecided {session : CaptureSession} {index : Nat} {reading : Reading}
    (undecided : (session.read index reading).captured = none) (before : session.captured = none) :
    (∀ event ∈ session.handled index reading, event.pressedKey? = none) ∧
      (session.read index reading).held =
        (session.handled index reading).foldl Held.track session.held := by
  have step := reads_read index reading before
  generalize session.read index reading = next at undecided step
  cases step with
  | unread closed =>
      rw [handled_of_closed closed]
      exact ⟨by simp, rfl⟩
  | failed opened => exact ⟨by simp [handled], rfl⟩
  | captured opened pressed => cases undecided
  | tracked opened quiet =>
      rw [handled_of_opened before opened]
      exact ⟨by simpa using quiet, rfl⟩

theorem events_of_undecided {session : CaptureSession} {readings : List (Nat × Reading)}
    (undecided : (session.readAll readings).captured = none) :
    (∀ event ∈ session.events readings, event.pressedKey? = none) ∧
      (session.readAll readings).held =
        (session.events readings).foldl Held.track session.held := by
  induction readings generalizing session with
  | nil => exact ⟨by simp [events], rfl⟩
  | cons entry rest ih =>
      obtain ⟨index, reading⟩ := entry
      have before := captured_of_readAll undecided
      rw [readAll_cons] at undecided ⊢
      obtain ⟨quietRest, heldRest⟩ := ih undecided
      obtain ⟨quiet, held⟩ := handled_of_undecided (captured_of_readAll undecided) before
      rw [events, List.foldl_append, heldRest, held]
      exact ⟨List.forall_mem_append.mpr ⟨quiet, quietRest⟩, rfl⟩

/-- This reading, after those before it, is the one from which this is captured. -/
def ResolvedBy (session : CaptureSession) (before : List (Nat × Reading)) (index : Nat)
    (event : KeyEvent) (captured : Captured) : Prop :=
  (session.readAll before).captured = none ∧
    (session.readAll (before ++ [(index, .event event)])).captured = some captured

theorem exists_resolvedBy {session : CaptureSession} {readings : List (Nat × Reading)}
    {captured : Captured} (undecided : session.captured = none)
    (decided : (session.readAll readings).captured = some captured) :
    ∃ before index event rest, readings = before ++ (index, .event event) :: rest ∧
      session.ResolvedBy before index event captured := by
  induction readings generalizing session with
  | nil =>
      rw [show session.readAll [] = session from rfl, undecided] at decided
      cases decided
  | cons entry rest ih =>
      obtain ⟨index, reading⟩ := entry
      rw [readAll_cons] at decided
      -- Whatever the reading leaves undecided leaves the press to the rest.
      have later (still : (session.read index reading).captured = none) :
          ∃ before other event last, (index, reading) :: rest = before ++ (other, .event event) :: last ∧
            session.ResolvedBy before other event captured := by
        obtain ⟨before, other, event, last, split, resolved⟩ := ih still decided
        exact ⟨(index, reading) :: before, other, event, last, by rw [split]; rfl, resolved⟩
      have step := reads_read index reading undecided
      have resolving : session.readAll ([] ++ [(index, reading)]) = session.read index reading := rfl
      generalize session.read index reading = next at decided step later resolving
      cases step with
      | unread closed => exact later undecided
      | failed opened => exact later undecided
      | tracked opened quiet => exact later undecided
      | captured opened pressed =>
          rw [readAll_of_captured rest rfl] at decided
          exact ⟨[], index, _, rest, rfl, undecided, (congrArg CaptureSession.captured resolving).trans decided⟩

theorem ResolvedBy.press {session : CaptureSession} {before : List (Nat × Reading)} {index : Nat}
    {event : KeyEvent} {captured : Captured} (resolved : session.ResolvedBy before index event captured) :
    (session.readAll before).reading.contains index = true ∧
      ∃ key, event.pressedKey? = some key ∧ captured = capturedBy key (session.readAll before).held := by
  obtain ⟨undecided, decided⟩ := resolved
  rw [readAll, List.foldl_concat, ← readAll] at decided
  have step := reads_read index (.event event) undecided
  generalize (session.readAll before).read index (.event event) = next at decided step
  cases step with
  | unread closed =>
      rw [undecided] at decided
      cases decided
  | tracked opened quiet =>
      rw [undecided] at decided
      cases decided
  | captured opened pressed => exact ⟨opened, _, pressed, (Option.some.inj decided).symm⟩

theorem captured_of_answer {session : CaptureSession} {limit : Duration} {hotkey : String}
    (answered : session.answer limit = .ok hotkey) :
    session.captured = some (.combination hotkey) := by
  unfold answer at answered
  cases decided : session.captured with
  | none =>
      rw [decided] at answered
      dsimp only at answered
      split_ifs at answered
  | some outcome =>
      rw [decided] at answered
      cases outcome with
      | cancelled => cases answered
      | combination named =>
          cases valid : validateCapture named with
          | error cause => simp [valid, bind, Except.bind] at answered
          | ok _ =>
              simp only [valid, bind, Except.bind, pure, Except.pure, Except.ok.injEq] at answered
              rw [answered]

def Matches (session : CaptureSession) (listener : Listener β) : Prop :=
  session.reading = listener.openKeyboards.map Keyboard.index

theorem Matches.contains_eq {session : CaptureSession} {listener : Listener β}
    (same : session.Matches listener) (index : Nat) :
    session.reading.contains index = listener.reads index := by
  rw [same, Listener.reads, Bool.eq_iff_iff]
  simp

theorem Matches.handled_eq {session : CaptureSession} {listener : Listener β}
    (same : session.Matches listener) (undecided : session.captured = none) (index : Nat)
    (reading : Reading) :
    listener.handled index reading = session.handled index reading := by
  unfold Listener.handled handled
  cases reading with
  | failure reason => rfl
  | event event =>
      rw [undecided, same.contains_eq]
      cases listener.reads index <;> rfl

theorem Matches.read {session : CaptureSession} {listener : Listener β}
    (same : session.Matches listener) (undecided : session.captured = none) (index : Nat)
    (reading : Reading) :
    (session.read index reading).Matches (listener.read index reading).2 := by
  have opened := same.contains_eq index
  have step := reads_read index reading undecided
  generalize session.read index reading = next at step
  unfold Listener.read
  cases step with
  | unread closed =>
      rw [if_neg (by rw [← opened, closed]; decide)]
      exact same
  | failed reads =>
      rw [if_pos (opened ▸ reads)]
      show session.reading.filter (· != index) =
        ((listener.reading.map (Listener.without index)).getD []).map Keyboard.index
      rw [show session.reading = _ from same, Listener.openKeyboards]
      cases listener.reading with
      | none => rfl
      | some keyboards => exact List.filter_map
  | captured reads pressed =>
      rw [if_pos (opened ▸ reads)]
      exact same
  | tracked reads quiet =>
      rw [if_pos (opened ▸ reads)]
      exact same

theorem Matches.readAll {session : CaptureSession} {listener : Listener β}
    {readings : List (Nat × Reading)} (same : session.Matches listener)
    (undecided : (session.readAll readings).captured = none) :
    listener.heard readings = session.events readings ∧
      (session.readAll readings).Matches (listener.readAll readings) := by
  induction readings generalizing session listener with
  | nil => exact ⟨rfl, same⟩
  | cons entry rest ih =>
      obtain ⟨index, reading⟩ := entry
      have before := captured_of_readAll undecided
      obtain ⟨heard, sameAfter⟩ := ih (same.read before index reading) undecided
      rw [Listener.heard, same.handled_eq before, heard]
      exact ⟨rfl, sameAfter⟩

end CaptureSession

theorem isModifier_of_heldModifiers {held : Held} {modifier : String}
    (member : modifier ∈ heldModifiers held) : isModifier modifier = true := by
  have names : ∀ name ∈ ["ctrl", "alt", "altgr", "shift", "super"], isModifier name = true := by
    decide +kernel
  exact names modifier ((heldModifiers_sublist held).subset member)

theorem usable_heldModifiers {event : KeyEvent} {key : String} (held : Held)
    (pressed : event.pressedKey? = some key) :
    Combination.Usable { modifiers := heldModifiers held, key } :=
  usable_of_pressedKey? pressed fun _ => isModifier_of_heldModifiers

theorem triggeredBy_of_pressedKey? {event : KeyEvent} {key : String} (held : Held)
    (pressed : event.pressedKey? = some key) :
    Combination.triggeredBy { modifiers := heldModifiers held, key } key held = true := by
  have normal := normalName_of_pressedKey? pressed
  rw [Combination.triggeredBy_iff normal normal.2]
  exact ⟨(usable_heldModifiers held pressed).nonempty, rfl, fun modifier => heldModifiers_hold⟩

theorem captureOnce_eq_ok {opened : Except HotkeyError (List Keyboard)} {limit : Duration}
    {readings : List (Nat × Reading)} {hotkey : String}
    (captured : captureOnce opened limit readings = .ok hotkey) :
    ∃ keyboards, opened = .ok keyboards ∧ keyboards ≠ [] ∧
      ((CaptureSession.fresh keyboards).readAll readings).captured = some (.combination hotkey) := by
  cases opened with
  | error cause => cases captured
  | ok keyboards =>
      cases keyboards with
      | nil => cases captured
      | cons keyboard rest =>
          have answered : ((CaptureSession.fresh (keyboard :: rest)).readAll readings).answer limit =
              .ok hotkey := captured
          exact ⟨_, rfl, by simp, CaptureSession.captured_of_answer answered⟩

theorem combinationText_of_capturedBy {key hotkey : String} {held : Held}
    (captured : .combination hotkey = capturedBy key held) : hotkey = combinationText key held := by
  unfold capturedBy at captured
  split_ifs at captured
  exact Captured.combination.inj captured

theorem register_combinationText {event : KeyEvent} {key : String} (held : Held) (binding : β)
    (pressed : event.pressedKey? = some key) :
    ({} : Listener β).register (combinationText key held) binding =
      .ok { table := [⟨{ modifiers := heldModifiers held, key }, binding⟩] } := by
  rw [Listener.register_eq_ok_iff, parse_combinationText held (normalName_of_pressedKey? pressed)]
  exact ⟨usable_heldModifiers held pressed, List.not_mem_nil, rfl⟩

theorem dispatches_press {listener : Listener β} {event : KeyEvent} {key : String} {binding : β}
    {held : Held} {readings : List (Nat × Reading)} {index : Nat}
    (table : listener.table = [⟨{ modifiers := heldModifiers held, key }, binding⟩])
    (same : (listener.readAll readings).held = held)
    (quiet : ∀ earlier ∈ listener.heard readings, earlier.pressedKey? = none)
    (pressed : event.pressedKey? = some key) (reads : (listener.readAll readings).reads index = true) :
    listener.dispatches (readings ++ [(index, .event event)]) =
      List.replicate readings.length [] ++ [[(combinationText key held, binding)]] := by
  have fires : (listener.readAll readings).fired event = listener.table := by
    unfold Listener.fired Listener.triggered
    rw [pressed, Listener.table_readAll, table, same]
    simp [triggeredBy_of_pressedKey? _ pressed]
  rw [Listener.dispatches_append, Listener.dispatches_of_quiet quiet, Listener.dispatches,
    Listener.read_event_fst, if_pos reads, fires, table]
  rfl

theorem dispatches_of_resolvedBy {keyboards : List Keyboard} {before : List (Nat × Reading)}
    {index : Nat} {event : KeyEvent} {hotkey : String} {binding : β} {registered running : Listener β}
    (resolved : (CaptureSession.fresh keyboards).ResolvedBy before index event (.combination hotkey))
    (taken : ({} : Listener β).register hotkey binding = .ok registered)
    (table : running.table = registered.table) (released : running.held = {})
    {replayed : List (Nat × Reading)} {other : Nat}
    (heard : running.heard replayed = (CaptureSession.fresh keyboards).events before)
    (reads : (running.readAll replayed).reads other = true) :
    running.dispatches (replayed ++ [(other, .event event)]) =
      List.replicate replayed.length [] ++ [[(hotkey, binding)]] := by
  obtain ⟨-, key, pressed, outcome⟩ := resolved.press
  obtain ⟨quiet, held⟩ := CaptureSession.events_of_undecided resolved.1
  obtain rfl := combinationText_of_capturedBy outcome
  -- Session and listener have tracked the same events, both from no key held on.
  have same : (running.readAll replayed).held = ((CaptureSession.fresh keyboards).readAll before).held := by
    rw [Listener.held_readAll, heard, released, held]
    rfl
  rw [register_combinationText _ binding pressed] at taken
  cases taken
  exact dispatches_press table same (heard ▸ quiet) pressed reads

theorem exists_registered {session : CaptureSession} {before : List (Nat × Reading)} {index : Nat}
    {event : KeyEvent} {hotkey : String} (binding : β)
    (resolved : session.ResolvedBy before index event (.combination hotkey)) :
    ∃ registered, ({} : Listener β).register hotkey binding = .ok registered ∧
      registered.ids = [hotkey] ∧ registered.reading = none := by
  obtain ⟨-, key, pressed, outcome⟩ := resolved.press
  obtain rfl := combinationText_of_capturedBy outcome
  exact ⟨_, register_combinationText _ binding pressed, rfl, rfl⟩

theorem exists_started {registered : Listener β} (idle : registered.reading = none)
    {keyboards : List Keyboard} (nonempty : keyboards ≠ []) :
    ∃ running, registered.start (.ok keyboards) = .ok running ∧ running.table = registered.table ∧
      running.held = {} ∧ running.reading = some keyboards :=
  ⟨_, Listener.start_eq_ok_iff.mpr ⟨idle, keyboards, rfl, nonempty, rfl⟩, rfl, rfl, rfl⟩

/-- A captured hotkey was resolved by one event, the press of a key. A new listener takes the hotkey.
Once it is started on the same keyboards and given the same readings up to and including that event, the
hotkey's callback is called once, at the last of them, and nothing is called before. The same holds on any
other keyboards, whatever fails there, once the events before the last that the capture handled have come
in their order. -/
theorem captured_hotkey_replays {opened : Except HotkeyError (List Keyboard)} {limit : Duration}
    {readings : List (Nat × Reading)} {hotkey : String} (binding : β)
    (captured : captureOnce opened limit readings = .ok hotkey) :
    ∃ keyboards registered, opened = .ok keyboards ∧
      ({} : Listener β).register hotkey binding = .ok registered ∧ registered.ids = [hotkey] ∧
      (∃ before index event rest, readings = before ++ (index, .event event) :: rest ∧
        (CaptureSession.fresh keyboards).ResolvedBy before index event (.combination hotkey)) ∧
      ∀ before index event,
        (CaptureSession.fresh keyboards).ResolvedBy before index event (.combination hotkey) →
        (∃ running, registered.start (.ok keyboards) = .ok running ∧
          running.dispatches (before ++ [(index, .event event)]) =
            List.replicate before.length [] ++ [[(hotkey, binding)]]) ∧
        ∀ others : List Keyboard, others ≠ [] → ∃ running, registered.start (.ok others) = .ok running ∧
          ∀ replayed other, running.heard replayed = (CaptureSession.fresh keyboards).events before →
            (running.readAll replayed).reads other = true →
            running.dispatches (replayed ++ [(other, .event event)]) =
              List.replicate replayed.length [] ++ [[(hotkey, binding)]] := by
  obtain ⟨keyboards, rfl, nonempty, decided⟩ := captureOnce_eq_ok captured
  obtain ⟨first, source, press, rest, split, resolving⟩ := CaptureSession.exists_resolvedBy rfl decided
  obtain ⟨registered, taken, named, idle⟩ := exists_registered binding resolving
  refine ⟨keyboards, registered, rfl, taken, named, ⟨first, source, press, rest, split, resolving⟩,
    fun before index event resolved => ⟨?_, fun others nonempty => ?_⟩⟩
  · obtain ⟨running, started, table, released, reading⟩ := exists_started idle nonempty
    have same : (CaptureSession.fresh keyboards).Matches running := by
      rw [CaptureSession.Matches, Listener.openKeyboards, reading]
      rfl
    obtain ⟨heard, still⟩ := same.readAll resolved.1
    exact ⟨running, started, dispatches_of_resolvedBy resolved taken table released heard
      (still.contains_eq index ▸ resolved.press.1)⟩
  · obtain ⟨running, started, table, released, -⟩ := exists_started idle nonempty
    exact ⟨running, started, fun _ _ => dispatches_of_resolvedBy resolved taken table released⟩

/-- Modifiers of two keyboards, the right Alt among them; the key without a name and the repeat do
not count. The hotkey fires on two other keyboards too, of which one fails on the way. -/
theorem captured_over_two_keyboards_replays :
    ∃ registered running another, ({} : Listener String).register "ctrl+altgr+r" "record" = .ok registered ∧
      registered.start (.ok [⟨0, "first"⟩, ⟨1, "second"⟩]) = .ok running ∧
      running.dispatches
          [(0, .event (.press 29)), (1, .event (.press 100)), (1, .event (.press 42)),
            (0, .event (.press 240)), (0, .event ⟨29, keyRepeat⟩), (1, .event (.release 42)),
            (0, .event (.press 19))] =
        [[], [], [], [], [], [], [("ctrl+altgr+r", "record")]] ∧
      registered.start (.ok [⟨5, "third"⟩, ⟨6, "fourth"⟩]) = .ok another ∧
      another.dispatches
          [(6, .event (.press 29)), (5, .event (.press 100)), (6, .event (.press 42)),
            (6, .failure "gone"), (6, .event (.press 19)), (5, .event (.press 240)),
            (5, .event ⟨29, keyRepeat⟩), (5, .event (.release 42)), (5, .event (.press 19))] =
        [[], [], [], [], [], [], [], [], [("ctrl+altgr+r", "record")]] := by
  have captured : captureOnce (.ok [⟨0, "first"⟩, ⟨1, "second"⟩]) (.ofSeconds 10)
      [(0, .event (.press 29)), (1, .event (.press 100)), (1, .event (.press 42)),
        (0, .event (.press 240)), (0, .event ⟨29, keyRepeat⟩), (1, .event (.release 42)),
        (0, .event (.press 19)), (1, .event (.press 16))] = .ok "ctrl+altgr+r" := by
    rfl
  obtain ⟨keyboards, registered, given, taken, -, -, replays⟩ := captured_hotkey_replays "record" captured
  obtain rfl := Except.ok.inj given
  obtain ⟨⟨running, started, fired⟩, elsewhere⟩ := replays
    [(0, .event (.press 29)), (1, .event (.press 100)), (1, .event (.press 42)),
      (0, .event (.press 240)), (0, .event ⟨29, keyRepeat⟩), (1, .event (.release 42))]
    0 (.press 19) ⟨rfl, rfl⟩
  obtain ⟨another, began, firedThere⟩ := elsewhere [⟨5, "third"⟩, ⟨6, "fourth"⟩] (by simp)
  refine ⟨registered, running, another, taken, started, fired, began, ?_⟩
  obtain ⟨-, opened, same, -, rfl⟩ := Listener.start_eq_ok_iff.mp began
  obtain rfl := Except.ok.inj same
  exact firedThere
    [(6, .event (.press 29)), (5, .event (.press 100)), (6, .event (.press 42)), (6, .failure "gone"),
      (6, .event (.press 19)), (5, .event (.press 240)), (5, .event ⟨29, keyRepeat⟩),
      (5, .event (.release 42))]
    5 rfl rfl

end GlobalHotkeys
