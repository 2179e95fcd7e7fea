import GlobalHotkeys.Proofs.Capture.Replay
import GlobalHotkeys.Proofs.Capture.Validity

/-!
# The first press decides a capture

Every keyboard of a capture has a listener of its own. The listeners share the record of the modifiers
held and a channel with one place. A listener ends when its keyboard fails or when it has sent what a
press captures; what finds the channel full is lost. In whatever order the listeners and the capture
that waits for the channel take their steps, the first press that any listener handles decides.
-/

namespace GlobalHotkeys

def eventsUntilFailure (keyboards : List Nat) : List (Nat × Reading) → List KeyEvent
  | [] => []
  | (index, .event event) :: rest =>
    if keyboards.contains index then event :: eventsUntilFailure keyboards rest
    else eventsUntilFailure keyboards rest
  | (index, .failure _) :: rest => eventsUntilFailure (keyboards.filter (· != index)) rest

def Fails (index : Nat) (readings : List (Nat × Reading)) : Prop :=
  ∃ reason, (index, .failure reason) ∈ readings

theorem fails_event_cons {index other : Nat} {event : KeyEvent} {rest : List (Nat × Reading)} :
    Fails index ((other, .event event) :: rest) ↔ Fails index rest := by
  simp [Fails]

theorem fails_failure_cons {index other : Nat} {reason : String} {rest : List (Nat × Reading)} :
    Fails index ((other, .failure reason) :: rest) ↔ index = other ∨ Fails index rest := by
  simp only [Fails, List.mem_cons, Prod.mk.injEq, Reading.failure.injEq]
  constructor
  · rintro ⟨why, ⟨rfl, rfl⟩ | within⟩
    · exact .inl rfl
    · exact .inr ⟨why, within⟩
  · rintro (rfl | ⟨why, within⟩)
    · exact ⟨reason, .inl ⟨rfl, rfl⟩⟩
    · exact ⟨why, .inr within⟩

/-- What the first press among the events captures, with these keys held before them. -/
def firstCapture? (held : Held) : List KeyEvent → Option Captured
  | [] => none
  | event :: rest =>
    match event.pressedKey? with
    | some key => some (capturedBy key held)
    | none => firstCapture? (held.track event) rest

theorem firstCapture?_eq_none_iff {held : Held} {events : List KeyEvent} :
    firstCapture? held events = none ↔ ∀ event ∈ events, event.pressedKey? = none := by
  induction events generalizing held with
  | nil => simp [firstCapture?]
  | cons event rest ih =>
      rw [firstCapture?, List.forall_mem_cons]
      cases pressed : event.pressedKey? with
      | some key => simp
      | none => simpa using ih

theorem firstCapture?_append {held : Held} {earlier later : List KeyEvent} {press : KeyEvent}
    {key : String} (quiet : ∀ event ∈ earlier, event.pressedKey? = none)
    (pressed : press.pressedKey? = some key) :
    firstCapture? held (earlier ++ press :: later) =
      some (capturedBy key (earlier.foldl Held.track held)) := by
  induction earlier generalizing held with
  | nil => simp only [List.nil_append, firstCapture?, pressed, List.foldl_nil]
  | cons event rest ih =>
      obtain ⟨silent, quiet⟩ := List.forall_mem_cons.mp quiet
      simp only [List.cons_append, firstCapture?, silent, List.foldl_cons]
      exact ih quiet

theorem exists_first_press {events : List KeyEvent}
    (loud : ¬ ∀ event ∈ events, event.pressedKey? = none) :
    ∃ earlier press later key, events = earlier ++ press :: later ∧
      (∀ event ∈ earlier, event.pressedKey? = none) ∧ press.pressedKey? = some key := by
  induction events with
  | nil => simp at loud
  | cons event rest ih =>
      cases pressed : event.pressedKey? with
      | some key => exact ⟨[], event, rest, key, rfl, by simp, pressed⟩
      | none =>
          rw [List.forall_mem_cons, not_and] at loud
          obtain ⟨earlier, press, later, key, rfl, quiet, found⟩ := ih (loud pressed)
          exact ⟨event :: earlier, press, later, key, rfl, List.forall_mem_cons.mpr ⟨pressed, quiet⟩, found⟩

/-! ## A session and the events of its keyboards -/

namespace CaptureSession

variable {session : CaptureSession}

theorem filter_of_closed {keyboards : List Nat} {index : Nat}
    (closed : keyboards.contains index = false) : keyboards.filter (· != index) = keyboards := by
  rw [List.filter_eq_self]
  intro other member
  rw [bne_iff_ne]
  rintro rfl
  simp [member] at closed

theorem captured_readAll (readings : List (Nat × Reading)) (undecided : session.captured = none) :
    (session.readAll readings).captured =
      firstCapture? session.held (eventsUntilFailure session.reading readings) := by
  induction readings generalizing session with
  | nil => exact undecided
  | cons entry rest ih =>
      obtain ⟨index, reading⟩ := entry
      rw [readAll_cons]
      have step := reads_read index reading undecided
      generalize session.read index reading = next at step
      cases step with
      | unread closed =>
          rw [ih undecided]
          cases reading with
          | event event => rw [eventsUntilFailure, closed, if_neg (by decide)]
          | failure reason => rw [eventsUntilFailure, filter_of_closed closed]
      | failed opened => exact ih undecided
      | captured opened pressed =>
          rw [readAll_of_captured rest rfl, eventsUntilFailure, if_pos opened]
          simp only [firstCapture?, pressed]
      | tracked opened silent =>
          rw [eventsUntilFailure, if_pos opened]
          simp only [firstCapture?, silent]
          exact ih undecided

theorem mem_reading_readAll {readings : List (Nat × Reading)} {index : Nat}
    (undecided : (session.readAll readings).captured = none) :
    index ∈ (session.readAll readings).reading ↔ index ∈ session.reading ∧ ¬ Fails index readings := by
  induction readings generalizing session with
  | nil => simp [readAll, Fails]
  | cons entry rest ih =>
      obtain ⟨other, reading⟩ := entry
      have before := captured_of_readAll undecided
      rw [readAll_cons] at undecided ⊢
      rw [ih undecided]
      have step := reads_read other reading before
      generalize session.read other reading = next at undecided step
      cases step with
      | unread closed =>
          cases reading with
          | event event => rw [fails_event_cons]
          | failure reason =>
              have absent : other ∉ session.reading := by simpa using closed
              rw [fails_failure_cons, not_or]
              refine and_congr_right fun member => (and_iff_right ?_).symm
              rintro rfl
              exact absent member
      | failed opened =>
          rw [fails_failure_cons, not_or, ← and_assoc, List.mem_filter, bne_iff_ne]
      | captured opened pressed => cases captured_of_readAll undecided
      | tracked opened silent => rw [fails_event_cons]

/-! ## Answers -/

theorem answer_of_combination {hotkey : String} (limit : Duration)
    (captured : session.captured = some (.combination hotkey)) :
    session.answer limit = (validateCapture hotkey).map fun _ => hotkey := by
  unfold answer
  rw [captured]
  dsimp only
  generalize validateCapture hotkey = valid
  cases valid with
  | error cause => rfl
  | ok _ => rfl

theorem answer_of_cancelled (limit : Duration) (captured : session.captured = some .cancelled) :
    session.answer limit = .error .captureCancelled := by
  unfold answer
  rw [captured]

theorem answer_of_captured (limit : Duration) (decided : session.captured ≠ none) :
    session.answer limit ≠ .error (.evdev "all keyboards closed during capture") ∧
      session.answer limit ≠ .error (.captureTimeout limit) := by
  obtain ⟨captured, found⟩ := Option.ne_none_iff_exists'.mp decided
  cases captured with
  | cancelled =>
      rw [answer_of_cancelled limit found]
      simp
  | combination hotkey =>
      rw [answer_of_combination limit found]
      rcases validateCapture_cases hotkey with valid | invalid
      · simp [valid, Except.map]
      · simp [invalid, Except.map]

theorem answer_of_undecided (limit : Duration) (undecided : session.captured = none) :
    session.answer limit =
      if session.reading.isEmpty then .error (.evdev "all keyboards closed during capture")
      else .error (.captureTimeout limit) := by
  unfold answer
  rw [undecided]

theorem readAll_of_closed (readings : List (Nat × Reading)) (closed : session.reading = []) :
    session.readAll readings = session := by
  induction readings with
  | nil => rfl
  | cons entry rest ih =>
      have skipped : session.read entry.1 entry.2 = session := by
        unfold read
        rw [if_pos (by simp [closed])]
      rw [readAll, List.foldl_cons, skipped]
      exact ih

theorem readAll_of_answered {limit : Duration}
    (answered : session.answer limit ≠ .error (.captureTimeout limit)) (more : List (Nat × Reading)) :
    session.readAll more = session := by
  by_cases undecided : session.captured = none
  · rw [answer_of_undecided limit undecided] at answered
    refine readAll_of_closed more (List.isEmpty_iff.mp ?_)
    by_contra remaining
    exact answered (if_neg remaining)
  · exact readAll_of_captured more (Option.isSome_iff_ne_none.mpr undecided)

end CaptureSession

/-! ## Listeners that race -/

/-- A capture while its listeners run. -/
structure CaptureRace where
  held : Held := {}
  listening : List Nat
  sent : Option Captured := none
  received : Option Captured := none

namespace CaptureRace

inductive Step where
  | handle (index : Nat) (reading : Reading)
  /-- The capture takes what was sent, unless it has received something before. -/
  | receive

def begin (keyboards : List Keyboard) : CaptureRace :=
  { listening := keyboards.map Keyboard.index }

def leave (race : CaptureRace) (index : Nat) : CaptureRace :=
  { race with listening := race.listening.filter (· != index) }

def trySend (race : CaptureRace) (captured : Captured) : CaptureRace :=
  { race with sent := race.sent.or (some captured) }

def handle (race : CaptureRace) (index : Nat) (reading : Reading) : CaptureRace :=
  if race.listening.contains index then
    match reading with
    | .failure _ => race.leave index
    | .event event =>
      match event.pressedKey? with
      | some key => (race.leave index).trySend (capturedBy key race.held)
      | none => { race with held := race.held.track event }
  else race

def step (race : CaptureRace) : Step → CaptureRace
  | .handle index reading => race.handle index reading
  | .receive =>
    match race.received with
    | some _ => race
    | none => { race with sent := none, received := race.sent }

def run (race : CaptureRace) (steps : List Step) : CaptureRace :=
  steps.foldl step race

def readings (steps : List Step) : List (Nat × Reading) :=
  steps.filterMap fun
    | .handle index reading => some (index, reading)
    | .receive => none

def answer (race : CaptureRace) (limit : Duration) : Except HotkeyError String :=
  match race.received.or race.sent with
  | some .cancelled => .error .captureCancelled
  | some (.combination hotkey) => (validateCapture hotkey).map fun _ => hotkey
  | none =>
    if race.listening.isEmpty then .error (.evdev "all keyboards closed during capture")
    else .error (.captureTimeout limit)

structure Follows (race : CaptureRace) (session : CaptureSession) : Prop where
  captured : race.received.or race.sent = session.captured
  listening : session.captured = none → race.listening = session.reading
  held : session.captured = none → race.held = session.held

namespace Follows

variable {race : CaptureRace} {session : CaptureSession}

theorem handle_of_captured (follows : race.Follows session) (decided : session.captured.isSome = true)
    (index : Nat) (reading : Reading) :
    (race.handle index reading).Follows (session.read index reading) := by
  rw [CaptureSession.read_of_captured decided]
  have undecided : session.captured ≠ none := Option.isSome_iff_ne_none.mp decided
  refine ⟨?_, fun none => absurd none undecided, fun none => absurd none undecided⟩
  rw [← follows.captured] at decided ⊢
  unfold CaptureRace.handle
  split_ifs with running
  · cases reading with
    | failure reason => rfl
    | event event =>
        dsimp only
        split
        · show race.received.or (race.sent.or (some _)) = race.received.or race.sent
          rw [← Option.or_assoc, Option.or_of_isSome decided]
        · rfl
  · rfl

theorem handle_of_undecided (follows : race.Follows session) (undecided : session.captured = none)
    (index : Nat) (reading : Reading) :
    (race.handle index reading).Follows (session.read index reading) := by
  obtain ⟨captured, listening, held⟩ := follows
  have step := CaptureSession.reads_read index reading undecided
  rw [undecided] at captured listening held
  generalize session.read index reading = next at step
  unfold CaptureRace.handle
  rw [listening rfl]
  cases step with
  | unread closed =>
      rw [if_neg (by rw [closed]; decide)]
      exact ⟨captured.trans undecided.symm, fun _ => listening rfl, fun _ => held rfl⟩
  | failed opened =>
      rw [if_pos opened]
      refine ⟨captured.trans undecided.symm, fun _ => ?_, fun _ => held rfl⟩
      rw [leave, listening rfl]
  | captured opened pressed =>
      rw [if_pos opened]
      simp only [pressed]
      refine ⟨?_, by simp, by simp⟩
      obtain ⟨received, sent⟩ := Option.or_eq_none_iff.mp captured
      show race.received.or (race.sent.or (some _)) = some _
      rw [received, sent, held rfl]
      rfl
  | tracked opened silent =>
      rw [if_pos opened]
      simp only [silent]
      exact ⟨captured.trans undecided.symm, fun _ => rfl, fun _ => by rw [held rfl]⟩

theorem handle (follows : race.Follows session) (index : Nat) (reading : Reading) :
    (race.handle index reading).Follows (session.read index reading) := by
  cases decided : session.captured with
  | none => exact follows.handle_of_undecided decided index reading
  | some captured => exact follows.handle_of_captured (by rw [decided]; rfl) index reading

theorem receive (follows : race.Follows session) : (race.step .receive).Follows session := by
  obtain ⟨captured, listening, held⟩ := follows
  cases received : race.received with
  | some outcome =>
      rw [CaptureRace.step, received]
      exact ⟨captured, listening, held⟩
  | none =>
      rw [CaptureRace.step, received]
      rw [received, Option.none_or] at captured
      exact ⟨by simpa using captured, listening, held⟩

theorem run (follows : race.Follows session) (steps : List Step) :
    (race.run steps).Follows (session.readAll (readings steps)) := by
  induction steps generalizing race session with
  | nil => exact follows
  | cons next rest ih =>
      cases next with
      | handle index reading => exact ih (follows.handle index reading)
      | receive => exact ih follows.receive

theorem answer_eq (follows : race.Follows session) (limit : Duration) :
    race.answer limit = session.answer limit := by
  obtain ⟨captured, listening, -⟩ := follows
  rw [answer, captured]
  cases decided : session.captured with
  | none => rw [CaptureSession.answer_of_undecided limit decided, listening decided]
  | some outcome =>
      cases outcome with
      | cancelled => exact (CaptureSession.answer_of_cancelled limit decided).symm
      | combination hotkey => exact (CaptureSession.answer_of_combination limit decided).symm

end Follows

theorem answer_run (keyboards : List Keyboard) (limit : Duration) (steps : List Step) :
    ((begin keyboards).run steps).answer limit =
      ((CaptureSession.fresh keyboards).readAll (readings steps)).answer limit := by
  have follows : (begin keyboards).Follows (CaptureSession.fresh keyboards) :=
    ⟨rfl, fun _ => rfl, fun _ => rfl⟩
  exact (follows.run steps).answer_eq limit

end CaptureRace

/-! ## What a press is captured as -/

theorem Held.isEmpty_iff {held : Held} (sided : held.Sided) :
    held.isEmpty = true ↔ ∀ side : Side, held.isDown side.name = false := by
  rw [Held.isEmpty, List.isEmpty_iff]
  constructor
  · intro empty side
    rw [Held.isDown, empty, List.contains_nil]
  · intro up
    rw [List.eq_nil_iff_forall_not_mem]
    intro name member
    have down : held.isDown name = true := by rwa [Held.isDown, List.contains_iff_mem]
    obtain ⟨side, rfl⟩ := sided name down
    rw [up side] at down
    cases down

theorem heldAfter_isEmpty_iff (events : List KeyEvent) :
    (heldAfter events).isEmpty = true ↔ ∀ side, ¬ LastPressed side events := by
  rw [Held.isEmpty_iff (sided_heldAfter events)]
  refine forall_congr' fun side => ?_
  rw [← isDown_heldAfter_iff, Bool.not_eq_true]

theorem heldModifiers_ne_nil {held : Held} {side : Side} (down : held.isDown side.name = true) :
    heldModifiers held ≠ [] := by
  cases side <;> simp [heldModifiers, down]

theorem combinationText_ne_escape {key : String} {held : Held} (sided : held.Sided)
    (normal : Combination.NormalName key) (combines : ¬ (key = "escape" ∧ held.isEmpty = true)) :
    combinationText key held ≠ "escape" := by
  intro escape
  have parsed := parse_combinationText held normal
  rw [escape, show Combination.parse "escape" = { key := "escape" } by decide +kernel] at parsed
  obtain ⟨bare, rfl⟩ := Combination.mk.inj parsed
  refine combines ⟨rfl, (Held.isEmpty_iff sided).mpr fun side => ?_⟩
  rw [← Bool.not_eq_true]
  exact fun down => heldModifiers_ne_nil down bare.symm

/-! ## The answer of a capture -/

namespace CaptureSession

theorem answer_of_press {session : CaptureSession} {events : List KeyEvent} {key : String} (limit : Duration)
    (captured : session.captured = some (capturedBy key (heldAfter events))) :
    let bare := ∀ side, ¬ LastPressed side events
    let hotkey := combinationText key (heldAfter events)
    (key = "escape" ∧ bare → session.answer limit = .error .captureCancelled) ∧
      (¬ (key = "escape" ∧ bare) → validateCapture hotkey = .ok () →
        session.answer limit = .ok hotkey) ∧
      (¬ (key = "escape" ∧ bare) → validateCapture hotkey ≠ .ok () →
        session.answer limit = .error (.invalidCapture hotkey)) := by
  intro bare hotkey
  have cancels : (key == "escape" && (heldAfter events).isEmpty) = true ↔ key = "escape" ∧ bare := by
    rw [Bool.and_eq_true, beq_iff_eq, heldAfter_isEmpty_iff]
  unfold capturedBy at captured
  refine ⟨fun escape => ?_, fun combines valid => ?_, fun combines invalid => ?_⟩
  · rw [if_pos (cancels.mpr escape)] at captured
    exact answer_of_cancelled limit captured
  · rw [if_neg (mt cancels.mp combines)] at captured
    rw [answer_of_combination limit captured, valid]
    rfl
  · rw [if_neg (mt cancels.mp combines)] at captured
    rw [answer_of_combination limit captured, (validateCapture_cases _).resolve_left invalid]
    rfl

section Fresh

variable {keyboards : List Keyboard} {given : List (Nat × Reading)}

theorem undecided_iff :
    ((fresh keyboards).readAll given).captured = none ↔
      ∀ event ∈ eventsUntilFailure (keyboards.map Keyboard.index) given, event.pressedKey? = none := by
  rw [captured_readAll given rfl]
  exact firstCapture?_eq_none_iff

theorem closed_iff (undecided : ((fresh keyboards).readAll given).captured = none) :
    ((fresh keyboards).readAll given).reading.isEmpty = true ↔
      ∀ keyboard ∈ keyboards, Fails keyboard.index given := by
  rw [List.isEmpty_iff, List.eq_nil_iff_forall_not_mem]
  constructor
  · intro closed keyboard member
    by_contra working
    exact closed keyboard.index
      ((mem_reading_readAll undecided).mpr ⟨List.mem_map_of_mem member, working⟩)
  · intro failed index remains
    obtain ⟨opened, working⟩ := (mem_reading_readAll undecided).mp remains
    obtain ⟨keyboard, member, rfl⟩ := List.mem_map.mp opened
    exact working (failed keyboard member)

theorem answer_eq_closed_iff (limit : Duration) :
    ((fresh keyboards).readAll given).answer limit =
        .error (.evdev "all keyboards closed during capture") ↔
      ((fresh keyboards).readAll given).captured = none ∧
        ∀ keyboard ∈ keyboards, Fails keyboard.index given := by
  by_cases undecided : ((fresh keyboards).readAll given).captured = none
  · rw [answer_of_undecided limit undecided, ← closed_iff undecided]
    split_ifs with closed
    · simp [undecided, closed]
    · simp [closed]
  · simp [undecided, (answer_of_captured limit undecided).1]

theorem answer_eq_timeout_iff (limit : Duration) :
    ((fresh keyboards).readAll given).answer limit = .error (.captureTimeout limit) ↔
      ((fresh keyboards).readAll given).captured = none ∧
        ∃ keyboard ∈ keyboards, ¬ Fails keyboard.index given := by
  by_cases undecided : ((fresh keyboards).readAll given).captured = none
  · have open_iff : (∃ keyboard ∈ keyboards, ¬ Fails keyboard.index given) ↔
        ¬ ((fresh keyboards).readAll given).reading.isEmpty = true := by
      rw [closed_iff undecided]
      push Not
      rfl
    rw [answer_of_undecided limit undecided, open_iff]
    split_ifs with closed
    · simp [closed]
    · simp [undecided, closed]
  · simp [undecided, (answer_of_captured limit undecided).2]

theorem answer_ne_escape (limit : Duration) :
    ((fresh keyboards).readAll given).answer limit ≠ .ok "escape" := by
  intro escaped
  have combination := captured_of_answer escaped
  have loud (quiet : ∀ event ∈ eventsUntilFailure (keyboards.map Keyboard.index) given,
      event.pressedKey? = none) : False := by
    rw [undecided_iff.mpr quiet] at combination
    cases combination
  obtain ⟨earlier, press, later, key, split, quiet, pressed⟩ := exists_first_press loud
  have captured : ((fresh keyboards).readAll given).captured =
      firstCapture? {} (eventsUntilFailure (keyboards.map Keyboard.index) given) :=
    captured_readAll given rfl
  rw [captured, split, firstCapture?_append quiet pressed, Option.some.injEq] at combination
  unfold capturedBy at combination
  split_ifs at combination with cancels
  rw [Bool.and_eq_true, beq_iff_eq] at cancels
  exact combinationText_ne_escape (sided_heldAfter earlier) (normalName_of_pressedKey? pressed) cancels
    (Captured.combination.inj combination)

end Fresh

end CaptureSession

namespace CaptureRace

/-- In whatever order the listeners handle what their keyboards give before the time is over, a capture is
decided by the first press of a key that is no modifier: Escape without any modifier key down cancels it,
any other key gives the combination with the modifier keys that are down after the earlier events of all
keyboards. Whatever comes later changes nothing. Without such a press the capture fails, because
all keyboards have failed or because the time is over. -/
theorem capture_decided_by_first_press (keyboard : Keyboard) (others : List Keyboard) (limit : Duration)
    (steps : List Step) :
    let keyboards := keyboard :: others
    let given := readings steps
    let events := eventsUntilFailure (keyboards.map Keyboard.index) given
    let answer := ((begin keyboards).run steps).answer limit
    answer = captureOnce (.ok keyboards) limit given ∧
    (∀ earlier press later key, events = earlier ++ press :: later →
      (∀ event ∈ earlier, event.pressedKey? = none) → press.pressedKey? = some key →
      let bare := ∀ side, ¬ LastPressed side earlier
      let hotkey := combinationText key (heldAfter earlier)
      (key = "escape" ∧ bare → answer = .error .captureCancelled) ∧
      (¬ (key = "escape" ∧ bare) → validateCapture hotkey = .ok () → answer = .ok hotkey) ∧
      (¬ (key = "escape" ∧ bare) → validateCapture hotkey ≠ .ok () →
        answer = .error (.invalidCapture hotkey))) ∧
    (answer ≠ .error (.captureTimeout limit) →
      ∀ more, ((begin keyboards).run (steps ++ more)).answer limit = answer) ∧
    (answer = .error (.evdev "all keyboards closed during capture") ↔
      (∀ event ∈ events, event.pressedKey? = none) ∧
        ∀ keyboard ∈ keyboards, Fails keyboard.index given) ∧
    (answer = .error (.captureTimeout limit) ↔
      (∀ event ∈ events, event.pressedKey? = none) ∧
        ∃ keyboard ∈ keyboards, ¬ Fails keyboard.index given) ∧
    answer ≠ .ok "escape" := by
  intro keyboards given events answer
  let session := (CaptureSession.fresh keyboards).readAll given
  have answered : answer = session.answer limit := answer_run keyboards limit steps
  have undecided_iff : session.captured = none ↔ ∀ event ∈ events, event.pressedKey? = none :=
    CaptureSession.undecided_iff
  refine ⟨answered, fun earlier press later key split quiet pressed => ?_, fun decided more => ?_, ?_, ?_, ?_⟩
  · have captured : session.captured = firstCapture? {} events :=
      CaptureSession.captured_readAll given rfl
    rw [answered]
    apply CaptureSession.answer_of_press
    rw [captured, split, firstCapture?_append quiet pressed]
    rfl
  · rw [answered] at decided ⊢
    rw [answer_run, readings, List.filterMap_append, CaptureSession.readAll, List.foldl_append]
    exact congrArg (CaptureSession.answer · limit) (CaptureSession.readAll_of_answered decided _)
  · rw [answered, ← undecided_iff]
    exact CaptureSession.answer_eq_closed_iff limit
  · rw [answered, ← undecided_iff]
    exact CaptureSession.answer_eq_timeout_iff limit
  · rw [answered]
    exact CaptureSession.answer_ne_escape limit

end CaptureRace

end GlobalHotkeys
