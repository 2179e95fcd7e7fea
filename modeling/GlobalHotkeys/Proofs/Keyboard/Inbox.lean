import GlobalHotkeys.Keyboard.Channel
import GlobalHotkeys.Proofs.Lookup
import Mathlib.Data.List.Nodup

namespace GlobalHotkeys

namespace ChannelReading

def used : ChannelReading → Nat
  | event _ => 1
  | missed count => count
  | pending => 0
  | ended => 0

def event? : ChannelReading → Option KeyEvent
  | event change => some change
  | _ => none

def warning? (name : String) : ChannelReading → Option LogLine
  | missed count => some { level := .warn, message := s!"{name}: dropped {count} key events" }
  | _ => none

end ChannelReading

namespace Channel

/-! ## Steps -/

inductive Step where
  | openReader
  | send (event : KeyEvent)
  /-- One attempt of a reader. A call for the next event makes them until one gives an event or the end. -/
  | read (reader : Nat)
  | closeReader (reader : Nat)
  | close
  deriving DecidableEq

def attempt (reader : Nat) : Run Channel (Option ChannelReading) := do
  let channel ← Run.world
  match channel.read? reader with
  | none => pure none
  | some (reading, after) =>
    Run.logAll (reading.warning? channel.name).toList
    Run.change fun _ => after
    pure (some reading)

def perform : Step → Run Channel (List (Nat × ChannelReading))
  | .openReader => do
    Run.change fun channel => if channel.closed then channel else channel.openReader
    pure []
  | .send event => do
    Run.change fun channel => if channel.closed then channel else channel.send event
    pure []
  | .read reader => do
    let reading ← attempt reader
    pure (reading.toList.map (reader, ·))
  | .closeReader reader => do
    Run.change (·.closeReader reader)
    pure []
  | .close => do
    Run.change Channel.close
    pure []

def run : List Step → Run Channel (List (Nat × ChannelReading))
  | [] => pure []
  | step :: rest => do
    let given ← perform step
    let later ← run rest
    pure (given ++ later)

def ofReader (reader : Nat) (given : List (Nat × ChannelReading)) : List ChannelReading :=
  (given.filter (·.1 == reader)).map (·.2)

section Running

variable (channel : Channel) (step : Step) (steps later : List Step)

@[simp] theorem run_nil : run [] channel = { value := [], world := channel } := rfl

theorem run_cons :
    run (step :: steps) channel =
      { value := (perform step channel).value ++ (run steps (perform step channel).world).value
        world := (run steps (perform step channel).world).world
        log := (perform step channel).log ++ (run steps (perform step channel).world).log } := by
  simp only [run, Run.bind_apply, Run.pure_apply, List.append_nil]

theorem run_append :
    run (steps ++ later) channel =
      { value := (run steps channel).value ++ (run later (run steps channel).world).value
        world := (run later (run steps channel).world).world
        log := (run steps channel).log ++ (run later (run steps channel).world).log } := by
  induction steps generalizing channel with
  | nil => rfl
  | cons step rest ih => simp only [List.cons_append, run_cons, ih, List.append_assoc]

@[simp] theorem ofReader_append (reader : Nat) (first second : List (Nat × ChannelReading)) :
    ofReader reader (first ++ second) = ofReader reader first ++ ofReader reader second := by
  simp [ofReader]

theorem ofReader_of_ne {reader other : Nat} (different : other ≠ reader) (readings : List ChannelReading) :
    ofReader reader (readings.map (other, ·)) = [] := by
  simp [ofReader, different]

theorem ofReader_self (reader : Nat) (readings : List ChannelReading) :
    ofReader reader (readings.map (reader, ·)) = readings := by
  induction readings with
  | nil => rfl
  | cons reading rest ih => simpa [ofReader] using ih

end Running

/-! ## Inboxes -/

def expected (closed : Bool) (waiting : List KeyEvent) : ChannelReading :=
  if capacity < waiting.length then .missed (waiting.length - capacity)
  else match waiting with
    | event :: _ => .event event
    | [] => if closed then .ended else .pending

theorem expected_cases (closed : Bool) (waiting : List KeyEvent) :
    (waiting = [] ∧ expected closed waiting = if closed then .ended else .pending) ∨
    (∃ event later, waiting = event :: later ∧ waiting.length ≤ capacity ∧
      expected closed waiting = .event event) ∨
    capacity < waiting.length ∧ expected closed waiting = .missed (waiting.length - capacity) := by
  by_cases lags : capacity < waiting.length
  · exact .inr (.inr ⟨lags, if_pos lags⟩)
  · cases waiting with
    | nil => exact .inl ⟨rfl, if_neg lags⟩
    | cons event later => exact .inr (.inl ⟨event, later, rfl, Nat.not_lt.mp lags, if_neg lags⟩)

structure Inbox where
  waiting : List KeyEvent := []
  closed : Bool := false

namespace Inbox

def reading (inbox : Inbox) : ChannelReading :=
  expected inbox.closed inbox.waiting

def read (inbox : Inbox) : Inbox :=
  { inbox with waiting := inbox.waiting.drop inbox.reading.used }

def receive (inbox : Inbox) (event : KeyEvent) : Inbox :=
  if inbox.closed then inbox else { inbox with waiting := inbox.waiting ++ [event] }

def hear (reader : Nat) (inbox : Inbox) : Step → Option Inbox
  | .openReader => some inbox
  | .send event => some (inbox.receive event)
  | .read other => some (if other = reader then inbox.read else inbox)
  | .closeReader other => if other = reader then none else some inbox
  | .close => some { inbox with closed := true }

def given (reader : Nat) (inbox : Inbox) : Step → List ChannelReading
  | .read other => if other = reader then [inbox.reading] else []
  | _ => []

def readings (reader : Nat) : Option Inbox → List Step → List ChannelReading
  | none, _ => []
  | some _, [] => []
  | some inbox, step :: rest => inbox.given reader step ++ readings reader (inbox.hear reader step) rest

def after (reader : Nat) (inbox : Option Inbox) (steps : List Step) : Option Inbox :=
  steps.foldl (fun inbox step => inbox.bind (·.hear reader step)) inbox

@[simp] theorem after_none (reader : Nat) (steps : List Step) : after reader none steps = none := by
  induction steps with
  | nil => rfl
  | cons step rest ih => exact ih

end Inbox

/-! ## The readers of a channel -/

def inbox? (channel : Channel) (reader : Nat) : Option Inbox :=
  (channel.position? reader).map fun position =>
    { waiting := channel.sent.drop position, closed := channel.closed }

structure Sound (channel : Channel) : Prop where
  numbered : ∀ entry ∈ channel.readers, entry.1 < channel.nextReader
  distinct : (channel.readers.map (·.1)).Nodup
  behind : ∀ entry ∈ channel.readers, entry.2 ≤ channel.sent.length

theorem sound_fresh (name : String) : Sound { name } where
  numbered := by simp
  distinct := by simp
  behind := by simp

section Steps

variable {channel : Channel} {reader : Nat}

theorem position?_le (sound : channel.Sound) {position : Nat}
    (found : channel.position? reader = some position) : position ≤ channel.sent.length :=
  sound.behind _ (mem_of_lookup found)

theorem position?_of_le (sound : channel.Sound) (unopened : channel.nextReader ≤ reader) :
    channel.position? reader = none := by
  rw [Option.eq_none_iff_forall_ne_some]
  intro position found
  exact absurd (sound.numbered _ (mem_of_lookup found)) (Nat.not_lt.mpr unopened)

theorem inbox?_of_le (sound : channel.Sound) (unopened : channel.nextReader ≤ reader) :
    channel.inbox? reader = none := by
  rw [inbox?, position?_of_le sound unopened, Option.map_none]

theorem inbox?_openReader (sound : channel.Sound) :
    channel.openReader.inbox? reader =
      if reader = channel.nextReader then some { closed := channel.closed } else channel.inbox? reader := by
  have found : channel.openReader.position? reader =
      (channel.position? reader).or (if reader = channel.nextReader then some channel.sent.length else none) := by
    rw [position?, openReader, List.lookup_append, lookup_cons_if]
    rfl
  rw [inbox?, found]
  split_ifs with new
  · rw [position?_of_le sound (Nat.le_of_eq new.symm)]
    simp [openReader]
  · rw [Option.or_none]
    rfl

theorem inbox?_send (sound : channel.Sound) (event : KeyEvent) :
    (channel.send event).inbox? reader = (channel.inbox? reader).map fun inbox =>
      { inbox with waiting := inbox.waiting ++ [event] } := by
  have same : (channel.send event).position? reader = channel.position? reader := rfl
  rw [inbox?, inbox?, same]
  cases found : channel.position? reader with
  | none => rfl
  | some position =>
      have behind := position?_le sound found
      simp [send, List.drop_append_of_le_length behind]

theorem inbox?_closeReader (other : Nat) :
    (channel.closeReader other).inbox? reader = if other = reader then none else channel.inbox? reader := by
  rw [inbox?, position?, closeReader, lookup_filter]
  split_ifs
  · rfl
  · rfl

theorem readAt_eq {position : Nat} (behind : position ≤ channel.sent.length) :
    channel.readAt position =
      (expected channel.closed (channel.sent.drop position),
        position + (expected channel.closed (channel.sent.drop position)).used) := by
  have count : (channel.sent.drop position).length = channel.sent.length - position := List.length_drop
  unfold readAt expected
  dsimp only
  by_cases lags : position < channel.sent.length - capacity
  · have more : capacity < (channel.sent.drop position).length := by omega
    have left : (channel.sent.drop position).length - capacity =
        channel.sent.length - capacity - position := by omega
    rw [if_pos lags, if_pos more, left]
    exact Prod.ext rfl (by simp only [ChannelReading.used]; omega)
  · have kept : ¬ capacity < (channel.sent.drop position).length := by omega
    rw [if_neg lags, if_neg kept]
    cases oldest : channel.sent.drop position with
    | nil =>
        rw [List.getElem?_eq_none (List.drop_eq_nil_iff.mp oldest)]
        cases channel.closed with
        | false => rfl
        | true => rfl
    | cons event later =>
        have here : channel.sent[position]? = some event := by
          rw [← List.head?_drop, oldest, List.head?_cons]
        rw [here]
        rfl

theorem attempt_apply :
    attempt reader channel =
      match channel.position? reader with
      | none => { value := none, world := channel }
      | some position =>
        { value := some (channel.readAt position).1
          world := channel.setPosition reader (channel.readAt position).2
          log := ((channel.readAt position).1.warning? channel.name).toList } := by
  simp only [attempt, Run.bind_apply, Run.world, read?]
  cases channel.position? reader with
  | none => rfl
  | some position =>
      simp only [Option.map_some, Run.bind_apply, Run.logAll, Run.change, Run.pure_apply, List.nil_append,
        List.append_nil]

theorem inbox?_setPosition (other position : Nat) :
    (channel.setPosition other position).inbox? reader =
      if other = reader then (channel.inbox? reader).map fun inbox =>
        { inbox with waiting := channel.sent.drop position }
      else channel.inbox? reader := by
  have moved : (channel.setPosition other position).position? reader =
      if other = reader then (channel.position? reader).map fun _ => position
      else channel.position? reader := lookup_replaced
  rw [inbox?, moved]
  split_ifs
  · rw [inbox?, Option.map_map, Option.map_map]
    rfl
  · rfl

theorem inbox?_attempt (sound : channel.Sound) (other : Nat) :
    (attempt other channel).world.inbox? reader =
      if other = reader then (channel.inbox? reader).map Inbox.read else channel.inbox? reader := by
  rw [attempt_apply]
  cases found : channel.position? other with
  | none =>
      split_ifs with own
      · rw [inbox?, ← own, found]
        rfl
      · rfl
  | some position =>
      dsimp only
      rw [inbox?_setPosition]
      split_ifs with own
      · subst own
        rw [inbox?, found, readAt_eq (position?_le sound found)]
        simp only [Option.map_some, Inbox.read, Inbox.reading, List.drop_drop]
      · rfl

theorem value_attempt (sound : channel.Sound) :
    (attempt reader channel).value = (channel.inbox? reader).map Inbox.reading := by
  rw [attempt_apply, inbox?]
  cases found : channel.position? reader with
  | none => rfl
  | some position => simp only [readAt_eq (position?_le sound found), Option.map_some, Inbox.reading]

theorem log_attempt :
    (attempt reader channel).log =
      (attempt reader channel).value.toList.filterMap (ChannelReading.warning? channel.name) := by
  rw [attempt_apply]
  cases channel.position? reader with
  | none => rfl
  | some position =>
      dsimp only
      cases (channel.readAt position).1 with
      | event event => rfl
      | missed count => rfl
      | pending => rfl
      | ended => rfl

theorem Sound.openReader (sound : channel.Sound) : channel.openReader.Sound where
  numbered entry member := by
    rcases List.mem_append.mp member with old | new
    · exact Nat.lt_succ_of_lt (sound.numbered entry old)
    · rw [List.mem_singleton.mp new]
      exact Nat.lt_succ_self _
  distinct := by
    rw [Channel.openReader, List.map_append, List.nodup_append]
    refine ⟨sound.distinct, by simp, fun number old other new same => ?_⟩
    obtain ⟨entry, member, rfl⟩ := List.mem_map.mp old
    rw [List.mem_singleton.mp new] at same
    exact Nat.ne_of_lt (sound.numbered entry member) same
  behind entry member := by
    rcases List.mem_append.mp member with old | new
    · exact sound.behind entry old
    · rw [List.mem_singleton.mp new]
      exact Nat.le_refl _

theorem Sound.send (sound : channel.Sound) (event : KeyEvent) : (channel.send event).Sound where
  numbered := sound.numbered
  distinct := sound.distinct
  behind entry member := by
    rw [Channel.send, List.length_append]
    exact Nat.le_add_right_of_le (sound.behind entry member)

theorem Sound.closeReader (sound : channel.Sound) (other : Nat) : (channel.closeReader other).Sound where
  numbered entry member := sound.numbered entry (List.mem_filter.mp member).1
  distinct := sound.distinct.sublist (List.filter_sublist.map _)
  behind entry member := sound.behind entry (List.mem_filter.mp member).1

theorem used_le_length (closed : Bool) (waiting : List KeyEvent) :
    (expected closed waiting).used ≤ waiting.length := by
  unfold expected
  by_cases lags : capacity < waiting.length
  · rw [if_pos lags]
    exact Nat.sub_le _ _
  · rw [if_neg lags]
    cases waiting with
    | nil =>
        cases closed with
        | false => exact Nat.le_refl 0
        | true => exact Nat.le_refl 0
    | cons event later => exact Nat.le_add_left 1 later.length

theorem Sound.attempt (sound : channel.Sound) (other : Nat) : (attempt other channel).world.Sound := by
  rw [attempt_apply]
  cases found : channel.position? other with
  | none => exact sound
  | some position =>
      have here := position?_le sound found
      have bounded : (channel.readAt position).2 ≤ channel.sent.length := by
        have used := used_le_length channel.closed (channel.sent.drop position)
        rw [List.length_drop] at used
        rw [readAt_eq here]
        dsimp only
        omega
      constructor
      · intro entry member
        obtain ⟨old, among, rfl⟩ := List.mem_map.mp member
        split_ifs with moved
        · rw [← moved]
          exact sound.numbered old among
        · exact sound.numbered old among
      · have kept : (fun entry : Nat × Nat =>
            (if entry.1 = other then (other, (channel.readAt position).2) else entry).1) = (·.1) := by
          funext entry
          split_ifs with moved
          · exact moved.symm
          · rfl
        change ((channel.readers.map _).map _).Nodup
        rw [List.map_map]
        exact (congrArg (fun numbers => (channel.readers.map numbers).Nodup) kept).mpr sound.distinct
      · intro entry member
        obtain ⟨old, among, rfl⟩ := List.mem_map.mp member
        split_ifs
        · exact bounded
        · exact sound.behind old among

theorem Sound.perform (sound : channel.Sound) (step : Step) : (perform step channel).world.Sound := by
  cases step with
  | openReader =>
      change (if channel.closed then channel else channel.openReader).Sound
      split_ifs
      · exact sound
      · exact sound.openReader
  | send event =>
      change (if channel.closed then channel else channel.send event).Sound
      split_ifs
      · exact sound
      · exact sound.send event
  | read other => exact sound.attempt other
  | closeReader other => exact sound.closeReader other
  | close => exact ⟨sound.numbered, sound.distinct, sound.behind⟩

theorem Sound.run (sound : channel.Sound) (steps : List Step) : (run steps channel).world.Sound := by
  induction steps generalizing channel with
  | nil => exact sound
  | cons step rest ih =>
      rw [run_cons]
      exact ih (sound.perform step)

/-! ## Each reader by itself -/

theorem inbox?_perform (sound : channel.Sound) (opened : reader < channel.nextReader) (step : Step) :
    (perform step channel).world.inbox? reader = (channel.inbox? reader).bind (·.hear reader step) := by
  cases step with
  | openReader =>
      change (if channel.closed then channel else channel.openReader).inbox? reader =
        (channel.inbox? reader).bind some
      rw [Option.bind_fun_some]
      split_ifs
      · rfl
      · rw [inbox?_openReader sound, if_neg (Nat.ne_of_lt opened)]
  | send event =>
      have receives : ∀ inbox, channel.inbox? reader = some inbox → inbox.closed = channel.closed := by
        intro inbox found
        obtain ⟨position, -, rfl⟩ := Option.map_eq_some_iff.mp found
        rfl
      change (if channel.closed then channel else channel.send event).inbox? reader = _
      split_ifs with filled
      · cases found : channel.inbox? reader with
        | none => rfl
        | some inbox =>
            have shut : inbox.closed = true := (receives inbox found).trans filled
            rw [Option.bind_some, Inbox.hear, Inbox.receive, if_pos shut]
      · rw [inbox?_send sound]
        cases found : channel.inbox? reader with
        | none => rfl
        | some inbox =>
            have fillable : ¬ inbox.closed = true := fun shut => filled (receives inbox found ▸ shut)
            rw [Option.bind_some, Inbox.hear, Inbox.receive, if_neg fillable, Option.map_some]
  | read other =>
      change (attempt other channel).world.inbox? reader = _
      rw [inbox?_attempt sound]
      cases channel.inbox? reader with
      | none => split_ifs <;> rfl
      | some inbox =>
          rw [Option.bind_some, Inbox.hear, Option.map_some]
          split_ifs
          · rfl
          · rfl
  | closeReader other =>
      change (channel.closeReader other).inbox? reader = _
      rw [inbox?_closeReader]
      cases channel.inbox? reader with
      | none => split_ifs <;> rfl
      | some inbox => rw [Option.bind_some, Inbox.hear]
  | close =>
      have same : channel.close.position? reader = channel.position? reader := rfl
      change channel.close.inbox? reader = _
      rw [inbox?, inbox?, same]
      cases channel.position? reader with
      | none => rfl
      | some position => rfl

theorem nextReader_perform (step : Step) : channel.nextReader ≤ (perform step channel).world.nextReader := by
  cases step with
  | openReader =>
      change _ ≤ (if channel.closed then channel else channel.openReader).nextReader
      split_ifs
      · exact Nat.le_refl _
      · exact Nat.le_succ _
  | send event =>
      change _ ≤ (if channel.closed then channel else channel.send event).nextReader
      split_ifs
      · exact Nat.le_refl _
      · exact Nat.le_refl _
  | read other =>
      change _ ≤ (attempt other channel).world.nextReader
      rw [attempt_apply]
      cases channel.position? other with
      | none => exact Nat.le_refl _
      | some position => exact Nat.le_refl _
  | closeReader other => exact Nat.le_refl _
  | close => exact Nat.le_refl _

theorem ofReader_perform (sound : channel.Sound) (step : Step) :
    ofReader reader (perform step channel).value =
      ((channel.inbox? reader).map (·.given reader step)).getD [] := by
  have silent : ∀ inbox : Option Inbox, (inbox.map fun _ => ([] : List ChannelReading)).getD [] = [] := by
    intro inbox
    cases inbox with
    | none => rfl
    | some inbox => rfl
  cases step with
  | read other =>
      change ofReader reader ((attempt other channel).value.toList.map (other, ·)) = _
      by_cases own : other = reader
      · subst own
        rw [ofReader_self, value_attempt sound]
        cases channel.inbox? other with
        | none => rfl
        | some inbox => simp [Inbox.given]
      · rw [ofReader_of_ne own]
        simp only [Inbox.given, if_neg own, silent]
  | openReader => exact (silent _).symm
  | send event => exact (silent _).symm
  | closeReader other => exact (silent _).symm
  | close => exact (silent _).symm

/-- What a reader gets is what it would get if it had the channel for itself. -/
theorem ofReader_run (sound : channel.Sound) (opened : reader < channel.nextReader) (steps : List Step) :
    ofReader reader (run steps channel).value = Inbox.readings reader (channel.inbox? reader) steps ∧
      (run steps channel).world.inbox? reader = Inbox.after reader (channel.inbox? reader) steps := by
  induction steps generalizing channel with
  | nil =>
      refine ⟨?_, rfl⟩
      cases channel.inbox? reader with
      | none => rfl
      | some inbox => rfl
  | cons step rest ih =>
      obtain ⟨given, inbox⟩ := ih (sound.perform step)
        (Nat.lt_of_lt_of_le opened (nextReader_perform step))
      rw [inbox?_perform sound opened] at given inbox
      rw [run_cons, ofReader_append, ofReader_perform sound, given]
      refine ⟨?_, inbox⟩
      cases channel.inbox? reader with
      | none => cases rest <;> rfl
      | some inbox => rfl

end Steps

end Channel

end GlobalHotkeys
