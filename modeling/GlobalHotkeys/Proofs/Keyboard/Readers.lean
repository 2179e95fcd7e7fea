import GlobalHotkeys.Proofs.Keyboard.Inbox
import GlobalHotkeys.Simulation.ChannelRun

/-!
# What the readers of a channel get

What a reader has got and what it was told to have missed is, in this order and without a gap, what was
sent since it was opened. Only one that more than 64 events wait for misses any, and then just the oldest
beyond these. Nothing that is done with another reader changes it, and when the sending side is gone, all
that still waits is read before the end.
-/

namespace GlobalHotkeys

namespace Channel

/-! ## What is sent and what is read -/

def sentIn : List Step → List KeyEvent
  | [] => []
  | .send event :: rest => event :: sentIn rest
  | .close :: _ => []
  | _ :: rest => sentIn rest

/-- Each reading takes its part off the front of what was sent: an event is the next one, and so many
events are left out as are told to be missed. -/
inductive Accounts : List ChannelReading → List KeyEvent → Prop where
  | nil (sent : List KeyEvent) : Accounts [] sent
  | event {readings : List ChannelReading} {event : KeyEvent} {later : List KeyEvent}
      (rest : Accounts readings later) : Accounts (.event event :: readings) (event :: later)
  | missed {readings : List ChannelReading} (skipped : List KeyEvent) {later : List KeyEvent}
      (rest : Accounts readings later) : Accounts (.missed skipped.length :: readings) (skipped ++ later)
  | pending {readings : List ChannelReading} {later : List KeyEvent} (rest : Accounts readings later) :
      Accounts (.pending :: readings) later
  | ended {readings : List ChannelReading} {later : List KeyEvent} (rest : Accounts readings later) :
      Accounts (.ended :: readings) later

def usedBy : List ChannelReading → Nat
  | [] => 0
  | reading :: rest => reading.used + usedBy rest

def lastReadings (waiting : List KeyEvent) : List ChannelReading :=
  (if capacity < waiting.length then [.missed (waiting.length - capacity)] else []) ++
    (waiting.drop (waiting.length - capacity)).map .event

def Step.isOfOther (reader : Nat) : Step → Bool
  | .read other => other != reader
  | .closeReader other => other != reader
  | _ => false

def readings (name : String) (steps : List Step) (reader : Nat) : List ChannelReading :=
  ofReader reader (run steps { name }).value

namespace Accounts

variable {given : List ChannelReading} {sent : List KeyEvent}

theorem events_sublist (accounts : Accounts given sent) :
    (given.filterMap ChannelReading.event?).Sublist sent := by
  induction accounts with
  | nil sent => exact List.nil_sublist sent
  | event rest ih => exact ih.cons_cons _
  | missed skipped rest ih => exact ih.trans (List.sublist_append_right skipped _)
  | pending rest ih => exact ih
  | ended rest ih => exact ih

theorem usedBy_le (accounts : Accounts given sent) : usedBy given ≤ sent.length := by
  induction accounts with
  | nil sent => exact Nat.zero_le _
  | event rest ih =>
      simp only [usedBy, ChannelReading.used, List.length_cons] at ih ⊢
      omega
  | missed skipped rest ih =>
      simp only [usedBy, ChannelReading.used, List.length_append] at ih ⊢
      omega
  | pending rest ih => simpa [usedBy, ChannelReading.used] using ih
  | ended rest ih => simpa [usedBy, ChannelReading.used] using ih

end Accounts

/-! ## Laws of an inbox -/

namespace Inbox

variable {reader : Nat}

def coming (inbox : Inbox) (steps : List Step) : List KeyEvent :=
  if inbox.closed then [] else sentIn steps

theorem coming_send (inbox : Inbox) (event : KeyEvent) (rest : List Step) :
    (inbox.receive event).waiting ++ (inbox.receive event).coming rest =
      inbox.waiting ++ inbox.coming (.send event :: rest) := by
  unfold receive coming
  cases shut : inbox.closed <;> simp [shut, sentIn]

theorem coming_close (inbox : Inbox) (rest : List Step) :
    coming { inbox with closed := true } rest = inbox.coming (.close :: rest) := by
  unfold coming
  cases inbox.closed <;> rfl

theorem accounts_reading {closed : Bool} {waiting coming : List KeyEvent} {given : List ChannelReading}
    (rest : Accounts given (waiting.drop (expected closed waiting).used ++ coming)) :
    Accounts (expected closed waiting :: given) (waiting ++ coming) := by
  rcases expected_cases closed waiting with ⟨rfl, none⟩ | ⟨event, later, rfl, -, next⟩ | ⟨lags, missed⟩
  · rw [none] at rest ⊢
    cases closed with
    | false => exact .pending rest
    | true => exact .ended rest
  · rw [next] at rest ⊢
    exact .event rest
  · rw [missed] at rest ⊢
    have count : (waiting.take (waiting.length - capacity)).length = waiting.length - capacity := by
      rw [List.length_take]
      omega
    have split := Accounts.missed (waiting.take (waiting.length - capacity)) rest
    rw [count, ← List.append_assoc, ChannelReading.used, List.take_append_drop] at split
    exact split

theorem accounts (inbox : Inbox) (steps : List Step) :
    Accounts (readings reader (some inbox) steps) (inbox.waiting ++ inbox.coming steps) := by
  induction steps generalizing inbox with
  | nil => exact .nil _
  | cons step rest ih =>
      cases step with
      | openReader => exact ih inbox
      | send event =>
          rw [← coming_send]
          exact ih (inbox.receive event)
      | read other =>
          change Accounts (inbox.given reader (.read other) ++
            readings reader (some (if other = reader then inbox.read else inbox)) rest) _
          by_cases own : other = reader
          · rw [given, if_pos own, if_pos own]
            exact accounts_reading (ih inbox.read)
          · rw [given, if_neg own, if_neg own]
            exact ih inbox
      | closeReader other =>
          by_cases own : other = reader
          · have gone : readings reader (some inbox) (.closeReader other :: rest) = [] := by
              change [] ++ readings reader (if other = reader then none else some inbox) rest = []
              rw [if_pos own]
              cases rest <;> rfl
            rw [gone]
            exact .nil _
          · change Accounts (readings reader (if other = reader then none else some inbox) rest) _
            rw [if_neg own]
            exact ih inbox
      | close =>
          rw [← coming_close]
          exact ih { inbox with closed := true }

theorem after_eq (inbox : Inbox) {steps : List Step} (stays : .closeReader reader ∉ steps) :
    after reader (some inbox) steps = some
      { waiting := (inbox.waiting ++ inbox.coming steps).drop (usedBy (readings reader (some inbox) steps))
        closed := inbox.closed || decide (.close ∈ steps) } := by
  induction steps generalizing inbox with
  | nil => simp [after, coming, sentIn, readings, usedBy]
  | cons step rest ih =>
      have next (heard : Inbox) := ih heard fun later => stays (List.mem_cons_of_mem _ later)
      cases step with
      | openReader =>
          refine (next inbox).trans ?_
          simp [coming, sentIn, readings, given, hear]
      | send event =>
          have receives : (inbox.receive event).closed = inbox.closed := by
            unfold receive
            split_ifs <;> rfl
          refine (next (inbox.receive event)).trans ?_
          rw [coming_send, receives]
          simp [readings, given, hear]
      | read other =>
          change after reader (some (if other = reader then inbox.read else inbox)) rest = _
          rw [next]
          by_cases own : other = reader
          -- A reading takes its part off the front, and the rest goes on waiting.
          · have shorter : inbox.reading.used ≤ inbox.waiting.length := used_le_length _ _
            have used : usedBy (readings reader (some inbox) (.read other :: rest)) =
                inbox.reading.used + usedBy (readings reader (some inbox.read) rest) := by
              simp [readings, given, hear, own, usedBy]
            rw [if_pos own, used, ← List.drop_drop, List.drop_append_of_le_length shorter]
            simp only [List.mem_cons, reduceCtorEq, false_or]
            rfl
          · simp [coming, sentIn, readings, given, hear, own]
      | closeReader other =>
          have different : other ≠ reader := by
            rintro rfl
            exact stays List.mem_cons_self
          change after reader (if other = reader then none else some inbox) rest = _
          rw [if_neg different, next]
          simp [coming, sentIn, readings, given, hear, different]
      | close =>
          refine (next { inbox with closed := true }).trans ?_
          rw [coming_close]
          simp [readings, given, hear]

theorem readings_append (inbox : Option Inbox) (first second : List Step) :
    readings reader inbox (first ++ second) =
      readings reader inbox first ++ readings reader (after reader inbox first) second := by
  induction first generalizing inbox with
  | nil =>
      cases inbox with
      | none => cases second <;> rfl
      | some inbox => rfl
  | cons step rest ih =>
      cases inbox with
      | none => cases second <;> simp [readings]
      | some inbox =>
          rw [List.cons_append, readings, readings, ih, List.append_assoc]
          rfl

theorem readings_filter (inbox : Option Inbox) (steps : List Step) :
    readings reader inbox (steps.filter fun step => !step.isOfOther reader) = readings reader inbox steps := by
  induction steps generalizing inbox with
  | nil => rfl
  | cons step rest ih =>
      cases inbox with
      | none => cases rest <;> simp [readings]
      | some inbox =>
          cases foreign : step.isOfOther reader with
          | false =>
              rw [List.filter_cons_of_pos (by simp [foreign]), readings, readings, ih]
          | true =>
              rw [List.filter_cons_of_neg (by simp [foreign]), ih, readings]
              cases step with
              | read other =>
                  have different : other ≠ reader := by simpa [Step.isOfOther] using foreign
                  simp [given, hear, different]
              | closeReader other =>
                  have different : other ≠ reader := by simpa [Step.isOfOther] using foreign
                  simp [given, hear, different]
              | openReader => cases foreign
              | send event => cases foreign
              | close => cases foreign

theorem lastReadings_eq_cons {waiting : List KeyEvent} (some : waiting ≠ []) (closed : Bool) :
    lastReadings waiting = expected closed waiting ::
      lastReadings (waiting.drop (expected closed waiting).used) := by
  rcases expected_cases closed waiting with ⟨none, -⟩ | ⟨event, later, rfl, kept, next⟩ | ⟨lags, missed⟩
  · exact absurd none some
  · have all (events : List KeyEvent) (kept : events.length ≤ capacity) :
        lastReadings events = events.map .event := by
      rw [lastReadings, if_neg (Nat.not_lt.mpr kept), Nat.sub_eq_zero_of_le kept]
      rfl
    rw [next, all _ kept]
    exact congrArg _ (all later (Nat.le_of_succ_le kept)).symm
  · have count : (waiting.drop (waiting.length - capacity)).length = capacity := by
      rw [List.length_drop]
      omega
    rw [missed, ChannelReading.used, lastReadings, lastReadings, count, if_pos lags,
      if_neg (Nat.lt_irrefl _), Nat.sub_self]
    rfl

theorem readings_of_closed (waiting : List KeyEvent) {steps : List Step} (stays : .closeReader reader ∉ steps) :
    let attempts := steps.count (.read reader)
    readings reader (some { waiting, closed := true }) steps =
      (lastReadings waiting).take attempts ++
        List.replicate (attempts - (lastReadings waiting).length) ChannelReading.ended := by
  induction steps generalizing waiting with
  | nil => simp [readings]
  | cons step rest ih =>
      have next (left : List KeyEvent) := ih left fun later => stays (List.mem_cons_of_mem _ later)
      cases step with
      | read other =>
          by_cases own : other = reader
          · subst own
            have first : readings other (some { waiting, closed := true }) (.read other :: rest) =
                expected true waiting ::
                  readings other (some { waiting := waiting.drop (expected true waiting).used, closed := true })
                    rest := by
              simp [readings, given, hear, read, reading]
            simp only [first, next, List.count_cons_self]
            by_cases some : waiting = []
            · subst some
              simp [lastReadings, expected, ChannelReading.used, List.replicate_succ]
            · rw [lastReadings_eq_cons some true, List.take_succ_cons, List.length_cons, Nat.add_sub_add_right]
              rfl
          · have passed : Step.read other ≠ .read reader := by simpa using own
            have same : readings reader (some { waiting, closed := true }) (.read other :: rest) =
                readings reader (some { waiting, closed := true }) rest := by
              simp [readings, given, hear, own]
            simp only [same, next, List.count_cons_of_ne passed]
      | closeReader other =>
          have different : other ≠ reader := by
            rintro rfl
            exact stays List.mem_cons_self
          have same : readings reader (some { waiting, closed := true }) (.closeReader other :: rest) =
              readings reader (some { waiting, closed := true }) rest := by
            simp [readings, given, hear, different]
          simp only [same, next, List.count_cons_of_ne (show Step.closeReader other ≠ .read reader by simp)]
      | openReader => simpa [readings, given, hear] using next waiting
      | send event => simpa [readings, given, hear, receive] using next waiting
      | close => simpa [readings, given, hear] using next waiting

end Inbox

/-! ## Readers of one course -/

section Course

variable {channel : Channel} {reader : Nat}

theorem name_perform (step : Step) : (perform step channel).world.name = channel.name := by
  cases step with
  | openReader =>
      change (if channel.closed then channel else channel.openReader).name = _
      split_ifs <;> rfl
  | send event =>
      change (if channel.closed then channel else channel.send event).name = _
      split_ifs <;> rfl
  | read other =>
      change (attempt other channel).world.name = _
      rw [attempt_apply]
      cases channel.position? other <;> rfl
  | closeReader other => rfl
  | close => rfl

theorem log_perform (step : Step) :
    (perform step channel).log =
      (perform step channel).value.filterMap fun entry => entry.2.warning? channel.name := by
  cases step with
  | read other =>
      change (attempt other channel).log ++ [] = ((attempt other channel).value.toList.map (other, ·)).filterMap _
      rw [List.append_nil, log_attempt, List.filterMap_map]
      rfl
  | openReader => rfl
  | send event => rfl
  | closeReader other => rfl
  | close => rfl

theorem name_run (channel : Channel) (steps : List Step) : (run steps channel).world.name = channel.name := by
  induction steps generalizing channel with
  | nil => rfl
  | cons step rest ih =>
      rw [run_cons]
      exact (ih _).trans (name_perform step)

theorem log_run (channel : Channel) (steps : List Step) :
    (run steps channel).log =
      (run steps channel).value.filterMap fun entry => entry.2.warning? channel.name := by
  induction steps generalizing channel with
  | nil => rfl
  | cons step rest ih =>
      simp only [run_cons]
      rw [List.filterMap_append, ← log_perform, ih, name_perform]

theorem nextReader_le_run (channel : Channel) (steps : List Step) :
    channel.nextReader ≤ (run steps channel).world.nextReader := by
  induction steps generalizing channel with
  | nil => exact Nat.le_refl _
  | cons step rest ih =>
      rw [run_cons]
      exact Nat.le_trans (nextReader_perform step) (ih _)

theorem ofReader_of_unopened (sound : channel.Sound) {steps : List Step}
    (unopened : (run steps channel).world.nextReader ≤ reader) :
    ofReader reader (run steps channel).value = [] := by
  induction steps generalizing channel with
  | nil => rfl
  | cons step rest ih =>
      have before := Nat.le_trans (nextReader_le_run channel (step :: rest)) unopened
      rw [run_cons] at unopened ⊢
      rw [ofReader_append, ofReader_perform sound, inbox?_of_le sound before, ih (sound.perform step) unopened]
      rfl

theorem open_run {steps : List Step} (unclosed : channel.closed = false) (lasting : .close ∉ steps) :
    (run steps channel).world.closed = false ∧
      (run steps channel).world.nextReader = channel.nextReader + steps.count .openReader := by
  induction steps generalizing channel with
  | nil => exact ⟨unclosed, rfl⟩
  | cons step rest ih =>
      have step_open : (perform step channel).world.closed = false ∧
          (perform step channel).world.nextReader = channel.nextReader + [step].count .openReader := by
        cases step with
        | openReader =>
            change (if channel.closed then channel else channel.openReader).closed = false ∧
              (if channel.closed then channel else channel.openReader).nextReader = _
            rw [if_neg (by simp [unclosed])]
            exact ⟨unclosed, rfl⟩
        | send event =>
            change (if channel.closed then channel else channel.send event).closed = false ∧
              (if channel.closed then channel else channel.send event).nextReader = _
            rw [if_neg (by simp [unclosed])]
            exact ⟨unclosed, rfl⟩
        | read other =>
            change (attempt other channel).world.closed = false ∧ (attempt other channel).world.nextReader = _
            rw [attempt_apply]
            cases channel.position? other <;> exact ⟨unclosed, rfl⟩
        | closeReader other => exact ⟨unclosed, rfl⟩
        | close => exact absurd List.mem_cons_self lasting
      obtain ⟨later, number⟩ := ih step_open.1 fun member => lasting (List.mem_cons_of_mem _ member)
      rw [run_cons]
      refine ⟨later, ?_⟩
      rw [number, step_open.2, Nat.add_assoc, ← List.count_append, List.singleton_append]

theorem readings_course (name : String) {before : List Step} (lasting : .close ∉ before) (since : List Step) :
    let reader := before.count .openReader
    readings name (before ++ .openReader :: since) reader = Inbox.readings reader (some {}) since ∧
      (run (before ++ .openReader :: since) { name }).world.inbox? reader =
        Inbox.after reader (some {}) since := by
  intro reader
  have fresh : ({ name } : Channel).closed = false := rfl
  obtain ⟨unclosed, number⟩ := open_run fresh lasting
  rw [Nat.zero_add] at number
  have sound := (sound_fresh name).run before
  have opening : (perform .openReader (run before { name }).world).world =
      (run before { name }).world.openReader := if_neg (by simp [unclosed])
  have empty : (run before { name }).world.openReader.inbox? reader = some {} := by
    rw [inbox?_openReader sound, if_pos number.symm, unclosed]
  have opened : reader < (run before { name }).world.openReader.nextReader := by
    rw [Channel.openReader, number]
    exact Nat.lt_succ_self _
  obtain ⟨given, inbox⟩ := ofReader_run sound.openReader opened since
  rw [readings, run_append, run_cons, opening, ofReader_append,
    ofReader_of_unopened (sound_fresh name) (Nat.le_of_eq number), ofReader_append, given, inbox, empty]
  exact ⟨rfl, rfl⟩

end Course

/-! ## A call for the next event -/

section Call

open Simulation

variable {channel : Channel} {reader : Nat}

theorem read?_eq (sound : channel.Sound) {inbox : Inbox} (found : channel.inbox? reader = some inbox) :
    channel.read? reader = some (inbox.reading, (attempt reader channel).world) := by
  obtain ⟨position, here, rfl⟩ := Option.map_eq_some_iff.mp found
  rw [attempt_apply, read?, here, Option.map_some]
  dsimp only
  rw [readAt_eq (position?_le sound here)]
  rfl

theorem attempt_of_nil (sound : channel.Sound) {inbox : Inbox} (found : channel.inbox? reader = some inbox)
    (nothing : inbox.waiting = []) : (attempt reader channel).world = channel := by
  obtain ⟨position, here, rfl⟩ := Option.map_eq_some_iff.mp found
  have still : channel.readAt position = (expected channel.closed [], position) := by
    have nothing : channel.sent.drop position = [] := nothing
    rw [readAt_eq (position?_le sound here), nothing]
    cases channel.closed <;> rfl
  have own : ∀ entry ∈ channel.readers, (if entry.1 = reader then (reader, position) else entry) = entry := by
    intro entry member
    split_ifs with mine
    · have same := List.inj_on_of_nodup_map sound.distinct member (mem_of_lookup here) mine
      exact same.symm
    · rfl
  rw [attempt_apply, here]
  dsimp only
  rw [still]
  simp only [setPosition, List.map_congr_left own, List.map_id']

theorem run_read (sound : channel.Sound) {inbox : Inbox} (found : channel.inbox? reader = some inbox) :
    let after := (attempt reader channel).world
    after.Sound ∧ after.inbox? reader = some inbox.read ∧
    ∀ steps, (run (.read reader :: steps) channel).world = (run steps after).world := by
  refine ⟨sound.attempt reader, ?_, fun steps => ?_⟩
  · rw [inbox?_attempt sound, if_pos rfl, found, Option.map_some]
  · rw [run_cons]
    rfl

theorem nextItem_eq {desk : ChannelDesk} (sound : desk.channel.Sound) {inbox : Inbox}
    (found : desk.channel.inbox? reader = some inbox) (allowed : 2 ≤ desk.allowance) :
    let called := ChannelDesk.nextItem reader desk
    let missing := inbox.waiting.length - capacity
    let attempts := List.replicate (if capacity < inbox.waiting.length then 2 else 1) (Step.read reader)
    called.world.channel = (run attempts desk.channel).world ∧
    called.log = (if capacity < inbox.waiting.length then
      [{ level := .warn, message := s!"{desk.channel.name}: dropped {missing} key events" }] else []) ∧
    called.value = match inbox.waiting.drop missing with
      | event :: _ => .event event
      | [] => if inbox.closed then .ended else .pending := by
  obtain ⟨channel, present, allowance⟩ := desk
  obtain ⟨more, rfl⟩ : ∃ more, allowance = more + 2 := ⟨allowance - 2, (Nat.sub_add_cancel allowed).symm⟩
  dsimp only at sound found
  have read := read?_eq sound found
  obtain ⟨soundAfter, foundAfter, world⟩ := run_read sound found
  rcases expected_cases inbox.closed inbox.waiting with
    ⟨nothing, reading⟩ | ⟨event, later, oldest, kept, reading⟩ | ⟨lags, reading⟩
  · have still := attempt_of_nil sound found nothing
    rw [Inbox.reading, reading] at read
    cases shut : inbox.closed with
    | false =>
        rw [shut] at read
        simp [-bind_pure_comp, ChannelDesk.nextItem, Run.world, read, world, still, nothing]
    | true =>
        rw [shut] at read
        simp [-bind_pure_comp, ChannelDesk.nextItem, Run.world, Run.change, read, world, still, nothing]
  · rw [Inbox.reading, reading] at read
    simp only [if_neg (Nat.not_lt.mpr kept), Nat.sub_eq_zero_of_le kept, List.drop_zero]
    simp [-bind_pure_comp, ChannelDesk.nextItem, Run.world, Run.change, read, world, oldest]
  -- The first attempt told of missed events only, so the call makes a second one.
  · have second := read?_eq soundAfter foundAfter
    obtain ⟨-, -, worldAfter⟩ := run_read soundAfter foundAfter
    have left : inbox.read.waiting = inbox.waiting.drop (inbox.waiting.length - capacity) := by
      rw [Inbox.read, Inbox.reading, reading, ChannelReading.used]
    have count : inbox.read.waiting.length = capacity := by
      rw [left, List.length_drop]
      omega
    rcases expected_cases inbox.read.closed inbox.read.waiting with
      ⟨nothing, -⟩ | ⟨event, later, oldest, -, next⟩ | ⟨more, -⟩
    · rw [nothing] at count
      cases count
    · have same : (attempt reader channel).world.name = channel.name := name_perform (.read reader)
      rw [Inbox.reading, reading] at read
      rw [Inbox.reading, next] at second
      simp only [if_pos lags, ← left, oldest]
      simp [-bind_pure_comp, ChannelDesk.nextItem, Run.world, Run.change, Run.log, read, second, world,
        worldAfter, missedMessage, same]
    · exact absurd more (Nat.not_lt.mpr (Nat.le_of_eq count))

end Call

/-! ## The readers of a channel -/

/-- In every course of a channel with any number of readers: what a reader has got and what it was told to
have missed is, in this order and without a gap, what was sent since it was opened, up to what still waits
for it. Its next attempt gives the oldest event that waits; only when more than 64 do, the oldest beyond
these are skipped and their number is told. What is told is warned about, and nothing else. What other
readers do and that they are closed changes nothing for it. Once the sending side is gone, it gets all
that is kept for it before the end. A call for the next event does not return with what was missed, but
goes on to the event after that. -/
theorem reader_accounts_for_sent (name : String) (before since : List Step) (lasting : .close ∉ before) :
    let reader := before.count .openReader
    let course := before ++ .openReader :: since
    let given := readings name course reader
    let sent := sentIn since
    let waiting := sent.drop (usedBy given)
    Accounts given sent ∧
    (given.filterMap ChannelReading.event?).Sublist sent ∧
    usedBy given + waiting.length = sent.length ∧
    (run course { name }).log = (run course { name }).value.filterMap (fun entry => entry.2.warning? name) ∧
    readings name (course.filter fun step => !step.isOfOther reader) reader = given ∧
    (.closeReader reader ∉ since →
      readings name (course ++ [.read reader]) reader = given ++ [expected (decide (.close ∈ since)) waiting] ∧
      (∀ later, .closeReader reader ∉ later →
        let attempts := later.count (.read reader)
        readings name (course ++ .close :: later) reader =
          given ++ (lastReadings waiting).take attempts ++
            List.replicate (attempts - (lastReadings waiting).length) ChannelReading.ended) ∧
      ∀ desk : Simulation.ChannelDesk, desk.channel = (run course { name }).world → 2 ≤ desk.allowance →
        let called := Simulation.ChannelDesk.nextItem reader desk
        let attempts := List.replicate (if capacity < waiting.length then 2 else 1) (Step.read reader)
        called.world.channel = (run (course ++ attempts) { name }).world ∧
        called.log = (if capacity < waiting.length then
          [{ level := .warn, message := s!"{name}: dropped {waiting.length - capacity} key events" }]
          else []) ∧
        called.value = match waiting.drop (waiting.length - capacity) with
          | event :: _ => .event event
          | [] => if .close ∈ since then .ended else .pending) := by
  intro reader course given sent waiting
  -- From its opening on, the reader gets what an inbox of its own would get.
  obtain ⟨received, inbox⟩ := readings_course name lasting since
  have accounts : Accounts given sent := by
    have own : Accounts (Inbox.readings reader (some {}) since) sent := Inbox.accounts {} since
    rwa [← received] at own
  have used := accounts.usedBy_le
  have waits (stays : .closeReader reader ∉ since) :
      Inbox.after reader (some {}) since = some { waiting, closed := decide (.close ∈ since) } := by
    rw [Inbox.after_eq {} stays, ← received]
    rfl
  have extended (later : List Step) : readings name (course ++ later) reader =
      given ++ Inbox.readings reader (Inbox.after reader (some {}) since) later := by
    have whole := (readings_course name lasting (since ++ later)).1
    rw [Inbox.readings_append, ← received, ← List.cons_append, ← List.append_assoc] at whole
    exact whole
  refine ⟨accounts, accounts.events_sublist, ?_, log_run _ _, ?_, fun stays => ⟨?_, ?_, ?_⟩⟩
  · rw [List.length_drop]
    omega
  · have alone : course.filter (fun step => !step.isOfOther reader) =
        before.filter (fun step => !step.isOfOther reader) ++
          .openReader :: since.filter fun step => !step.isOfOther reader := by
      rw [List.filter_append, List.filter_cons_of_pos rfl]
    have number : (before.filter fun step => !step.isOfOther reader).count .openReader = reader :=
      List.count_filter rfl
    have still : .close ∉ before.filter fun step => !step.isOfOther reader :=
      fun member => lasting (List.mem_filter.mp member).1
    have whole := (readings_course name still (since.filter fun step => !step.isOfOther reader)).1
    rw [number, Inbox.readings_filter, ← received, ← alone] at whole
    exact whole
  · rw [extended, waits stays]
    simp [Inbox.readings, Inbox.given, Inbox.reading, Inbox.hear]
  · intro later staysLater attempts
    rw [extended, waits stays, List.append_assoc]
    exact congrArg _ (Inbox.readings_of_closed waiting staysLater)
  · intro desk same allowed called attempts
    have sound : desk.channel.Sound := same ▸ (sound_fresh name).run course
    have found : desk.channel.inbox? reader = some { waiting, closed := decide (.close ∈ since) } := by
      rw [same, inbox, waits stays]
    obtain ⟨world, log, value⟩ := nextItem_eq sound found allowed
    refine ⟨?_, ?_, ?_⟩
    · rw [world, same]
      exact (congrArg Outcome.world (run_append { name } course attempts)).symm
    · rw [log, same, name_run]
    · rw [value]
      simp

set_option maxRecDepth 8000 in
/-- A second reader that 66 events wait for is told of two that it missed, goes on with the third, and gets
all the others before the end. -/
theorem lagging_reader_goes_on :
    let before : List Step := [.openReader]
    let since : List Step := (List.range 66).map (fun code => .send ⟨UInt16.ofNat code, keyPress⟩) ++
      [.closeReader 0, .read 1]
    let course := before ++ .openReader :: since
    .close ∉ before ∧ .closeReader 1 ∉ since ∧ readings "keys" course 1 = [.missed 2] ∧
    Accounts [.missed 2] (sentIn since) ∧
    readings "keys" (course ++ [.read 1]) 1 = [.missed 2, .event ⟨2, keyPress⟩] ∧
    (readings "keys" (course ++ .close :: List.replicate 65 (.read 1)) 1).drop 64 =
      [.event ⟨65, keyPress⟩, .ended] := by
  intro before since course
  have lasting : .close ∉ before := by decide
  have stays : .closeReader 1 ∉ since := by decide
  have missed : readings "keys" (before ++ .openReader :: since) (before.count .openReader) = [.missed 2] := by
    rfl
  obtain ⟨accounts, -, -, -, -, reading⟩ := reader_accounts_for_sent "keys" before since lasting
  obtain ⟨next, last, -⟩ := reading stays
  have drained := last (List.replicate 65 (.read 1)) (by decide)
  rw [missed] at accounts next drained
  have oldest : expected (decide (.close ∈ since)) ((sentIn since).drop (usedBy [.missed 2])) =
      .event ⟨2, keyPress⟩ := by rfl
  rw [oldest] at next
  refine ⟨lasting, stays, missed, accounts, next, ?_⟩
  exact (congrArg (List.drop 64) drained).trans (by rfl)

end Channel

end GlobalHotkeys
