import GlobalHotkeys.Capture.Session
import GlobalHotkeys.Keyboard.Channel
import GlobalHotkeys.Listener.Basic

namespace GlobalHotkeys.Simulation

inductive KeyboardSource where
  | keyboards (count : Nat) (failure : Option HotkeyError)
  | channel (present : Bool)

structure KeyInput where
  keyboard : Nat
  reading : Reading
  delay : Duration := ⟨0⟩

inductive KeyboardStep where
  | events (inputs : List KeyInput)
  | burst (inputs : List KeyInput)
  | connect (count : Nat)
  | openFailure (failure : Option HotkeyError)

namespace KeyboardSource

def channelName : String := "channel keyboard"

def openAll : KeyboardSource → Except HotkeyError (List Keyboard)
  | keyboards count failure =>
    match failure with
    | some cause => .error cause
    | none => .ok ((List.range count).map fun index => ⟨index, s!"kbd{index}"⟩)
  | channel present => .ok (if present then [⟨0, channelName⟩] else [])

def hasKeyboards (source : KeyboardSource) : Bool :=
  match source.openAll with
  | .ok opened => !opened.isEmpty
  | .error _ => false

def setCount (source : KeyboardSource) (count : Nat) : KeyboardSource :=
  match source with
  | keyboards _ failure => keyboards count failure
  | other => other

def setFailure (source : KeyboardSource) (failure : Option HotkeyError) : KeyboardSource :=
  match source with
  | keyboards count _ => keyboards count failure
  | other => other

def arrival (source : KeyboardSource) (input : KeyInput) : Option (Nat × Reading) :=
  match source, input.reading with
  | keyboards .., reading => some (input.keyboard, reading)
  | channel _, .event event => some (0, .event event)
  | channel _, .failure _ => none

end KeyboardSource

/-- The most readings that one reader handles in its turn. -/
def turnLength : Nat := 128

/-- The order in which readings that come all at once are handled: the keyboards take turns, the one
heard of first before the others. -/
def inTurns (readings : List (Nat × Reading)) : List (Nat × Reading) :=
  let keyboards := (readings.map (·.1)).eraseDups
  let queues := keyboards.map fun keyboard => readings.filter (·.1 == keyboard)
  let rounds := readings.length / turnLength + 1
  (List.range rounds).flatMap fun round =>
    queues.flatMap fun queue => (queue.drop (round * turnLength)).take turnLength

def KeyboardSource.burst (source : KeyboardSource) (inputs : List KeyInput) :
    List (Nat × Reading) × List LogLine :=
  let readings := inputs.filterMap source.arrival
  match source with
  | .keyboards .. => (inTurns readings, [])
  | .channel _ =>
    let missed := readings.length - Channel.capacity
    let channel : Channel := { name := KeyboardSource.channelName }
    (readings.drop missed,
      if missed = 0 then []
      else [{ level := .warn, message := channel.missedMessage missed }])

def timed (inputs : List KeyInput) : List (Duration × KeyInput) :=
  (inputs.foldl
    (fun (now, done) input =>
      let now := now + input.delay.nanos
      (now, done ++ [(⟨now⟩, input)]))
    ((0, []) : Nat × List (Duration × KeyInput))).2

def beforeEnd (limit time : Duration) : Bool :=
  time.nanos < (limit.nanos + 999999) / 1000000 * 1000000

def KeyboardSource.heard (source : KeyboardSource) (limit : Duration) (inputs : List KeyInput) :
    List (Nat × Reading) :=
  ((timed inputs).filter fun (time, _) => beforeEnd limit time).filterMap fun (_, input) =>
    source.arrival input

def KeyboardSource.capture (source : KeyboardSource) (limit : Duration) (inputs : List KeyInput) :
    Except HotkeyError String :=
  captureOnce source.openAll limit (source.heard limit inputs)

end GlobalHotkeys.Simulation
