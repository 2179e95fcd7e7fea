import GlobalHotkeys.Keyboard.Event
import GlobalHotkeys.Run

namespace GlobalHotkeys

structure Channel where
  name : String
  sent : List KeyEvent := []
  readers : List (Nat × Nat) := []
  nextReader : Nat := 0
  closed : Bool := false

inductive ChannelReading where
  | event (event : KeyEvent)
  | missed (count : Nat)
  | pending
  | ended
  deriving DecidableEq, Repr

namespace Channel

def capacity : Nat := 64

def openReader (channel : Channel) : Channel :=
  { channel with
    readers := channel.readers ++ [(channel.nextReader, channel.sent.length)]
    nextReader := channel.nextReader + 1 }

def closeReader (channel : Channel) (reader : Nat) : Channel :=
  { channel with readers := channel.readers.filter (·.1 != reader) }

def send (channel : Channel) (event : KeyEvent) : Channel :=
  { channel with sent := channel.sent ++ [event] }

def close (channel : Channel) : Channel :=
  { channel with closed := true }

def position? (channel : Channel) (reader : Nat) : Option Nat :=
  channel.readers.lookup reader

def setPosition (channel : Channel) (reader position : Nat) : Channel :=
  { channel with readers := channel.readers.map fun entry =>
      if entry.1 = reader then (reader, position) else entry }

/-- Read at `position`: what that gives, and the position afterwards. -/
def readAt (channel : Channel) (position : Nat) : ChannelReading × Nat :=
  let oldest := channel.sent.length - capacity
  if position < oldest then (.missed (oldest - position), oldest)
  else match channel.sent[position]? with
    | some event => (.event event, position + 1)
    | none => (if channel.closed then .ended else .pending, position)

def read? (channel : Channel) (reader : Nat) : Option (ChannelReading × Channel) :=
  (channel.position? reader).map fun position =>
    let (reading, after) := channel.readAt position
    (reading, channel.setPosition reader after)

def missedMessage (channel : Channel) (count : Nat) : String :=
  s!"{channel.name}: dropped {count} key events"

end Channel

end GlobalHotkeys
