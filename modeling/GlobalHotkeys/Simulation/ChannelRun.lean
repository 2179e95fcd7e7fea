import GlobalHotkeys.Keyboard.Channel

namespace GlobalHotkeys.Simulation

inductive ChannelStep where
  | openReaders
  | send (code : KeyCode) (value : Int) (times : Nat)
  | next (reader times : Nat)
  | closeReader (reader : Nat)
  | drop

inductive ChannelItem where
  | event (event : KeyEvent)
  | pending
  | ended

inductive ChannelAnswer where
  | nothing
  | opened (names : List String)
  | items (items : List ChannelItem)
  | noReader
  | unknownStep

structure ChannelDesk where
  channel : Channel
  present : Bool
  /-- How many more results the readers may get: all of the reading is one turn, in which no more
  than 128 results come through before other work has to be done. -/
  allowance : Nat := 128

structure ChannelReport where
  answer : ChannelAnswer
  readers : Option Nat
  present : Option Bool
  log : List LogLine

def sendRow (channel : Channel) (code : KeyCode) (value : Int) (times : Nat) : Channel :=
  (List.range times).foldl
    (fun channel offset => channel.send ⟨code + UInt16.ofNat offset, value⟩) channel

namespace ChannelDesk

def nextItem (reader : Nat) : Run ChannelDesk ChannelItem := do
  let desk ← Run.world
  match desk.allowance, desk.channel.read? reader with
  | allowance + 1, some (.missed count, channel) =>
    Run.log .warn (channel.missedMessage count)
    match allowance, channel.read? reader with
    | allowance + 1, some (.event event, channel) =>
      Run.change fun desk => { desk with channel, allowance }
      pure (.event event)
    | _, _ =>
      Run.change fun desk => { desk with channel, allowance }
      pure .pending
  | allowance + 1, some (.event event, channel) =>
    Run.change fun desk => { desk with channel, allowance }
    pure (.event event)
  | allowance + 1, some (.ended, channel) =>
    Run.change fun desk => { desk with channel, allowance }
    pure .ended
  | _, _ => pure .pending

def perform : ChannelStep → Run ChannelDesk ChannelAnswer
  | .openReaders => do
    let desk ← Run.world
    if desk.channel.closed then return .unknownStep
    if !desk.present then return .opened []
    Run.change fun desk => { desk with channel := desk.channel.openReader }
    pure (.opened [desk.channel.name])
  | .send code value times => do
    let desk ← Run.world
    if desk.channel.closed then return .nothing
    Run.change fun desk => { desk with channel := sendRow desk.channel code value times }
    pure .nothing
  | .next reader times => do
    let desk ← Run.world
    if (desk.channel.position? reader).isNone then return .noReader
    pure (.items (← (List.replicate times reader).mapM nextItem))
  | .closeReader reader => do
    Run.change fun desk => { desk with channel := desk.channel.closeReader reader }
    pure .nothing
  | .drop => do
    Run.change fun desk => { desk with channel := desk.channel.close }
    pure .nothing

def run (desk : ChannelDesk) : List ChannelStep → List ChannelReport
  | [] => []
  | step :: rest =>
    let outcome := perform step desk
    let channel := outcome.world.channel
    { answer := outcome.value
      readers := if channel.closed then none else some channel.readers.length
      present := if channel.closed then none else some outcome.world.present
      log := outcome.log } :: run outcome.world rest

end ChannelDesk

end GlobalHotkeys.Simulation
