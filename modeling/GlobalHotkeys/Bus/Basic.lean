import GlobalHotkeys.Bus.Message
import GlobalHotkeys.Run

namespace GlobalHotkeys

structure Exchange where
  early : List Signal := []
  reply : Except BusError BusValue

structure Bus (World : Type) where
  connect : Run World (Except BusError String)
  subscribe : SignalRule → Run World (Except BusError Unit)
  call : BusCall → Run World Exchange
  wait : Run World (List Delivery)
  nextNumber : Run World Nat
  processId : Nat

def Bus.unreachable {World : Type} (cause : BusError) : Bus World where
  connect := pure (.error cause)
  subscribe _ := pure (.error cause)
  call _ := pure { reply := .error cause }
  wait := pure []
  nextNumber := pure 0
  processId := 0

def Bus.inPart {World Part : Type} (bus : Bus Part) (part : World → Part)
    (setPart : Part → World → World) : Bus World where
  connect := bus.connect.inPart part setPart
  subscribe rule := (bus.subscribe rule).inPart part setPart
  call call := (bus.call call).inPart part setPart
  wait := bus.wait.inPart part setPart
  nextNumber := bus.nextNumber.inPart part setPart
  processId := bus.processId

inductive BusUse where
  | connected
  | subscribed (rule : SignalRule)
  | called (call : BusCall)
  deriving DecidableEq, Repr

def Bus.watched {World : Type} (bus : Bus World) (remember : BusUse → Run World Unit) :
    Bus World :=
  { bus with
    connect := do
      let answer ← bus.connect
      if answer.isOk then remember .connected
      pure answer
    subscribe := fun rule => do
      remember (.subscribed rule)
      bus.subscribe rule
    call := fun call => do
      remember (.called call)
      bus.call call }

end GlobalHotkeys
