import GlobalHotkeys.Log

namespace GlobalHotkeys

structure Outcome (World α : Type) where
  value : α
  world : World
  log : List LogLine := []

/-- A step that answers with an `α`. -/
def Run (World α : Type) : Type :=
  World → Outcome World α

namespace Run

variable {World α β : Type}

instance : Monad (Run World) where
  pure value := fun world => { value, world }
  bind step next := fun world =>
    let first := step world
    let second := next first.value first.world
    { second with log := first.log ++ second.log }

def world : Run World World := fun now =>
  { value := now, world := now }

def view (part : World → α) : Run World α := fun now =>
  { value := part now, world := now }

def change (update : World → World) : Run World Unit := fun now =>
  { value := (), world := update now }

def log (level : LogLevel) (message : String) : Run World Unit := fun now =>
  { value := (), world := now, log := [{ level, message }] }

def logAll (lines : List LogLine) : Run World Unit := fun now =>
  { value := (), world := now, log := lines }

def inPart {Part : Type} (part : World → Part) (setPart : Part → World → World)
    (step : Run Part α) : Run World α := fun now =>
  let after := step (part now)
  { after with world := setPart after.world now }

@[simp] theorem pure_apply (value : α) (now : World) :
    (pure value : Run World α) now = { value, world := now } := rfl

@[simp] theorem bind_apply (step : Run World α) (next : α → Run World β) (now : World) :
    (step >>= next) now =
      { value := (next (step now).value (step now).world).value
        world := (next (step now).value (step now).world).world
        log := (step now).log ++ (next (step now).value (step now).world).log } := rfl

instance : LawfulMonad (Run World) :=
  LawfulMonad.mk' (Run World)
    (fun step => by
      funext now
      exact congrArg (Outcome.mk (step now).value (step now).world) (List.append_nil _))
    (fun value next => by funext now; simp)
    (fun step next last => by funext now; simp)

end Run

end GlobalHotkeys
