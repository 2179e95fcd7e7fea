import GlobalHotkeys.Bus.Basic

namespace GlobalHotkeys

variable {World α β : Type}

inductive BusAct where
  | connected (answer : Except BusError String)
  | subscribed (rule : SignalRule) (answer : Except BusError Unit)
  | called (call : BusCall) (exchange : Exchange)
  | waited (deliveries : List Delivery)

structure Taped (World : Type) where
  world : World
  tape : List BusAct := []

def Run.taped (act : α → BusAct) (step : Run World α) : Run (Taped World) α := fun now =>
  let after := step now.world
  { value := after.value
    world := { world := after.world, tape := now.tape ++ [act after.value] }
    log := after.log }

def Bus.taped (bus : Bus World) : Bus (Taped World) where
  connect := bus.connect.taped .connected
  subscribe rule := (bus.subscribe rule).taped (.subscribed rule)
  call call := (bus.call call).taped (.called call)
  wait := bus.wait.taped .waited
  nextNumber := bus.nextNumber.inPart Taped.world fun world now => { now with world }
  processId := bus.processId

/-- In every world the taped step does what the plain one does, and ends with this answer and these acts
on the tape. -/
def Tapes (taped : Run (Taped World) α) (plain : Run World α) (ends : α → List BusAct → Prop) : Prop :=
  ∀ now, ∃ acts,
    taped now =
      { value := (plain now.world).value
        world := { world := (plain now.world).world, tape := now.tape ++ acts }
        log := (plain now.world).log } ∧
    ends (plain now.world).value acts

namespace Tapes

variable {taped : Run (Taped World) α} {plain : Run World α}

theorem pure {value : α} {ends : α → List BusAct → Prop} (done : ends value []) :
    Tapes (Pure.pure value : Run (Taped World) α) (Pure.pure value) ends := by
  intro now
  refine ⟨[], ?_, done⟩
  rw [List.append_nil]
  rfl

theorem bind {tapedNext : α → Run (Taped World) β} {plainNext : α → Run World β}
    {between : α → List BusAct → Prop} {ends : β → List BusAct → Prop}
    (first : Tapes taped plain between)
    (second : ∀ value acts, between value acts →
      Tapes (tapedNext value) (plainNext value) fun answer later => ends answer (acts ++ later)) :
    Tapes (taped >>= tapedNext) (plain >>= plainNext) ends := by
  intro now
  obtain ⟨acts, same, reached⟩ := first now
  obtain ⟨later, sameLater, done⟩ := second _ acts reached (taped now).world
  rw [same] at sameLater done
  refine ⟨acts ++ later, ?_, done⟩
  rw [Run.bind_apply, Run.bind_apply, same, sameLater, List.append_assoc]

theorem run {ends : α → List BusAct → Prop} (tapes : Tapes taped plain ends) (world : World) :
    plain world =
        { value := (taped { world }).value
          world := (taped { world }).world.world
          log := (taped { world }).log } ∧
      ends (taped { world }).value (taped { world }).world.tape := by
  obtain ⟨acts, same, done⟩ := tapes { world }
  rw [same]
  exact ⟨rfl, done⟩

theorem act (made : α → BusAct) (step : Run World α) :
    Tapes (step.taped made) step fun answer acts => acts = [made answer] :=
  fun _ => ⟨_, rfl, rfl⟩

theorem log (level : LogLevel) (message : String) :
    Tapes (Run.log level message : Run (Taped World) Unit) (Run.log level message) fun _ acts =>
      acts = [] := by
  intro now
  refine ⟨[], ?_, rfl⟩
  rw [List.append_nil]
  rfl

theorem nextNumber (bus : Bus World) :
    Tapes bus.taped.nextNumber bus.nextNumber fun _ acts => acts = [] := by
  intro now
  refine ⟨[], ?_, rfl⟩
  rw [List.append_nil]
  rfl

end Tapes

namespace BusAct

def call? : BusAct → Option BusCall
  | called call _ => some call
  | _ => none

def deliveries : BusAct → List Delivery
  | connected _ | subscribed .. => []
  | called _ exchange => exchange.early.map .signal
  | waited deliveries => deliveries

def keeping (keep : Delivery → Bool) : BusAct → BusAct
  | connected answer => connected answer
  | subscribed rule answer => subscribed rule answer
  | called call exchange =>
    called call { exchange with early := exchange.early.filter fun signal => keep (.signal signal) }
  | waited deliveries => waited (deliveries.filter keep)

theorem deliveries_keeping (keep : Delivery → Bool) (act : BusAct) :
    (act.keeping keep).deliveries = act.deliveries.filter keep := by
  cases act with
  | connected answer => rfl
  | subscribed rule answer => rfl
  | called call exchange => exact List.filter_map.symm
  | waited deliveries => rfl

theorem keeping_keeping (first second : Delivery → Bool) (act : BusAct) :
    (act.keeping first).keeping second =
      act.keeping fun delivery => first delivery && second delivery := by
  cases act with
  | connected answer => rfl
  | subscribed rule answer => rfl
  | called call exchange => simp [keeping, List.filter_filter, Bool.and_comm]
  | waited deliveries => simp [keeping, List.filter_filter, Bool.and_comm]

end BusAct

/-- Whether a delivery ends the wait for a signal that fits the rule: it is such a signal, or the
listening ends with it. -/
def SignalRule.ends (rule : SignalRule) : Delivery → Bool
  | .signal signal => rule.accepts signal
  | .failure _ | .closed => true

def heardSince (rule : SignalRule) : List BusAct → List Delivery
  | [] => []
  | .subscribed other _ :: rest =>
    if other = rule then rest.flatMap BusAct.deliveries else heardSince rule rest
  | .connected _ :: rest | .called .. :: rest | .waited _ :: rest => heardSince rule rest

/-- The first delivery since the subscription to the rule that ends the wait. -/
def firstFor? (rule : SignalRule) (tape : List BusAct) : Option Delivery :=
  (heardSince rule tape).find? rule.ends

theorem heardSince_keeping (rule : SignalRule) (keep : Delivery → Bool) (tape : List BusAct) :
    heardSince rule (tape.map (BusAct.keeping keep)) = (heardSince rule tape).filter keep := by
  induction tape with
  | nil => rfl
  | cons act rest ih =>
      cases act with
      | subscribed other answer =>
          simp only [List.map_cons, BusAct.keeping, heardSince]
          split
          · rw [List.filter_flatMap, List.flatMap_map]
            simp only [BusAct.deliveries_keeping]
          · exact ih
      | _ => exact ih

theorem firstFor?_keeping {rule : SignalRule} {keep : Delivery → Bool}
    (kept : ∀ delivery, rule.ends delivery = true → keep delivery = true) (tape : List BusAct) :
    firstFor? rule (tape.map (BusAct.keeping keep)) = firstFor? rule tape := by
  rw [firstFor?, heardSince_keeping, List.find?_filter, firstFor?]
  congr 1
  funext delivery
  cases ends : rule.ends delivery with
  | false => simp
  | true => simp [kept delivery ends]

end GlobalHotkeys
