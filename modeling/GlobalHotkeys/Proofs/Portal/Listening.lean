import GlobalHotkeys.Proofs.Portal.Start

namespace GlobalHotkeys

variable {World β : Type}

def Heard.dispatched? : Heard β → Option (String × β)
  | activated id binding => some (id, binding)
  | _ => none

/-- The shortcut that a delivery reports as activated: it is a well-formed `Activated` signal, sent by the
portal under the name it had at the start, for this session. -/
def PortalSession.activatedId? (session : PortalSession) : Delivery → Option String
  | .signal ⟨sender, path, interface, member, .activated handle id⟩ =>
    if sender = session.owner ∧ path = Portal.objectPath ∧ interface = Portal.shortcutsInterface ∧
        member = "Activated" ∧ handle = session.handle then some id
    else none
  | _ => none

def PortalSession.due? (session : PortalSession) (table : List (String × β)) (delivery : Delivery) :
    Option (String × β) :=
  (session.activatedId? delivery).bind fun id => (table.lookup id).map fun binding => (id, binding)

namespace PortalProvider

def dispatched? (provider : PortalProvider β) : Step World β → Option (String × β)
  | .hear delivery => (provider.hear delivery).1.dispatched?
  | _ => none

def dispatches : PortalProvider β → List (Step World β) → List (String × β)
  | _, [] => []
  | provider, step :: rest => (provider.dispatched? step).toList ++ dispatches (provider.step step) rest

def Step.due? (session : PortalSession) (table : List (String × β)) : Step World β → Option (String × β)
  | .hear delivery => session.due? table delivery
  | _ => none

inductive Step.InSession : Step World β → Prop where
  | signal (signal : Signal) : InSession (.hear (.signal signal))
  | failure (reason : String) : InSession (.hear (.failure reason))
  | register (hotkey : String) (binding : β) : InSession (.register hotkey binding)
  | start (bus : Bus World) (world : World) : InSession (.start bus world)

inductive Step.Ends : Step World β → Prop where
  | stop : Ends .stop
  | closed : Ends (.hear .closed)

inductive Step.Starts : Step World β → Prop where
  | start (bus : Bus World) (world : World) : Starts (.start bus world)

theorem dispatches_append (provider : PortalProvider β) (steps later : List (Step World β)) :
    provider.dispatches (steps ++ later) =
      provider.dispatches steps ++ (steps.foldl step provider).dispatches later := by
  induction steps generalizing provider with
  | nil => rfl
  | cons next rest ih => simp [dispatches, ih]

section Open

variable {provider : PortalProvider β} {session : PortalSession}

theorem activation_dispatched? (provider : PortalProvider β) (session : PortalSession) (signal : Signal) :
    (provider.meaning session (.signal signal)).dispatched? =
      session.due? provider.table (.signal signal) := by
  obtain ⟨sender, path, interface, member, body⟩ := signal
  cases body with
  | activated handle id =>
      simp only [meaning, activation, SignalRule.accepts, Portal.activationRule, PortalSession.due?,
        PortalSession.activatedId?, Bool.and_eq_true, beq_iff_eq]
      by_cases genuine : ((sender = session.owner ∧ path = Portal.objectPath) ∧
          interface = Portal.shortcutsInterface) ∧ member = "Activated"
      · by_cases same : handle = session.handle
        · cases found : provider.table.lookup id <;> simp [genuine, same, found, Heard.dispatched?]
        · simp [genuine, same, Heard.dispatched?]
      · have foreign : ¬ (sender = session.owner ∧ path = Portal.objectPath ∧
            interface = Portal.shortcutsInterface ∧ member = "Activated" ∧ handle = session.handle) :=
          fun all => genuine ⟨⟨⟨all.1, all.2.1⟩, all.2.2.1⟩, all.2.2.2.1⟩
        simp [genuine, foreign, Heard.dispatched?]
  | response code results =>
      simp only [meaning, activation, PortalSession.due?, PortalSession.activatedId?]
      split <;> rfl
  | other =>
      simp only [meaning, activation, PortalSession.due?, PortalSession.activatedId?]
      split <;> rfl

theorem step_in_session (opened : provider.session = some session) (connected : session.connected = true)
    {next : Step World β} (within : next.InSession) :
    provider.dispatched? next = next.due? session provider.table ∧
      (provider.step next).session = some session := by
  cases within with
  | signal signal =>
      have heard : provider.hear (.signal signal) =
          (provider.meaning session (.signal signal), provider) := by
        simp [hear, opened, connected]
      rw [dispatched?, step, heard]
      exact ⟨activation_dispatched? provider session signal, opened⟩
  | failure reason =>
      have heard : provider.hear (.failure reason) = (.failure reason, provider) := by
        simp [hear, opened, connected, meaning]
      rw [dispatched?, step, heard]
      exact ⟨rfl, opened⟩
  | register hotkey binding =>
      refine ⟨rfl, ?_⟩
      rw [step]
      cases answer : provider.register hotkey binding with
      | error cause => exact opened
      | ok after =>
          obtain ⟨-, -, rfl⟩ := register_eq_ok_iff.mp answer
          exact opened
  | start bus world =>
      have listening : provider.isListening = true := by rw [isListening, opened]; rfl
      rw [step, start_of_listening bus listening]
      exact ⟨rfl, opened⟩

theorem session_after (opened : provider.session = some session) (connected : session.connected = true)
    {later : List (Step World β)} (within : ∀ next ∈ later, next.InSession) :
    (later.foldl step provider).session = some session := by
  induction later generalizing provider with
  | nil => exact opened
  | cons next rest ih =>
      have stays := (step_in_session opened connected (within next List.mem_cons_self)).2
      exact ih stays fun other member => within other (List.mem_cons_of_mem _ member)

theorem dispatches_in_session (opened : provider.session = some session)
    (connected : session.connected = true) {later : List (Step World β)}
    (within : ∀ next ∈ later, next.InSession) :
    provider.dispatches later = later.zipIdx.filterMap fun (next, turn) =>
      next.due? session ((later.take turn).foldl step provider).table := by
  induction later generalizing provider with
  | nil => rfl
  | cons next rest ih =>
      obtain ⟨dispatched, stays⟩ := step_in_session opened connected (within next List.mem_cons_self)
      have others := ih stays fun other member => within other (List.mem_cons_of_mem _ member)
      rw [dispatches, dispatched, others, List.zipIdx_cons, Nat.zero_add, List.zipIdx_succ,
        List.filterMap_cons, List.filterMap_map]
      cases due : next.due? session provider.table <;> simp [due, Function.comp_def]

end Open

/-- No signals reach the provider: there is no session, or its connection has ended. -/
def Deaf (provider : PortalProvider β) : Prop :=
  ∀ session, provider.session = some session → session.connected = false

theorem deaf_of_ends {provider : PortalProvider β} {next : Step World β} (ends : next.Ends) :
    (provider.step next).Deaf ∧ provider.dispatched? next = none := by
  cases ends with
  | stop => exact ⟨nofun, rfl⟩
  | closed =>
      unfold Deaf step dispatched? hear
      cases opened : provider.session with
      | none => simp [opened, Heard.dispatched?]
      | some session =>
          cases connected : session.connected <;>
            simp [opened, connected, meaning, Heard.dispatched?]

theorem Deaf.step {provider : PortalProvider β} (deaf : provider.Deaf) {next : Step World β}
    (quiet : ¬ next.Starts) : (provider.step next).Deaf ∧ provider.dispatched? next = none := by
  cases next with
  | start bus world => exact absurd (.start bus world) quiet
  | stop => exact ⟨nofun, rfl⟩
  | register hotkey binding =>
      refine ⟨?_, rfl⟩
      rw [PortalProvider.step]
      cases answer : provider.register hotkey binding with
      | error cause => exact deaf
      | ok after =>
          obtain ⟨-, -, rfl⟩ := register_eq_ok_iff.mp answer
          exact deaf
  | hear delivery =>
      have nothing : provider.hear delivery = (.nothing, provider) := by
        unfold hear
        cases opened : provider.session with
        | none => rfl
        | some session => simp [deaf session opened]
      rw [PortalProvider.step, dispatched?, nothing]
      exact ⟨deaf, rfl⟩

theorem Deaf.dispatches {provider : PortalProvider β} (deaf : provider.Deaf)
    {silent : List (Step World β)} (quiet : ∀ next ∈ silent, ¬ next.Starts) :
    provider.dispatches silent = [] := by
  induction silent generalizing provider with
  | nil => rfl
  | cons next rest ih =>
      obtain ⟨still, nothing⟩ := deaf.step (quiet next List.mem_cons_self)
      have others := ih still fun other member => quiet other (List.mem_cons_of_mem _ member)
      rw [PortalProvider.dispatches, nothing, others]
      rfl

/-- After any run, let a start succeed and open a session. Then, whatever comes in this session, what is
dispatched is what is due: of the well-formed activations sent for it under the name that the portal had at
the start, those whose shortcut is in the table of that moment, in their order and each once. Nothing else
dispatches anything or ends the session, and after its end nothing is dispatched until the next start. -/
theorem session_dispatches_activations (steps : List (Step World β)) (bus : Bus World) (world : World)
    {started : PortalProvider β}
    (ok : (((after steps).start bus).run world).value = .ok started) :
    let tape := (((after steps).start bus.taped).run { world }).world.tape
    ∃ session exchange, started.session = some session ∧
      .called (.nameOwner Portal.busName) exchange ∈ tape ∧
      exchange.reply.bind Portal.replyText = .ok session.owner ∧
      ∀ later : List (Step World β), (∀ next ∈ later, next.InSession) →
        started.dispatches later = later.zipIdx.filterMap (fun (next, turn) =>
          next.due? session ((later.take turn).foldl step started).table) ∧
        (later.foldl step started).session = some session ∧
        ∀ (last : Step World β) (silent : List (Step World β)), last.Ends →
          (∀ next ∈ silent, ¬ next.Starts) →
          started.dispatches (later ++ last :: silent) = started.dispatches later := by
  intro tape
  have idle : (after steps).isListening = false := by
    cases listening : (after steps).isListening with
    | false => rfl
    | true =>
        rw [start_of_listening bus listening] at ok
        cases ok
  obtain ⟨same, ends⟩ := (tapes_start bus idle).run world
  rw [← congrArg Outcome.value same, ok] at ends
  obtain ⟨session, rfl, opened⟩ := ends
  obtain ⟨connected, exchange, asked, portal⟩ := opened.owner_found
  refine ⟨session, exchange, rfl, asked, portal, fun later within => ⟨?_, ?_, ?_⟩⟩
  · exact dispatches_in_session rfl connected within
  · exact session_after rfl connected within
  · intro last silent ends quiet
    obtain ⟨deaf, nothing⟩ := @deaf_of_ends _ _ (later.foldl step _) _ ends
    rw [dispatches_append, dispatches, nothing, deaf.dispatches quiet]
    simp

def activationBy (sender id : String) : Delivery :=
  .signal
    { sender, path := Portal.objectPath, interface := Portal.shortcutsInterface, member := "Activated"
      body := .activated "/session" id }

/-- A forged activation, an error of the stream and an activation that comes too early do not keep a
hotkey registered late from being dispatched. -/
theorem late_hotkey_dispatched :
    let steps : List (Step Unit String) := [.register "ctrl+r" "record"]
    let started : PortalProvider String :=
      { table := [("ctrl+r", "record")], session := some { handle := "/session", owner := ":1.1" } }
    let later : List (Step Unit String) :=
      [.hear (activationBy ":1.9" "ctrl+r"), .hear (activationBy ":1.1" "f9"), .register "F9" "cancel",
        .hear (.failure "lost"), .hear (activationBy ":1.1" "f9"), .hear (activationBy ":1.1" "ctrl+r")]
    (((after steps).start Portal.granting).run ()).value = .ok started ∧
      (∀ next ∈ later, next.InSession) ∧
      started.dispatches (later ++ [.stop, .hear (activationBy ":1.1" "f9")]) =
        [("f9", "cancel"), ("ctrl+r", "record")] := by
  intro steps started later
  have table : after steps = { table := [("ctrl+r", "record")] } := by decide +kernel
  have ok : (((after steps).start Portal.granting).run ()).value = .ok started := by
    rw [table, start_granting rfl]
  have within : ∀ next ∈ later, next.InSession := by
    simp only [later, List.forall_mem_cons]
    exact ⟨.signal _, .signal _, .register _ _, .failure _, .signal _, .signal _, nofun⟩
  obtain ⟨session, _, opened, -, -, dispatched⟩ := session_dispatches_activations steps Portal.granting () ok
  obtain rfl := Option.some.inj opened
  obtain ⟨during, -, ended⟩ := dispatched later within
  have last := ended .stop [.hear (activationBy ":1.1" "f9")] .stop (by simp; nofun)
  exact ⟨ok, within, (last.trans during).trans (by decide +kernel)⟩

end PortalProvider

end GlobalHotkeys
