import GlobalHotkeys.Portal.Basic
import GlobalHotkeys.Proofs.Portal.Request

namespace GlobalHotkeys

namespace Portal

variable {World α β : Type}

def IsProtocol (cause : HotkeyError) : Prop :=
  ∃ reason, cause = .protocol reason

def orProtocol (ends : α → List BusAct → Prop) : Except HotkeyError α → List BusAct → Prop
  | .ok value, acts => ends value acts
  | .error cause, _ => IsProtocol cause

theorem requestPath_error {unique token : String} {cause : HotkeyError}
    (bad : requestPath unique token = .error cause) : IsProtocol cause := by
  unfold requestPath at bad
  simp only at bad
  split at bad
  · cases bad
  · exact ⟨_, (Except.error.inj bad).symm⟩

theorem verdict_cases (method : String) (delivery : Option Delivery) :
    (∃ signal results, delivery = some (.signal signal) ∧ signal.body = .response 0 results ∧
        verdict method delivery = .ok results) ∨
      ∃ reason, verdict method delivery = .error (.protocol reason) := by
  unfold verdict
  split
  case h_1 signal =>
      unfold responseResult
      split
      case h_1 results body => exact .inl ⟨signal, results, rfl, body, rfl⟩
      all_goals exact .inr ⟨_, rfl⟩
  all_goals exact .inr ⟨_, rfl⟩

/-- The bus was asked for this one thing, and the first answer had code 0. -/
structure Granted (owner : String) (call : BusCall) (results : Results) (acts : List BusAct) :
    Prop where
  calls : acts.filterMap BusAct.call? = [call]
  answered : ∃ path signal, AnswersAt owner acts path ∧
    firstFor? (responseRule owner path) acts = some (.signal signal) ∧
    signal.body = .response 0 results

section Requests

variable {unique owner token method : String} {call : BusCall} {acts : List BusAct}

theorem Subscribed.protocol {rule : SignalRule} {cause : HotkeyError}
    (failed : Subscribed rule (.error cause) acts) : IsProtocol cause := by
  cases failed <;> exact ⟨_, rfl⟩

theorem Requested.granted_or_protocol {answer : Except HotkeyError Results}
    (requested : Requested unique owner token method call answer acts) :
    orProtocol (Granted owner call) answer acts := by
  have decided {path : String} (answers : AnswersAt owner acts path)
      (calls : acts.filterMap BusAct.call? = [call]) :
      orProtocol (Granted owner call) answer acts := by
    rw [requested.eq_verdict answers]
    obtain ⟨signal, results, first, body, granted⟩ | ⟨reason, failed⟩ :=
      verdict_cases method (firstFor? (responseRule owner path) acts)
    · rw [granted]
      exact ⟨calls, path, signal, answers, first, body⟩
    · rw [failed]
      exact ⟨reason, rfl⟩
  cases requested with
  | unnamed bad => exact requestPath_error bad
  | unheard _ failed => exact failed.protocol
  | refused => exact ⟨_, rfl⟩
  | awaited late _ reply => exact decided (answersAt_expected reply) rfl
  | unheardThere _ _ _ failed => exact failed.protocol
  | awaitedThere late _ reply => exact decided (answersAt_moved reply) rfl

end Requests

theorem tapes_freshToken (bus : Bus World) (kind : String) :
    Tapes (freshToken bus.taped kind) (freshToken bus kind) fun _ acts => acts = [] :=
  (Tapes.nextNumber bus).bind fun _ acts silent => .pure (by rw [silent, List.append_nil])

def Names (results : Results) (handle : String) : Prop :=
  (results.lookup "session_handle" = some (.text handle) ∨
    results.lookup "session_handle" = some (.objectPath handle)) ∧
  isObjectPath handle = true

theorem sessionHandle_cases (results : Results) :
    (∃ handle, createSession.sessionHandle results = .ok handle ∧ Names results handle) ∨
      ∃ reason, createSession.sessionHandle results = .error (.protocol reason) := by
  unfold createSession.sessionHandle
  split
  case h_1 handle found =>
      simp only [pure_bind]
      split
      case isTrue valid => exact .inl ⟨handle, rfl, .inl found, valid⟩
      case isFalse => exact .inr ⟨_, rfl⟩
  case h_2 handle found =>
      simp only [pure_bind]
      split
      case isTrue valid => exact .inl ⟨handle, rfl, .inr found, valid⟩
      case isFalse => exact .inr ⟨_, rfl⟩
  case h_3 => exact .inr ⟨_, rfl⟩

def Created (owner handle : String) (acts : List BusAct) : Prop :=
  ∃ requestToken sessionToken results,
    Granted owner (.createSession requestToken sessionToken) results acts ∧ Names results handle

theorem tapes_createSession (bus : Bus World) (unique owner : String) :
    TapesAttempt (createSession bus.taped unique owner) (createSession bus unique owner)
      (orProtocol (Created owner)) := by
  unfold createSession
  refine .lift_bind (tapes_freshToken bus "req") ?_
  rintro requestToken _ rfl
  refine .lift_bind (tapes_freshToken bus "session") ?_
  rintro sessionToken _ rfl
  refine (tapes_request bus _ _ _ _ _).bind (fun cause acts failed => failed.granted_or_protocol) ?_
  intro results acts requested
  have granted := requested.granted_or_protocol
  obtain ⟨handle, found, names⟩ | ⟨reason, failed⟩ := sessionHandle_cases results
  · rw [found]
    refine .note_bind (.pure ?_)
    rw [List.append_nil]
    exact ⟨requestToken, sessionToken, results, granted, names⟩
  · rw [failed]
    exact .fail ⟨reason, rfl⟩

/-- A request that binds these ids to the session was granted: each of them is listed, with its
accelerator. -/
def Bound (owner handle : String) (ids : List String) (acts : List BusAct) : Prop :=
  ∃ shortcuts token results,
    Granted owner (.bindShortcuts handle shortcuts "" token) results acts ∧
    (shortcuts.map Shortcut.id).Perm ids ∧
    ∀ shortcut ∈ shortcuts, shortcut.trigger = accelerator shortcut.id

theorem tapes_bindShortcuts (bus : Bus World) (unique owner handle : String) (ids : List String) :
    TapesAttempt (bindShortcuts bus.taped unique owner handle ids)
      (bindShortcuts bus unique owner handle ids)
      (orProtocol fun _ => Bound owner handle ids) := by
  unfold bindShortcuts
  refine .lift_bind (tapes_freshToken bus "bind") ?_
  rintro token _ rfl
  refine (tapes_request bus _ _ _ _ _).bind (fun cause acts failed => failed.granted_or_protocol) ?_
  intro results acts requested
  refine .note ?_
  rw [List.append_nil]
  refine ⟨_, token, results, requested.granted_or_protocol, ?_, ?_⟩
  · have ids_shortcut : Shortcut.id ∘ shortcut = id := rfl
    rw [List.map_map, ids_shortcut, List.map_id]
    exact List.mergeSort_perm _ _
  · intro listed member
    obtain ⟨id, -, rfl⟩ := List.mem_map.mp member
    rfl

/-- A session is opened for these ids: the portal's name was learnt, the session created, and later every
id bound in it. -/
inductive Opened (ids : List String) : PortalSession → List BusAct → Prop where
  | mk {unique owner handle : String} {exchange : Exchange} {creation binding : List BusAct}
      (portal : exchange.reply.bind replyText = .ok owner) (created : Created owner handle creation)
      (bound : Bound owner handle ids binding) :
      Opened ids { handle, owner }
        (.connected (.ok unique) :: .called (.nameOwner busName) exchange ::
          (creation ++ (binding ++ [.subscribed (activationRule owner) (.ok ())])))

theorem tapes_findOwner (bus : Bus World) :
    TapesAttempt (findOwner bus.taped) (findOwner bus) (orProtocol fun owner acts =>
      ∃ exchange, acts = [.called (.nameOwner busName) exchange] ∧
        exchange.reply.bind replyText = .ok owner) := by
  unfold findOwner
  refine .act_bind fun exchange => .reached ?_
  cases reply : exchange.reply.bind replyText with
  | error cause => exact ⟨_, rfl⟩
  | ok owner => exact ⟨exchange, rfl, reply⟩

theorem tapes_openSession (bus : Bus World) (ids : List String) :
    TapesAttempt (openSession bus.taped ids) (openSession bus ids) (orProtocol (Opened ids)) := by
  unfold openSession
  refine .act_bind fun given => ?_
  refine .reached_bind (fun cause failed => ⟨_, rfl⟩) fun unique connected => ?_
  cases connected
  refine (tapes_findOwner bus).bind (fun cause acts failed => failed) ?_
  rintro owner _ ⟨exchange, rfl, portal⟩
  refine (tapes_createSession bus unique owner).bind (fun cause acts failed => failed) ?_
  intro handle creation created
  refine (tapes_bindShortcuts bus unique owner handle ids).bind (fun cause acts failed => failed) ?_
  intro _ binding bound
  refine (tapes_subscribe bus _).bind (fun cause acts failed => failed.protocol) ?_
  rintro _ _ heard
  cases heard
  refine .lift_bind (Tapes.log _ _) ?_
  rintro _ _ rfl
  exact .pure (.mk portal created bound)

theorem Opened.calls {ids : List String} {session : PortalSession} {tape : List BusAct}
    (opened : Opened ids session tape) : ∃ requestToken sessionToken bindToken shortcuts,
      tape.filterMap BusAct.call? =
        [.nameOwner busName, .createSession requestToken sessionToken,
          .bindShortcuts session.handle shortcuts "" bindToken] := by
  cases opened with
  | mk portal created bound =>
      obtain ⟨requestToken, sessionToken, results, created, -⟩ := created
      obtain ⟨shortcuts, bindToken, bindResults, bound, -⟩ := bound
      refine ⟨requestToken, sessionToken, bindToken, shortcuts, ?_⟩
      simp [List.filterMap_cons, BusAct.call?, created.calls, bound.calls]

theorem Opened.owner_found {ids : List String} {session : PortalSession} {tape : List BusAct}
    (opened : Opened ids session tape) : session.connected = true ∧
      ∃ exchange, .called (.nameOwner busName) exchange ∈ tape ∧
        exchange.reply.bind replyText = .ok session.owner := by
  cases opened with
  | mk portal created bound => exact ⟨rfl, _, by simp, portal⟩

def granting : Bus World where
  connect := pure (.ok ":1.0")
  subscribe _ := pure (.ok ())
  call
    | .nameOwner _ => pure { reply := .ok (.text ":1.1") }
    | _ => pure { reply := .ok (.objectPath "/request") }
  wait := pure [.signal
    { sender := ":1.1", path := "/request", interface := requestInterface, member := "Response"
      body := .response 0 [("session_handle", .objectPath "/session")] }]
  nextNumber := pure 0
  processId := 0

def Yields (attempt : Attempt World α) (value : α) : Prop :=
  ∀ world, (attempt.run world).value = .ok value

theorem Yields.bind {first : Attempt World α} {next : α → Attempt World β} (value : α) {result : β}
    (yields : Yields first value) (later : Yields (next value) result) :
    Yields (first >>= next) result := by
  intro world
  rw [ExceptT.run_bind, Run.bind_apply, yields world]
  exact later _

theorem yields_freshToken (kind : String) :
    Yields (ExceptT.lift (freshToken (granting : Bus World) kind)) s!"dictkey_{kind}_{0}_{0}" :=
  fun _ => rfl

theorem yields_subscribe {rule : SignalRule} (named : isBusName rule.sender = true) :
    Yields (subscribe (granting : Bus World) rule) () := by
  unfold subscribe
  rw [named]
  exact fun _ => rfl

theorem yields_call {call : BusCall} (asks : ∀ name, call ≠ .nameOwner name) :
    Yields (ExceptT.lift ((granting : Bus World).call call))
      { reply := .ok (.objectPath "/request") } := by
  cases call with
  | nameOwner name => exact absurd rfl (asks name)
  | _ => exact fun _ => rfl

theorem yields_request {token method : String} {call : BusCall}
    (named : (requestPath ":1.0" token).isOk = true) (asks : ∀ name, call ≠ .nameOwner name) :
    Yields (request (granting : Bus World) ":1.0" ":1.1" token method call)
      [("session_handle", .objectPath "/session")] := by
  have sender : isBusName ":1.1" = true := by decide
  unfold request
  cases path : requestPath ":1.0" token with
  | error cause =>
      rw [path] at named
      cases named
  | ok expected =>
      refine .bind expected (fun _ => rfl) ?_
      refine .bind () (yields_subscribe sender) ?_
      refine .bind _ (yields_call asks) ?_
      refine .bind "/request" (fun _ => rfl) ?_
      split
      case isTrue same =>
          cases beq_iff_eq.mp same
          exact fun _ => rfl
      case isFalse => exact fun _ => rfl

theorem yields_openSession (ids : List String) :
    Yields (openSession (granting : Bus World) ids) { handle := "/session", owner := ":1.1" } := by
  have created : Yields (createSession (granting : Bus World) ":1.0" ":1.1") "/session" := by
    refine .bind _ (yields_freshToken "req") ?_
    refine .bind _ (yields_freshToken "session") ?_
    exact .bind _ (yields_request rfl nofun) fun _ => rfl
  have bound : Yields (bindShortcuts (granting : Bus World) ":1.0" ":1.1" "/session" ids) () := by
    refine .bind _ (yields_freshToken "bind") ?_
    exact .bind _ (yields_request rfl nofun) fun _ => rfl
  refine .bind (.ok ":1.0") (fun _ => rfl) ?_
  refine .bind ":1.0" (fun _ => rfl) ?_
  refine .bind ":1.1" (fun _ => rfl) ?_
  exact .bind "/session" created (.bind () bound fun _ => rfl)

end Portal

end GlobalHotkeys
