import GlobalHotkeys.Portal.Request
import GlobalHotkeys.Proofs.Bus.Tape

/-!
# What a request to the portal heeds

A request is made on a taped bus, and its outcome compared with the tape: it follows from the reply and
from the first delivery that fits, among those that came since the subscription to the path in the reply.
So two runs whose tapes differ in other signals only have the same outcome.
-/

namespace GlobalHotkeys

namespace Portal

variable {World Other α β : Type}

def TapesAttempt (taped : Attempt (Taped World) α) (plain : Attempt World α)
    (ends : Except HotkeyError α → List BusAct → Prop) : Prop :=
  Tapes taped.run plain.run ends

namespace TapesAttempt

variable {taped : Attempt (Taped World) α} {plain : Attempt World α}
  {tapedNext : α → Attempt (Taped World) β} {plainNext : α → Attempt World β}

section Ends

variable {ends : Except HotkeyError α → List BusAct → Prop}

theorem pure {value : α} (done : ends (.ok value) []) :
    TapesAttempt (Pure.pure value : Attempt (Taped World) α) (Pure.pure value) ends :=
  Tapes.pure done

theorem fail {cause : HotkeyError} (done : ends (.error cause) []) :
    TapesAttempt (throw cause : Attempt (Taped World) α) (throw cause) ends :=
  Tapes.pure done

theorem ofExcept {answer : Except HotkeyError α} (done : ends answer []) :
    TapesAttempt (liftM answer : Attempt (Taped World) α) (liftM answer) ends :=
  Tapes.pure done

theorem reached {answer : Except BusError α}
    (done : ends (answer.mapError fun cause => .protocol cause.message) []) :
    TapesAttempt (Portal.reached answer : Attempt (Taped World) α) (Portal.reached answer) ends :=
  Tapes.pure done

theorem note {message : String} {ends : Except HotkeyError Unit → List BusAct → Prop}
    (done : ends (.ok ()) []) :
    TapesAttempt (Portal.note message : Attempt (Taped World) Unit) (Portal.note message) ends :=
  (Tapes.log .debug message).bind fun () acts silent => Tapes.pure (by rwa [silent])

end Ends

variable {ends : Except HotkeyError β → List BusAct → Prop}

theorem bind {between : Except HotkeyError α → List BusAct → Prop}
    (first : TapesAttempt taped plain between)
    (failed : ∀ cause acts, between (.error cause) acts → ends (.error cause) acts)
    (second : ∀ value acts, between (.ok value) acts →
      TapesAttempt (tapedNext value) (plainNext value) fun answer later =>
        ends answer (acts ++ later)) :
    TapesAttempt (taped >>= tapedNext) (plain >>= plainNext) ends := by
  refine Tapes.bind first fun answer acts reached => ?_
  cases answer with
  | error cause => exact Tapes.pure (by rw [List.append_nil]; exact failed cause acts reached)
  | ok value => exact second value acts reached

theorem lift_bind {tapedStep : Run (Taped World) α} {step : Run World α}
    {between : α → List BusAct → Prop} (first : Tapes tapedStep step between)
    (second : ∀ value acts, between value acts →
      TapesAttempt (tapedNext value) (plainNext value) fun answer later =>
        ends answer (acts ++ later)) :
    TapesAttempt (ExceptT.lift tapedStep >>= tapedNext) (ExceptT.lift step >>= plainNext) ends := by
  unfold TapesAttempt
  rw [ExceptT.run_bind_lift, ExceptT.run_bind_lift]
  exact first.bind second

theorem act_bind {made : α → BusAct} {step : Run World α}
    (second : ∀ given, TapesAttempt (tapedNext given) (plainNext given) fun answer later =>
      ends answer (made given :: later)) :
    TapesAttempt (ExceptT.lift (step.taped made) >>= tapedNext) (ExceptT.lift step >>= plainNext)
      ends :=
  lift_bind (Tapes.act made step) fun value _ recorded => recorded ▸ second value

theorem note_bind {message : String} {tapedNext : Unit → Attempt (Taped World) β}
    {plainNext : Unit → Attempt World β}
    (second : TapesAttempt (tapedNext ()) (plainNext ()) ends) :
    TapesAttempt (Portal.note message >>= tapedNext) (Portal.note message >>= plainNext) ends :=
  lift_bind (Tapes.log .debug message) fun _ _ silent => silent ▸ second

theorem reached_bind {answer : Except BusError α}
    (failed : ∀ cause, answer = .error cause → ends (.error (.protocol cause.message)) [])
    (second : ∀ value, answer = .ok value →
      TapesAttempt (tapedNext value) (plainNext value) ends) :
    TapesAttempt (Portal.reached answer >>= tapedNext) (Portal.reached answer >>= plainNext)
      ends := by
  cases answer with
  | error cause => exact Tapes.pure (failed cause rfl)
  | ok value => exact second value rfl

theorem checked_bind {answer : Except HotkeyError α}
    (failed : ∀ cause, answer = .error cause → ends (.error cause) [])
    (second : ∀ value, answer = .ok value →
      TapesAttempt (tapedNext value) (plainNext value) ends) :
    TapesAttempt (liftM answer >>= tapedNext) (liftM answer >>= plainNext) ends := by
  cases answer with
  | error cause => exact Tapes.pure (failed cause rfl)
  | ok value => exact second value rfl

end TapesAttempt

/-- The outcome of a wait that this delivery ended, or that nothing ended in time. -/
def verdict (method : String) : Option Delivery → Except HotkeyError Results
  | some (.signal signal) => responseResult method signal.body
  | some (.failure reason) => .error (.protocol s!"{method}: {reason}")
  | some .closed => .error (.protocol s!"{method}: bus closed while waiting for response")
  | none => .error (.protocol s!"{method}: no portal response within {answerLimit}s")

theorem answerAmong_eq (method : String) (rule : SignalRule) (deliveries : List Delivery) :
    answerAmong method rule deliveries = verdict method (deliveries.find? rule.ends) := by
  induction deliveries with
  | nil => rfl
  | cons delivery rest ih =>
      cases delivery with
      | failure reason => rfl
      | closed => rfl
      | signal signal =>
          cases accepts : rule.accepts signal with
          | true => simp [answerAmong, SignalRule.ends, accepts, verdict]
          | false => simp [answerAmong, SignalRule.ends, accepts, ih]

def namedPath? (tape : List BusAct) : Option String :=
  tape.findSome? fun
    | .called _ exchange => (exchange.reply.bind replyPath).toOption
    | _ => none

def AnswersAt (owner : String) (tape : List BusAct) (path : String) : Prop :=
  namedPath? tape = some path ∧ .subscribed (responseRule owner path) (.ok ()) ∈ tape

inductive Subscribed (rule : SignalRule) : Except HotkeyError Unit → List BusAct → Prop where
  | misnamed (sender : isBusName rule.sender = false) :
      Subscribed rule (.error (.protocol (BusError.invalidName rule.sender).message)) []
  | refused (sender : isBusName rule.sender = true) (cause : BusError) :
      Subscribed rule (.error (.protocol cause.message)) [.subscribed rule (.error cause)]
  | heard (sender : isBusName rule.sender = true) :
      Subscribed rule (.ok ()) [.subscribed rule (.ok ())]

theorem tapes_subscribe (bus : Bus World) (rule : SignalRule) :
    TapesAttempt (subscribe bus.taped rule) (subscribe bus rule) (Subscribed rule) := by
  unfold subscribe
  cases named : isBusName rule.sender with
  | false => exact .fail (.misnamed named)
  | true =>
      refine .act_bind fun given => .reached ?_
      cases given with
      | error cause => exact .refused named cause
      | ok done => exact .heard named

inductive Requested (unique owner token method : String) (call : BusCall) :
    Except HotkeyError Results → List BusAct → Prop where
  | unnamed {cause : HotkeyError} (bad : requestPath unique token = .error cause) :
      Requested unique owner token method call (.error cause) []
  | unheard {expected : String} {cause : HotkeyError} {acts : List BusAct}
      (named : requestPath unique token = .ok expected)
      (failed : Subscribed (responseRule owner expected) (.error cause) acts) :
      Requested unique owner token method call (.error cause) acts
  | refused {expected : String} {exchange : Exchange} {cause : BusError}
      (named : requestPath unique token = .ok expected)
      (reply : exchange.reply.bind replyPath = .error cause) :
      Requested unique owner token method call (.error (.protocol cause.message))
        [.subscribed (responseRule owner expected) (.ok ()), .called call exchange]
  | awaited {expected : String} {exchange : Exchange} (late : List Delivery)
      (named : requestPath unique token = .ok expected)
      (reply : exchange.reply.bind replyPath = .ok expected) :
      Requested unique owner token method call
        (verdict method
          ((exchange.early.map Delivery.signal ++ late).find? (responseRule owner expected).ends))
        [.subscribed (responseRule owner expected) (.ok ()), .called call exchange, .waited late]
  | unheardThere {expected path : String} {exchange : Exchange} {cause : HotkeyError}
      {acts : List BusAct} (named : requestPath unique token = .ok expected)
      (reply : exchange.reply.bind replyPath = .ok path) (moved : path ≠ expected)
      (failed : Subscribed (responseRule owner path) (.error cause) acts) :
      Requested unique owner token method call (.error cause)
        (.subscribed (responseRule owner expected) (.ok ()) :: .called call exchange :: acts)
  | awaitedThere {expected path : String} {exchange : Exchange} (late : List Delivery)
      (named : requestPath unique token = .ok expected)
      (reply : exchange.reply.bind replyPath = .ok path) (moved : path ≠ expected) :
      Requested unique owner token method call
        (verdict method (late.find? (responseRule owner path).ends))
        [.subscribed (responseRule owner expected) (.ok ()), .called call exchange,
          .subscribed (responseRule owner path) (.ok ()), .waited late]

theorem tapes_request (bus : Bus World) (unique owner token method : String) (call : BusCall) :
    TapesAttempt (request bus.taped unique owner token method call)
      (request bus unique owner token method call) (Requested unique owner token method call) := by
  unfold request
  refine .checked_bind (fun cause bad => .unnamed bad) fun expected named => ?_
  refine (tapes_subscribe bus _).bind (fun cause acts failed => .unheard named failed) ?_
  rintro _ _ heard
  cases heard
  refine .act_bind fun exchange => ?_
  refine .reached_bind (fun cause reply => .refused named reply) fun path reply => ?_
  split
  case isTrue same =>
      cases beq_iff_eq.mp same
      refine .act_bind fun late => .ofExcept ?_
      rw [answerAmong_eq]
      exact .awaited late named reply
  case isFalse moved =>
      -- Only what comes after the second subscription is heard there.
      have moved : path ≠ expected := fun same => moved (beq_iff_eq.mpr same)
      refine .note_bind ?_
      refine (tapes_subscribe bus _).bind
        (fun cause acts failed => .unheardThere named reply moved failed) ?_
      rintro _ _ heard
      cases heard
      refine .act_bind fun late => .ofExcept ?_
      rw [answerAmong_eq]
      exact .awaitedThere late named reply moved

section Decided

variable {unique owner token method : String} {call : BusCall} {answer other : Except HotkeyError Results}
  {acts : List BusAct}

theorem responseRule_inj {path elsewhere : String} :
    responseRule owner path = responseRule owner elsewhere ↔ path = elsewhere := by
  simp [responseRule]

theorem namedPath?_called {rule : SignalRule} {given : Except BusError Unit} {exchange : Exchange}
    {path : String} (reply : exchange.reply.bind replyPath = .ok path) :
    namedPath? (.subscribed rule given :: .called call exchange :: acts) = some path := by
  simp [namedPath?, reply, Except.toOption]

theorem answersAt_expected {exchange : Exchange} {path : String}
    (reply : exchange.reply.bind replyPath = .ok path) :
    AnswersAt owner
      (.subscribed (responseRule owner path) (.ok ()) :: .called call exchange :: acts) path :=
  ⟨namedPath?_called reply, List.mem_cons_self⟩

theorem answersAt_moved {rule : SignalRule} {given : Except BusError Unit} {exchange : Exchange}
    {path : String} (reply : exchange.reply.bind replyPath = .ok path) :
    AnswersAt owner
      (.subscribed rule given :: .called call exchange ::
        .subscribed (responseRule owner path) (.ok ()) :: acts) path :=
  ⟨namedPath?_called reply, List.mem_cons_of_mem _ (List.mem_cons_of_mem _ List.mem_cons_self)⟩

theorem Requested.eq_verdict {path : String}
    (requested : Requested unique owner token method call answer acts)
    (answers : AnswersAt owner acts path) :
    answer = verdict method (firstFor? (responseRule owner path) acts) := by
  obtain ⟨named, subscribed⟩ := answers
  cases requested with
  | unnamed bad => cases named
  | unheard _ failed => cases failed <;> cases named
  | refused _ reply => simp [namedPath?, reply, Except.toOption] at named
  | awaited late _ reply =>
      cases named.symm.trans (namedPath?_called reply)
      simp [firstFor?, heardSince, BusAct.deliveries]
  | unheardThere _ reply moved failed =>
      cases named.symm.trans (namedPath?_called reply)
      cases failed <;> simp [responseRule_inj, moved] at subscribed
  | awaitedThere late _ reply moved =>
      cases named.symm.trans (namedPath?_called reply)
      simp [firstFor?, heardSince, BusAct.deliveries, responseRule_inj, Ne.symm moved]

theorem Subscribed.map_keeping {rule : SignalRule} {given : Except HotkeyError Unit}
    (subscribed : Subscribed rule given acts) (keep : Delivery → Bool) :
    acts.map (BusAct.keeping keep) = acts := by
  cases subscribed <;> rfl

theorem Requested.keeping (requested : Requested unique owner token method call answer acts)
    (unanswered : ∀ path, ¬ AnswersAt owner acts path) (keep : Delivery → Bool) :
    Requested unique owner token method call answer (acts.map (BusAct.keeping keep)) := by
  cases requested with
  | unnamed bad => exact .unnamed bad
  | unheard named failed =>
      rw [failed.map_keeping]
      exact .unheard named failed
  | refused named reply => exact .refused named reply
  | unheardThere named reply moved failed =>
      rw [List.map_cons, List.map_cons, failed.map_keeping]
      exact .unheardThere named reply moved failed
  | awaited late _ reply => exact absurd (answersAt_expected reply) (unanswered _)
  | awaitedThere late _ reply => exact absurd (answersAt_moved reply) (unanswered _)

theorem Requested.eq_early {path : String} {exchange : Exchange} {signal : Signal}
    (requested : Requested unique owner token method call answer acts)
    (expected : requestPath unique token = .ok path) (called : .called call exchange ∈ acts)
    (replied : exchange.reply.bind replyPath = .ok path)
    (early : exchange.early.find? (responseRule owner path).accepts = some signal) :
    answer = responseResult method signal.body := by
  cases requested with
  | unnamed bad => cases called
  | unheard _ failed => cases failed <;> simp at called
  | refused _ reply =>
      obtain rfl : exchange = _ := by simpa using called
      cases reply.symm.trans replied
  | awaited late named reply =>
      obtain rfl : exchange = _ := by simpa using called
      cases named.symm.trans expected
      have heard : (exchange.early.map Delivery.signal).find? (responseRule owner path).ends =
          some (.signal signal) := by
        rw [List.find?_map]
        exact congrArg (Option.map Delivery.signal) early
      rw [List.find?_append, heard]
      rfl
  | unheardThere named reply moved failed =>
      obtain rfl : exchange = _ := by cases failed <;> simpa using called
      cases named.symm.trans expected
      exact absurd (Except.ok.inj (replied.symm.trans reply)).symm moved
  | awaitedThere late named reply moved =>
      obtain rfl : exchange = _ := by simpa using called
      cases named.symm.trans expected
      exact absurd (Except.ok.inj (replied.symm.trans reply)).symm moved

theorem Subscribed.deterministic {rule : SignalRule} {first second : Except HotkeyError Unit}
    (subscribed : Subscribed rule first acts) (again : Subscribed rule second acts) :
    first = second := by
  cases subscribed <;> cases again <;> rfl

theorem Requested.deterministic (first : Requested unique owner token method call answer acts)
    (second : Requested unique owner token method call other acts) : answer = other := by
  -- The acts are the same, and they tell how far the request came.
  cases first with
  | unnamed bad =>
      cases second with
      | unnamed again => exact congrArg Except.error (Except.error.inj (bad.symm.trans again))
      | unheard named failed => cases bad.symm.trans named
  | unheard named failed =>
      cases second with
      | unnamed bad => cases bad.symm.trans named
      | unheard again failedAgain =>
          cases named.symm.trans again
          cases failed.deterministic failedAgain
          rfl
      | _ => cases failed
  | refused named reply =>
      cases second with
      | unheard _ failed => cases failed
      | refused _ again => cases reply.symm.trans again; rfl
      | unheardThere _ again => cases reply.symm.trans again
  | awaited late named reply =>
      cases second with
      | unheard _ failed => cases failed
      | awaited => rfl
      | unheardThere _ _ _ failed => cases failed
  | unheardThere named reply moved failed =>
      cases second with
      | unheard _ failed => cases failed
      | refused _ again => cases reply.symm.trans again
      | awaited => cases failed
      | unheardThere _ again _ failedAgain =>
          cases reply.symm.trans again
          cases failed.deterministic failedAgain
          rfl
      | awaitedThere => cases failed
  | awaitedThere late named reply moved =>
      cases second with
      | unheard _ failed => cases failed
      | unheardThere _ _ _ failed => cases failed
      | awaitedThere => rfl

theorem answersAt_keeping {path : String} (keep : Delivery → Bool) :
    AnswersAt owner (acts.map (BusAct.keeping keep)) path ↔ AnswersAt owner acts path := by
  have named : namedPath? (acts.map (BusAct.keeping keep)) = namedPath? acts := by
    rw [namedPath?, List.findSome?_map]
    congr 1
    funext act
    cases act <;> rfl
  have subscribed {rule : SignalRule} {given : Except BusError Unit} :
      .subscribed rule given ∈ acts.map (BusAct.keeping keep) ↔ .subscribed rule given ∈ acts := by
    rw [List.mem_map]
    constructor
    · rintro ⟨act, member, same⟩
      cases act <;> cases same
      exact member
    · exact fun member => ⟨_, member, rfl⟩
  rw [AnswersAt, named, subscribed, AnswersAt]

theorem Requested.eq_of_same_first {others : List BusAct}
    (first : Requested unique owner token method call answer acts)
    (second : Requested unique owner token method call other others)
    (silent : acts.map (BusAct.keeping fun _ => false) = others.map (BusAct.keeping fun _ => false))
    (same : ∀ path, AnswersAt owner acts path →
      firstFor? (responseRule owner path) acts = firstFor? (responseRule owner path) others) :
    answer = other := by
  have alike (path : String) : AnswersAt owner acts path ↔ AnswersAt owner others path := by
    rw [← answersAt_keeping fun _ => false, silent, answersAt_keeping]
  by_cases answered : ∃ path, AnswersAt owner acts path
  · obtain ⟨path, answers⟩ := answered
    rw [first.eq_verdict answers, second.eq_verdict ((alike path).mp answers), same path answers]
  -- Without answers, each outcome is that of the same silent tape.
  · have unanswered := not_exists.mp answered
    have onSilence := first.keeping unanswered fun _ => false
    rw [silent] at onSilence
    have unansweredToo (path : String) := mt (alike path).mpr (unanswered path)
    exact onSilence.deterministic (second.keeping unansweredToo _)

/-- Two requests whose tapes differ in deliveries only that do not fit have the same outcome. -/
theorem Requested.eq_of_same_fitting {others : List BusAct} {keep : Delivery → Bool}
    (first : Requested unique owner token method call answer acts)
    (second : Requested unique owner token method call other others)
    (kept : ∀ path, AnswersAt owner acts path →
      ∀ delivery, (responseRule owner path).ends delivery = true → keep delivery = true)
    (same : acts.map (BusAct.keeping keep) = others.map (BusAct.keeping keep)) : answer = other := by
  refine first.eq_of_same_first second ?_ fun path answers => ?_
  · have silence := congrArg (List.map (BusAct.keeping fun _ => false)) same
    simpa [List.map_map, Function.comp_def, BusAct.keeping_keeping] using silence
  · rw [← firstFor?_keeping (kept path answers), same, firstFor?_keeping (kept path answers)]

end Decided

/-- Of what is on the bus, only the reply and the first delivery that fits decide a request: the one from
the portal, on the path in the reply, since the subscription to that path. Two runs, on any two buses,
that differ in other signals have the same outcome; and an answer on the expected path counts also if it
came before the reply. -/
theorem request_heeds_first_answer (bus : Bus World) (otherBus : Bus Other)
    (unique owner token method : String) (call : BusCall) (world : World) (otherWorld : Other) :
    let plain := (request bus unique owner token method call).run world
    let run := (request bus.taped unique owner token method call).run { world }
    let other := (request otherBus.taped unique owner token method call).run { world := otherWorld }
    let tape := run.world.tape
    let otherTape := other.world.tape
    plain = { value := run.value, world := run.world.world, log := run.log } ∧
    (∀ path, AnswersAt owner tape path →
      run.value = verdict method (firstFor? (responseRule owner path) tape)) ∧
    (tape.map (BusAct.keeping fun _ => false) = otherTape.map (BusAct.keeping fun _ => false) →
      (∀ path, AnswersAt owner tape path →
        firstFor? (responseRule owner path) tape = firstFor? (responseRule owner path) otherTape) →
      run.value = other.value) ∧
    (∀ keep : Delivery → Bool,
      (∀ path, AnswersAt owner tape path →
        ∀ delivery, (responseRule owner path).ends delivery = true → keep delivery = true) →
      tape.map (BusAct.keeping keep) = otherTape.map (BusAct.keeping keep) →
      run.value = other.value) ∧
    (∀ path exchange signal, requestPath unique token = .ok path →
      .called call exchange ∈ tape → exchange.reply.bind replyPath = .ok path →
      exchange.early.find? (responseRule owner path).accepts = some signal →
      run.value = responseResult method signal.body) := by
  intro plain run other tape otherTape
  have tapes := tapes_request bus unique owner token method call
  have otherTapes := tapes_request otherBus unique owner token method call
  obtain ⟨same, requested⟩ := tapes.run world
  obtain ⟨-, otherRequested⟩ := otherTapes.run otherWorld
  refine ⟨same, fun path => requested.eq_verdict, requested.eq_of_same_first otherRequested,
    fun keep kept => requested.eq_of_same_fitting otherRequested kept, ?_⟩
  exact fun path exchange signal => requested.eq_early

end Portal

end GlobalHotkeys
