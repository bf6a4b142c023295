import PhoneBridge.Library.Run
import PhoneBridge.MessageCenter.Commands

/-!
# What the Rust side sends

Every place where the Rust side builds an envelope for a peer, with all that the envelope depends on.
Whatever the handlers of the message-center put on a phone's channel comes from one of them, in every
run.
-/

namespace PhoneBridge.MessageCenter

open Library Proto Net Storage

/-- What an action of a display sends to the phone. -/
def displayEnvelope (ctx : WsContext) (draws : Draws) (action : DisplayAction) : Option Envelope :=
  (actionRequest action).map fun (messageType, payload) ↦
    draws.envelope messageType ctx.ourDeviceId payload

/-- A builder of the Rust side with what it reads. -/
inductive RustBuilder
  | initiatorRequest (init : Initiator) (draws : Draws) (ourDeviceId : Uuid)
  | initiatorAccept (init : Initiator) (draws : Draws) (ourDeviceId : Uuid)
  | initiatorReject (init : Initiator) (draws : Draws) (ourDeviceId : Uuid) (reason : String)
  | initiatorComplete (init : Initiator) (draws : Draws) (ourDeviceId : Uuid)
  | responderChallenge (responder : Responder) (draws : Draws) (ourDeviceId : Uuid)
  | responderConfirm (responder : Responder) (draws : Draws) (ourDeviceId : Uuid) (accepted : Bool)
  | responderComplete (responder : Responder) (draws : Draws) (ourDeviceId : Uuid)
  | hello (draws : Draws) (ourDeviceId : Uuid) (name pubkeyB64 : String) (port : UInt16)
  | cliHello (draws : Draws) (deviceId : Uuid) (name publicKeyB64 : String)
  | desktopHello (ctx : WsContext) (stamp : Stamp)
  | dispatcherReply (ctx : WsContext) (draws : Draws) (env : Envelope) (sessions : Sessions)
  | incomingConfirm (ctx : WsContext) (draws : Draws) (accepted : Bool)
  | dismissal (ctx : WsContext) (draws : Draws) (row : String)
  | sendSms (ctx : WsContext) (draws : Draws) (requestId : Uuid) (req : SendSmsRequest)
  | dial (ctx : WsContext) (draws : Draws) (number : String)
  | displayAction (ctx : WsContext) (draws : Draws) (action : DisplayAction)

/-- The envelope, unless the builder fails or has nothing to send. -/
def RustBuilder.envelope : RustBuilder → Option Envelope
  | initiatorRequest init draws ourDeviceId =>
    (init.buildRequestEnvelope draws ourDeviceId).toOption
  | initiatorAccept init draws ourDeviceId => (init.buildAcceptEnvelope draws ourDeviceId).toOption
  | initiatorReject init draws ourDeviceId reason =>
    some (init.buildRejectEnvelope draws ourDeviceId reason)
  | initiatorComplete init draws ourDeviceId => some (init.buildCompleteEnvelope draws ourDeviceId)
  | responderChallenge responder draws ourDeviceId =>
    (responder.buildChallengeEnvelope draws ourDeviceId).toOption
  | responderConfirm responder draws ourDeviceId accepted =>
    (responder.buildConfirmEnvelope draws ourDeviceId accepted).toOption.map Prod.fst
  | responderComplete responder draws ourDeviceId =>
    (responder.buildCompleteEnvelope draws ourDeviceId).toOption
  | hello draws ourDeviceId name pubkeyB64 port =>
    some (buildHelloEnvelope draws ourDeviceId name pubkeyB64 port)
  | cliHello draws deviceId name publicKeyB64 => some (pairCliHello draws deviceId name publicKeyB64)
  | desktopHello ctx stamp => some (buildDesktopHello ctx stamp)
  | dispatcherReply ctx draws env sessions => (dispatch ctx draws env sessions).1
  | incomingConfirm ctx draws accepted =>
    some (draws.envelope .devicePairConfirm ctx.ourDeviceId (PairConfirm.toValue { accepted }))
  | dismissal ctx draws row => some (dismissedEnvelope ctx draws row)
  | sendSms ctx draws requestId req => some (sendSmsEnvelope ctx draws requestId req)
  | dial ctx draws number => some (dialEnvelope ctx draws number)
  | displayAction ctx draws action => displayEnvelope ctx draws action

/-- The envelope comes from one of the builders. -/
def Built (env : Envelope) : Prop := ∃ builder : RustBuilder, builder.envelope = some env

/-- Whatever waits on the channels has been built. -/
def AllBuilt (registry : DeviceRegistry) : Prop :=
  ∀ conn, ∀ env ∈ (registry.outboxes conn).queue, Built env

/-! ## Handlers -/

section Handlers

variable (ctx : WsContext) (dbMessage : DbError → String) (draws : Draws) (deviceId : Uuid)
  {P : Envelope → Prop}

section Pairing

variable {σ : Type} {center : Center σ} (h : center.registry.EveryQueued P)

include h

theorem everyQueued_pairStart (hnew : ∀ (initiator : Initiator) (env : Envelope),
      initiator.buildRequestEnvelope draws ctx.ourDeviceId = .ok env → P env) :
    (pairStart ctx draws deviceId center).2.registry.EveryQueued P := by
  obtain hsame | ⟨initiator, env, henv, hsent⟩ := registry_pairStart ctx draws deviceId center
  · rw [hsame]
    exact h
  · exact h.trySend (hnew initiator env henv) hsent

theorem everyQueued_incomingAccept (hnew : P (draws.envelope .devicePairConfirm ctx.ourDeviceId
      (PairConfirm.toValue { accepted := true }))) :
    (incomingAccept ctx draws deviceId center).2.registry.EveryQueued P := by
  unfold incomingAccept
  split
  · exact h
  · dsimp only
    split
    · exact h
    split
    · exact h
    · next sent hsent => exact h.trySend hnew hsent

theorem everyQueued_incomingReject (hnew : P (draws.envelope .devicePairConfirm ctx.ourDeviceId
      (PairConfirm.toValue { accepted := false }))) :
    (incomingReject ctx draws deviceId center).2.registry.EveryQueued P := by
  unfold incomingReject
  split
  · exact h
  · dsimp only
    split
    · exact h.tried deviceId hnew
    · exact h

end Pairing

section Commands

variable {center : Center DeskStore} (h : center.registry.EveryQueued P)

include h

theorem everyQueued_dismissNotification (id : String)
    (hnew : ∀ row, P (dismissedEnvelope ctx draws row)) :
    (dismissNotification ctx dbMessage draws deviceId id center).2.registry.EveryQueued P := by
  unfold dismissNotification
  split
  · exact h
  · exact h
  · next row db hrow => exact h.tried deviceId (hnew row)

theorem everyQueued_sendSms (requestId : Uuid) (req : SendSmsRequest)
    (hnew : P (sendSmsEnvelope ctx draws requestId req)) :
    (MessageCenter.sendSms ctx draws requestId req center).2.registry.EveryQueued P := by
  unfold MessageCenter.sendSms
  split
  · exact h
  split
  · exact h
  · next sent hsent => exact h.trySend hnew hsent

theorem everyQueued_dial (req : DialRequest) (hnew : P (dialEnvelope ctx draws req.number)) :
    (MessageCenter.dial ctx draws req center).2.registry.EveryQueued P := by
  unfold MessageCenter.dial
  split
  · exact h
  split
  · exact h
  · next sent hsent => exact h.trySend hnew hsent

end Commands

theorem registry_sendToPhone (now : Int64) (action : DisplayAction) (env : Envelope)
    (center : Center DeskStore) {sent : Center DeskStore → Center DeskStore}
    (hsent : ∀ center, (sent center).registry = center.registry) :
    (sendToPhone now action env center sent).registry =
      (center.registry.trySend action.deviceId env).toOption.getD center.registry := by
  unfold sendToPhone
  cases center.registry.trySend action.deviceId env with
  | error e => rfl
  | ok registry => exact hsent _

/-- What an action of a display puts on the phone's channel. -/
theorem registry_handleDisplayAction (action : DisplayAction) (center : Center DeskStore) :
    (handleDisplayAction ctx dbMessage draws action center).registry =
      ((displayEnvelope ctx draws action).bind fun env ↦
        (center.registry.trySend action.deviceId env).toOption).getD center.registry := by
  unfold handleDisplayAction
  split
  · next hoffline =>
    have hentry : center.registry.inner.get action.deviceId = none := by
      simpa [DeviceRegistry.isConnected, KeyMap.contains_eq] using hoffline
    have hnone : ((displayEnvelope ctx draws action).bind fun env ↦
        (center.registry.trySend action.deviceId env).toOption) = none := by
      simp [DeviceRegistry.trySend, hentry, Except.toOption]
    rw [hnone]
    rfl
  split
  · next hkind =>
    simp only [displayEnvelope, actionRequest, hkind]
    unfold doSmsReply
    cases action.recipient.filter (· ≠ "") with
    | none => rfl
    | some recipient =>
      cases action.body.filter (· ≠ "") with
      | none => rfl
      | some body => exact registry_sendToPhone draws.now action _ center fun _ ↦ rfl
  · next hkind =>
    simp only [displayEnvelope, actionRequest, hkind]
    unfold doNotificationRead
    split <;> rfl
  · next hkind =>
    simp only [displayEnvelope, actionRequest, hkind]
    exact registry_sendToPhone draws.now action _ center fun _ ↦ rfl
  · next hkind =>
    simp only [displayEnvelope, actionRequest, hkind]
    exact registry_sendToPhone draws.now action _ center fun _ ↦ rfl
  · next hkind =>
    simp only [displayEnvelope, actionRequest, hkind]
    exact registry_sendToPhone draws.now action _ center fun _ ↦ rfl
  · next hreply hread hdismiss hanswer hend =>
    have hnone : displayEnvelope ctx draws action = none := by
      unfold displayEnvelope actionRequest
      split
      · next hkind => exact absurd hkind hreply
      · next hkind => exact absurd hkind hdismiss
      · next hkind => exact absurd hkind hanswer
      · next hkind => exact absurd hkind hend
      · rfl
    rw [hnone]
    rfl

end Handlers

/-! ## Runs -/

/-- A step of a connection handler, of the console's REST calls or of a display. -/
inductive SenderLabel
  | connection (label : HubLabel)
  | pairStart (draws : Draws) (deviceId : Uuid)
  | pairAccept (draws : Draws) (dummy : Responder) (deviceId : Uuid) (code : Option String)
  | pairReject (draws : Draws) (dummy : Responder) (deviceId : Uuid) (reason : Option String)
  | incomingAccept (draws : Draws) (deviceId : Uuid)
  | incomingReject (draws : Draws) (deviceId : Uuid)
  | dismissNotification (draws : Draws) (deviceId : Uuid) (id : String)
  | sendSms (draws : Draws) (requestId : Uuid) (req : SendSmsRequest)
  | dial (draws : Draws) (req : DialRequest)
  | action (draws : Draws) (action : DisplayAction)

namespace Sender

variable (ctx : WsContext) (dbMessage : DbError → String)

def step (hub : Hub DeskStore) : SenderLabel → Option (Hub DeskStore)
  | .connection label => hub.step ctx displaySink label
  | .pairStart draws deviceId =>
    some { hub with center := (MessageCenter.pairStart ctx draws deviceId hub.center).2 }
  | .pairAccept draws dummy deviceId code =>
    some { hub with center := (MessageCenter.pairAccept ctx draws dummy deviceId code hub.center).2 }
  | .pairReject draws dummy deviceId reason => some { hub with
      center := (MessageCenter.pairReject ctx draws dummy deviceId reason hub.center).2 }
  | .incomingAccept draws deviceId =>
    some { hub with center := (MessageCenter.incomingAccept ctx draws deviceId hub.center).2 }
  | .incomingReject draws deviceId =>
    some { hub with center := (MessageCenter.incomingReject ctx draws deviceId hub.center).2 }
  | .dismissNotification draws deviceId id => some { hub with
      center := (MessageCenter.dismissNotification ctx dbMessage draws deviceId id hub.center).2 }
  | .sendSms draws requestId req =>
    some { hub with center := (MessageCenter.sendSms ctx draws requestId req hub.center).2 }
  | .dial draws req =>
    some { hub with center := (MessageCenter.dial ctx draws req hub.center).2 }
  | .action draws action =>
    some { hub with center := handleDisplayAction ctx dbMessage draws action hub.center }

/-- The builders whose envelopes a step may put on a channel. Accepting and rejecting a pairing by
`pair_accept` and `pair_reject` find no Initiator and send nothing. -/
inductive Uses (ctx : WsContext) : SenderLabel → RustBuilder → Prop
  | hello (label : HubLabel) (stamp : Stamp) : Uses ctx (.connection label) (.desktopHello ctx stamp)
  | reply (label : HubLabel) (draws : Draws) (env : Envelope) (sessions : Sessions) :
      Uses ctx (.connection label) (.dispatcherReply ctx draws env sessions)
  | request (draws : Draws) (deviceId : Uuid) (initiator : Initiator) :
      Uses ctx (.pairStart draws deviceId) (.initiatorRequest initiator draws ctx.ourDeviceId)
  | accept (draws : Draws) (deviceId : Uuid) :
      Uses ctx (.incomingAccept draws deviceId) (.incomingConfirm ctx draws true)
  | reject (draws : Draws) (deviceId : Uuid) :
      Uses ctx (.incomingReject draws deviceId) (.incomingConfirm ctx draws false)
  | dismissal (draws : Draws) (deviceId : Uuid) (id row : String) :
      Uses ctx (.dismissNotification draws deviceId id) (.dismissal ctx draws row)
  | sendSms (draws : Draws) (requestId : Uuid) (req : SendSmsRequest) :
      Uses ctx (.sendSms draws requestId req) (.sendSms ctx draws requestId req)
  | dial (draws : Draws) (req : DialRequest) :
      Uses ctx (.dial draws req) (.dial ctx draws req.number)
  | action (draws : Draws) (action : DisplayAction) :
      Uses ctx (.action draws action) (.displayAction ctx draws action)

variable {ctx dbMessage} {hub next : Hub DeskStore} {P : Envelope → Prop}

/-- A connection handler sends the hello and the replies of the dispatcher. -/
theorem everyQueued_hubStep (h : hub.center.registry.EveryQueued P) {label : HubLabel}
    (hhello : ∀ stamp, P (buildDesktopHello ctx stamp))
    (hreply : ∀ draws env reply, (dispatch ctx draws env hub.center.sessions).1 = some reply →
      P reply)
    (hstep : hub.step ctx displaySink label = some next) :
    next.center.registry.EveryQueued P := by
  intro other queued hqueued
  cases Hub.channelEffect_of_step hstep with
  | unchanged houtboxes =>
    rw [houtboxes] at hqueued
    exact h other queued hqueued
  | opened conn outbox houtbox houtboxes =>
    rw [houtboxes] at hqueued
    apply h.setOutbox conn _ other queued hqueued
    intro env henv
    obtain ⟨stamp, rfl⟩ := houtbox env henv
    exact hhello stamp
  | replied conn draws env reply hsent houtboxes =>
    rw [houtboxes] at hqueued
    exact h.send conn (hreply draws env reply hsent) other queued hqueued

/-- No step puts anything else on a channel than the envelopes of its builders. -/
theorem everyQueued_step (h : hub.center.registry.EveryQueued P) {label : SenderLabel}
    (hnew : ∀ builder env, Uses ctx label builder → builder.envelope = some env → P env)
    (hstep : step ctx dbMessage hub label = some next) :
    next.center.registry.EveryQueued P := by
  cases label with
  | connection label =>
    exact everyQueued_hubStep h (fun stamp ↦ hnew _ _ (.hello label stamp) rfl)
      (fun draws env reply hreply ↦ hnew _ _ (.reply label draws env _) hreply) hstep
  | pairStart draws deviceId =>
    cases hstep
    apply everyQueued_pairStart ctx draws deviceId h
    intro initiator env henv
    apply hnew _ _ (.request draws deviceId initiator)
    simp [RustBuilder.envelope, henv, Except.toOption]
  | pairAccept draws dummy deviceId code =>
    cases hstep
    rw [pairAccept_eq]
    exact h
  | pairReject draws dummy deviceId reason =>
    cases hstep
    rw [pairReject_eq]
    exact h
  | incomingAccept draws deviceId =>
    cases hstep
    exact everyQueued_incomingAccept ctx draws deviceId h (hnew _ _ (.accept draws deviceId) rfl)
  | incomingReject draws deviceId =>
    cases hstep
    exact everyQueued_incomingReject ctx draws deviceId h (hnew _ _ (.reject draws deviceId) rfl)
  | dismissNotification draws deviceId id =>
    cases hstep
    exact everyQueued_dismissNotification ctx dbMessage draws deviceId h id
      fun row ↦ hnew _ _ (.dismissal draws deviceId id row) rfl
  | sendSms draws requestId req =>
    cases hstep
    exact everyQueued_sendSms ctx draws h requestId req (hnew _ _ (.sendSms draws requestId req) rfl)
  | dial draws req =>
    cases hstep
    exact everyQueued_dial ctx draws h req (hnew _ _ (.dial draws req) rfl)
  | action draws action =>
    cases hstep
    rw [registry_handleDisplayAction]
    cases henv : displayEnvelope ctx draws action with
    | none => exact h
    | some env => exact h.tried action.deviceId (hnew _ _ (.action draws action) henv)

/-- No step puts anything else on a channel. -/
theorem allBuilt_step (h : AllBuilt hub.center.registry) {label : SenderLabel}
    (hstep : step ctx dbMessage hub label = some next) : AllBuilt next.center.registry :=
  everyQueued_step h (fun builder _ _ henv ↦ ⟨builder, henv⟩) hstep

/-- In every run, whatever waits on a channel comes from one of the builders. -/
theorem allBuilt_run {labels : List SenderLabel} (h : AllBuilt hub.center.registry)
    (hrun : Run.exec (step ctx dbMessage) hub labels = some next) :
    AllBuilt next.center.registry :=
  Run.invariant (fun hub ↦ AllBuilt hub.center.registry)
    (fun _ _ _ hbuilt hstep ↦ allBuilt_step hbuilt hstep) hrun h

end Sender

end PhoneBridge.MessageCenter
