import PhoneBridge.Net.Connection

/-!
# The REST calls that drive pairing

The handlers of `rest.rs` behind the pairing buttons of the web console. A response is its status
code with the `error` or `status` text of its body.
-/

namespace PhoneBridge.MessageCenter

open Library Proto Net Crypto

/-- A response of the REST API. -/
structure Response where
  status : Nat
  text : String
  deriving DecidableEq, Repr

/-- The text of a downstream error. -/
def downstreamMessage : DownstreamError → String
  | .notConnected deviceId => let id := deviceId.toText; s!"device {id} not connected"
  | .queueFull deviceId => let id := deviceId.toText; s!"device {id} send queue full"

def sendFailed (e : DownstreamError) : Response :=
  let reason := downstreamMessage e
  { status := 503, text := s!"send failed: {reason}" }

variable {σ : Type}

/-- `POST /api/v1/pair/start` — initiate pairing with a connected device. -/
def pairStart (ctx : WsContext) (draws : Draws) (deviceId : Uuid) (center : Center σ) :
    Response × Center σ :=
  if ¬ center.registry.isConnected deviceId then
    ({ status := 409, text := "device not connected" }, center)
  else
    match Initiator.start draws deviceId ctx.ourName with
    | .error e =>
      let reason := e.message ctx.serdeMessage
      ({ status := 500, text := s!"initiator start: {reason}" }, center)
    | .ok initiator =>
      match initiator.buildRequestEnvelope draws ctx.ourDeviceId with
      | .error e =>
        let reason := e.message ctx.serdeMessage
        ({ status := 500, text := s!"build request: {reason}" }, center)
      | .ok env =>
        match center.registry.trySend deviceId env with
        | .error e => (sendFailed e, center)
        | .ok registry =>
          ({ status := 200, text := "pair.request sent" }, { center with
            registry
            sessions := center.sessions.insert deviceId (.unpaired (.initiator initiator)) })

def noInFlight : Response :=
  { status := 409, text := "no in-flight initiator pairing for this device" }

/-- `POST /api/v1/pair/accept` — accept an in-flight pairing. -/
def pairAccept (ctx : WsContext) (draws : Draws) (dummy : Responder) (deviceId : Uuid)
    (code : Option String) (center : Center σ) : Response × Center σ :=
  match center.sessions.pairing.snapshot dummy deviceId with
  | some (.unpaired (.initiator initiator)) =>
    if ∃ typed ∈ code, ¬ IsFourDigits typed then
      ({ status := 400, text := "code must be 4 digits" }, center)
    else
      match initiator.buildAcceptEnvelope draws ctx.ourDeviceId with
      | .error e =>
        let reason := e.message ctx.serdeMessage
        ({ status := 500, text := s!"build accept: {reason}" }, center)
      | .ok env =>
        match center.registry.trySend deviceId env with
        | .error e => (sendFailed e, center)
        | .ok registry =>
          ({ status := 200, text := "pair.accept sent" }, { center with
            registry
            sessions := center.sessions.insert deviceId (.unpaired (.initiator initiator)) })
  | _ => (noInFlight, center)

/-- `POST /api/v1/pair/reject` — reject an in-flight pairing. -/
def pairReject (ctx : WsContext) (draws : Draws) (dummy : Responder) (deviceId : Uuid)
    (reason : Option String) (center : Center σ) : Response × Center σ :=
  match center.sessions.pairing.snapshot dummy deviceId with
  | some (.unpaired (.initiator initiator)) =>
    let env := initiator.buildRejectEnvelope draws ctx.ourDeviceId
      (reason.getD "rejected by user")
    match center.registry.trySend deviceId env with
    | .error e => (sendFailed e, center)
    | .ok registry =>
      ({ status := 200, text := "pair.reject sent" }, { center with
        registry
        sessions := { center.sessions with pairing := center.sessions.pairing.remove deviceId } })
  | _ => (noInFlight, center)

/-- Forget the parked request of a device. -/
def removePending (center : Center σ) (deviceId : Uuid) : Center σ :=
  { center with sessions := { center.sessions with
      pendingIncoming := center.sessions.pendingIncoming.remove deviceId } }

/-- `POST /api/v1/pair/incoming-accept` — the user clicked "Accept" on the web console. -/
def incomingAccept (ctx : WsContext) (draws : Draws) (deviceId : Uuid) (center : Center σ) :
    Response × Center σ :=
  match center.sessions.pendingIncoming.get deviceId with
  | none => ({ status := 404, text := "no pending pair request for this device" }, center)
  | some _ =>
    let dropped := removePending center deviceId
    if ¬ dropped.registry.isConnected deviceId then
      ({ status := 503, text := "device not connected" }, dropped)
    else
      let env := draws.envelope .devicePairConfirm ctx.ourDeviceId
        (PairConfirm.toValue { accepted := true })
      match dropped.registry.trySend deviceId env with
      | .error e => (sendFailed e, dropped)
      | .ok registry =>
        ({ status := 200, text := "pair.confirm(true) sent" }, { dropped with registry })

/-- `POST /api/v1/pair/incoming-reject` — the user clicked "Reject" on the web console. -/
def incomingReject (ctx : WsContext) (draws : Draws) (deviceId : Uuid) (center : Center σ) :
    Response × Center σ :=
  match center.sessions.pendingIncoming.get deviceId with
  | none => ({ status := 404, text := "no pending pair request for this device" }, center)
  | some _ =>
    let dropped := removePending center deviceId
    let env := draws.envelope .devicePairConfirm ctx.ourDeviceId
      (PairConfirm.toValue { accepted := false })
    let registry :=
      if dropped.registry.isConnected deviceId then
        -- a failed send is only logged
        (dropped.registry.trySend deviceId env).toOption.getD dropped.registry
      else dropped.registry
    ({ status := 200, text := "pair.confirm(false) sent" }, { dropped with registry })

/-! ## What the calls do to the sessions -/

/-- `pair_start` either stores a fresh Initiator and answers 200, or changes no session. -/
theorem pairStart_sessions (ctx : WsContext) (draws : Draws) (deviceId : Uuid)
    (center : Center σ) :
    ((pairStart ctx draws deviceId center).1.status = 200 ∧
      ∃ initiator, Initiator.start draws deviceId ctx.ourName = .ok initiator ∧
        (pairStart ctx draws deviceId center).2.sessions =
          center.sessions.insert deviceId (.unpaired (.initiator initiator))) ∨
    ((pairStart ctx draws deviceId center).1.status ≠ 200 ∧
      (pairStart ctx draws deviceId center).2.sessions = center.sessions) := by
  unfold pairStart
  split
  · exact .inr ⟨by simp, rfl⟩
  split
  · exact .inr ⟨by simp, rfl⟩
  next initiator hstart =>
    split
    · exact .inr ⟨by simp, rfl⟩
    split
    · exact .inr ⟨by simp [sendFailed], rfl⟩
    · exact .inl ⟨rfl, initiator, hstart, rfl⟩

/-- `pair_start` sends the request of an Initiator, or nothing. -/
theorem registry_pairStart (ctx : WsContext) (draws : Draws) (deviceId : Uuid)
    (center : Center σ) :
    (pairStart ctx draws deviceId center).2.registry = center.registry ∨
      ∃ (initiator : Initiator) (env : Envelope),
        initiator.buildRequestEnvelope draws ctx.ourDeviceId = .ok env ∧
        center.registry.trySend deviceId env =
          .ok (pairStart ctx draws deviceId center).2.registry := by
  unfold pairStart
  split
  · exact .inl rfl
  split
  · exact .inl rfl
  · next initiator _ =>
    split
    · exact .inl rfl
    · next env henv =>
      split
      · exact .inl rfl
      · next hsent => exact .inr ⟨initiator, env, henv, hsent⟩

/-- The REST calls that drive pairing write nothing to the store. -/
theorem store_pairStart (ctx : WsContext) (draws : Draws) (deviceId : Uuid) (center : Center σ) :
    (pairStart ctx draws deviceId center).2.store = center.store := by
  unfold pairStart
  split
  · rfl
  split
  · rfl
  split
  · rfl
  split <;> rfl

theorem store_incomingAccept (ctx : WsContext) (draws : Draws) (deviceId : Uuid)
    (center : Center σ) : (incomingAccept ctx draws deviceId center).2.store = center.store := by
  unfold incomingAccept
  split
  · rfl
  dsimp only
  split
  · rfl
  split <;> rfl

theorem store_incomingReject (ctx : WsContext) (draws : Draws) (deviceId : Uuid)
    (center : Center σ) : (incomingReject ctx draws deviceId center).2.store = center.store := by
  unfold incomingReject
  split <;> rfl

/-- A snapshot shows no Initiator, so `pair_accept` finds none and changes nothing. -/
theorem pairAccept_eq (ctx : WsContext) (draws : Draws) (dummy : Responder) (deviceId : Uuid)
    (code : Option String) (center : Center σ) :
    pairAccept ctx draws dummy deviceId code center = (noInFlight, center) := by
  unfold pairAccept
  split
  · next initiator hsnapshot => exact absurd hsnapshot (snapshot_ne_initiator _ _ _ _)
  · rfl

/-- Nor does `pair_reject`. -/
theorem pairReject_eq (ctx : WsContext) (draws : Draws) (dummy : Responder) (deviceId : Uuid)
    (reason : Option String) (center : Center σ) :
    pairReject ctx draws dummy deviceId reason center = (noInFlight, center) := by
  unfold pairReject
  split
  · next initiator hsnapshot => exact absurd hsnapshot (snapshot_ne_initiator _ _ _ _)
  · rfl

/-- Deciding on a parked request changes no session. -/
theorem incomingAccept_pairing (ctx : WsContext) (draws : Draws) (deviceId : Uuid)
    (center : Center σ) :
    (incomingAccept ctx draws deviceId center).2.sessions.pairing = center.sessions.pairing := by
  unfold incomingAccept
  split
  · rfl
  dsimp only
  split
  · rfl
  split <;> rfl

theorem incomingReject_pairing (ctx : WsContext) (draws : Draws) (deviceId : Uuid)
    (center : Center σ) :
    (incomingReject ctx draws deviceId center).2.sessions.pairing = center.sessions.pairing := by
  unfold incomingReject
  split <;> rfl

end PhoneBridge.MessageCenter
