import PhoneBridge.Library.Run
import PhoneBridge.MessageCenter.Rest
import PhoneBridge.Net.ChallengeCheck
import PhoneBridge.Net.DispatchTask

/-!
# The challenge and the Initiator that it answers

`pair_start` puts the request on the phone's channel and stores its Initiator afterwards. The
challenge of the phone may be dispatched between the two, and is then handed to whatever session was
stored before, or dropped. The state follows one `pair_start` and the challenge to its request; the
envelopes of other devices are dispatched at any time.
-/

namespace PhoneBridge.MessageCenter

open Library Proto Net Crypto

variable {σ : Type}

/-! ## The two halves of `pair_start` -/

/-- `pair_start` until the request is on the phone's channel. -/
def sendPairRequest (ctx : WsContext) (draws : Draws) (deviceId : Uuid) (center : Center σ) :
    Except Response (Initiator × Envelope × Center σ) :=
  if ¬ center.registry.isConnected deviceId then
    .error { status := 409, text := "device not connected" }
  else
    match Initiator.start draws deviceId ctx.ourName with
    | .error e =>
      let reason := e.message ctx.serdeMessage
      .error { status := 500, text := s!"initiator start: {reason}" }
    | .ok initiator =>
      match initiator.buildRequestEnvelope draws ctx.ourDeviceId with
      | .error e =>
        let reason := e.message ctx.serdeMessage
        .error { status := 500, text := s!"build request: {reason}" }
      | .ok env =>
        match center.registry.trySend deviceId env with
        | .error e => .error (sendFailed e)
        | .ok registry => .ok (initiator, env, { center with registry })

/-- Persist the Initiator so that the dispatcher can drive it. -/
def storeInitiator (deviceId : Uuid) (initiator : Initiator) (center : Center σ) : Center σ :=
  { center with sessions := center.sessions.insert deviceId (.unpaired (.initiator initiator)) }

/-- One half after the other is `pair_start`. -/
theorem pairStart_eq_halves (ctx : WsContext) (draws : Draws) (deviceId : Uuid)
    (center : Center σ) :
    pairStart ctx draws deviceId center =
      match sendPairRequest ctx draws deviceId center with
      | .error response => (response, center)
      | .ok (initiator, _, sent) =>
        ({ status := 200, text := "pair.request sent" },
          storeInitiator deviceId initiator sent) := by
  unfold pairStart sendPairRequest
  by_cases hconnected : ¬ center.registry.isConnected deviceId = true
  · rw [if_pos hconnected, if_pos hconnected]
  · rw [if_neg hconnected, if_neg hconnected]
    cases Initiator.start draws deviceId ctx.ourName with
    | error e => rfl
    | ok initiator =>
      dsimp only
      cases initiator.buildRequestEnvelope draws ctx.ourDeviceId with
      | error e => rfl
      | ok env =>
        dsimp only
        cases center.registry.trySend deviceId env <;> rfl

/-- The request carries the Initiator's ephemeral key. -/
def Offers (initiator : Initiator) (request : Envelope) : Prop :=
  request.messageType = .devicePairRequest ∧
    ∃ ephemeral, initiator.ephemeral = some ephemeral ∧
      PairRequest.parse request.payload = .ok { ephemeralPubkey := ephemeral.publicKey.toBase64 }

/-- The first half changes no session, and its request carries the new Initiator's key. -/
theorem sendPairRequest_eq_ok {ctx : WsContext} {draws : Draws} {deviceId : Uuid}
    {center sent : Center σ} {initiator : Initiator} {request : Envelope}
    (h : sendPairRequest ctx draws deviceId center = .ok (initiator, request, sent)) :
    sent.sessions = center.sessions ∧ Offers initiator request := by
  unfold sendPairRequest at h
  split at h
  · cases h
  split at h
  · cases h
  dsimp only at h
  split at h
  · cases h
  next env hrequest =>
    split at h
    · cases h
    cases h
    apply And.intro rfl
    unfold Initiator.buildRequestEnvelope at hrequest
    split at hrequest
    · cases hrequest
    next ephemeral hephemeral =>
      cases hrequest
      exact ⟨rfl, ephemeral, hephemeral, PairRequest.parse_toValue _⟩

/-! ## One request and its challenge -/

/-- The center while one `pair_start` and the challenge to its request are on their way. -/
structure Handover (σ : Type) where
  center : Center σ
  /-- the request on the phone's channel and the Initiator that it was built from -/
  request : Option (Envelope × Initiator)
  /-- the Initiator that `pair_start` is about to store -/
  starting : Option Initiator
  /-- the dispatch of the challenge between two operations on the session map -/
  dispatching : Option Task
  /-- the Initiator that the challenge was handed to; the inner `none` is a dropped challenge -/
  handed : Option (Option Initiator)

/-- One operation of `pair_start`, of the challenge's dispatch, or for another device. -/
inductive HandoverLabel
  | request (draws : Draws)
  | store
  | challenge (draws : Draws) (env : Envelope)
  | finish
  | elsewhere (draws : Draws) (env : Envelope)

/-- The Initiator that a dispatch has taken out of the map. -/
def takenInitiator : Option Stage → Option Initiator
  | some (.initiator init) => some init
  | _ => none

namespace Handover

/-- Nothing has been sent yet; any session may be stored for any device. -/
def start (center : Center σ) : Handover σ :=
  { center, request := none, starting := none, dispatching := none, handed := none }

def pairing (s : Handover σ) : PairingMap := s.center.sessions.pairing

def withPairing (s : Handover σ) (pairing : PairingMap) : Handover σ :=
  { s with center := { s.center with sessions := { s.center.sessions with pairing } } }

/-- The envelope is the first challenge of the device after the request. -/
def Awaits (s : Handover σ) (deviceId : Uuid) (env : Envelope) : Prop :=
  s.request.isSome = true ∧ s.handed.isNone = true ∧ env.deviceId = deviceId ∧
    env.messageType = .devicePairChallenge

instance (s : Handover σ) (deviceId : Uuid) (env : Envelope) : Decidable (s.Awaits deviceId env) :=
  inferInstanceAs (Decidable (_ ∧ _ ∧ _ ∧ _))

def step (ctx : WsContext) (deviceId : Uuid) (s : Handover σ) : HandoverLabel → Option (Handover σ)
  | .request draws =>
    if s.request.isSome then none
    else
      match sendPairRequest ctx draws deviceId s.center with
      | .error _ => some s
      | .ok (initiator, env, center) =>
        some { s with center, request := some (env, initiator), starting := some initiator }
  | .store => s.starting.map fun initiator ↦
      { s with center := storeInitiator deviceId initiator s.center, starting := none }
  | .challenge draws env =>
    if s.Awaits deviceId env then
      let (stage, pairing) := Task.first env s.pairing
      some { s.withPairing pairing with
        dispatching := stage.map fun stage ↦ { draws, env, stage }
        handed := some (takenInitiator stage) }
    else none
  | .finish => s.dispatching.map fun task ↦
      let (stage, pairing) := task.next s.pairing
      { s.withPairing pairing with dispatching := stage.map fun stage ↦ { task with stage } }
  | .elsewhere draws env =>
    if env.deviceId = deviceId then none
    else some { s with center := { s.center with
      sessions := (dispatch ctx draws env s.center.sessions).2 } }

/-- A challenge that has arrived was handed to the Initiator whose key was in the request. -/
def Found (s : Handover σ) : Prop :=
  ∀ taken, s.handed = some taken →
    ∃ request initiator, s.request = some (request, initiator) ∧ Offers initiator request ∧
      taken = some initiator

/-- The challenge arrives before `pair_start` has stored its Initiator, while the device does not
happen to have exactly this Initiator already. -/
def Overtakes (deviceId : Uuid) (s : Handover σ) : HandoverLabel → Prop
  | .challenge _ env => s.Awaits deviceId env ∧ ∃ initiator, s.starting = some initiator ∧
      s.pairing.get deviceId ≠ some (.unpaired (.initiator initiator))
  | _ => False

/-! ## Whole runs -/

/-- What holds as long as no challenge overtakes the Initiator. -/
structure Tracked (deviceId : Uuid) (s : Handover σ) : Prop where
  found : s.Found
  quiet : s.request = none → s.starting = none ∧ s.handed = none
  offers : ∀ request initiator, s.request = some (request, initiator) → Offers initiator request
  starting : ∀ initiator, s.starting = some initiator → ∃ request,
    s.request = some (request, initiator)
  stored : ∀ request initiator, s.request = some (request, initiator) → s.starting = none →
    s.handed = none → s.pairing.get deviceId = some (.unpaired (.initiator initiator))
  begun : s.handed = none → s.dispatching = none

theorem tracked_start (deviceId : Uuid) (center : Center σ) : (start center).Tracked deviceId where
  found := by
    intro taken htaken
    cases htaken
  quiet _ := ⟨rfl, rfl⟩
  offers := by
    intro request initiator hrequest
    cases hrequest
  starting := by
    intro initiator hstarting
    cases hstarting
  stored := by
    intro request initiator hrequest
    cases hrequest
  begun _ := rfl

/-- A challenge is handed to the Initiator of its device, if the map has one. -/
theorem takenInitiator_first {env : Envelope} (htype : env.messageType = .devicePairChallenge)
    (m : PairingMap) :
    takenInitiator (Task.first env m).1 = (m.takeUnpairedInitiator env.deviceId).1 := by
  simp only [Task.first, htype]
  cases (m.takeUnpairedInitiator env.deviceId).1 <;> rfl

/-- What is handed over is the stored Initiator and nothing else. -/
theorem takeUnpairedInitiator_eq_some {m : PairingMap} {deviceId : Uuid} {init : Initiator} :
    (m.takeUnpairedInitiator deviceId).1 = some init ↔
      m.get deviceId = some (.unpaired (.initiator init)) := by
  unfold PairingMap.takeUnpairedInitiator
  split
  · next other hother => simp [hother]
  · next other hne hother =>
    simp only [hother, Option.some.injEq, reduceCtorEq, false_iff]
    intro heq
    exact hne init heq
  · next hnone => simp [hnone]

section Steps

variable {ctx : WsContext} {deviceId : Uuid} {s t : Handover σ}

/-- What `pair_start` is about to store is the Initiator of the request. -/
theorem Tracked.starting_eq (h : s.Tracked deviceId) {request : Envelope}
    {initiator other : Initiator} (hrequest : s.request = some (request, initiator))
    (hstarting : s.starting = some other) : initiator = other := by
  obtain ⟨_, hother⟩ := h.starting other hstarting
  exact (Prod.mk.inj (Option.some.inj (hrequest.symm.trans hother))).2

/-- A step that only touches the session map, and not this device's entry before the challenge. -/
theorem Tracked.of_kept (h : s.Tracked deviceId) (hrequest : t.request = s.request)
    (hstarting : t.starting = s.starting) (hhanded : t.handed = s.handed)
    (hidle : s.handed = none → t.dispatching = none ∧
      t.pairing.get deviceId = s.pairing.get deviceId) : t.Tracked deviceId := by
  constructor
  · rw [Found, hhanded, hrequest]
    exact h.found
  · rw [hrequest, hstarting, hhanded]
    exact h.quiet
  · rw [hrequest]
    exact h.offers
  · rw [hrequest, hstarting]
    exact h.starting
  · rw [hrequest, hstarting, hhanded]
    intro request initiator hsent hstored hnone
    rw [(hidle hnone).2]
    exact h.stored request initiator hsent hstored hnone
  · rw [hhanded]
    exact fun hnone ↦ (hidle hnone).1

theorem Tracked.request (h : s.Tracked deviceId) {draws : Draws}
    (hstep : step ctx deviceId s (.request draws) = some t) : t.Tracked deviceId := by
  simp only [step] at hstep
  split at hstep
  · cases hstep
  next hfirst =>
    have hnone : s.request = none := by simpa using hfirst
    obtain ⟨-, hhanded⟩ := h.quiet hnone
    split at hstep
    · cases hstep
      exact h
    next initiator env center hsent =>
      cases hstep
      have hoffers := (sendPairRequest_eq_ok hsent).2
      constructor
      · intro taken htaken
        exact absurd (hhanded.symm.trans htaken) (by simp)
      · intro hrequest
        cases hrequest
      · intro request other hrequest
        cases hrequest
        exact hoffers
      · intro other hother
        cases hother
        exact ⟨env, rfl⟩
      · intro request other hrequest hidle
        cases hidle
      · exact h.begun

theorem Tracked.store (h : s.Tracked deviceId)
    (hstep : step ctx deviceId s .store = some t) : t.Tracked deviceId := by
  obtain ⟨initiator, hstarting, rfl⟩ := Option.map_eq_some_iff.mp hstep
  obtain ⟨request, hrequest⟩ := h.starting initiator hstarting
  constructor
  · exact h.found
  · intro hnone
    exact absurd (hrequest.symm.trans hnone) (by simp)
  · exact h.offers
  · intro other hother
    cases hother
  · intro request' other hrequest' _ _
    obtain ⟨-, rfl⟩ := Prod.mk.inj (Option.some.inj (hrequest.symm.trans hrequest'))
    exact KeyMap.get_insert_self ..
  · exact h.begun

/-- Without being overtaken, the Initiator of the request is in the map when the challenge comes. -/
theorem Tracked.in_place (h : s.Tracked deviceId) {draws : Draws} {env : Envelope}
    (hkeeps : ¬ s.Overtakes deviceId (.challenge draws env)) (hawaits : s.Awaits deviceId env) :
    ∃ request initiator, s.request = some (request, initiator) ∧ Offers initiator request ∧
      s.pairing.get deviceId = some (.unpaired (.initiator initiator)) := by
  obtain ⟨⟨request, initiator⟩, hrequest⟩ := Option.isSome_iff_exists.mp hawaits.1
  have hhanded : s.handed = none := by simpa using hawaits.2.1
  refine ⟨request, initiator, hrequest, h.offers _ _ hrequest, ?_⟩
  cases hstarting : s.starting with
  | none => exact h.stored request initiator hrequest hstarting hhanded
  | some other =>
    obtain rfl := h.starting_eq hrequest hstarting
    by_contra hother
    exact hkeeps ⟨hawaits, initiator, hstarting, hother⟩

theorem Tracked.challenge (h : s.Tracked deviceId) {draws : Draws} {env : Envelope}
    (hkeeps : ¬ s.Overtakes deviceId (.challenge draws env))
    (hstep : step ctx deviceId s (.challenge draws env) = some t) : t.Tracked deviceId := by
  simp only [step] at hstep
  split at hstep
  next hawaits =>
    cases hstep
    obtain ⟨request, initiator, hrequest, hoffers, hstored⟩ := h.in_place hkeeps hawaits
    constructor
    · intro taken htaken
      refine ⟨request, initiator, hrequest, hoffers, ?_⟩
      calc
        taken = takenInitiator (Task.first env s.pairing).1 := (Option.some.inj htaken).symm
        _ = (s.pairing.takeUnpairedInitiator env.deviceId).1 :=
          takenInitiator_first hawaits.2.2.2 s.pairing
        _ = some initiator := by
          rw [hawaits.2.2.1]
          exact takeUnpairedInitiator_eq_some.mpr hstored
    · intro hnone
      exact absurd (hrequest.symm.trans hnone) (by simp)
    · exact h.offers
    · exact h.starting
    · intro _ _ _ _ hidle
      cases hidle
    · intro hidle
      cases hidle
  · cases hstep

theorem Tracked.finish (h : s.Tracked deviceId)
    (hstep : step ctx deviceId s .finish = some t) : t.Tracked deviceId := by
  obtain ⟨task, hdispatching, rfl⟩ := Option.map_eq_some_iff.mp hstep
  have hhanded : s.handed ≠ none := by
    intro hnone
    exact absurd (hdispatching.symm.trans (h.begun hnone)) (by simp)
  exact h.of_kept rfl rfl rfl fun hnone ↦ absurd hnone hhanded

theorem Tracked.elsewhere (h : s.Tracked deviceId) {draws : Draws} {env : Envelope}
    (hstep : step ctx deviceId s (.elsewhere draws env) = some t) : t.Tracked deviceId := by
  simp only [step] at hstep
  split at hstep
  · cases hstep
  next hother =>
    cases hstep
    refine h.of_kept rfl rfl rfl fun hnone ↦ ⟨h.begun hnone, ?_⟩
    simp only [pairing, dispatch_eq]
    exact KeyMap.get_set_of_ne _ _ (Ne.symm hother)

theorem Tracked.step (h : s.Tracked deviceId) {label : HandoverLabel}
    (hkeeps : ¬ s.Overtakes deviceId label) (hstep : step ctx deviceId s label = some t) :
    t.Tracked deviceId := by
  cases label with
  | request draws => exact h.request hstep
  | store => exact h.store hstep
  | challenge draws env => exact h.challenge hkeeps hstep
  | finish => exact h.finish hstep
  | elsewhere draws env => exact h.elsewhere hstep

/-- A challenge that overtakes the Initiator is handed to another one, or to none. -/
theorem Tracked.lost (h : s.Tracked deviceId) {label : HandoverLabel}
    (hovertakes : s.Overtakes deviceId label) :
    ∃ t, Handover.step ctx deviceId s label = some t ∧ ¬ t.Found := by
  cases label with
  | challenge draws env =>
    obtain ⟨hawaits, initiator, hstarting, hother⟩ := hovertakes
    refine ⟨_, if_pos hawaits, ?_⟩
    intro hfound
    obtain ⟨request, sent, hrequest, -, htaken⟩ := hfound _ rfl
    obtain rfl : sent = initiator := h.starting_eq hrequest hstarting
    apply hother
    apply takeUnpairedInitiator_eq_some.mp
    calc
      (s.pairing.takeUnpairedInitiator deviceId).1
        = (s.pairing.takeUnpairedInitiator env.deviceId).1 := by rw [hawaits.2.2.1]
      _ = takenInitiator (Task.first env s.pairing).1 :=
        (takenInitiator_first hawaits.2.2.2 s.pairing).symm
      _ = some sent := htaken
  | _ => exact hovertakes.elim

end Steps

/-- In every order of the steps, whatever was stored before, the challenge is handed to the Initiator
of its request exactly when it does not come before it is stored. -/
theorem challenge_finds_request_iff (ctx : WsContext) (deviceId : Uuid) (center : Center σ)
    (labels : List HandoverLabel) :
    Run.Always (step ctx deviceId) Found (start center) labels ↔
      Run.Throughout (step ctx deviceId) (fun s label ↦ ¬ s.Overtakes deviceId label)
        (start center) labels := by
  apply Run.always_iff_throughout (Tracked deviceId)
  · exact fun s hs ↦ hs.found
  · exact fun s label t hs hkeeps hstep ↦ hs.step hkeeps hstep
  · exact fun s label hs hlabel ↦ hs.lost (not_not.mp hlabel)
  · exact tracked_start deviceId center

/-! ## A quick phone -/

/-- When the phone answers before the Initiator is stored, its challenge never finds it, unless the
device already had exactly this Initiator. -/
theorem quick_challenge_is_lost {ctx : WsContext} {draws : Draws} {deviceId : Uuid}
    {center sent : Center σ} {initiator : Initiator} {request : Envelope} (later : Draws)
    (challenge : Envelope)
    (hsent : sendPairRequest ctx draws deviceId center = .ok (initiator, request, sent))
    (hprevious : center.sessions.pairing.get deviceId ≠ some (.unpaired (.initiator initiator)))
    (hdevice : challenge.deviceId = deviceId)
    (htype : challenge.messageType = .devicePairChallenge) :
    ¬ Run.Always (step ctx deviceId) Found (start center)
      [.request draws, .challenge later challenge, .store] := by
  rw [challenge_finds_request_iff]
  intro hkeeps
  have hstep : step ctx deviceId (start center) (.request draws) = some { start center with
      center := sent, request := some (request, initiator), starting := some initiator } := by
    simp only [step, start, Option.isSome_none, Bool.false_eq_true, reduceIte, hsent]
  apply (hkeeps.2 _ hstep).1
  refine ⟨⟨rfl, rfl, hdevice, htype⟩, initiator, rfl, ?_⟩
  rw [pairing, (sendPairRequest_eq_ok hsent).1]
  exact hprevious

/-- The phone 1 has connected and said hello. -/
def sampleGreeted : Center Unit where
  sessions := Sessions.empty.onHello sampleDraws ⟨1⟩
  registry := { inner := KeyMap.empty.insert ⟨1⟩ 0, outboxes := fun _ ↦ .new }
  store := ()

/-- The challenge of a phone that is quicker than `pair_start` finds its Responder only. -/
theorem quick_challenge_is_dropped : ¬ ∀ (ctx : WsContext) (deviceId : Uuid) (center : Center Unit)
    (labels : List HandoverLabel), Run.Always (step ctx deviceId) Found (start center) labels := by
  intro h
  have hsent : ∃ initiator request sent, sendPairRequest sampleContext sampleDraws ⟨1⟩
      sampleGreeted = .ok (initiator, request, sent) := ⟨_, _, _, rfl⟩
  obtain ⟨initiator, request, sent, hsent⟩ := hsent
  apply quick_challenge_is_lost sampleDraws (sampleRelay.challenge sampleDraws ⟨1⟩) hsent ?_ rfl rfl
  · exact h sampleContext ⟨1⟩ sampleGreeted _
  · intro hinit
    cases hinit

end Handover

end PhoneBridge.MessageCenter
