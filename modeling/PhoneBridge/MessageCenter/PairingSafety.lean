import PhoneBridge.MessageCenter.Rest
import PhoneBridge.Library.Run

/-!
# Pairing safety of the desktop

What the desktop requires before it stores a pairing. The machine takes any envelope of any device
at any time, any `pair_start`, and any change of the connections in between. The Initiator keeps
neither the order of the messages nor the expiry of the code, so the desktop is safe exactly in the
runs in which the phones themselves keep to the order and to the expiry.
-/

namespace PhoneBridge.MessageCenter

open Library Proto Net Crypto

variable {σ : Type}

/-- A step of the desktop's pairing: an envelope, a `pair_start`, or connections that change. -/
inductive PairingLabel
  | dispatch (draws : Draws) (env : Envelope)
  | pairStart (draws : Draws) (deviceId : Uuid)
  | relink (registry : DeviceRegistry)

def pairingStep (ctx : WsContext) (center : Center σ) : PairingLabel → Option (Center σ)
  | .dispatch draws env =>
    some { center with sessions := (Net.dispatch ctx draws env center.sessions).2 }
  | .pairStart draws deviceId => some (MessageCenter.pairStart ctx draws deviceId center).2
  | .relink registry => some { center with registry }

/-- The steps of the desktop so far, newest first, each with the state it was taken from. -/
abbrev PairingPast (σ : Type) := List (Center σ × PairingLabel)

/-- A desktop with no sessions. -/
def noSessions (registry : DeviceRegistry) (store : σ) : Center σ :=
  { sessions := .empty, registry, store }

/-! ## What happens in one step -/

/-- The Initiator in flight for a device. -/
def initiatorAt (center : Center σ) (deviceId : Uuid) : Option Initiator :=
  match center.sessions.pairing.get deviceId with
  | some (.unpaired (.initiator init)) => some init
  | _ => none

/-- The expiry of the challenge that the dispatcher accepts with this envelope. -/
def acceptedChallenge (center : Center σ) (draws : Draws) (env : Envelope) : Option Int64 :=
  (initiatorAt center env.deviceId).bind fun init ↦
    if (init.onChallenge draws env).isOk then
      (env.parsePayload PairChallenge.parse).toOption.map PairChallenge.expiresAt
    else none

/-- A `pair.confirm` with `accepted = true`. -/
def isConfirm (env : Envelope) : Prop :=
  env.messageType = .devicePairConfirm ∧
    (env.parsePayload PairConfirm.parse).toOption = some { accepted := true }

/-- A `pair.complete` with a readable certificate and fingerprint. -/
def isComplete (env : Envelope) : Prop :=
  env.messageType = .devicePairComplete ∧ (readComplete env).isOk = true

instance (env : Envelope) : Decidable (isConfirm env) := by
  unfold isConfirm
  infer_instance

instance (env : Envelope) : Decidable (isComplete env) := by
  unfold isComplete
  infer_instance

/-- Is the step a `pair_start` that stores a new Initiator for the device? -/
def startsSession (ctx : WsContext) (deviceId : Uuid) (visit : Center σ × PairingLabel) : Bool :=
  match visit.2 with
  | .pairStart draws target =>
    target = deviceId ∧ (pairStart ctx draws target visit.1).1.status = 200
  | _ => false

/-- The steps since the device's Initiator was created. -/
def sinceStart (ctx : WsContext) (deviceId : Uuid) (past : PairingPast σ) : PairingPast σ :=
  past.takeWhile fun visit ↦ !startsSession ctx deviceId visit

/-- The step accepts a challenge of the device that expires at this time. -/
def Accepts (deviceId : Uuid) (expiresAt : Int64) (visit : Center σ × PairingLabel) : Prop :=
  ∃ draws env, visit.2 = .dispatch draws env ∧ env.deviceId = deviceId ∧
    acceptedChallenge visit.1 draws env = some expiresAt

/-- The step receives the device's confirmation, not later than this time. -/
def Confirms (deviceId : Uuid) (expiresAt : Int64) (visit : Center σ × PairingLabel) : Prop :=
  ∃ draws env, visit.2 = .dispatch draws env ∧ env.deviceId = deviceId ∧
    (initiatorAt visit.1 deviceId).isSome = true ∧ isConfirm env ∧ draws.now ≤ expiresAt

/-- Some step accepted a challenge that expires at this time. -/
def Challenged (deviceId : Uuid) (expiresAt : Int64) (visits : PairingPast σ) : Prop :=
  ∃ visit ∈ visits, Accepts deviceId expiresAt visit

/-- Some step accepted a challenge and a later one received the confirmation before its expiry. -/
def Confirmed (deviceId : Uuid) (expiresAt : Int64) (visits : PairingPast σ) : Prop :=
  ∃ newer visit older, visits = newer ++ visit :: older ∧ Confirms deviceId expiresAt visit ∧
    Challenged deviceId expiresAt older

/-- A `pair_start` created the session, and this holds of the steps since then. -/
def SinceStart (ctx : WsContext) (deviceId : Uuid) (past : PairingPast σ)
    (p : PairingPast σ → Prop) : Prop :=
  (∃ visit ∈ past, startsSession ctx deviceId visit = true) ∧ p (sinceStart ctx deviceId past)

/-- An Initiator's session becomes Paired only by a `pair.complete` after an accepted challenge
and a confirmation, all before the expiry, and the desktop sends its own `pair.complete` only as
its answer to such a confirmation. -/
def SafeStep (ctx : WsContext) (center : Center σ) (past : PairingPast σ) : PairingLabel → Prop
  | .dispatch draws env =>
    let result := Net.dispatch ctx draws env center.sessions
    ((∃ init paired, center.sessions.pairing.get env.deviceId = some (.unpaired (.initiator init)) ∧
        result.2.pairing.get env.deviceId = some (.paired paired)) →
      env.messageType = .devicePairComplete ∧
      SinceStart ctx env.deviceId past fun visits ↦
        ∃ expiresAt, Confirmed env.deviceId expiresAt visits ∧ draws.now ≤ expiresAt) ∧
    (∀ reply, result.1 = some reply → reply.messageType = .devicePairComplete →
      isConfirm env ∧
      SinceStart ctx env.deviceId past fun visits ↦
        ∃ expiresAt, Challenged env.deviceId expiresAt visits ∧ draws.now ≤ expiresAt)
  | _ => True

/-! ## What the phones have to keep to -/

/-- How far the phone has come with the current Initiator: the latest expiry of the challenges
that were accepted, and of those that were confirmed in time. -/
structure Progress where
  challenged : Option Int64
  confirmed : Option Int64

/-- The later of two optional expiries. -/
def later (expiresAt : Int64) : Option Int64 → Int64
  | some other => if other ≤ expiresAt then expiresAt else other
  | none => expiresAt

/-- Is this time not later than an expiry that is there? -/
def InTime (now : Int64) (expiresAt : Option Int64) : Prop := ∃ e, expiresAt = some e ∧ now ≤ e

instance (now : Int64) (expiresAt : Option Int64) : Decidable (InTime now expiresAt) :=
  match expiresAt with
  | some e => decidable_of_iff (now ≤ e) (by simp [InTime])
  | none => .isFalse (by simp [InTime])

/-- The progress after one more envelope of the device. -/
def Progress.receive (progress : Progress) (center : Center σ) (draws : Draws) (env : Envelope) :
    Progress :=
  match acceptedChallenge center draws env with
  | some expiresAt => { progress with challenged := some (later expiresAt progress.challenged) }
  | none =>
    if (initiatorAt center env.deviceId).isSome ∧ isConfirm env ∧
        InTime draws.now progress.challenged then
      { progress with confirmed := progress.challenged }
    else progress

/-- The progress of a device over the steps so far. -/
def progress (ctx : WsContext) (deviceId : Uuid) : PairingPast σ → Progress
  | [] => { challenged := none, confirmed := none }
  | (center, .pairStart draws target) :: past =>
    if startsSession ctx deviceId (center, .pairStart draws target) then
      { challenged := none, confirmed := none }
    else progress ctx deviceId past
  | (center, .dispatch draws env) :: past =>
    if env.deviceId = deviceId then (progress ctx deviceId past).receive center draws env
    else progress ctx deviceId past
  | (_, .relink _) :: past => progress ctx deviceId past

/-- While an Initiator is in flight, the phone sends its accepting confirmation only before an
accepted challenge expires, and a readable `pair.complete` only before a confirmed one does. -/
def InOrder (ctx : WsContext) (center : Center σ) (past : PairingPast σ) : PairingLabel → Prop
  | .dispatch draws env =>
    (initiatorAt center env.deviceId).isSome = true →
      (isConfirm env → InTime draws.now (progress ctx env.deviceId past).challenged) ∧
      (isComplete env → InTime draws.now (progress ctx env.deviceId past).confirmed)
  | _ => True

/-! ## The progress describes the steps since the start -/

theorem le_later {t expiresAt : Int64} {other : Option Int64} :
    t ≤ later expiresAt other ↔ t ≤ expiresAt ∨ InTime t other := by
  cases other with
  | none => simp [later, InTime]
  | some e =>
    simp only [later, InTime, Option.some.injEq, exists_eq_left', Int64.le_iff_toInt_le]
    split <;> omega

/-- The progress says of every time whether an accepted, or a confirmed, challenge is still valid
then. -/
structure Describes (progress : Progress) (deviceId : Uuid) (visits : PairingPast σ) : Prop where
  challenged : ∀ t, InTime t progress.challenged ↔ ∃ e, Challenged deviceId e visits ∧ t ≤ e
  confirmed : ∀ t, InTime t progress.confirmed ↔ ∃ e, Confirmed deviceId e visits ∧ t ≤ e

theorem challenged_cons {deviceId : Uuid} {e : Int64} {visit : Center σ × PairingLabel}
    {visits : PairingPast σ} :
    Challenged deviceId e (visit :: visits) ↔
      Accepts deviceId e visit ∨ Challenged deviceId e visits := by
  simp [Challenged]

theorem confirmed_cons {deviceId : Uuid} {e : Int64} {visit : Center σ × PairingLabel}
    {visits : PairingPast σ} :
    Confirmed deviceId e (visit :: visits) ↔
      (Confirms deviceId e visit ∧ Challenged deviceId e visits) ∨
        Confirmed deviceId e visits := by
  constructor
  · rintro ⟨newer, confirm, older, hsplit, hconfirm, hchallenged⟩
    cases newer with
    | nil =>
      cases hsplit
      exact .inl ⟨hconfirm, hchallenged⟩
    | cons first newer =>
      cases hsplit
      exact .inr ⟨newer, confirm, older, rfl, hconfirm, hchallenged⟩
  · rintro (⟨hconfirm, hchallenged⟩ | ⟨newer, confirm, older, rfl, hconfirm, hchallenged⟩)
    · exact ⟨[], visit, visits, rfl, hconfirm, hchallenged⟩
    · exact ⟨visit :: newer, confirm, older, rfl, hconfirm, hchallenged⟩

theorem describes_nil (deviceId : Uuid) :
    Describes (σ := σ) { challenged := none, confirmed := none } deviceId [] where
  challenged := by simp [InTime, Challenged]
  confirmed := by simp [InTime, Confirmed]

@[simp]
theorem accepts_dispatch {deviceId : Uuid} {e : Int64} {center : Center σ} {draws : Draws}
    {env : Envelope} :
    Accepts deviceId e (center, .dispatch draws env) ↔
      env.deviceId = deviceId ∧ acceptedChallenge center draws env = some e := by
  simp [Accepts]

@[simp]
theorem confirms_dispatch {deviceId : Uuid} {e : Int64} {center : Center σ} {draws : Draws}
    {env : Envelope} :
    Confirms deviceId e (center, .dispatch draws env) ↔
      env.deviceId = deviceId ∧ (initiatorAt center deviceId).isSome = true ∧ isConfirm env ∧
        draws.now ≤ e := by
  simp [Confirms]

/-- An accepted challenge is a `pair.challenge`. -/
theorem messageType_of_acceptedChallenge {center : Center σ} {draws : Draws} {env : Envelope}
    {e : Int64} (h : acceptedChallenge center draws env = some e) :
    env.messageType = .devicePairChallenge := by
  obtain ⟨init, -, hchallenge⟩ := Option.bind_eq_some_iff.mp h
  cases hresult : init.onChallenge draws env with
  | error e => simp [hresult, Except.isOk, Except.toBool] at hchallenge
  | ok next => exact (Initiator.onChallenge_eq_ok.mp hresult).1

section Describes

variable {p : Progress} {deviceId : Uuid} {visits : PairingPast σ}

/-- A challenge that is still valid at some time shows a latest one. -/
theorem Describes.latest (h : Describes p deviceId visits) {e : Int64}
    (hchallenged : Challenged deviceId e visits) : InTime e p.challenged :=
  (h.challenged e).mpr ⟨e, hchallenged, Int64.le_refl e⟩

/-- A step that accepts nothing and confirms nothing leaves the description as it is. -/
theorem Describes.skip (h : Describes p deviceId visits) (visit : Center σ × PairingLabel)
    (haccepts : ∀ e, ¬ Accepts deviceId e visit)
    (hconfirms : ∀ e, Confirms deviceId e visit → ¬ Challenged deviceId e visits) :
    Describes p deviceId (visit :: visits) where
  challenged t := by simpa [challenged_cons, haccepts] using h.challenged t
  confirmed t := by
    have hnone : ∀ e, ¬ (Confirms deviceId e visit ∧ Challenged deviceId e visits) :=
      fun e hboth ↦ hconfirms e hboth.1 hboth.2
    simpa [confirmed_cons, hnone] using h.confirmed t

/-- The description is kept up with each envelope of the device. -/
theorem Describes.receive {center : Center σ} {draws : Draws} {env : Envelope}
    (h : Describes p env.deviceId visits) :
    Describes (p.receive center draws env) env.deviceId ((center, .dispatch draws env) :: visits)
    := by
  unfold Progress.receive
  cases haccepted : acceptedChallenge center draws env with
  | some expiresAt =>
    have hconfirm : ¬ isConfirm env := fun hconfirm ↦ by
      simp [isConfirm, messageType_of_acceptedChallenge haccepted] at hconfirm
    refine ⟨fun t ↦ ?_, fun t ↦ ?_⟩
    · constructor
      · rintro ⟨e, he, ht⟩
        cases he
        rcases le_later.mp ht with ht | ht
        · exact ⟨expiresAt, challenged_cons.mpr (.inl (by simpa using haccepted)), ht⟩
        · obtain ⟨e, hchallenged, ht⟩ := (h.challenged t).mp ht
          exact ⟨e, challenged_cons.mpr (.inr hchallenged), ht⟩
      · rintro ⟨e, hchallenged, ht⟩
        refine ⟨_, rfl, le_later.mpr ?_⟩
        rcases challenged_cons.mp hchallenged with haccepts | hchallenged
        · rw [accepts_dispatch, haccepted] at haccepts
          cases haccepts.2
          exact .inl ht
        · exact .inr ((h.challenged t).mpr ⟨e, hchallenged, ht⟩)
    · simpa [confirmed_cons, hconfirm] using h.confirmed t
  | none =>
    dsimp only
    split
    · next hconfirms =>
      obtain ⟨hinit, hconfirm, latest, hlatest, hnow⟩ := hconfirms
      refine ⟨fun t ↦ by simpa [challenged_cons, haccepted] using h.challenged t, fun t ↦ ?_⟩
      constructor
      · intro ht
        -- the latest challenge itself is confirmed by this step
        obtain ⟨e, hchallenged, hle⟩ := (h.challenged latest).mp ⟨latest, hlatest, Int64.le_refl _⟩
        obtain ⟨last, hlast, ht⟩ : InTime t p.challenged := ht
        cases hlatest.symm.trans hlast
        refine ⟨e, confirmed_cons.mpr (.inl ⟨?_, hchallenged⟩), Int64.le_trans ht hle⟩
        simpa [hinit, hconfirm] using Int64.le_trans hnow hle
      · rintro ⟨e, hconfirmed, ht⟩
        have hchallenged : Challenged env.deviceId e visits := by
          rcases confirmed_cons.mp hconfirmed with ⟨-, hchallenged⟩ | hearlier
          · exact hchallenged
          · obtain ⟨newer, visit, older, rfl, -, challenge, hmem, haccepts⟩ := hearlier
            exact ⟨challenge, by simp [hmem], haccepts⟩
        exact (h.challenged t).mpr ⟨e, hchallenged, ht⟩
    · next hconfirms =>
      refine h.skip _ (by simp [haccepted]) fun e hconfirm hchallenged ↦ ?_
      obtain ⟨-, hinit, hconfirm, hnow⟩ := confirms_dispatch.mp hconfirm
      obtain ⟨latest, hlatest, hle⟩ := h.latest hchallenged
      exact hconfirms ⟨hinit, hconfirm, latest, hlatest, Int64.le_trans hnow hle⟩

end Describes

/-- The progress of a device describes the steps since its Initiator was created. -/
theorem describes_progress (ctx : WsContext) (deviceId : Uuid) (past : PairingPast σ) :
    Describes (progress ctx deviceId past) deviceId (sinceStart ctx deviceId past) := by
  induction past with
  | nil => exact describes_nil deviceId
  | cons visit past ih =>
    obtain ⟨center, label⟩ := visit
    cases label with
    | relink registry =>
      refine ih.skip (center, .relink registry) ?_ ?_
      · simp [Accepts]
      · simp [Confirms]
    | pairStart draws target =>
      by_cases hstart : startsSession ctx deviceId (center, .pairStart draws target) = true
      · simpa [progress, sinceStart, hstart] using describes_nil deviceId
      · have hskip := ih.skip (center, .pairStart draws target) (by simp [Accepts])
          (by simp [Confirms])
        simpa [progress, sinceStart, hstart] using hskip
    | dispatch draws env =>
      by_cases hdevice : env.deviceId = deviceId
      · subst hdevice
        simpa [progress, sinceStart, startsSession] using ih.receive
      · have hskip := ih.skip (center, .dispatch draws env)
          (by simp [hdevice]) (by simp [hdevice])
        simpa [progress, sinceStart, startsSession, hdevice] using hskip

/-! ## The desktop is safe exactly when the phones keep to the order -/

theorem initiatorAt_eq_some {center : Center σ} {deviceId : Uuid} {init : Initiator} :
    initiatorAt center deviceId = some init ↔
      center.sessions.pairing.get deviceId = some (.unpaired (.initiator init)) := by
  unfold initiatorAt
  split
  · next other hother => simp [hother]
  · next hother =>
    simp only [reduceCtorEq, false_iff]
    exact hother init

/-- What an Initiator's session becomes. -/
theorem pairing_after_initiator {ctx : WsContext} {center : Center σ} {draws : Draws}
    {env : Envelope} {init : Initiator} (h : initiatorAt center env.deviceId = some init) :
    (Net.dispatch ctx draws env center.sessions).2.pairing.get env.deviceId =
      DeviceSession.after draws env (some (.unpaired (.initiator init))) := by
  rw [dispatch_eq, KeyMap.get_set_self, initiatorAt_eq_some.mp h]

/-- An Initiator becomes Paired by a readable `pair.complete` and by nothing else. -/
theorem paired_iff_isComplete {draws : Draws} {env : Envelope} {init : Initiator} :
    (∃ paired, DeviceSession.after draws env (some (.unpaired (.initiator init))) =
      some (.paired paired)) ↔ isComplete env := by
  by_cases htype : env.messageType = .devicePairComplete
  · cases hread : readComplete env <;>
      simp [DeviceSession.after, htype, Initiator.onComplete, checkComplete, hread, isComplete,
        ensure, bind, Except.bind, pure, Except.pure, Except.toOption, Except.isOk, Except.toBool,
        Sessions.pairedWith]
  · simp only [isComplete, htype, false_and, iff_false, not_exists]
    intro paired hpaired
    unfold DeviceSession.after at hpaired
    split at hpaired
    case h_2 => split at hpaired <;> simp at hpaired
    case h_3 => split at hpaired <;> simp at hpaired
    all_goals simp_all

/-- The desktop sends its `pair.complete` in answer to an accepting confirmation of an Initiator's
device and to nothing else. -/
theorem sends_complete_iff_isConfirm {ctx : WsContext} {center : Center σ} {draws : Draws}
    {env : Envelope} :
    (∃ reply, (Net.dispatch ctx draws env center.sessions).1 = some reply ∧
        reply.messageType = .devicePairComplete) ↔
      (initiatorAt center env.deviceId).isSome = true ∧ isConfirm env := by
  rw [dispatch_eq]
  constructor
  · rintro ⟨reply, hreply, htype⟩
    dsimp only at hreply
    unfold DeviceSession.reply at hreply
    split at hreply
    · cases hreply
      cases htype
    · split at hreply
      · cases hreply
      · cases hreply
        cases htype
    · next init hconfirm hinit =>
      split at hreply
      · next haccepted =>
        have hsome := initiatorAt_eq_some.mpr hinit
        exact ⟨by simp [hsome], hconfirm, haccepted⟩
      · cases hreply
    · cases hreply
  · rintro ⟨hsome, hconfirm, haccepted⟩
    obtain ⟨init, hinit⟩ := Option.isSome_iff_exists.mp hsome
    refine ⟨init.buildCompleteEnvelope draws ctx.ourDeviceId, ?_, rfl⟩
    rw [Envelope.parsePayload_eq] at haccepted
    simp [DeviceSession.reply, hconfirm, initiatorAt_eq_some.mp hinit, haccepted]

/-- Every Initiator in flight was created by a `pair_start`. -/
def Started (ctx : WsContext) (center : Center σ) (past : PairingPast σ) : Prop :=
  ∀ deviceId, (initiatorAt center deviceId).isSome = true →
    ∃ visit ∈ past, startsSession ctx deviceId visit = true

theorem started_step {ctx : WsContext} {center next : Center σ} {past : PairingPast σ}
    {label : PairingLabel} (h : Started ctx center past)
    (hstep : pairingStep ctx center label = some next) :
    Started ctx next ((center, label) :: past) := by
  have hkeep : ∀ deviceId, (initiatorAt center deviceId).isSome = true →
      ∃ visit ∈ (center, label) :: past, startsSession ctx deviceId visit = true := by
    intro deviceId hinit
    obtain ⟨visit, hmem, hstart⟩ := h deviceId hinit
    exact ⟨visit, List.mem_cons_of_mem _ hmem, hstart⟩
  intro deviceId hinit
  obtain ⟨init, hinit⟩ := Option.isSome_iff_exists.mp hinit
  cases label with
  | relink registry =>
    cases hstep
    exact hkeep deviceId (by simpa [initiatorAt] using congrArg Option.isSome hinit)
  | pairStart draws target =>
    cases hstep
    rw [initiatorAt_eq_some] at hinit
    rcases pairStart_sessions ctx draws target center with ⟨hstatus, fresh, -, hsessions⟩ | hfailed
    · by_cases htarget : deviceId = target
      · exact ⟨_, List.mem_cons_self, by simp [startsSession, htarget, hstatus]⟩
      · rw [hsessions, Sessions.insert, KeyMap.get_insert_of_ne _ _ htarget] at hinit
        exact hkeep deviceId (by simp [initiatorAt_eq_some.mpr hinit])
    · rw [hfailed.2] at hinit
      exact hkeep deviceId (by simp [initiatorAt_eq_some.mpr hinit])
  | dispatch draws env =>
    cases hstep
    rw [initiatorAt_eq_some] at hinit
    by_cases hdevice : deviceId = env.deviceId
    · subst hdevice
      refine hkeep env.deviceId ?_
      rw [dispatch_eq, KeyMap.get_set_self] at hinit
      obtain ⟨before, hbefore⟩ := initiator_of_after hinit
      simp [initiatorAt_eq_some.mpr hbefore]
    · rw [dispatch_eq, KeyMap.get_set_of_ne _ _ hdevice] at hinit
      exact hkeep deviceId (by simp [initiatorAt_eq_some.mpr hinit])

/-- In a state that a run can reach, a step is safe exactly when the phone keeps to the order. -/
theorem safeStep_iff_inOrder {ctx : WsContext} {center : Center σ} {past : PairingPast σ}
    (hstarted : Started ctx center past) (label : PairingLabel) :
    SafeStep ctx center past label ↔ InOrder ctx center past label := by
  cases label with
  | pairStart draws deviceId => simp [SafeStep, InOrder]
  | relink registry => simp [SafeStep, InOrder]
  | dispatch draws env =>
    have hdescribes := describes_progress ctx env.deviceId past
    constructor
    · rintro ⟨hpaired, hsends⟩ hsome
      obtain ⟨init, hinit⟩ := Option.isSome_iff_exists.mp hsome
      refine ⟨fun hconfirm ↦ ?_, fun hcomplete ↦ ?_⟩
      · obtain ⟨reply, hreply, htype⟩ := sends_complete_iff_isConfirm.mpr ⟨hsome, hconfirm⟩
        obtain ⟨-, -, hchallenged⟩ := hsends reply hreply htype
        exact (hdescribes.challenged draws.now).mpr hchallenged
      · obtain ⟨paired, hafter⟩ := paired_iff_isComplete.mpr hcomplete
        obtain ⟨-, -, hconfirmed⟩ := hpaired ⟨init, paired, initiatorAt_eq_some.mp hinit,
          (pairing_after_initiator hinit).trans hafter⟩
        exact (hdescribes.confirmed draws.now).mpr hconfirmed
    · intro horder
      refine ⟨?_, fun reply hreply htype ↦ ?_⟩
      · rintro ⟨init, paired, hsession, hafter⟩
        have hinit := initiatorAt_eq_some.mpr hsession
        have hcomplete := paired_iff_isComplete.mp
          ⟨paired, (pairing_after_initiator hinit).symm.trans hafter⟩
        have hsome : (initiatorAt center env.deviceId).isSome = true := by simp [hinit]
        exact ⟨hcomplete.1, hstarted env.deviceId hsome,
          (hdescribes.confirmed draws.now).mp ((horder hsome).2 hcomplete)⟩
      · obtain ⟨hsome, hconfirm⟩ := sends_complete_iff_isConfirm.mp ⟨reply, hreply, htype⟩
        exact ⟨hconfirm, hstarted env.deviceId hsome,
          (hdescribes.challenged draws.now).mp ((horder hsome).1 hconfirm)⟩

/-- In every run from a desktop without sessions, all steps are safe exactly when all envelopes
arrive in order. -/
theorem safe_iff_in_order (ctx : WsContext) (registry : DeviceRegistry) (store : σ)
    (labels : List PairingLabel) :
    Run.Throughout (Run.recorded (pairingStep ctx))
        (fun visit label ↦ SafeStep ctx visit.1 visit.2 label)
        (noSessions registry store, []) labels ↔
      Run.Throughout (Run.recorded (pairingStep ctx))
        (fun visit label ↦ InOrder ctx visit.1 visit.2 label)
        (noSessions registry store, []) labels := by
  refine Run.throughout_congr (fun visit ↦ Started ctx visit.1 visit.2) ?_ ?_ ?_
  · rintro ⟨center, past⟩ label ⟨next, past'⟩ hstarted hstep
    obtain ⟨hnext, rfl⟩ := Run.recorded_eq_some.mp hstep
    exact started_step hstarted hnext
  · rintro ⟨center, past⟩ label hstarted
    exact safeStep_iff_inOrder hstarted label
  · intro deviceId hinit
    simp [initiatorAt, noSessions, Sessions.empty] at hinit

/-! ## A certificate without a challenge -/

/-- The phone 1 is connected. -/
def sampleRegistry : DeviceRegistry :=
  { inner := KeyMap.empty.insert ⟨1⟩ 0, outboxes := fun _ ↦ .new }

/-- The phone's certificate, sent at once. -/
def sampleComplete : Envelope :=
  sampleDraws.envelope .devicePairComplete ⟨1⟩ (PairComplete.toValue {
    certPem := sampleIdentity.certPem
    certFingerprint := sampleIdentity.fingerprint })

/-- A `pair.complete` that nothing precedes turns the session of a `pair_start` into Paired. -/
theorem unchallenged_complete_pairs : ¬ ∀ labels : List PairingLabel,
    Run.Throughout (Run.recorded (pairingStep sampleContext))
      (fun visit label ↦ SafeStep sampleContext visit.1 visit.2 label)
      (noSessions sampleRegistry (), []) labels := by
  intro h
  have hsafe :=
    ((h [.pairStart sampleDraws ⟨1⟩, .dispatch sampleDraws sampleComplete]).2 _ rfl).1
  obtain ⟨-, -, expiresAt, ⟨newer, visit, older, hsplit, -⟩, -⟩ := hsafe.1 ⟨_, _, rfl, rfl⟩
  cases newer <;> cases hsplit
end PhoneBridge.MessageCenter
