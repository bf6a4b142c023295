import PhoneBridge.Pairing.Duo

/-!
# Pairing that the phone initiates

The phone sends a `pair.request`, the operator accepts it on the web console, and the phone answers
the confirmation with its certificate. The desktop never sends a certificate of its own in this
flow: whatever the order of the deliveries, the phone stays unpaired.
-/

namespace PhoneBridge.Pairing

open Library Proto Net MessageCenter Android Crypto

variable {σ : Type} {setup : Setup σ} {duo next : Duo σ} {label : DuoLabel}

/-- An idle phone and no pairing messages in flight. -/
structure Ready (setup : Setup σ) (duo : Duo σ) : Prop where
  idle : duo.phone.state = .idle
  up : duo.upPairing = []
  down : duo.downPairing setup = []
  isOpen : duo.isOpen setup = true

/-- The phone calls `initiate`, the operator's `incoming_accept` of the parked request answers 200,
and in the end every message has been delivered. -/
structure PhoneInitiatedRun (setup : Setup σ) (start final : Duo σ) : Prop where
  ready : Ready setup start
  accepted : ∃ first middle last initDraws acceptDraws parked,
    Run.exec (Duo.step setup) start (first ++ .initiate initDraws :: middle) = some parked ∧
    (MessageCenter.incomingAccept setup.ctx acceptDraws setup.deviceId parked.center).1.status
      = 200 ∧
    Run.exec (Duo.step setup) parked (.incomingAccept acceptDraws :: last) = some final
  delivered : final.Delivered setup

/-- The desktop holds Paired with the phone's fingerprint, and the phone is Paired with the
desktop's. -/
def Agreement (setup : Setup σ) (desktopFingerprint : String) (duo : Duo σ) : Prop :=
  (∃ session, duo.session setup = some (.paired session) ∧
    session.certFingerprint = setup.store.identity.fingerprint) ∧
  ∃ ourDeviceId peerDeviceId,
    duo.phone.state = .paired ourDeviceId peerDeviceId desktopFingerprint

/-- The states of the phone in this flow. -/
def PhoneLed : PairingState → Prop
  | .showingCode .. | .paired .. => False
  | _ => True

/-- The desktop has only confirmations in flight, the phone only requests and certificates. -/
structure NoDesktopCertificate (setup : Setup σ) (duo : Duo σ) : Prop where
  phone : PhoneLed duo.phone.state
  up : ∀ env ∈ duo.upPairing,
    env.messageType = .devicePairRequest ∨ env.messageType = .devicePairComplete
  down : ∀ env ∈ duo.downPairing setup, env.messageType = .devicePairConfirm
  isOpen : duo.isOpen setup = true

theorem noDesktopCertificate_of_ready (h : Ready setup duo) : NoDesktopCertificate setup duo where
  phone := by
    rw [h.idle]
    trivial
  up := by simp [h.up]
  down := by simp [h.down]
  isOpen := h.isOpen

section Calls

variable (setup) {phone : PairingMachine}

theorem phoneLed_initiate (draws : Android.Draws) (h : PhoneLed phone.state) :
    PhoneLed (phone.initiate setup.store draws).2.state ∧
      ∀ env ∈ sent (phone.initiate setup.store draws), env.messageType = .devicePairRequest := by
  unfold PairingMachine.initiate
  split
  · exact ⟨trivial, fun env henv ↦
      messageType_of_mem_sent (rfl : isPairing .devicePairRequest = true) henv⟩
  · exact ⟨h, by simp⟩

theorem userAccepts_phoneLed (draws : Android.Draws) (h : PhoneLed phone.state) :
    phone.userAccepts setup.store draws = (none, phone) := by
  unfold PairingMachine.userAccepts
  split
  · next hstate =>
    rw [hstate] at h
    exact h.elim
  · rfl

theorem userRejects_phoneLed (draws : Android.Draws) (reason : String)
    (h : PhoneLed phone.state) :
    phone.userRejects setup.store draws reason = (none, phone) := by
  unfold PairingMachine.userRejects
  split
  · next hstate =>
    rw [hstate] at h
    exact h.elim
  · rfl

/-- The phone's own certificate is all that it answers a confirmation with. -/
theorem phoneLed_react_confirm (draws : Android.Draws) {env : Proto.Envelope}
    (hconfirm : env.messageType = .devicePairConfirm) (h : PhoneLed phone.state) :
    PhoneLed (Duo.react setup phone draws env).2.state ∧
      ∀ reply ∈ sent (Duo.react setup phone draws env),
        reply.messageType = .devicePairComplete := by
  rw [react_confirm phone draws hconfirm]
  unfold PairingMachine.onInitiatorConfirm
  split
  · split
    · exact ⟨h, by simp⟩
    split
    · exact ⟨trivial, by simp⟩
    split
    · exact ⟨h, by simp⟩
    · refine ⟨trivial, fun reply hreply ↦ ?_⟩
      cases hidentity : phone.longTerm with
      | none => simp [PairingMachine.makeComplete, hidentity] at hreply
      | some identity =>
        rw [PairingMachine.makeComplete, hidentity, Option.map_some] at hreply
        exact messageType_of_mem_sent (rfl : isPairing .devicePairComplete = true) hreply
  · exact ⟨h, by simp⟩

end Calls

theorem noDesktopCertificate_step (h : NoDesktopCertificate setup duo)
    (hstep : duo.step setup label = some next) : NoDesktopCertificate setup next := by
  obtain ⟨heffect, hopen⟩ := effect_of_step h.isOpen hstep
  cases heffect with
  | upOther arrival hup hdown =>
    exact ⟨hup.phone ▸ h.phone, hup.up ▸ h.up, hdown ▸ h.down, hopen⟩
  | up arrival env hup hphone hdown =>
    have henv := h.up env (hup ▸ List.mem_cons_self)
    have hquiet : ∀ reply ∈ (answer setup duo.center arrival env).toList.filter
        (fun env ↦ isPairing env.messageType), False := by
      intro reply hreply
      obtain ⟨hanswer, htype⟩ := List.mem_filter.mp hreply
      rcases isPairing_answer (Option.mem_toList.mp hanswer) htype with hchallenge | hconfirm
      · rcases henv with h | h <;> rw [h] at hchallenge <;> cases hchallenge
      · rcases henv with h | h <;> rw [h] at hconfirm <;> cases hconfirm
    refine ⟨hphone ▸ h.phone, fun other hother ↦ h.up other ?_, fun other hother ↦ ?_, hopen⟩
    · exact hup ▸ List.mem_cons_of_mem _ hother
    · rw [hdown, List.mem_append] at hother
      exact hother.elim (h.down other) fun hreply ↦ (hquiet other hreply).elim
  | downOther draws hup hdown =>
    exact ⟨hup.phone ▸ h.phone, hup.up ▸ h.up, hdown.down ▸ h.down, hopen⟩
  | down draws env hdown hsession hphone hup =>
    have hconfirm := h.down env (hdown ▸ List.mem_cons_self)
    obtain ⟨hled, hreply⟩ := phoneLed_react_confirm setup draws hconfirm h.phone
    refine ⟨hphone ▸ hled, fun other hother ↦ ?_, fun other hother ↦ h.down other ?_, hopen⟩
    · rw [hup, List.mem_append] at hother
      exact hother.elim (h.up other) fun hsent ↦ .inr (hreply other hsent)
    · exact hdown ▸ List.mem_cons_of_mem _ hother
  | call label result hcall hphone hup hdown =>
    rcases hcall with ⟨draws, rfl, rfl⟩ | ⟨draws, rfl, rfl⟩ | ⟨draws, reason, rfl, rfl⟩
    · obtain ⟨hled, hrequest⟩ := phoneLed_initiate setup draws h.phone
      refine ⟨hphone ▸ hled, fun other hother ↦ ?_, hdown.down ▸ h.down, hopen⟩
      rw [hup, List.mem_append] at hother
      exact hother.elim (h.up other) fun hsent ↦ .inl (hrequest other hsent)
    · rw [userAccepts_phoneLed setup draws h.phone] at hphone hup
      rw [sent_none, List.append_nil] at hup
      exact ⟨hphone ▸ h.phone, hup ▸ h.up, hdown.down ▸ h.down, hopen⟩
    · rw [userRejects_phoneLed setup draws reason h.phone] at hphone hup
      rw [sent_none, List.append_nil] at hup
      exact ⟨hphone ▸ h.phone, hup ▸ h.up, hdown.down ▸ h.down, hopen⟩
  | traffic frame hup hdown =>
    exact ⟨hup.phone ▸ h.phone, hup.up ▸ h.up, hdown.down ▸ h.down, hopen⟩
  | incomingAccept draws hup hsession hdown =>
    refine ⟨hup.phone ▸ h.phone, hup.up ▸ h.up, fun other hother ↦ ?_, hopen⟩
    exact (hdown other hother).elim (h.down other) id

/-- No run from a ready state pairs the phone. -/
theorem not_paired_of_run {labels : List DuoLabel} (hready : Ready setup duo)
    (hrun : Run.exec (Duo.step setup) duo labels = some next) (desktopFingerprint : String) :
    ¬ Agreement setup desktopFingerprint next := by
  have hinv := Run.invariant (NoDesktopCertificate setup)
    (fun _ _ _ h hstep ↦ noDesktopCertificate_step h hstep) hrun
    (noDesktopCertificate_of_ready hready)
  rintro ⟨-, ourDeviceId, peerDeviceId, hstate⟩
  have hphone := hinv.phone
  rw [hstate] at hphone
  exact hphone

/-- A pairing that the phone initiates never ends in agreement. -/
theorem phone_initiated_never_agrees (start final : Duo σ)
    (hrun : PhoneInitiatedRun setup start final) (desktopFingerprint : String) :
    ¬ Agreement setup desktopFingerprint final := by
  obtain ⟨first, middle, last, initDraws, acceptDraws, parked, hfirst, -, hlast⟩ := hrun.accepted
  have hwhole : Run.exec (Duo.step setup) start ((first ++ .initiate initDraws :: middle) ++
      .incomingAccept acceptDraws :: last) = some final := by
    rw [Run.exec_append, hfirst]
    exact hlast
  exact not_paired_of_run hrun.ready hwhole desktopFingerprint

/-! ## A run in which everybody is honest -/

/-- The phone 1 on connection 0. -/
def sampleSetup : Setup Unit where
  ctx := sampleContext
  sink := fun _ _ store ↦ store
  conn := 0
  deviceId := ⟨1⟩
  jce := sampleJce
  lexer := Kotlinx.sampleLexer
  store := sampleStore
  store_deviceId := rfl

/-- The phone is connected and has loaded its identity; the desktop holds the Responder of its
hello. -/
def sampleStart : Duo Unit where
  center := {
    sessions := Sessions.empty.onHello Net.sampleDraws ⟨1⟩
    registry := { inner := KeyMap.empty.insert ⟨1⟩ 0, outboxes := fun _ ↦ .new }
    store := () }
  phone := { longTerm := some sampleStore.identity }
  up := []

def sampleArrival : Arrival where
  sink := { now := 1000, freshId := .nil }
  dispatch := Net.sampleDraws

/-- The run up to the operator's click. -/
def sampleParked : Option (Duo Unit) :=
  Run.exec (Duo.step sampleSetup) sampleStart
    [.initiate Android.sampleDraws, .deliverUp sampleArrival]

/-- The whole run, with every message delivered. -/
def sampleFinal : Option (Duo Unit) :=
  sampleParked.bind fun parked ↦ Run.exec (Duo.step sampleSetup) parked
    [.incomingAccept Net.sampleDraws, .deliverDown Android.sampleDraws, .deliverUp sampleArrival]

theorem sampleRun : ∃ final, sampleFinal = some final ∧
    PhoneInitiatedRun sampleSetup sampleStart final :=
  ⟨_, rfl, ⟨rfl, rfl, rfl, rfl⟩,
    ⟨[], [.deliverUp sampleArrival], [.deliverDown Android.sampleDraws, .deliverUp sampleArrival],
      Android.sampleDraws, Net.sampleDraws, _, rfl, rfl, rfl⟩, rfl, rfl⟩

/-- The delivered run of an honest desktop and an honest phone does not agree. -/
theorem sampleRun_does_not_agree : ∃ final, sampleFinal = some final ∧
    ¬ Agreement sampleSetup sampleIdentity.fingerprint final := by
  obtain ⟨final, hfinal, hrun⟩ := sampleRun
  exact ⟨final, hfinal, phone_initiated_never_agrees sampleStart final hrun _⟩

/-- Not every delivered run that the phone initiates ends in agreement. -/
theorem phone_initiated_run_fails : ¬ ∀ start final : Duo Unit,
    PhoneInitiatedRun sampleSetup start final →
      ∃ desktopFingerprint, Agreement sampleSetup desktopFingerprint final := by
  intro h
  obtain ⟨final, hfinal, hrun⟩ := sampleRun
  obtain ⟨desktopFingerprint, -, ourDeviceId, peerDeviceId, hstate⟩ := h sampleStart final hrun
  have hphone := congrArg (Option.map fun duo ↦ duo.phone.state) hfinal
  rw [Option.map_some, hstate] at hphone
  cases hphone

end PhoneBridge.Pairing
