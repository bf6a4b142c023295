import PhoneBridge.Android.PairingMachine
import PhoneBridge.Library.Run

/-!
# Pairing safety of the phone

The phone should be paired only with the consent of its user. The machine here takes every call of
the user and every envelope in any order. `onAccept` and `onComplete` do not ask for that consent,
so the phone is safe exactly in the runs in which the desktop keeps to the order of the exchange.
-/

namespace PhoneBridge.Android

open Library Kotlinx Crypto

/-- A call of the machine: by the app, by its user, or for an envelope from the desktop. -/
inductive PhoneLabel
  | ensureIdentity
  | initiate (draws : Draws)
  | userAccepts (draws : Draws)
  | userRejects (draws : Draws) (reason : String)
  | reset
  | incoming (draws : Draws) (env : Envelope)

/-- The calls so far, newest first, each with the machine it was made on. -/
abbrev PhonePast := List (PairingMachine × PhoneLabel)

section Phone

variable (jce : Jce) (lexer : Lexer) (store : IdentityStore)

def phoneStep (m : PairingMachine) : PhoneLabel → Option PairingMachine
  | .ensureIdentity => some (m.ensureIdentity store)
  | .initiate draws => some (m.initiate store draws).2
  | .userAccepts draws => some (m.userAccepts store draws).2
  | .userRejects draws reason => some (m.userRejects store draws reason).2
  | .reset => some m.reset
  | .incoming draws env => some (m.handleIncoming jce lexer store draws env).2

/-! ## What counts as consent -/

/-- Confirming or Paired. -/
def PairingState.IsAccepted : PairingState → Prop
  | .confirming .. | .paired .. => True
  | _ => False

/-- Idle, Failed or ShowingCode. -/
def PairingState.IsUndecided : PairingState → Prop
  | .idle | .failed _ | .showingCode .. => True
  | _ => False

/-- The user accepts the code that is shown, before it expires. -/
def AcceptsCode (visit : PairingMachine × PhoneLabel) : Prop :=
  ∃ draws code expiresAtMs peerDeviceId peerKey, visit.2 = .userAccepts draws ∧
    visit.1.state = .showingCode code expiresAtMs peerDeviceId peerKey ∧ ¬ expiresAtMs < draws.now

/-- The user starts a pairing from Idle. -/
def Initiates (visit : PairingMachine × PhoneLabel) : Prop :=
  ∃ draws, visit.2 = .initiate draws ∧ visit.1.state = .idle

/-- The desktop's `pair.confirm(accepted=true)` arrives. -/
def ReceivesConfirm (visit : PairingMachine × PhoneLabel) : Prop :=
  ∃ draws env, visit.2 = .incoming draws env ∧ env.type = MessageType.devicePairConfirm ∧
    PairConfirmPayload.decode lexer env.payload = .ok { accepted := true }

/-- A session begins when the machine leaves Idle, and with each `pair.request`. -/
def BeginsSession (visit : PairingMachine × PhoneLabel) : Prop :=
  visit.1.state = .idle ∨
    ∃ draws env, visit.2 = .incoming draws env ∧ env.type = MessageType.devicePairRequest

/-- The user has started the current session. -/
def Initiated : PhonePast → Prop
  | [] => False
  | visit :: past => Initiates visit ∨ (¬ BeginsSession visit ∧ Initiated past)

/-- The user has accepted the code of the current session, or has started the session and the
desktop has confirmed it since. -/
def Consented : PhonePast → Prop
  | [] => False
  | visit :: past => AcceptsCode visit ∨
      (¬ BeginsSession visit ∧ ((ReceivesConfirm lexer visit ∧ Initiated past) ∨ Consented past))

/-- Paired only with consent, and never brought from an undecided state to an accepted one by
envelopes alone. -/
def Consensual (start : PairingMachine) (labels : List PhoneLabel) : Prop :=
  (∀ front back m past, labels = front ++ back →
    Run.exec (Run.recorded (phoneStep jce lexer store)) (start, []) front = some (m, past) →
    (∃ ourDeviceId peerDeviceId peerFingerprint,
      m.state = .paired ourDeviceId peerDeviceId peerFingerprint) → Consented lexer past) ∧
  ∀ front middle back m past m' past', labels = front ++ middle ++ back →
    (∀ label ∈ middle, ∃ draws env, label = .incoming draws env) →
    Run.exec (Run.recorded (phoneStep jce lexer store)) (start, []) front = some (m, past) →
    Run.exec (Run.recorded (phoneStep jce lexer store)) (m, past) middle = some (m', past') →
    m.state.IsUndecided → ¬ m'.state.IsAccepted

/-! ## What the desktop has to keep to -/

/-- A `pair.complete` that passes the machine's checks of the certificate. -/
def IsReadableComplete (env : Envelope) : Prop :=
  env.type = MessageType.devicePairComplete ∧
    ∃ payload, PairCompletePayload.decode env.payload = .ok payload ∧
      Text.contains payload.certPem pemMarker = true ∧
      isValidFingerprint payload.certFingerprint = true

/-- Since the current `initiate` an accepting `pair.confirm` has arrived. -/
def ConfirmedSinceInitiate : PhonePast → Prop
  | [] => False
  | visit :: past => (∃ startedAtMs, visit.1.state = .initiating startedAtMs) ∧
      (ReceivesConfirm lexer visit ∨ ConfirmedSinceInitiate past)

/-- The desktop sends no `pair.accept` while an unexpired code is shown, and a readable
`pair.complete` only once the phone has accepted or its own request has been confirmed. -/
def KeepsOrder (m : PairingMachine) (past : PhonePast) : PhoneLabel → Prop
  | .incoming draws env =>
    (env.type = MessageType.devicePairAccept → ∀ code expiresAtMs peerDeviceId peerKey,
      m.state = .showingCode code expiresAtMs peerDeviceId peerKey → expiresAtMs < draws.now) ∧
    (IsReadableComplete env → m.state.IsAccepted ∨
      (∃ startedAtMs, m.state = .initiating startedAtMs) ∧ ConfirmedSinceInitiate lexer past)
  | _ => True

/-! ## What one call does -/

/-- All that an incoming envelope can do to the state. -/
inductive IncomingEffect (m : PairingMachine) (draws : Draws) (env : Envelope) :
    PairingState → Prop
  | request {next : PairingState} (htype : env.type = MessageType.devicePairRequest)
      (hnext : next.IsUndecided) : IncomingEffect m draws env next
  | accept {next : PairingState} {code peerDeviceId peerKey : String} {expiresAtMs : Int64}
      (htype : env.type = MessageType.devicePairAccept)
      (hstate : m.state = .showingCode code expiresAtMs peerDeviceId peerKey)
      (htime : ¬ expiresAtMs < draws.now) (hnext : next.IsAccepted) :
      IncomingEffect m draws env next
  | confirm {next : PairingState} {startedAtMs : Int64}
      (htype : env.type = MessageType.devicePairConfirm)
      (hstate : m.state = .initiating startedAtMs)
      (hconfirm : PairConfirmPayload.decode lexer env.payload = .ok { accepted := true })
      (hnext : next.IsAccepted) : IncomingEffect m draws env next
  | complete {next : PairingState} (hcomplete : IsReadableComplete env) (hnext : next.IsAccepted) :
      IncomingEffect m draws env next
  | failed (htype : env.type ≠ MessageType.devicePairRequest) (reason : String) :
      IncomingEffect m draws env (.failed reason)
  | unchanged (htype : env.type ≠ MessageType.devicePairRequest) :
      IncomingEffect m draws env m.state

variable {jce lexer store} {m : PairingMachine} {draws : Draws} {env : Envelope}

theorem onRequest_state : (m.onRequest jce store draws env).2.state.IsUndecided := by
  unfold PairingMachine.onRequest
  dsimp only
  split
  · trivial
  split
  · trivial
  split <;> trivial

theorem onAccept_state {ourDeviceId : String} (htype : env.type = MessageType.devicePairAccept) :
    IncomingEffect lexer m draws env (m.onAccept draws env ourDeviceId).2.state := by
  have hrequest : env.type ≠ MessageType.devicePairRequest := by rw [htype]; decide
  unfold PairingMachine.onAccept
  split
  · next code expiresAtMs peerDeviceId peerKey hstate =>
    split
    · exact .failed hrequest _
    · next htime => exact .accept htype hstate htime trivial
  · exact .unchanged hrequest

theorem onInitiatorConfirm_state {ourDeviceId : String}
    (htype : env.type = MessageType.devicePairConfirm) :
    IncomingEffect lexer m draws env (m.onInitiatorConfirm lexer draws env ourDeviceId).2.state := by
  have hrequest : env.type ≠ MessageType.devicePairRequest := by rw [htype]; decide
  unfold PairingMachine.onInitiatorConfirm
  split
  · next startedAtMs hstate =>
    split
    · exact .unchanged hrequest
    · next confirm hconfirm =>
      obtain ⟨accepted⟩ := confirm
      cases accepted with
      | false => exact .failed hrequest _
      | true =>
        simp only [reduceCtorEq, reduceIte]
        split
        · exact .unchanged hrequest
        · exact .confirm htype hstate hconfirm trivial
  · exact .unchanged hrequest

theorem onComplete_state {ourDeviceId : String}
    (htype : env.type = MessageType.devicePairComplete) :
    IncomingEffect lexer m draws env (m.onComplete lexer draws env ourDeviceId).2.state := by
  have hrequest : env.type ≠ MessageType.devicePairRequest := by rw [htype]; decide
  unfold PairingMachine.onComplete
  split
  · exact .failed hrequest _
  next payload hpayload =>
  split
  · exact .failed hrequest _
  next hmarker =>
  split
  · exact .failed hrequest _
  next hfingerprint =>
  exact .complete ⟨htype, payload, hpayload, by simpa using hmarker, by simpa using hfingerprint⟩
    trivial

variable (jce lexer store m draws env) in
theorem handleIncoming_state :
    IncomingEffect lexer m draws env (m.handleIncoming jce lexer store draws env).2.state := by
  unfold PairingMachine.handleIncoming
  split
  · next htype => exact .request htype onRequest_state
  next hrequest =>
  split
  · next htype => exact onAccept_state htype
  split
  · exact .failed hrequest _
  split
  · next htype => exact onInitiatorConfirm_state htype
  split
  · next htype => exact onComplete_state htype
  · exact .unchanged hrequest

variable (jce lexer store m draws) in
/-- A readable `pair.complete` pairs the phone, whatever its state is. -/
theorem handleIncoming_complete (hcomplete : IsReadableComplete env) :
    ∃ peerFingerprint, (m.handleIncoming jce lexer store draws env).2.state =
      .paired store.deviceId (PairingMachine.completePeer env m.state) peerFingerprint := by
  obtain ⟨htype, payload, hpayload, hmarker, hfingerprint⟩ := hcomplete
  refine ⟨payload.certFingerprint, ?_⟩
  simp [PairingMachine.handleIncoming, htype, MessageType.devicePairRequest,
    MessageType.devicePairAccept, MessageType.devicePairReject, MessageType.devicePairConfirm,
    MessageType.devicePairComplete, PairingMachine.onComplete, hpayload, hmarker, hfingerprint]

/-- A `pair.accept` accepts an unexpired code in the place of the user. -/
theorem handleIncoming_accept (htype : env.type = MessageType.devicePairAccept)
    {code peerDeviceId peerKey : String} {expiresAtMs : Int64}
    (hstate : m.state = .showingCode code expiresAtMs peerDeviceId peerKey)
    (htime : ¬ expiresAtMs < draws.now) :
    (m.handleIncoming jce lexer store draws env).2.state = .confirming code env.deviceId := by
  have hrequest : env.type ≠ MessageType.devicePairRequest := by rw [htype]; decide
  rw [PairingMachine.handleIncoming, if_neg hrequest, if_pos htype]
  simp [PairingMachine.onAccept, hstate, htime]

/-- The user's acceptance either meets an unexpired code, fails the pairing or changes nothing. -/
theorem userAccepts_state (store : IdentityStore) (m : PairingMachine) (draws : Draws) :
    (AcceptsCode (m, .userAccepts draws) ∧ (m.userAccepts store draws).2.state.IsAccepted) ∨
      (∃ reason, (m.userAccepts store draws).2.state = .failed reason) ∨
      (m.userAccepts store draws).2.state = m.state := by
  unfold PairingMachine.userAccepts
  split
  · next code expiresAtMs peerDeviceId peerKey hstate =>
    split
    · exact .inr (.inl ⟨_, rfl⟩)
    · next htime =>
      exact .inl ⟨⟨draws, code, expiresAtMs, peerDeviceId, peerKey, rfl, hstate, htime⟩, trivial⟩
  · exact .inr (.inr rfl)

theorem userRejects_state (store : IdentityStore) (m : PairingMachine) (draws : Draws)
    (reason : String) :
    (m.userRejects store draws reason).2.state = .failed reason ∨
      (m.userRejects store draws reason).2.state = m.state := by
  unfold PairingMachine.userRejects
  split
  · exact .inl rfl
  · exact .inr rfl

theorem initiate_state (store : IdentityStore) (m : PairingMachine) (draws : Draws) :
    (m.state = .idle ∧ (m.initiate store draws).2.state = .initiating draws.now) ∨
      (m.initiate store draws).2.state = m.state := by
  unfold PairingMachine.initiate
  split
  · next hidle => exact .inl ⟨hidle, rfl⟩
  · exact .inr rfl

/-! ## Invariants of the runs -/

variable {next : PairingMachine} {past : PhonePast} {label : PhoneLabel}

theorem not_initiating_of_isAccepted {state : PairingState} (h : state.IsAccepted)
    (startedAtMs : Int64) : state ≠ .initiating startedAtMs := by
  rintro rfl
  exact h

theorem not_initiating_of_isUndecided {state : PairingState} (h : state.IsUndecided)
    (startedAtMs : Int64) : state ≠ .initiating startedAtMs := by
  rintro rfl
  exact h

theorem not_isAccepted_of_isUndecided {state : PairingState} (h : state.IsUndecided) :
    ¬ state.IsAccepted := by
  cases state <;> simp_all [PairingState.IsUndecided, PairingState.IsAccepted]

/-- The machine is Initiating after a call only if it was so before, or if the user has just
started the pairing. -/
theorem initiating_of_step {startedAtMs : Int64}
    (hstep : phoneStep jce lexer store m label = some next)
    (hnext : next.state = .initiating startedAtMs) :
    Initiates (m, label) ∨
      (m.state = .initiating startedAtMs ∧ ¬ BeginsSession (m, label)) := by
  cases label with
  | ensureIdentity =>
    cases hstep
    exact .inr ⟨hnext, by simp_all [BeginsSession]⟩
  | initiate draws =>
    cases hstep
    rcases initiate_state store m draws with ⟨hidle, -⟩ | hsame
    · exact .inl ⟨draws, rfl, hidle⟩
    · rw [hsame] at hnext
      exact .inr ⟨hnext, by simp [BeginsSession, hnext]⟩
  | userAccepts draws =>
    cases hstep
    rcases userAccepts_state store m draws with ⟨-, haccepted⟩ | ⟨reason, hfailed⟩ | hsame
    · exact absurd hnext (not_initiating_of_isAccepted haccepted _)
    · rw [hfailed] at hnext
      cases hnext
    · rw [hsame] at hnext
      exact .inr ⟨hnext, by simp [BeginsSession, hnext]⟩
  | userRejects draws reason =>
    cases hstep
    rcases userRejects_state store m draws reason with hfailed | hsame
    · rw [hfailed] at hnext
      cases hnext
    · rw [hsame] at hnext
      exact .inr ⟨hnext, by simp [BeginsSession, hnext]⟩
  | reset =>
    cases hstep
    cases hnext
  | incoming draws env =>
    cases hstep
    have heffect := handleIncoming_state jce lexer store m draws env
    generalize (m.handleIncoming jce lexer store draws env).2.state = state at heffect hnext
    cases heffect with
    | request htype hundecided => exact absurd hnext (not_initiating_of_isUndecided hundecided _)
    | accept htype hstate htime haccepted =>
      exact absurd hnext (not_initiating_of_isAccepted haccepted _)
    | confirm htype hstate hconfirm haccepted =>
      exact absurd hnext (not_initiating_of_isAccepted haccepted _)
    | complete hcomplete haccepted => exact absurd hnext (not_initiating_of_isAccepted haccepted _)
    | failed htype reason => cases hnext
    | unchanged htype =>
      refine .inr ⟨hnext, ?_⟩
      simpa [BeginsSession, hnext] using htype

variable (lexer) in
/-- While the machine is Initiating, the user has started the session, and the consent is the
confirmation of the desktop. -/
def TracksInitiation (m : PairingMachine) (past : PhonePast) : Prop :=
  ∀ startedAtMs, m.state = .initiating startedAtMs →
    Initiated past ∧ (Consented lexer past ↔ ConfirmedSinceInitiate lexer past)

theorem tracksInitiation_step (hpast : TracksInitiation lexer m past)
    (hstep : phoneStep jce lexer store m label = some next) :
    TracksInitiation lexer next ((m, label) :: past) := by
  intro startedAtMs hnext
  rcases initiating_of_step hstep hnext with hinitiates | ⟨hstate, hbegins⟩
  · refine ⟨.inl hinitiates, ?_⟩
    obtain ⟨draws, hlabel, hidle⟩ := hinitiates
    simp_all [Consented, ConfirmedSinceInitiate, AcceptsCode, BeginsSession]
  · obtain ⟨hinitiated, hconsent⟩ := hpast startedAtMs hstate
    refine ⟨.inr ⟨hbegins, hinitiated⟩, ?_⟩
    have haccepts : ¬ AcceptsCode (m, label) := by simp [AcceptsCode, hstate]
    simp [Consented, ConfirmedSinceInitiate, haccepts, hbegins, hinitiated, hconsent, hstate]

/-- Consent outlasts every step that begins no session. -/
theorem Consented.keep (h : Consented lexer past) (hbegins : ¬ BeginsSession (m, label)) :
    Consented lexer ((m, label) :: past) := .inr ⟨hbegins, .inr h⟩

theorem not_idle_of_isAccepted (h : m.state.IsAccepted) : m.state ≠ .idle := by
  intro hidle
  rw [hidle] at h
  exact h

/-- In a run that keeps to the order, an accepted machine has the consent of its user. -/
theorem consented_step (hinitiation : TracksInitiation lexer m past)
    (hpast : m.state.IsAccepted → Consented lexer past) (horder : KeepsOrder lexer m past label)
    (hstep : phoneStep jce lexer store m label = some next) (hnext : next.state.IsAccepted) :
    Consented lexer ((m, label) :: past) := by
  have hsame : next.state = m.state → (∀ draws env, label = .incoming draws env →
      env.type ≠ MessageType.devicePairRequest) → Consented lexer ((m, label) :: past) := by
    intro hsame hlabel
    rw [hsame] at hnext
    refine (hpast hnext).keep ?_
    rintro (hidle | ⟨draws, env, heq, htype⟩)
    · exact not_idle_of_isAccepted hnext hidle
    · exact hlabel draws env heq htype
  cases label with
  | ensureIdentity =>
    cases hstep
    exact hsame rfl (by simp)
  | initiate draws =>
    cases hstep
    rcases initiate_state store m draws with ⟨-, hstate⟩ | hstate
    · rw [hstate] at hnext
      exact hnext.elim
    · exact hsame hstate (by simp)
  | userAccepts draws =>
    cases hstep
    rcases userAccepts_state store m draws with ⟨haccepts, -⟩ | ⟨reason, hstate⟩ | hstate
    · exact .inl haccepts
    · rw [hstate] at hnext
      exact hnext.elim
    · exact hsame hstate (by simp)
  | userRejects draws reason =>
    cases hstep
    rcases userRejects_state store m draws reason with hstate | hstate
    · rw [hstate] at hnext
      exact hnext.elim
    · exact hsame hstate (by simp)
  | reset =>
    cases hstep
    exact hnext.elim
  | incoming draws env =>
    cases hstep
    have heffect := handleIncoming_state jce lexer store m draws env
    generalize (m.handleIncoming jce lexer store draws env).2.state = state at heffect hnext hsame
    cases heffect with
    | request htype hundecided => exact absurd hnext (not_isAccepted_of_isUndecided hundecided)
    | accept htype hstate htime => exact absurd (horder.1 htype _ _ _ _ hstate) htime
    | confirm htype hstate hconfirm =>
      have hbegins : ¬ BeginsSession (m, .incoming draws env) := by
        simp [BeginsSession, hstate, htype, MessageType.devicePairConfirm,
          MessageType.devicePairRequest]
      exact .inr ⟨hbegins, .inl ⟨⟨draws, env, rfl, htype, hconfirm⟩, (hinitiation _ hstate).1⟩⟩
    | complete hcomplete =>
      have hrequest : ¬ env.type = MessageType.devicePairRequest := by
        rw [hcomplete.1]
        decide
      rcases horder.2 hcomplete with haccepted | ⟨⟨startedAtMs, hstate⟩, hconfirmed⟩
      · refine (hpast haccepted).keep ?_
        simp [BeginsSession, hrequest, not_idle_of_isAccepted haccepted]
      · refine ((hinitiation _ hstate).2.mpr hconfirmed).keep ?_
        simp [BeginsSession, hrequest, hstate]
    | failed htype reason => exact hnext.elim
    | unchanged htype => exact hsame rfl (by simpa using htype)

/-- In a run that keeps to the order, envelopes alone leave an undecided machine undecided. -/
theorem isUndecided_step (hstate : m.state.IsUndecided)
    (horder : KeepsOrder lexer m past (.incoming draws env)) :
    (m.handleIncoming jce lexer store draws env).2.state.IsUndecided := by
  have heffect := handleIncoming_state jce lexer store m draws env
  generalize (m.handleIncoming jce lexer store draws env).2.state = state at heffect
  cases heffect with
  | request htype hundecided => exact hundecided
  | accept htype hshowing htime => exact absurd (horder.1 htype _ _ _ _ hshowing) htime
  | confirm htype hinitiating => exact absurd hinitiating (not_initiating_of_isUndecided hstate _)
  | complete hcomplete =>
    rcases horder.2 hcomplete with haccepted | ⟨⟨startedAtMs, hinitiating⟩, -⟩
    · exact absurd haccepted (not_isAccepted_of_isUndecided hstate)
    · exact absurd hinitiating (not_initiating_of_isUndecided hstate _)
  | failed htype reason => trivial
  | unchanged htype => exact hstate

theorem isUndecided_run {labels : List PhoneLabel} {past' : PhonePast}
    (hincoming : ∀ label ∈ labels, ∃ draws env, label = .incoming draws env)
    (horder : Run.Throughout (Run.recorded (phoneStep jce lexer store))
      (fun visit label ↦ KeepsOrder lexer visit.1 visit.2 label) (m, past) labels)
    (hrun : Run.exec (Run.recorded (phoneStep jce lexer store)) (m, past) labels =
      some (next, past')) (hstate : m.state.IsUndecided) : next.state.IsUndecided := by
  induction labels generalizing m past with
  | nil =>
    cases hrun
    exact hstate
  | cons label labels ih =>
    obtain ⟨draws, env, rfl⟩ := hincoming label List.mem_cons_self
    obtain ⟨⟨middle, record⟩, hstep, hrest⟩ := Option.bind_eq_some_iff.mp hrun
    obtain ⟨hmiddle, -⟩ := Run.recorded_eq_some.mp hstep
    cases hmiddle
    exact ih (fun other hother ↦ hincoming other (List.mem_cons_of_mem _ hother))
      (horder.2 _ hstep) hrest (isUndecided_step hstate horder.1)

end Phone

/-! ## The phone is safe exactly when the desktop keeps to the order -/

/-- A machine that has just been constructed. -/
def PairingMachine.new : PairingMachine := {}

theorem tracksInitiation_run {jce : Jce} {lexer : Lexer} {store : IdentityStore}
    {labels : List PhoneLabel} {m : PairingMachine} {past : PhonePast}
    (hrun : Run.exec (Run.recorded (phoneStep jce lexer store)) (.new, []) labels =
      some (m, past)) : TracksInitiation lexer m past := by
  refine Run.invariant (fun visit ↦ TracksInitiation lexer visit.1 visit.2) ?_
    hrun ?_
  · rintro ⟨u, past⟩ label ⟨v, past'⟩ hpast hstep
    obtain ⟨hnext, rfl⟩ := Run.recorded_eq_some.mp hstep
    exact tracksInitiation_step hpast hnext
  · intro startedAtMs hstate
    cases hstate

/-- In every run of a new machine, the phone is paired only by consent exactly when every envelope
of the desktop keeps to the order of the exchange. -/
theorem consensual_iff_keeps_order (jce : Jce) (lexer : Lexer) (store : IdentityStore)
    (labels : List PhoneLabel) :
    Consensual jce lexer store .new labels ↔
      Run.Throughout (Run.recorded (phoneStep jce lexer store))
        (fun visit label ↦ KeepsOrder lexer visit.1 visit.2 label) (.new, []) labels := by
  constructor
  · rintro ⟨hpaired, halone⟩
    refine Run.throughout_of_at_step fun front label back ⟨m, past⟩ hsplit hrun ↦ ?_
    cases label with
    | incoming draws env =>
      have hone : Run.exec (Run.recorded (phoneStep jce lexer store)) (m, past)
          [.incoming draws env] = some ((m.handleIncoming jce lexer store draws env).2,
            (m, .incoming draws env) :: past) := rfl
      have hkept := halone front [.incoming draws env] back m past _ _ (by simp [hsplit])
        (by simp) hrun hone
      refine ⟨fun htype code expiresAtMs peerDeviceId peerKey hstate ↦ ?_, fun hcomplete ↦ ?_⟩
      · by_contra htime
        refine hkept (by rw [hstate]; trivial) ?_
        rw [handleIncoming_accept htype hstate htime]
        trivial
      · obtain ⟨peerFingerprint, hafter⟩ := handleIncoming_complete jce lexer store m draws
          hcomplete
        cases hstate : m.state with
        | confirming code peerDeviceId => exact .inl trivial
        | paired ourDeviceId peerDeviceId peerFingerprint => exact .inl trivial
        | initiating startedAtMs =>
          refine .inr ⟨⟨startedAtMs, rfl⟩, ?_⟩
          have hconsent := hpaired (front ++ [.incoming draws env]) back _ _ (by simp [hsplit])
            (by rw [Run.exec_append, hrun]; exact hone) ⟨_, _, _, hafter⟩
          refine ((tracksInitiation_run hrun) _ hstate).2.mp ?_
          have hconfirm : ¬ ReceivesConfirm lexer (m, .incoming draws env) := by
            simp [ReceivesConfirm, hcomplete.1, MessageType.devicePairComplete,
              MessageType.devicePairConfirm]
          simp only [Consented, AcceptsCode, hconfirm, reduceCtorEq, false_and, exists_false,
            false_or] at hconsent
          exact hconsent.2
        | idle | failed | showingCode =>
          refine absurd ?_ (hkept (by rw [hstate]; trivial))
          rw [hafter]
          trivial
    | ensureIdentity | initiate | userAccepts | userRejects | reset => trivial
  · intro horder
    constructor
    · rintro front back m past rfl hrun ⟨_, _, _, hstate⟩
      refine (Run.invariant_of_throughout (fun visit ↦
        TracksInitiation lexer visit.1 visit.2 ∧
          (visit.1.state.IsAccepted → Consented lexer visit.2)) ?_ horder.front hrun ?_).2
        (by simp [hstate, PairingState.IsAccepted])
      · rintro ⟨u, past⟩ label ⟨v, past'⟩ ⟨hinitiation, hpast⟩ hguard hstep
        obtain ⟨hnext, rfl⟩ := Run.recorded_eq_some.mp hstep
        exact ⟨tracksInitiation_step hinitiation hnext,
          consented_step hinitiation hpast hguard hnext⟩
      · refine ⟨fun startedAtMs hinit ↦ ?_, fun haccepted ↦ haccepted.elim⟩
        cases hinit
    · rintro front middle back m past m' past' rfl hincoming hfront hmiddle hstate haccepted
      have hundecided := isUndecided_run hincoming (horder.front.back hfront) hmiddle hstate
      exact not_isAccepted_of_isUndecided hundecided haccepted

/-- The desktop's certificate, sent at once. -/
def sampleComplete : Envelope :=
  sampleDraws.envelope MessageType.devicePairComplete "desktop" (PairCompletePayload.encode {
    certPem := sampleIdentity.certPem
    certFingerprint := sampleIdentity.fingerprint })

/-- A `pair.complete` that arrives in Idle pairs the phone. -/
theorem complete_pairs_without_consent : ¬ ∀ labels : List PhoneLabel,
    Consensual sampleJce Kotlinx.sampleLexer sampleStore .new labels := by
  intro h
  have hconsent := (h [.incoming sampleDraws sampleComplete]).1
    [.incoming sampleDraws sampleComplete] [] _ _ rfl rfl ⟨_, _, _, rfl⟩
  simp [Consented, AcceptsCode, BeginsSession, PairingMachine.new] at hconsent

end PhoneBridge.Android
