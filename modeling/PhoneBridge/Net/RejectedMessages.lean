import PhoneBridge.Net.MalformedFrames

/-!
# Pairing messages that are rejected

A challenge or a certificate that fails a check of the session it is meant for. The dispatcher takes
the session out of the map before the check. After a failed challenge it puts the Initiator back;
after a failed certificate it puts back neither the Initiator nor the Responder.
-/

namespace PhoneBridge.Net

open Library Proto Crypto

/-- The checks that a `pair.challenge` or a `pair.complete` for a session can fail. -/
inductive FailsValidation (draws : Draws) (env : Envelope) (session : Option DeviceSession) : Prop
  | unreadableChallenge (htype : env.messageType = .devicePairChallenge)
      (hparse : ¬ Readable PairChallenge.parse env.payload)
  | malformedCode (htype : env.messageType = .devicePairChallenge) (challenge : PairChallenge)
      (hparse : PairChallenge.parse env.payload = .ok challenge)
      (hcode : ¬ IsFourDigits challenge.code)
  | expired (htype : env.messageType = .devicePairChallenge) (challenge : PairChallenge)
      (hparse : PairChallenge.parse env.payload = .ok challenge)
      (hexpiry : ¬ draws.now ≤ challenge.expiresAt)
  | badPublicKey (htype : env.messageType = .devicePairChallenge) (challenge : PairChallenge)
      (hparse : PairChallenge.parse env.payload = .ok challenge)
      (hkey : ∀ key, PublicKey.fromBase64 challenge.ephemeralPubkey ≠ .ok key)
  | unreadableComplete (htype : env.messageType = .devicePairComplete)
      (hparse : ¬ Readable PairComplete.parse env.payload)
  | malformedFingerprint (htype : env.messageType = .devicePairComplete) (complete : PairComplete)
      (hparse : PairComplete.parse env.payload = .ok complete)
      (hfingerprint : ∀ bytes, parseFingerprint complete.certFingerprint ≠ .ok bytes)
  | missingMarker (htype : env.messageType = .devicePairComplete) (complete : PairComplete)
      (hparse : PairComplete.parse env.payload = .ok complete)
      (hmarker : ¬ Text.contains complete.certPem pemMarker = true)
  | notAccepted (htype : env.messageType = .devicePairComplete) (responder : Responder)
      (hsession : session = some (.unpaired (.responder responder)))
      (haccepted : responder.accepted ≠ some true)

/-- The message leaves its device's session as it was, and the next message of the same type from
the device is handled as if this one had never come. -/
def KeepsSession (ctx : WsContext) (draws : Draws) (env : Envelope) (s : Sessions) : Prop :=
  (dispatch ctx draws env s).2.pairing.get env.deviceId = s.pairing.get env.deviceId ∧
  ∀ (later : Draws) (next : Envelope), next.deviceId = env.deviceId →
    next.messageType = env.messageType →
    dispatch ctx later next (dispatch ctx draws env s).2 = dispatch ctx later next s

section Rejection

variable {draws : Draws} {env : Envelope} {session : Option DeviceSession}

/-- A message that fails validation is a challenge or a certificate. -/
theorem FailsValidation.messageType (h : FailsValidation draws env session) :
    env.messageType = .devicePairChallenge ∨ env.messageType = .devicePairComplete := by
  cases h with
  | unreadableChallenge htype => exact .inl htype
  | malformedCode htype => exact .inl htype
  | expired htype => exact .inl htype
  | badPublicKey htype => exact .inl htype
  | unreadableComplete htype => exact .inr htype
  | malformedFingerprint htype => exact .inr htype
  | missingMarker htype => exact .inr htype
  | notAccepted htype => exact .inr htype

/-- The challenges that fail validation are the ones that an Initiator refuses. -/
theorem failsValidation_challenge_iff (htype : env.messageType = .devicePairChallenge)
    (init : Initiator) :
    FailsValidation draws env session ↔ ∀ next, init.onChallenge draws env ≠ .ok next := by
  constructor
  · intro h next hnext
    obtain ⟨-, challenge, key, hparse, hcode, hexpiry, hkey, -⟩ :=
      Initiator.onChallenge_eq_ok.mp hnext
    have hread : ∀ other, PairChallenge.parse env.payload = .ok other → other = challenge :=
      fun other hother ↦ Except.ok.inj (hother.symm.trans hparse)
    cases h with
    | unreadableChallenge _ hunreadable => exact hunreadable ⟨challenge, hparse⟩
    | malformedCode _ other hother hbad => exact hbad (hread other hother ▸ hcode)
    | expired _ other hother hbad => exact hbad (hread other hother ▸ hexpiry)
    | badPublicKey _ other hother hbad => exact hbad key (hread other hother ▸ hkey)
    | unreadableComplete hcomplete => simp [hcomplete] at htype
    | malformedFingerprint hcomplete => simp [hcomplete] at htype
    | missingMarker hcomplete => simp [hcomplete] at htype
    | notAccepted hcomplete => simp [hcomplete] at htype
  · intro h
    by_cases hread : Readable PairChallenge.parse env.payload
    · obtain ⟨challenge, hparse⟩ := hread
      by_cases hcode : IsFourDigits challenge.code
      · by_cases hexpiry : draws.now ≤ challenge.expiresAt
        · apply FailsValidation.badPublicKey htype challenge hparse
          intro key hkey
          exact h _ (Initiator.onChallenge_eq_ok.mpr
            ⟨htype, challenge, key, hparse, hcode, hexpiry, hkey, rfl⟩)
        · exact .expired htype challenge hparse hexpiry
      · exact .malformedCode htype challenge hparse hcode
    · exact .unreadableChallenge htype hread

/-- The certificates that fail validation are the ones that cannot be read, and those for a Responder
that the user has not accepted. -/
theorem failsValidation_complete_iff (htype : env.messageType = .devicePairComplete) :
    FailsValidation draws env session ↔
      (∀ complete, readComplete env ≠ .ok complete) ∨
      ∃ responder, session = some (.unpaired (.responder responder)) ∧
        responder.accepted ≠ some true := by
  constructor
  · intro h
    by_cases hread : ∃ complete, readComplete env = .ok complete
    · obtain ⟨complete, hcomplete⟩ := hread
      obtain ⟨hparse, ⟨bytes, hbytes⟩, hmarker⟩ := readComplete_eq_ok.mp hcomplete
      have hsame : ∀ other, PairComplete.parse env.payload = .ok other → other = complete :=
        fun other hother ↦ Except.ok.inj (hother.symm.trans hparse)
      cases h with
      | unreadableChallenge hchallenge => simp [hchallenge] at htype
      | malformedCode hchallenge => simp [hchallenge] at htype
      | expired hchallenge => simp [hchallenge] at htype
      | badPublicKey hchallenge => simp [hchallenge] at htype
      | unreadableComplete _ hunreadable => exact absurd ⟨complete, hparse⟩ hunreadable
      | malformedFingerprint _ other hother hbad =>
        rw [hsame other hother] at hbad
        exact absurd hbytes (hbad bytes)
      | missingMarker _ other hother hbad =>
        rw [hsame other hother] at hbad
        exact absurd hmarker hbad
      | notAccepted _ responder hsession haccepted => exact .inr ⟨responder, hsession, haccepted⟩
    · exact .inl fun complete hcomplete ↦ hread ⟨complete, hcomplete⟩
  · intro h
    rcases h with hunread | ⟨responder, hsession, haccepted⟩
    · by_cases hread : Readable PairComplete.parse env.payload
      · obtain ⟨complete, hparse⟩ := hread
        by_cases hmarker : Text.contains complete.certPem pemMarker = true
        · apply FailsValidation.malformedFingerprint htype complete hparse
          intro bytes hbytes
          exact hunread complete (readComplete_eq_ok.mpr ⟨hparse, ⟨bytes, hbytes⟩, hmarker⟩)
        · exact .missingMarker htype complete hparse hmarker
      · exact .unreadableComplete htype hread
    · exact .notAccepted htype responder hsession haccepted

/-- A rejected challenge leaves every session as it was. -/
theorem after_rejected_challenge (htype : env.messageType = .devicePairChallenge)
    (h : FailsValidation draws env session) : DeviceSession.after draws env session = session := by
  by_cases hinit : ∃ init, session = some (.unpaired (.initiator init))
  · obtain ⟨init, rfl⟩ := hinit
    have hfails := (failsValidation_challenge_iff htype init).mp h
    cases hchallenge : init.onChallenge draws env with
    | ok next => exact absurd hchallenge (hfails next)
    | error e => simp [DeviceSession.after, htype, hchallenge]
  · have hnone := fun init heq ↦ hinit ⟨init, heq⟩
    exact (ignored_of_no_initiator draws (.inl htype) hnone sampleContext).1

/-- Without an outcome there is no session left to install. -/
theorem toOption_eq_none {x : Except PairingError PairingOutcome} (h : ∀ outcome, x ≠ .ok outcome) :
    x.toOption = none := by
  cases hx : x with
  | error e => rfl
  | ok outcome => exact absurd hx (h outcome)

/-- A certificate that cannot be read is accepted for no device. -/
theorem checkComplete_ne_ok (h : ∀ complete, readComplete env ≠ .ok complete) (peer : Uuid)
    (outcome : PairingOutcome) : checkComplete peer env ≠ .ok outcome := by
  intro hcheck
  obtain ⟨complete, hread, -⟩ := bind_eq_ok.mp hcheck
  exact h complete hread

/-- A rejected certificate ends the pairing that it was meant for. -/
theorem after_rejected_complete (htype : env.messageType = .devicePairComplete)
    {unpaired : UnpairedSession} (h : FailsValidation draws env (some (.unpaired unpaired))) :
    DeviceSession.after draws env (some (.unpaired unpaired)) = none := by
  have hfails := (failsValidation_complete_iff htype).mp h
  cases unpaired with
  | initiator init =>
    have hrefused : ∀ outcome, init.onComplete env ≠ .ok outcome := by
      intro outcome houtcome
      rcases hfails with hunread | ⟨responder, hother, -⟩
      · exact checkComplete_ne_ok hunread _ outcome (Initiator.onComplete_eq_ok.mp houtcome).2
      · cases hother
    simp [DeviceSession.after, htype, toOption_eq_none hrefused]
  | responder responder =>
    have hrefused : ∀ outcome, responder.onComplete env ≠ .ok outcome := by
      intro outcome houtcome
      obtain ⟨haccepted, -, hcheck⟩ := Responder.onComplete_eq_ok.mp houtcome
      rcases hfails with hunread | ⟨other, hother, hopen⟩
      · exact checkComplete_ne_ok hunread _ outcome hcheck
      · cases hother
        exact hopen haccepted
    simp [DeviceSession.after, htype, toOption_eq_none hrefused]

/-- Neither message parks a request or drops one. -/
theorem FailsValidation.pending (h : FailsValidation draws env session)
    (pending : Option PendingIncoming) : PendingIncoming.after draws env pending = pending := by
  apply pending_after_of_ne
  rcases h.messageType with htype | htype <;> simp [htype]

/-- A dispatch that leaves the session and the parked request of its device leaves everything. -/
theorem keepsSession_iff (ctx : WsContext) {s : Sessions}
    (hpending : ∀ pending, PendingIncoming.after draws env pending = pending) :
    KeepsSession ctx draws env s ↔
      DeviceSession.after draws env (s.pairing.get env.deviceId) = s.pairing.get env.deviceId := by
  have hget : (dispatch ctx draws env s).2.pairing.get env.deviceId =
      DeviceSession.after draws env (s.pairing.get env.deviceId) := by
    rw [dispatch_eq, KeyMap.get_set_self]
  constructor
  · intro h
    rw [← hget]
    exact h.1
  · intro h
    have hsame : (dispatch ctx draws env s).2 = s := by
      rw [dispatch_eq, h, hpending, KeyMap.set_get rfl, KeyMap.set_get rfl]
    apply And.intro (hget.trans h)
    intro later next _ _
    rw [hsame]

/-- A message that fails validation leaves its session usable when it is a challenge, and otherwise
when there is no pairing in flight that it could end. -/
theorem rejected_message_keeps_session_iff (ctx : WsContext) (draws : Draws) (env : Envelope)
    (s : Sessions) (h : FailsValidation draws env (s.pairing.get env.deviceId)) :
    KeepsSession ctx draws env s ↔
      env.messageType = .devicePairChallenge ∨
      ∀ unpaired, s.pairing.get env.deviceId ≠ some (.unpaired unpaired) := by
  rw [keepsSession_iff ctx h.pending]
  rcases h.messageType with htype | htype
  · simp [after_rejected_challenge htype h, htype]
  · rw [htype]
    cases hsession : s.pairing.get env.deviceId with
    | none => simp [DeviceSession.after, htype]
    | some session =>
      cases session with
      | paired paired => simp [DeviceSession.after, htype]
      | unpaired unpaired =>
        rw [hsession] at h
        simp [after_rejected_complete htype h]

end Rejection

/-- The phone 1 sends a message whose payload is `null` while a pairing with it is in flight. -/
theorem sampleNull_fails {messageType : MessageType}
    (h : messageType = .devicePairChallenge ∨ messageType = .devicePairComplete) :
    FailsValidation sampleDraws (sampleNull messageType)
      (sampleInFlight.center.sessions.pairing.get ⟨1⟩) := by
  rcases h with rfl | rfl
  · apply FailsValidation.unreadableChallenge rfl
    rintro ⟨challenge, hparse⟩
    cases hparse
  · apply FailsValidation.unreadableComplete rfl
    rintro ⟨complete, hparse⟩
    cases hparse

/-- A challenge that cannot be read leaves the Initiator in place. -/
theorem unreadable_challenge_keeps_session :
    KeepsSession sampleContext sampleDraws (sampleNull .devicePairChallenge)
      sampleInFlight.center.sessions :=
  (rejected_message_keeps_session_iff sampleContext sampleDraws (sampleNull .devicePairChallenge)
    sampleInFlight.center.sessions (sampleNull_fails (.inl rfl))).mpr (.inl rfl)

/-- A certificate that cannot be read drops the Initiator. -/
theorem unreadable_certificate_ends_pairing : ¬ ∀ (ctx : WsContext) (draws : Draws)
    (env : Envelope) (s : Sessions), FailsValidation draws env (s.pairing.get env.deviceId) →
    KeepsSession ctx draws env s := by
  intro h
  have hkeeps := h sampleContext sampleDraws (sampleNull .devicePairComplete)
    sampleInFlight.center.sessions (sampleNull_fails (.inr rfl))
  cases hkeeps.1

end PhoneBridge.Net
