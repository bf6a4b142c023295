import PhoneBridge.Android.PairingMachine
import PhoneBridge.Crypto.Pem
import PhoneBridge.Net.ChallengeCheck

/-!
# Whether a pinned fingerprint belongs to its certificate

The three readers of a `pair.complete`: the Initiator and the Responder of the desktop, and the
machine of the phone. Each checks that the certificate text has the PEM marker and that the
fingerprint has the right form, and records the fingerprint; none hashes the certificate.
-/

namespace PhoneBridge.Interop

open Library Crypto Net Android

variable (sha256 : List UInt8 → Digest)

/-- The fingerprint is that of the first certificate in the text. -/
def Belongs (certPem fingerprint : String) : Prop :=
  (fingerprintFromPem sha256 certPem).toOption = some fingerprint

instance (certPem fingerprint : String) : Decidable (Belongs sha256 certPem fingerprint) :=
  inferInstanceAs (Decidable (_ = _))

/-- The text has no PEM marker, or the fingerprint does not parse: it is not 32 colon-separated parts
of two characters that `from_str_radix` reads. -/
def Malformed (certPem fingerprint : String) : Prop :=
  Text.contains certPem pemMarker = false ∨ ∀ bytes, parseFingerprint fingerprint ≠ .ok bytes

/-- What the readers should do with a payload: record a fingerprint only if it belongs to the
certificate, and reject the payload otherwise. -/
structure BindsCertificate (certPem fingerprint : String) : Prop where
  initiator : ∀ (init : Initiator) (env : Proto.Envelope) (outcome : PairingOutcome),
    Proto.PairComplete.parse env.payload = .ok { certPem, certFingerprint := fingerprint } →
    init.onComplete env = .ok outcome →
    Belongs sha256 outcome.peerCertPem outcome.peerFingerprint
  responder : ∀ (responder : Responder) (env : Proto.Envelope) (outcome : PairingOutcome),
    Proto.PairComplete.parse env.payload = .ok { certPem, certFingerprint := fingerprint } →
    responder.onComplete env = .ok outcome →
    Belongs sha256 outcome.peerCertPem outcome.peerFingerprint
  phone : ∀ (lexer : Kotlinx.Lexer) (draws : Android.Draws) (env : Android.Envelope)
    (ourDeviceId : String) (machine : PairingMachine) (ours peer peerFingerprint : String),
    PairCompletePayload.decode env.payload = .ok { certPem, certFingerprint := fingerprint } →
    (machine.onComplete lexer draws env ourDeviceId).2.state = .paired ours peer peerFingerprint →
    Belongs sha256 certPem peerFingerprint
  desktopRejects : ¬ Belongs sha256 certPem fingerprint → ∀ env : Proto.Envelope,
    Proto.PairComplete.parse env.payload = .ok { certPem, certFingerprint := fingerprint } →
    (∀ (init : Initiator) outcome, init.onComplete env ≠ .ok outcome) ∧
      ∀ (responder : Responder) outcome, responder.onComplete env ≠ .ok outcome
  phoneRejects : ¬ Belongs sha256 certPem fingerprint → ∀ (lexer : Kotlinx.Lexer)
    (draws : Android.Draws) (env : Android.Envelope) (ourDeviceId : String)
    (machine : PairingMachine),
    PairCompletePayload.decode env.payload = .ok { certPem, certFingerprint := fingerprint } →
    ∃ reason, (machine.onComplete lexer draws env ourDeviceId).2.state = .failed reason

/-! ## What the readers check -/

section Desktop

variable {certPem fingerprint : String} {env : Proto.Envelope} {peerDeviceId : Uuid}
  {outcome : PairingOutcome}

/-- Both roles of the desktop accept exactly the payloads that are not malformed, and record what
these say. -/
theorem checkComplete_eq_ok
    (hparse : Proto.PairComplete.parse env.payload =
      .ok { certPem, certFingerprint := fingerprint }) :
    checkComplete peerDeviceId env = .ok outcome ↔
      ¬ Malformed certPem fingerprint ∧
        outcome = { peerDeviceId, peerFingerprint := fingerprint, peerCertPem := certPem } := by
  have hread : ∀ complete, readComplete env = .ok complete ↔
      complete = { certPem, certFingerprint := fingerprint } ∧ ¬ Malformed certPem fingerprint := by
    intro complete
    rw [readComplete_eq_ok, hparse]
    constructor
    · rintro ⟨hsame, ⟨bytes, hbytes⟩, hmarker⟩
      cases hsame
      refine ⟨rfl, ?_⟩
      rintro (hmissing | hform)
      · rw [hmarker] at hmissing
        cases hmissing
      · exact hform bytes hbytes
    · rintro ⟨rfl, hformed⟩
      simp only [Malformed, not_or, Bool.not_eq_false, not_forall, Decidable.not_not] at hformed
      exact ⟨rfl, hformed.2, hformed.1⟩
  simp only [checkComplete, bind_eq_ok, hread]
  constructor
  · rintro ⟨complete, ⟨rfl, hformed⟩, houtcome⟩
    cases houtcome
    exact ⟨hformed, rfl⟩
  · rintro ⟨hformed, rfl⟩
    exact ⟨_, ⟨rfl, hformed⟩, rfl⟩

end Desktop

section Phone

variable {certPem fingerprint : String} {lexer : Kotlinx.Lexer} {draws : Android.Draws}
  {env : Android.Envelope} {ourDeviceId : String} {machine : PairingMachine}

/-- The phone records the fingerprint of the payload or fails, and fails on a malformed one. -/
theorem state_onComplete
    (hdecode : PairCompletePayload.decode env.payload =
      .ok { certPem, certFingerprint := fingerprint }) :
    (∃ reason, (machine.onComplete lexer draws env ourDeviceId).2.state = .failed reason) ∨
      ¬ Malformed certPem fingerprint ∧
        (machine.onComplete lexer draws env ourDeviceId).2.state =
          .paired ourDeviceId (PairingMachine.completePeer env machine.state) fingerprint := by
  simp only [PairingMachine.onComplete, hdecode]
  split
  · exact .inl ⟨_, rfl⟩
  · next hmarker =>
    split
    · exact .inl ⟨_, rfl⟩
    · next hvalid =>
      refine .inr ⟨?_, rfl⟩
      obtain ⟨bytes, hbytes⟩ := parses_of_isValidFingerprint (Bool.eq_true_of_not_eq_false hvalid)
      rintro (hmissing | hform)
      · exact hmarker hmissing
      · exact hform bytes hbytes

end Phone

/-! ## The exact condition -/

section Binding

variable {sha256} {certPem fingerprint : String}

/-- A well-formed payload is accepted, whatever certificate the fingerprint belongs to. -/
theorem wellFormed_is_accepted (h : ¬ Malformed certPem fingerprint) :
    ∃ (init : Initiator) (env : Proto.Envelope) (outcome : PairingOutcome),
      Proto.PairComplete.parse env.payload = .ok { certPem, certFingerprint := fingerprint } ∧
        init.onComplete env = .ok outcome ∧
        outcome.peerCertPem = certPem ∧ outcome.peerFingerprint = fingerprint := by
  let env := Net.sampleDraws.envelope .devicePairComplete ⟨1⟩
    (Proto.PairComplete.toValue { certPem, certFingerprint := fingerprint })
  have hparse : Proto.PairComplete.parse env.payload =
      .ok { certPem, certFingerprint := fingerprint } := Proto.PairComplete.parse_toValue _
  have haccepted : checkComplete Net.sampleInitiator.peerDeviceId env = .ok {
      peerDeviceId := Net.sampleInitiator.peerDeviceId
      peerFingerprint := fingerprint
      peerCertPem := certPem } := (checkComplete_eq_ok hparse).mpr ⟨h, rfl⟩
  exact ⟨Net.sampleInitiator, env, _, hparse, Initiator.onComplete_eq_ok.mpr ⟨rfl, haccepted⟩,
    rfl, rfl⟩

/-- The readers bind a fingerprint to its certificate exactly when it belongs to it already, or when
the payload is malformed. -/
theorem bindsCertificate_iff (sha256 : List UInt8 → Digest) (certPem fingerprint : String) :
    BindsCertificate sha256 certPem fingerprint ↔
      Belongs sha256 certPem fingerprint ∨ Malformed certPem fingerprint := by
  constructor
  · intro h
    by_contra hneither
    obtain ⟨hother, hformed⟩ := not_or.mp hneither
    obtain ⟨init, env, outcome, hparse, haccepted, hpem, hfingerprint⟩ :=
      wellFormed_is_accepted hformed
    have hbelongs := h.initiator init env outcome hparse haccepted
    rw [hpem, hfingerprint] at hbelongs
    exact hother hbelongs
  · intro h
    have hbelongs : ¬ Malformed certPem fingerprint → Belongs sha256 certPem fingerprint :=
      fun hformed ↦ h.resolve_right hformed
    refine ⟨?_, ?_, ?_, ?_, ?_⟩
    · intro init env outcome hparse haccepted
      obtain ⟨hformed, rfl⟩ :=
        (checkComplete_eq_ok hparse).mp (Initiator.onComplete_eq_ok.mp haccepted).2
      exact hbelongs hformed
    · intro responder env outcome hparse haccepted
      obtain ⟨hformed, rfl⟩ :=
        (checkComplete_eq_ok hparse).mp (Responder.onComplete_eq_ok.mp haccepted).2.2
      exact hbelongs hformed
    · intro lexer draws env ourDeviceId machine ours peer peerFingerprint hdecode hpaired
      rcases state_onComplete hdecode with ⟨reason, hfailed⟩ | ⟨hformed, hstate⟩
      · rw [hfailed] at hpaired
        cases hpaired
      · rw [hstate] at hpaired
        cases hpaired
        exact hbelongs hformed
    · intro hother env hparse
      refine ⟨fun init outcome haccepted ↦ ?_, fun responder outcome haccepted ↦ ?_⟩
      · have hchecked := (Initiator.onComplete_eq_ok.mp haccepted).2
        exact hother (hbelongs ((checkComplete_eq_ok hparse).mp hchecked).1)
      · have hchecked := (Responder.onComplete_eq_ok.mp haccepted).2.2
        exact hother (hbelongs ((checkComplete_eq_ok hparse).mp hchecked).1)
    · intro hother lexer draws env ourDeviceId machine hdecode
      rcases state_onComplete hdecode with hfailed | ⟨hformed, -⟩
      · exact hfailed
      · exact absurd (hbelongs hformed) hother

/-- A certificate of three bytes. -/
def sampleCertificate : String :=
  "-----BEGIN CERTIFICATE-----\nAQID\n-----END CERTIFICATE-----"

/-- The fingerprint of something else. -/
def otherFingerprint : String :=
  certFingerprint { bytes := List.replicate 32 0, length_eq := rfl }

/-- A certificate with a foreign fingerprint is accepted. -/
theorem foreign_fingerprint_is_accepted : ¬ ∀ (sha256 : List UInt8 → Digest)
    (certPem fingerprint : String), BindsCertificate sha256 certPem fingerprint := by
  intro h
  have hformed : ¬ Malformed sampleCertificate otherFingerprint := by
    rintro (hmissing | hform)
    · revert hmissing
      decide +kernel
    · exact hform _ (parseFingerprint_certFingerprint _)
  obtain ⟨init, env, outcome, hparse, haccepted, hpem, hfingerprint⟩ :=
    wellFormed_is_accepted hformed
  have hbelongs := (h sampleSha256 _ _).initiator init env outcome hparse haccepted
  rw [hpem, hfingerprint] at hbelongs
  revert hbelongs
  decide +kernel

end Binding

end PhoneBridge.Interop
