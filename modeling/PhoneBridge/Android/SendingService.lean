import PhoneBridge.Android.BridgeService
import PhoneBridge.Android.OutgoingOrder

/-!
# The service over its sessions

`BridgeService.kt` over the client whose loops and senders end in their own time: a session that is
over can leave a sender behind that still drains the channel. The flow `incoming` keeps what the
sessions have read until the collector of the service comes to it.
-/

namespace PhoneBridge.Android

open Library Kotlinx Crypto

/-- The service with all its sessions. -/
structure SendingService extends ServiceParts where
  client : SendingClient := {}
  /-- what the collector of `incoming` has not handled, oldest first -/
  inbox : List Envelope := []

inductive SendingServiceLabel
  /-- a coroutine of the client goes on, or `stop`, `forceReconnect` or `send` is called; the
  notification, SMS, call and heartbeat producers call `send` -/
  | client (label : SendingLabel)
  | setDesktop (host : String) (port : Int32)
  | emitted (field : PrefField)
  | collectStatus
  | connectedBlock (draws : Draws)
  | handleIncoming (draws : Draws)
  | initiate (draws : Draws)
  | userAccepts (draws : Draws)
  | userRejects (draws : Draws) (reason : String)

def SendingClient.start (initialHost : String) (initialPort : Int32)
    (pinnedFingerprint : Option String) (s : SendingClient) : SendingClient :=
  { s with client := s.client.start initialHost initialPort pinnedFingerprint }

/-- The envelope that a step of the client emits to `incoming`; a frame that is none is skipped. -/
def SendingLabel.emitted (lexer : Lexer) : SendingLabel → Option Envelope
  | .loop (.received _ frame) => (Envelope.decode lexer frame).toOption
  | _ => none

namespace SendingService

variable (platform : Platform)

def send (s : SendingService) (env : Envelope) : SendingService :=
  { s with client := s.client.send env }

/-- The pairing machine after a call, and the envelope that the call sends. -/
def apply (s : SendingService) (result : Option Envelope × PairingMachine) : SendingService :=
  let s := { s with pairing := result.2 }
  match result.1 with
  | some env => s.send env
  | none => s

def sendHello (s : SendingService) (draws : Draws) : SendingService :=
  { s.send (s.hello platform draws) with
    pairing := s.pairing.ensureIdentity platform.store }

/-- One step of the service. -/
def step (s : SendingService) : SendingServiceLabel → Option SendingService
  -- only the collector of the preferences starts the client
  | .client (.loop (.start ..)) => none
  | .client label =>
    (s.client.step platform.sha256 platform.lexer label).map fun client ↦
      { s with client, inbox := s.inbox ++ (label.emitted platform.lexer).toList }
  | .setDesktop host port => some { s with prefs := { s.prefs with
      desktopHost := some host, desktopPort := some (toString port) } }
  | .emitted field =>
    let combined := s.combined.emit s.prefs field
    some { s with combined, client := combined.kickoff SendingClient.start s.client }
  | .collectStatus => some { s with collected := some s.client.client.status }
  | .connectedBlock draws =>
    match s.collected with
    | some (.connected _ _ fingerprint) =>
      let s := s.sendHello platform draws
      some { s with
        prefs := BridgeService.persistFingerprint fingerprint s.prefs
        collected := none }
    | _ => none
  | .handleIncoming draws =>
    match s.inbox with
    | [] => none
    | env :: inbox =>
      some ({ s with inbox }.apply
        (s.pairing.handleIncoming platform.jce platform.lexer platform.store draws env))
  | .initiate draws => some (s.apply (s.pairing.initiate platform.store draws))
  | .userAccepts draws => some (s.apply (s.pairing.userAccepts platform.store draws))
  | .userRejects draws reason => some (s.apply (s.pairing.userRejects platform.store draws reason))

/-- The service as it starts. -/
def started (prefs : Prefs) (pairing : PairingMachine) : SendingService := { prefs, pairing }

end SendingService

end PhoneBridge.Android
