import PhoneBridge.Android.BridgeClient
import PhoneBridge.Android.PairingMachine
import PhoneBridge.Library.Run
import PhoneBridge.Library.Text

/-!
# The foreground service of the phone

`BridgeService.kt` with the preferences of `PrefsRepository.kt`: the collector of the client's
status greets the desktop and persists a captured fingerprint, the collector of the preferences
starts the client, and incoming pairing messages go to the pairing machine. A flow hands its
collector the value it holds when the collector runs.
-/

namespace PhoneBridge.Android

open Library Kotlinx Crypto Proto

/-- The preferences that the service reads. -/
structure Prefs where
  desktopHost : Option String := none
  desktopPort : Option String := none
  fingerprint : Option String := none
  deviceName : Option String := none

/-- What the service is given: the platform, the identity store and the data of the build. -/
structure Platform where
  jce : Jce
  lexer : Lexer
  sha256 : List UInt8 → Digest
  store : IdentityStore
  manufacturer : Option String
  model : Option String
  androidId : Option String

/-- A platform for examples. -/
def samplePlatform : Platform where
  jce := sampleJce
  lexer := sampleLexer
  sha256 := sampleSha256
  store := sampleStore
  manufacturer := none
  model := none
  androidId := none

/-- What the three flows of `combine` have emitted so far. -/
structure Combined where
  host : Option (Option String) := none
  port : Option (Option String) := none
  fingerprint : Option (Option String) := none

inductive PrefField
  | host
  | port
  | fingerprint

/-- The service without its client. `collected` is the status whose block the collector of the
status is running. -/
structure ServiceParts where
  prefs : Prefs
  pairing : PairingMachine := {}
  combined : Combined := {}
  collected : Option BridgeStatus := none

/-- The service. -/
structure BridgeService extends ServiceParts where
  client : BridgeClient := {}

/-- Everything that happens to the service. `enqueue` is an envelope of the notification, SMS, call
and heartbeat producers. -/
inductive ServiceLabel
  | loop (draws : Draws) (event : LoopEvent)
  | stop
  | forceReconnect
  | enqueue (env : Envelope)
  | setDesktop (host : String) (port : Int32)
  | emitted (field : PrefField)
  | collectStatus
  | connectedBlock (draws : Draws)
  | initiate (draws : Draws)
  | userAccepts (draws : Draws)
  | userRejects (draws : Draws) (reason : String)

/-- A flow emits the current value of its preference. -/
def Combined.emit (prefs : Prefs) (seen : Combined) : PrefField → Combined
  | .host => { seen with host := some prefs.desktopHost }
  | .port => { seen with port := some prefs.desktopPort }
  | .fingerprint => { seen with fingerprint := some prefs.fingerprint }

/-- The collector of `kickoff`, once each of the three flows has emitted. -/
def Combined.kickoff {Client : Type} (start : String → Int32 → Option String → Client → Client)
    (seen : Combined) (client : Client) : Client :=
  match seen.host, seen.port, seen.fingerprint with
  | some (some host), some (some portStr), some fp =>
    if Text.isBlank host || Text.isBlank portStr then client
    else
      match Text.toIntOrNull portStr with
      | some port => start host port fp client
      | none => client
  | _, _, _ => client

section Parts

variable (platform : Platform) (draws : Draws)

/-- The `device.hello` of `sendHello`. -/
def ServiceParts.hello (s : ServiceParts) : Envelope :=
  let identity := s.pairing.longTerm.getD platform.store.identity
  let customName := Text.trim (s.prefs.deviceName.getD "")
  let displayName := if customName = "" then platform.model.getD "Android" else customName
  draws.envelope Android.MessageType.deviceHello platform.store.deviceId (DeviceHelloPayload.encode {
    name := displayName
    deviceType := .android
    protocolVersion := 1
    pubkey := identity.keyPair.point.toBase64
    manufacturer := platform.manufacturer
    model := platform.model
    hardwareId := platform.androidId })

end Parts

namespace BridgeService

variable (platform : Platform) (draws : Draws)

def send (s : BridgeService) (env : Envelope) : BridgeService :=
  { s with client := (s.client.send env).2 }

def sendHello (s : BridgeService) : BridgeService :=
  { s.send (s.hello platform draws) with
    pairing := s.pairing.ensureIdentity platform.store }

/-- The stored fingerprint after a connection that reported this one. -/
def persistFingerprint (fingerprint : String) (prefs : Prefs) : Prefs :=
  if fingerprint ≠ "" ∧ prefs.fingerprint.all Text.isBlank = true then
    { prefs with fingerprint := some fingerprint }
  else prefs

/-- The pairing machine after a call, and the envelope that the call sends. -/
def apply (s : BridgeService) (result : Option Envelope × PairingMachine) : BridgeService :=
  let s := { s with pairing := result.2 }
  match result.1 with
  | some env => s.send env
  | none => s

/-- What `handleIncoming` makes of the frame that the loop has read, if it is an envelope. -/
def incoming (s : BridgeService) : LoopEvent → Option Envelope × PairingMachine
  | .received frame =>
    match Envelope.decode platform.lexer frame with
    | .ok env => s.pairing.handleIncoming platform.jce platform.lexer platform.store draws env
    | .error _ => (none, s.pairing)
  | _ => (none, s.pairing)

/-- One step of the service. -/
def step (s : BridgeService) : ServiceLabel → Option BridgeService
  | .loop draws event =>
    (s.client.step platform.sha256 platform.lexer (.loop event)).map fun client ↦
      { s with client }.apply (s.incoming platform draws event)
  | .stop => some { s with client := s.client.stop }
  | .forceReconnect => some { s with client := s.client.forceReconnect }
  | .enqueue env => some (s.send env)
  | .setDesktop host port => some { s with prefs := { s.prefs with
      desktopHost := some host, desktopPort := some (toString port) } }
  | .emitted field =>
    let combined := s.combined.emit s.prefs field
    some { s with combined, client := combined.kickoff BridgeClient.start s.client }
  | .collectStatus => some { s with collected := some s.client.status }
  | .connectedBlock draws =>
    match s.collected with
    | some (.connected _ _ fingerprint) =>
      let s := s.sendHello platform draws
      some { s with prefs := persistFingerprint fingerprint s.prefs, collected := none }
    | _ => none
  | .initiate draws => some (s.apply (s.pairing.initiate platform.store draws))
  | .userAccepts draws => some (s.apply (s.pairing.userAccepts platform.store draws))
  | .userRejects draws reason => some (s.apply (s.pairing.userRejects platform.store draws reason))

end BridgeService

end PhoneBridge.Android
