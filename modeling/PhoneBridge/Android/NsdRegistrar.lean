import PhoneBridge.Library.KeyMap
import PhoneBridge.Library.Run

/-!
# Discovered desktops

`NsdRegistrar.kt`: the callbacks of a discovery session and of the resolves that it starts. The
platform delivers the callbacks one at a time, in any order in which a resolve calls back after the
service that it is for was found; every listener of a service name is alike.
-/

namespace PhoneBridge.Android

open Library

/-- What the platform says of a service; `hostAddress` is `host?.hostAddress`. -/
structure NsdServiceInfo where
  serviceName : String
  serviceType : String
  hostAddress : Option String := none
  port : Int32 := 0

/-- One PhoneBridge desktop discovered on the LAN. -/
structure DiscoveredDesktop where
  instanceName : String
  name : String
  host : Option String
  port : Int32
  isResolving : Bool

def NsdRegistrar.serviceType : String := "_phonebridge._tcp."

/-- `serviceType.startsWith(SERVICE_TYPE)`. -/
def NsdServiceInfo.isDesktop (service : NsdServiceInfo) : Bool :=
  NsdRegistrar.serviceType.toList.isPrefixOf service.serviceType.toList

/-- The desktops, keyed by instance name, and the keys of the resolves that have not called back. -/
structure NsdRegistrar where
  desktops : KeyMap String DiscoveredDesktop := .empty
  resolves : List String := []

/-- A callback of the platform; a resolve listener knows the key of the service it was made for. -/
inductive NsdCallback
  | found (service : NsdServiceInfo)
  | resolveFailed (key : String)
  | resolved (key : String) (s : NsdServiceInfo)
  | lost (service : NsdServiceInfo)

namespace NsdRegistrar

/-- The placeholder row of a service. -/
def placeholder (key : String) : DiscoveredDesktop where
  instanceName := key
  name := key
  host := none
  port := 0
  isResolving := true

/-- Mark as resolving and start a resolve. -/
def onServiceFound (r : NsdRegistrar) (service : NsdServiceInfo) : NsdRegistrar :=
  let key := service.serviceName
  if service.isDesktop then
    { desktops := r.desktops.insert key (placeholder key), resolves := key :: r.resolves }
  else r

/-- Drop the placeholder on failure. -/
def onResolveFailed (r : NsdRegistrar) (key : String) : NsdRegistrar :=
  let isResolving := (r.desktops.get key).map DiscoveredDesktop.isResolving
  if isResolving = some true then { r with desktops := r.desktops.remove key } else r

def onServiceResolved (r : NsdRegistrar) (key : String) (s : NsdServiceInfo) : NsdRegistrar :=
  match s.hostAddress with
  | none => r
  | some host =>
    { r with
      desktops := r.desktops.insert key
        { instanceName := key, name := s.serviceName, host, port := s.port, isResolving := false } }

def onServiceLost (r : NsdRegistrar) (service : NsdServiceInfo) : NsdRegistrar :=
  { r with desktops := r.desktops.remove service.serviceName }

/-- The resolve of a key has called back. -/
def calledBack (r : NsdRegistrar) (key : String) : NsdRegistrar :=
  { r with resolves := r.resolves.erase key }

/-- One callback; that of a resolve only while one of its key is pending. -/
def step (r : NsdRegistrar) : NsdCallback → Option NsdRegistrar
  | .found service => some (r.onServiceFound service)
  | .resolveFailed key =>
    if key ∈ r.resolves then some ((r.onResolveFailed key).calledBack key) else none
  | .resolved key s =>
    if key ∈ r.resolves then some ((r.onServiceResolved key s).calledBack key) else none
  | .lost service => some (r.onServiceLost service)

end NsdRegistrar

/-! ## The callbacks of one service -/

namespace NsdCallback

/-- A desktop of this name is found. -/
def Finds (key : String) : NsdCallback → Prop
  | .found service => service.isDesktop = true ∧ service.serviceName = key
  | _ => False

/-- A service of this name is lost. -/
def Loses (key : String) : NsdCallback → Prop
  | .lost service => service.serviceName = key
  | _ => False

/-- A discovery event of the service. -/
def Discovers (key : String) (c : NsdCallback) : Prop := c.Finds key ∨ c.Loses key

/-- A resolve of the service fails. -/
def Fails (key : String) : NsdCallback → Prop
  | .resolveFailed other => other = key
  | _ => False

/-- A resolve of the service succeeds, with an address or without. -/
def Resolves (key : String) : NsdCallback → Prop
  | .resolved other _ => other = key
  | _ => False

/-- A resolve of the service calls back. -/
def CallsBack (key : String) (c : NsdCallback) : Prop := c.Fails key ∨ c.Resolves key

/-- A resolve of the service succeeds with an address. -/
def GivesAddress (key : String) : NsdCallback → Prop
  | .resolved other s => other = key ∧ s.hostAddress.isSome = true
  | _ => False

end NsdCallback

end PhoneBridge.Android
