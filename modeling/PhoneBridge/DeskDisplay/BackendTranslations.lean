import PhoneBridge.DeskDisplay.DisplayI18n
import PhoneBridge.DeskDisplay.LinuxBackend

/-!
# One translation for all backends

The live Linux backend (`present`), the shared translation (`translate_via_event`) and the mock
(`present_via_linux_logic`) each dispatch on the kind of an event, and share the functions that make
the toast.
-/

namespace PhoneBridge.DeskDisplay

open Library Proto

namespace LinuxBackend

/-- What the live `present` dispatches for an event. -/
def dispatchFor (display : SerdeError → String) (t : String → String) (event : DisplayEvent) :
    Except DisplayError (Option Presentation) :=
  (DeskDisplay.present t event).mapError fun e ↦ .protocol (event.kind ++ ": " ++ display e)

/-- `notify`: what the notification daemon answers to a summary, a body, buttons and a category. -/
abbrev Notify :=
  String → String → List (String × String) → Option String → Except DisplayError UInt32

/-- What the live `present` has done: the toast for which it has called `notify`, its result, and
the notifications that it remembers. -/
structure Presented where
  handed : Option MockToast
  result : Except DisplayError Unit
  map : KeyMap UInt32 NotifRef

def dispatchToast (notify : Notify) (map : KeyMap UInt32 NotifRef) (p : Presentation) : Presented :=
  match notify p.toast.title p.toast.body p.toast.actions p.category with
  | .error e => { handed := some p.toast, result := .error e, map }
  | .ok notifId => { handed := some p.toast, result := .ok (), map := map.insert notifId p.ref }

/-- The live `present`. -/
def present (display : SerdeError → String) (notify : Notify) (t : String → String)
    (map : KeyMap UInt32 NotifRef) (event : DisplayEvent) : Presented :=
  match dispatchFor display t event with
  | .error e => { handed := none, result := .error e, map }
  | .ok none => { handed := none, result := .ok (), map }
  | .ok (some p) => dispatchToast notify map p

end LinuxBackend

namespace MockBackend

open LinuxBackend

/-- A method of the mock, which keeps the toasts that it has recorded. -/
abbrev Mock := ExceptT DisplayError (StateM (List MockToast))

def record (toast : MockToast) : Mock Unit := modify (· ++ [toast])

section Run

variable {α β : Type} (captured : List MockToast)

end Run

end MockBackend

/-! ## The three dispatchers agree -/

section Agreement

open LinuxBackend MockBackend

variable (display : SerdeError → String) (t : String → String) (event : DisplayEvent)

/-- The toast of a translation, if there is one to show. -/
def shown : Except DisplayError (Option MockToast) → Option MockToast
  | .ok toast => toast
  | .error _ => none

/-- The mock's result and its toasts, for a translation that it records. -/
def recorded (captured : List MockToast) (translated : Except DisplayError (Option MockToast)) :
    Except DisplayError (Option MockToast) × List MockToast :=
  (translated, captured ++ (shown translated).toList)

end Agreement

end PhoneBridge.DeskDisplay
