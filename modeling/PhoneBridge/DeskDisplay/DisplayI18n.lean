import PhoneBridge.DeskDisplay.DisplayConfig
import PhoneBridge.Library.Serde

/-!
# The dictionary of the display

`i18n.rs` of the display: the dictionary that `load` fetches from the daemon, with the built-in
English one behind it.
-/

namespace PhoneBridge.DeskDisplay

open Library

/-- What the display reads of the daemon's response. -/
structure I18nResponse where
  defaultLocale : Option String
  dictionary : KeyMap String String

def I18nResponse.parse (json : Json) : Except SerdeError I18nResponse := do
  let read ← Serde.record ["default_locale", "dictionary"] json
  let defaultLocale ← Serde.optional read "default_locale" Serde.string
  let dictionary ← Serde.defaulted read "dictionary" (Serde.map Serde.string) .empty
  return { defaultLocale, dictionary }

structure DisplayI18n where
  dict : KeyMap String String

/-- The entries of the built-in English dictionary, each key once. -/
def builtinEnDict : List (String × String) :=
  [("notif.app_name", "PhoneBridge"),
    ("notif.action.reply", "Reply"),
    ("notif.action.mark_read", "Mark as read"),
    ("notif.action.dismiss", "Dismiss"),
    ("notif.action.answer", "Answer"),
    ("notif.action.hangup", "Hang up"),
    ("notif.sms.incoming", "SMS from {address}"),
    ("notif.call.incoming", "Incoming call from {number}"),
    ("notif.call.ongoing", "Ongoing call"),
    ("prompt.reply.title", "Reply to {address}"),
    ("prompt.reply.label", "Message"),
    ("toast.action_sent", "Reply sent"),
    ("toast.action_failed", "Action failed: {message}"),
    ("toast.phone_offline", "Phone offline; action not delivered")]

namespace DisplayI18n

def builtinEn : DisplayI18n := { dict := KeyMap.empty.insertAll builtinEnDict }

/-- `load`, given the URL that it requests and what the daemon answers to it: no response, or a body
that is JSON or not. -/
def load (url : Except DisplayError String) (answer : String → Except String (Option Json)) :
    DisplayI18n :=
  match url with
  | .error _ => builtinEn
  | .ok url =>
    match answer url with
    | .error _ => builtinEn
    | .ok none => builtinEn
    | .ok (some json) =>
      match I18nResponse.parse json with
      | .error _ => builtinEn
      | .ok body => { dict := body.dictionary.orInsertAll builtinEnDict }

def t (i18n : DisplayI18n) (key : String) : String := (i18n.dict.get key).getD key

end DisplayI18n

end PhoneBridge.DeskDisplay
