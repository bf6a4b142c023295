import PhoneBridge.Library.Json
import Mathlib.Data.String.Basic

/-!
# The dictionaries of the center

`i18n.rs` of the message-center: the response of `GET /api/v1/i18n`. The two shipped tables are
parameters.
-/

namespace PhoneBridge.MessageCenter

open Library

/-- `Dict`: a map with its keys in order. -/
structure Dict where
  entries : List (String × String)
  sorted : entries.Pairwise fun first second ↦ first.1 < second.1

namespace Dict

def get (dict : Dict) (key : String) : Option String := dict.entries.lookup key

end Dict

def locales : List String := ["zh", "en"]

/-- `detect_inner`: the locale of the environment. -/
def detectInner (env : String → Option String) : String :=
  let raw := ((env "LC_ALL").or ((env "LC_MESSAGES").or (env "LANG"))).getD ""
  let lang := String.ofList (raw.toList.takeWhile (· ∉ ['_', '.', '@']))
  match lang.toLower with
  | "zh" | "chinese" => "zh"
  | _ => "en"

/-- Response shape for `GET /api/v1/i18n?locale=…`. -/
structure I18nResponse where
  locale : String
  strings : Dict
  available : List String
  defaultLocale : String

def I18nResponse.toValue (r : I18nResponse) : Json :=
  .obj [("locale", .str r.locale),
    ("strings", .obj (r.strings.entries.map fun entry ↦ (entry.1, .str entry.2))),
    ("available", .arr (r.available.map .str)),
    ("default_locale", .str r.defaultLocale)]

/-- `get_i18n` with the query's locale. -/
def getI18n (zh en : Dict) (env : String → Option String) (locale : Option String) : I18nResponse :=
  let default := detectInner env
  let chosen := if locale.getD default = "zh" then ("zh", zh) else ("en", en)
  { locale := chosen.1, strings := chosen.2, available := locales, defaultLocale := default }

end PhoneBridge.MessageCenter
