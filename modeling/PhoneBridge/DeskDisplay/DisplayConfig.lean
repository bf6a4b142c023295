import PhoneBridge.Library.Url

/-!
# The configuration of the display

`config.rs` and `error.rs`. The parser of URLs is a parameter.
-/

namespace PhoneBridge.DeskDisplay

open Library

/-- `DisplayError`, as far as the modelled functions return it. -/
inductive DisplayError
  | config (message : String)
  | http (message : String)
  | webSocket (message : String)
  | dbus (message : String)
  | protocol (message : String)
  deriving DecidableEq, Repr

structure DisplayConfig where
  daemonUrl : String
  token : String

/-- The scheme of the WebSocket URL. -/
def wsScheme : String → String
  | "https" => "wss"
  | _ => "ws"

/-- The path of the WebSocket URL. -/
def wsPath (path : List Char) : List Char :=
  let paths := path.rdropWhile (· == '/')
  if "/ws/display".toList <:+ paths then paths
  else if "/ws".toList <:+ paths then paths ++ "/display".toList
  else (if paths = [] then paths else paths ++ ['/']) ++ "ws/display".toList

/-- Build the WebSocket URL for `/ws/display?token=…`. -/
def DisplayConfig.wsUrl (parse : String → Except String Url) (cfg : DisplayConfig) :
    Except DisplayError Url :=
  match parse cfg.daemonUrl with
  | .error e => .error (.config ("bad daemon url: " ++ e))
  | .ok u =>
    match u.setScheme (wsScheme u.scheme) with
    | none => .error (.config "could not switch scheme to ws/wss")
    | some u => .ok ((u.setPath (wsPath u.path.text)).appendPair "token" cfg.token)

end PhoneBridge.DeskDisplay
