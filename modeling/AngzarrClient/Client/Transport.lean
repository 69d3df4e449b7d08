/-
Where the coordinator of a domain listens (`transport.rs`): the transport mode
and the endpoint, from the environment.
-/
import AngzarrClient.Error

namespace AngzarrClient

/-- The environment, as `env::var(name).ok()` reads it. -/
abbrev Env := String → Option String

inductive TransportMode
  | standalone
  | distributed
deriving DecidableEq, Repr

def defaultUdsBase := "/tmp/angzarr"
def defaultNamespace := "angzarr"
def defaultChPort : UInt16 := 1310
def defaultTransportMode : TransportMode := .distributed

def envMode := "ANGZARR_MODE"
def envUdsBase := "ANGZARR_UDS_BASE"
def envNamespace := "ANGZARR_NAMESPACE"
def envChPort := "ANGZARR_CH_PORT"

/-- `TransportMode::from_env`. -/
def TransportMode.fromEnv (env : Env) : Except ClientError TransportMode :=
  match env envMode with
  | some s =>
      if s = "standalone" then .ok .standalone
      else if s = "distributed" then .ok .distributed
      else .error (.ofCode codes.invalidTransportMode messages.invalidTransportMode
        [(keys.input, s), (keys.envVar, envMode)])
  | none => .ok defaultTransportMode

/-- The digits of `s.parse::<u16>()`, which may follow a `+`. -/
def unsignedDigits (s : String) : List Char :=
  match s.toList with
  | '+' :: digits => digits
  | digits => digits

/-- `s.parse::<u16>()`. -/
def parseU16 (s : String) : Option UInt16 :=
  let digits := unsignedDigits s
  let value := digits.foldl (fun value digit => 10 * value + (digit.toNat - 48)) 0
  if digits ≠ [] ∧ digits.all Char.isDigit ∧ value < UInt16.size then
    some (UInt16.ofNat value)
  else none

/-- The base path of the sockets: environment, argument, default. -/
def effectiveUdsBase (env : Env) (udsBase : Option String) : String :=
  ((env envUdsBase).or udsBase).getD defaultUdsBase

/-- The port: a variable that is set must be a number. -/
def effectivePort (env : Env) (port : Option UInt16) : Except ClientError UInt16 :=
  match env envChPort with
  | some s =>
      match parseU16 s with
      | some p => .ok p
      | none => .error (.ofCode codes.invalidPort messages.invalidPort
          [(keys.input, s), (keys.envVar, envChPort)])
  | none => .ok (port.getD defaultChPort)

/-- `resolve_ch_endpoint`. -/
def resolveChEndpoint (env : Env) (domain : String) (mode : Option TransportMode)
    (udsBase ns : Option String) (port : Option UInt16) : Except ClientError String := do
  let mode ← match mode with
    | some mode => .ok mode
    | none => TransportMode.fromEnv env
  match mode with
  | .standalone => .ok (effectiveUdsBase env udsBase ++ "/ch-" ++ domain ++ ".sock")
  | .distributed =>
      let ns := ((env envNamespace).or ns).getD defaultNamespace
      let p ← effectivePort env port
      .ok ("ch-" ++ domain ++ "." ++ ns ++ ".svc:" ++ toString p.toNat)

example : parseU16 "5555" = some 5555 ∧ parseU16 "1310 " = none ∧
    parseU16 "65536" = none := by
  decide

end AngzarrClient
