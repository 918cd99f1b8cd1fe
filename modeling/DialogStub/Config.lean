import DialogStub.Text.Blank
import DialogStub.Text.Utf8

/-!
# Configuration

* `Config` — the settings of a server;
* `Config.standard` — the settings without any environment variable;
* `Config.ofEnvironment` — the settings of an environment.

A variable whose value is not UTF-8 counts as not set. A number that cannot be read leaves the
standard setting.
-/

namespace DialogStub

/-- The values of environment variables by name. -/
abbrev Environment := String → Option Bytes

/-- The settings of a server. Times are in milliseconds. -/
structure Config where
  bindAddress : String
  logLevel : String
  logJson : Bool
  /-- Origins with commas between them; none allows any origin. -/
  corsAllowedOrigins : Option String
  enableSwagger : Bool
  fixturesPath : Option String
  serviceName : String
  platformUrl : String
  probeTimeout : Nat
  requestTimeout : Nat
  demoDelay : Nat
  deriving DecidableEq, Repr

namespace Config

/-- The settings without any environment variable. -/
def standard : Config where
  bindAddress := "0.0.0.0:8099"
  logLevel := "info"
  logJson := false
  corsAllowedOrigins := none
  enableSwagger := true
  fixturesPath := none
  serviceName := "chatbot-mock-server"
  platformUrl := "http://localhost:8092/api/v1"
  probeTimeout := 2000
  requestTimeout := 10000
  demoDelay := 1000

/-! ### Single settings -/

/-- The digits of a number behind `value`, as long as it stays below `2 ^ 64`. -/
def digitsFrom (value : Nat) : List Char → Option Nat
  | [] => some value
  | c :: cs =>
    if '0' ≤ c ∧ c ≤ '9' then
      let next := value * 10 + (c.toNat - '0'.toNat)
      if next < 0x10000000000000000 then digitsFrom next cs else none
    else none

/-- A number of 64 bits: digits, with an optional plus sign in front. -/
def number? (cs : List Char) : Option Nat :=
  match cs with
  | [] => none
  | ['+'] => none
  | '+' :: digits => digitsFrom 0 digits
  | digits => digitsFrom 0 digits

/-- Whether a flag is set: `1`, or `true` in any case of its letters. -/
def flagOf (s : String) : Bool :=
  s = "1" || s.toList.map Char.toLower = "true".toList

/-- The text of a variable. -/
def text? (env : Environment) (name : String) : Option String :=
  (env name).bind Utf8.text?

/-- The text of a variable that is not all white space. -/
def filled? (env : Environment) (name : String) : Option String :=
  (text? env name).filter (fun s => Text.trimText s ≠ "")

/-- The number in a variable. -/
def milliseconds (env : Environment) (name : String) (standard : Nat) : Nat :=
  ((text? env name).bind (fun s => number? s.toList)).getD standard

/-- The flag in a variable. -/
def flag (env : Environment) (name : String) (standard : Bool) : Bool :=
  ((text? env name).map flagOf).getD standard

/-! ### All settings -/

/-- The settings of an environment. What a variable leaves open is written here a second time, next
    to the variable. -/
def ofEnvironment (env : Environment) : Config where
  bindAddress := (text? env "MOCK_BIND").getD "0.0.0.0:8099"
  logLevel := (text? env "MOCK_LOG").getD "info"
  logJson := flag env "MOCK_LOG_JSON" false
  corsAllowedOrigins := filled? env "MOCK_CORS_ORIGINS"
  enableSwagger := flag env "MOCK_ENABLE_SWAGGER" true
  fixturesPath := filled? env "MOCK_FIXTURES"
  serviceName := (text? env "MOCK_SERVICE_NAME").getD "chatbot-mock-server"
  platformUrl := (text? env "MOCK_PLATFORM_URL").getD "http://localhost:8092/api/v1"
  probeTimeout := milliseconds env "MOCK_PROBE_TIMEOUT_MS" 2000
  requestTimeout := milliseconds env "MOCK_UPSTREAM_TIMEOUT_MS" 10000
  demoDelay := milliseconds env "MOCK_DEMO_DELAY_MS" 1000

/-- Nothing set gives the standard settings. -/
theorem ofEnvironment_none : ofEnvironment (fun _ => none) = standard := rfl

end Config

end DialogStub
