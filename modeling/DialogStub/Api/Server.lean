import DialogStub.Api.Content
import DialogStub.Config
import DialogStub.Fixtures.Basic
import DialogStub.Http.Cors
import DialogStub.Platform.Client

/-!
# Servers

* `Server` — all that stays the same while a server runs;
* `Server.start?` — the server of a configuration;
* `Server.initial` — the world in which it begins;
* `Handler` — what is done for a request: a JSON answer, or an error;
* `Handler.reply`, `Handler.fail` — how a handler ends;
* `Handler.respond` — the response of a handler.
-/

namespace DialogStub

open Http Json

/-- All that stays the same while a server runs. -/
structure Server where
  config : Config
  fixtures : Fixtures
  client : Platform.Client
  supply : Supply
  policy : Cors.Policy

namespace Server

/-- The server of a configuration, or a complaint about its list of origins. -/
def start? (config : Config) (fixtures : Fixtures) (platform : Platform) (supply : Supply) :
    Except String Server :=
  match Cors.Policy.ofSetting? config.corsAllowedOrigins with
  | .error message => .error message
  | .ok policy =>
    .ok ⟨config, fixtures, .ofAddress platform config.platformUrl, supply, policy⟩

/-- The world in which a server begins. -/
def initial (server : Server) : World :=
  .ofStore (.seeded server.fixtures.sessions)

end Server

/-- What is done for a request: a JSON answer, or an error. -/
abbrev Handler := Effect (Except ApiError Json)

/-- The response of a handler. -/
def Handler.respond (handler : Handler) : Effect Response := do
  match ← handler with
  | .ok value => return .json 200 value
  | .error e => e.answer

/-- The answer of a record. -/
def Handler.reply {α : Type} (shape : Shape α) (record : α) : Handler :=
  return .ok (shape.toJson record)

/-- The end with an error. -/
def Handler.fail (e : ApiError) : Handler :=
  return .error e

end DialogStub
