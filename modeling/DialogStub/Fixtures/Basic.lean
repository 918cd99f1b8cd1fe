import DialogStub.Chat.Scenario
import DialogStub.Chat.Session
import DialogStub.Fixtures.Default
import DialogStub.Json.Shape.Reader
import DialogStub.Nlu.Intent

/-!
# Fixtures

All answers that do not come from the store: the sessions of the start, the scenario catalog, the
replies of the bot, what the services say of themselves, the payloads of the external endpoints
and the script of the demo.

* `Fixtures` — the contents of a fixtures document;
* `Fixtures.load` — the fixtures of a file, or the built-in ones.

The file system is a function from paths to contents.
-/

namespace DialogStub

open Json

/-! ### Records -/

/-- What a service says of itself. -/
structure ServiceInfo where
  service : String
  role : String
  version : Option String
  deriving DecidableEq, Repr

/-- A service in JSON. -/
def ServiceInfo.shape : Shape ServiceInfo :=
  .record "ServiceInfo" none
    (.cons (.plain "service") .text <| .cons (.plain "role") .text <|
      .cons (.defaulting "version" none) (.option .text) .nil)
    (fun (service, role, version, ()) => ⟨service, role, version⟩)
    (fun s => (s.service, s.role, s.version, ()))
    (fun _ => rfl)

/-- The three services. -/
structure ServiceFixtures where
  chat : ServiceInfo
  nlu : ServiceInfo
  orchestrator : ServiceInfo
  deriving DecidableEq, Repr

/-- The three services in JSON. -/
def ServiceFixtures.shape : Shape ServiceFixtures :=
  .record "ServiceFixtures" none
    (.cons (.plain "chat") ServiceInfo.shape <| .cons (.plain "nlu") ServiceInfo.shape <|
      .cons (.plain "orchestrator") ServiceInfo.shape .nil)
    (fun (chat, nlu, orchestrator, ()) => ⟨chat, nlu, orchestrator⟩)
    (fun s => (s.chat, s.nlu, s.orchestrator, ()))
    (fun _ => rfl)

/-- The payloads of the external endpoints. -/
structure ExternalFixtures where
  data : Json
  info : Json
  users : Json
  complexData : Json

/-- The payloads in JSON. -/
def ExternalFixtures.shape : Shape ExternalFixtures :=
  .record "ExternalFixtures" none
    (.cons (.plain "data") .any <| .cons (.plain "info") .any <| .cons (.plain "users") .any <|
      .cons (.plain "complex_data") .any .nil)
    (fun (data, info, users, complexData, ()) => ⟨data, info, users, complexData⟩)
    (fun e => (e.data, e.info, e.users, e.complexData, ()))
    (fun _ => rfl)

/-- The messages of the demo, in order. -/
structure DemoScript where
  messages : List String
  deriving DecidableEq, Repr

/-- The script in JSON. -/
def DemoScript.shape : Shape DemoScript :=
  .record "DemoScript" none (.cons (.plain "messages") (.list .text) .nil)
    (fun (messages, ()) => ⟨messages⟩) (fun d => (d.messages, ())) (fun _ => rfl)

/-- The contents of a fixtures document. -/
structure Fixtures where
  sessions : List Session
  scenarios : List Scenario
  replies : BotReplies
  services : ServiceFixtures
  external : ExternalFixtures
  demo : DemoScript

/-- A fixtures document. The sessions may be missing. -/
def Fixtures.shape : Shape Fixtures :=
  .record "Fixtures" none
    (.cons (.defaulting "sessions" []) (.list Session.shape) <|
      .cons (.plain "scenarios") (.list Scenario.shape) <|
      .cons (.plain "replies") BotReplies.shape <|
      .cons (.plain "services") ServiceFixtures.shape <|
      .cons (.plain "external") ExternalFixtures.shape <|
      .cons (.plain "demo") DemoScript.shape .nil)
    (fun (sessions, scenarios, replies, services, external, demo, ()) =>
      ⟨sessions, scenarios, replies, services, external, demo⟩)
    (fun f => (f.sessions, f.scenarios, f.replies, f.services, f.external, f.demo, ()))
    (fun _ => rfl)

/-! ### Loading -/

/-- Why a file cannot be read. -/
inductive FileFault where
  | notFound
  | directory
  | notDirectory
  | nameTooLong
  | zeroByte
  | encoding
  deriving DecidableEq, Repr

/-- The wording of a file fault. -/
def FileFault.message : FileFault → String
  | .notFound => "No such file or directory (os error 2)"
  | .directory => "Is a directory (os error 21)"
  | .notDirectory => "Not a directory (os error 20)"
  | .nameTooLong => "File name too long (os error 36)"
  | .zeroByte => "file name contained an unexpected NUL byte"
  | .encoding => "stream did not contain valid UTF-8"

/-- The contents of files by their paths. -/
abbrev Files := String → Except FileFault Bytes

namespace Fixtures

/-- Why fixtures cannot be loaded. -/
inductive Fault where
  | unreadable (path : String) (fault : FileFault)
  | malformed (path : String) (text : Bytes) (failure : Failure)
  | builtin (cause : Cause)
  deriving DecidableEq, Repr

/-- The wording of a fault. -/
def Fault.message : Fault → String
  | .unreadable path fault =>
    "failed to read fixtures file '" ++ path ++ "': " ++ fault.message
  | .malformed path text failure =>
    "failed to parse fixtures file '" ++ path ++ "': " ++ failure.message text
  | .builtin cause => "embedded fixtures are malformed: " ++ cause.message

/-- The fixtures that a text spells. -/
def ofBytes (bs : Bytes) : Except Failure Fixtures :=
  shape.ofBytes bs

/-- The fixtures of the built-in document. -/
def builtin : Except Fault Fixtures :=
  match shape.ofJson document with
  | .ok fixtures => .ok fixtures
  | .error cause => .error (.builtin cause)

/-- The fixtures of the file at a path, or the built-in ones if no path is given. -/
def load (files : Files) (path : Option String) : Except Fault Fixtures :=
  match path with
  | none => builtin
  | some path => match files path with
    | .error fault => .error (.unreadable path fault)
    | .ok bs => match Utf8.decode bs with
      | .error _ => .error (.unreadable path .encoding)
      | .ok _ => match ofBytes bs with
        | .error failure => .error (.malformed path bs failure)
        | .ok fixtures => .ok fixtures

end Fixtures

end DialogStub
