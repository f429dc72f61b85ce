import TimeReports.Address.Basic
import TimeReports.Harvest.Program
import TimeReports.Json.Writer
import TimeReports.Text.Base64
import TimeReports.Text.UpperCase

set_option autoImplicit false

namespace TimeReports.Harvest

/-- Credentials, and how many pages of a listing may be asked for. -/
structure Client where
  token : Text
  account : Text
  pageBudget : Nat
  deriving DecidableEq, Repr

namespace Client

variable {σ : Type} [Console]

def hasCredentials (client : Client) : Bool := !client.token.isEmpty && !client.account.isEmpty

/-- How the client introduces itself. -/
def userAgent : Text := "Harvest HQL Integration".text

/-- What a request shows as its authorization: who the address says that asks, or else the token. -/
def authorization (client : Client) (user : Text) : Text :=
  let (name, secret) := (Text.cutAt? ':' user).getD (user, [])
  if name.isEmpty && secret.isEmpty then "Bearer ".text ++ client.token
  else
    "Basic ".text ++ Text.base64
      (Text.utf8 (Text.percentDecode name ++ .char ':' :: Text.percentDecode secret))

def headers (client : Client) (target : Address.Target) : List (Text × Text) :=
  [("authorization".text, client.authorization target.user),
    ("harvest-account-id".text, client.account),
    ("user-agent".text, userAgent),
    ("content-type".text, "application/json".text)]

/-- How a value is written in a query string. -/
def fieldText : Json → Text
  | .bool value => (if value then "true" else "false").text
  | .null => []
  | value => value.asMessage

/-- The fields of a query string. A list gives a field for each of its items. -/
def fields (params : List (Text × Json)) : List (Text × Text) :=
  params.flatMap fun (name, value) =>
    match value with
    | .array items => items.map fun item => (name, fieldText item)
    | value => [(name, fieldText value)]

def fail {α : Type} (message : String) : Program σ α := .fail (.harvest ⟨message.text, none⟩)

/-- The JSON value of an answer, if its body is one. A body that stands too deep breaks off the
exchange. -/
def valueOf (response : Response) : Program σ (Option Json) :=
  match Json.ofBytes response.body with
  | .ok value => .done (some value)
  | .error (.tooDeep container) => .fail (.breakdown .depth (Json.depthMessage container))
  | .error _ => .done none

def said? : Option Json → Option Json
  | some (.object members) => (Json.member? members "message".text).filter Json.isSomething
  | _ => none

/-- The failure that an answer without success reports: the message of its body, or its phrase. -/
def failure (response : Response) (value : Option Json) : ApiFailure where
  message := "Harvest API Error: ".text ++ (said? value).elim response.phrase Json.asMessage
  status := some response.status

def bodyOf (response : Response) : Program σ Json := do
  let value ← valueOf response
  if response.isSuccess then
    match value with
    | some value => return value
    | none =>
      .fail (.harvest ⟨"Unexpected response from Harvest API.".text, some response.status⟩)
  else .fail (.harvest (failure response value))

def received : Reply → Program σ Json
  | .answered response => bodyOf response
  | .timedOut => fail "Harvest API request timed out."
  | .unreachable message => do
    Program.say ("  Harvest API request error: ".text ++ message)
    fail "Failed to connect to Harvest API."
  | .broke fault => .fail fault

/-- The path below which the service answers. -/
def basePath : Text := "/v2/".text

/-- The target of an endpoint below the base path, with fields in its query. -/
def targetOf (endpoint : Text) (params : List (Text × Json)) : Address.Target :=
  ⟨[], none, none, basePath ++ endpoint, some (Text.formQuery (fields params)), []⟩

/-- Sends a request and gives the body of the answer. -/
def send (client : Client) (method : Text) (target : Address.Target) (body : Option Json) :
    Program σ Json :=
  if client.hasCredentials then
    .ask ⟨method, target.shownPath, target.shownQuery, body⟩ received
  else fail "Harvest API credentials are not set."

/-- Where an endpoint leads. Fields, if there are any, take the place of its own query. -/
def resolve (endpoint : Text) (params : Option (List (Text × Json))) :
    Except Address.Fault Address.Target := do
  let target ← Address.resolve basePath endpoint
  match params with
  | none => .ok target
  | some params => target.withQuery (Text.formQuery (fields params))

/-- What is said of a body that cannot be sent. -/
def unwritableMessage : Text := "Out of range float values are not JSON compliant".text

/-- Sends a request to an endpoint and gives the body of the answer. Methods are written in
capitals. -/
def request (client : Client) (method endpoint : Text) (params : Option (List (Text × Json)))
    (body : Option Json) : Program σ Json :=
  match resolve endpoint params with
  | .error fault =>
    if client.hasCredentials then .fail (.address fault)
    else fail "Harvest API credentials are not set."
  | .ok target =>
    if client.hasCredentials && !body.all Json.isSendable then
      .fail (.breakdown .value unwritableMessage)
    else do
      if client.hasCredentials then Program.ofExcept .name target.checkName
      client.send (Text.upper method) target body

def get (client : Client) (endpoint : Text) (params : List (Text × Json)) : Program σ Json :=
  client.send "GET".text (targetOf endpoint params) none

end Client
end TimeReports.Harvest
