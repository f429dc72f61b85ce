import TimeReports.Json.Bytes
import TimeReports.Json.Writer
import TimeReports.Record.Scalar
import TimeReports.Record.DateField
import TimeReports.Service.Answer
import TimeReports.Text.Blank
import TimeReports.Text.Form

set_option autoImplicit false

namespace TimeReports.Service

structure Incoming where
  /-- The method, in capitals. -/
  method : Text
  path : Text
  /-- The query string as it is sent. -/
  query : Text
  headers : List (Text × Text.Bytes)
  body : Text.Bytes
  peer : Text

namespace Incoming

/-- The fields of the query string of a request. -/
def fields (incoming : Incoming) : List (Text × Text) := Text.formFields incoming.query

/-- The value of a header, whose name is given in small letters. -/
def header? (incoming : Incoming) (name : String) : Option Text :=
  (incoming.headers.find? fun (other, _) => other.map CodePoint.toLower == name.text).map
    fun (_, bytes) => bytes.map fun b => CodePoint.ofNat b.toNat

/-- The address that a request comes from: the first one that it was forwarded for, or else the
peer. -/
def clientAddress (incoming : Incoming) : Text :=
  match incoming.header? "x-forwarded-for" with
  | some (c :: rest) => Text.trim ((c :: rest).takeWhile (· ≠ ','))
  | _ => incoming.peer

/-- Whether a request announces its body as JSON: an application type that is `json` or ends with
`+json`, whatever its parameters. -/
def announcesJson (incoming : Incoming) : Bool :=
  let announced := (incoming.header? "content-type").getD []
  match Text.pieces '/' ((Text.trim (announced.takeWhile (· ≠ ';'))).map CodePoint.toLower) with
  | [kind, subkind] =>
    kind = "application".text
      && (subkind = "json".text || "+json".text.isSuffixOf subkind)
  | _ => false

end Incoming

inductive Route where
  | health
  | render
  | timer
  | startTimer
  | stopTimer
  | toggleTimer
  | projects
  | tasks (project : Text)
  /-- What the service says of itself. -/
  | description
  deriving DecidableEq, Repr

def Route.methods : Route → List Text
  | .health => ["GET".text]
  | .render => ["POST".text]
  | .timer => ["GET".text]
  | .startTimer => ["POST".text]
  | .stopTimer => ["POST".text]
  | .toggleTimer => ["POST".text]
  | .projects => ["GET".text]
  | .tasks _ => ["GET".text]
  | .description => ["GET".text, "HEAD".text]

def fixedPaths : List (Text × Route) :=
  [("/health".text, .health), ("/v1/queries/render".text, .render),
    ("/v1/timer".text, .timer), ("/v1/timer/start".text, .startTimer),
    ("/v1/timer/stop".text, .stopTimer), ("/v1/timer/toggle".text, .toggleTimer),
    ("/v1/projects".text, .projects), ("/openapi.json".text, .description),
    ("/docs".text, .description), ("/docs/oauth2-redirect".text, .description),
    ("/redoc".text, .description)]

/-- The route of a path. A line feed at its end does not count. -/
def Route.ofPath? (path : Text) : Option Route :=
  let path := Text.withoutLineFeed path
  match fixedPaths.lookup path with
  | some route => some route
  | none =>
    match Text.pieces '/' path with
    | [[], first, second, project, last] =>
      if first = "v1".text ∧ second = "projects".text ∧ last = "tasks".text
          ∧ project ≠ [] then
        some (.tasks project)
      else none
    | _ => none

/-- A path with the slash at its end taken away, or with one put there. -/
def otherSlash (path : Text) : Text :=
  if path.getLast? = some '/' then Text.trimRightBy (· = '/') path else path ++ "/".text

def Route.find (incoming : Incoming) : Except Answer Route :=
  let path := incoming.path
  match Route.ofPath? path with
  | some route => if route.methods.contains incoming.method then .ok route else .error .wrongMethod
  | none =>
    if path ≠ [.char '/'] ∧ (Route.ofPath? (otherSlash path)).isSome then
      .error (.movedTo (otherSlash path))
    else .error .unknownPath

/-- What the key of a request is worth. -/
inductive KeyCheck where
  | missing
  | notConfigured
  /-- Keys are only compared when both are ASCII. -/
  | incomparable
  | wrong
  | right
  deriving DecidableEq, Repr

def checkKey (serverKey : Text) (incoming : Incoming) : KeyCheck :=
  match incoming.header? "x-api-key" with
  | none => .missing
  | some key =>
    if serverKey.isEmpty then .notConfigured
    else if !Text.isAscii key || !Text.isAscii serverKey then .incomparable
    else if key = serverKey then .right
    else .wrong

/-- A block to evaluate, with its location when it may be frozen. -/
structure RenderRequest where
  source : Text
  document : Option Text
  first : Option Nat
  last : Option Nat
  today : Option Date
  deriving DecidableEq, Repr

structure StartRequest where
  project : Int
  task : Int
  deriving DecidableEq, Repr

open Record

/-- Narrows to a block to evaluate. -/
def RenderRequest.ofJson : Reader RenderRequest := ofMembers fun members =>
  ((((Checked.apply (.ok RenderRequest.mk) (required members "source" text)).apply
    (optional members "document_id" (orNull text) none)).apply
    (optional members "line_start" (orNull natural) none)).apply
    (optional members "line_end" (orNull natural) none)).apply
    (optional members "today" (orNull date) none)

def StartRequest.ofJson : Reader StartRequest := ofMembers fun members =>
  (Checked.apply (.ok StartRequest.mk) (required members "project_id" int)).apply
    (required members "task_id" int)

inductive Body where
  /-- Nothing, or null. -/
  | absent
  | value (value : Json)
  /-- Bytes that are not announced as JSON. -/
  | bytes

def readBody (incoming : Incoming) : Except Answer Body :=
  if incoming.body.isEmpty then .ok .absent
  else if !incoming.announcesJson then .ok .bytes
  else
    match Json.ofBytes incoming.body with
    | .ok .null => .ok .absent
    | .ok value => .ok (.value value)
    | .error (.malformed offset) =>
      .error (.refused [⟨[.field "body".text, .item offset], .malformed⟩])
    | .error _ => .error .unreadableBody

/-- The value that a place leads to, or the last one on the way when the way ends. -/
def valueAt : Json → List Place → Json
  | .object members, .field name :: rest =>
    match Json.member? members name with
    | some value => valueAt value rest
    | none => .object members
  | .array items, .item index :: rest =>
    match items[index]? with
    | some value => valueAt value rest
    | none => .array items
  | value, _ => value

def Body.valueOf (body : Body) (fault : Record.Fault) : Json :=
  match body, fault.place with
  | .value content, first :: rest =>
    if first = .field "body".text then valueAt content rest else .null
  | _, _ => .null

def narrowBody {α : Type} (reader : Reader α) (body : Body) : Checked α :=
  Checked.inside (.field "body".text) <|
    match body with
    | .absent => .fail .missing
    | .value (.object members) => reader (.object members)
    | .value _ => .fail .notObject
    | .bytes => .fail .notObject

/-- The flag of a query string that demands a refresh. -/
def refreshFlag (incoming : Incoming) : Checked Bool :=
  match incoming.fields.reverse.lookup "refresh".text with
  | none => .ok false
  | some value =>
    ((bool (.string value)).inside (.field "refresh".text)).inside (.field "query".text)

def projectNumber (project : Text) : Checked Int :=
  ((int (.string project)).inside (.field "project_id".text)).inside (.field "path".text)

end TimeReports.Service
