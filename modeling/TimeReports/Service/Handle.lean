import TimeReports.Service.Render

set_option autoImplicit false

namespace TimeReports.Service

variable [Console]

def missingKey : Record.Fault :=
  ⟨[.field "header".text, .field "X-API-Key".text], .missing⟩

def keyNotConfigured : Problem :=
  ⟨500, "API key not configured on server".text, .internalError, []⟩

def wrongKey : Problem := ⟨401, "Invalid or missing API key".text, .unauthorized, []⟩

/-- Lets a handler answer when the key is right and its parameters are well formed. -/
def guarded {α : Type} (check : KeyCheck) (parameters : Record.Checked α)
    (handler : α → Program Service Answer) : Program Service Answer :=
  match check, parameters with
  | .missing, .ok _ => return .refused [missingKey]
  | .missing, .error faults => return .refused (missingKey :: faults)
  | .notConfigured, _ => return .problem keyNotConfigured
  | .incomparable, _ => return .crashed
  | .wrong, _ => return .problem wrongKey
  | .right, .error faults => return .refused faults
  | .right, .ok value => handler value

/-- A refusal shows the values that it is about. When one of them cannot be sent, the request meets
a failure. -/
def showing (body : Body) : Answer → Answer
  | .refused faults =>
    if faults.all fun fault => (body.valueOf fault).isSendable then .refused faults else .crashed
  | answer => answer

/-- Content and problems show texts. When one of them cannot be sent, the request meets a failure.
-/
def sendable : Answer → Answer
  | .content status body => if body.isSendable then .content status body else .crashed
  | .problem met =>
    if (met.error :: met.details).all Json.isSendableText then .problem met else .crashed
  | answer => answer

def guardedBody {α : Type} (check : KeyCheck) (incoming : Incoming) (reader : Record.Reader α)
    (handler : α → Program Service Answer) : Program Service Answer :=
  match readBody incoming with
  | .error answer => return answer
  | .ok body => return showing body (← guarded check (narrowBody reader body) handler)

/-- Answers a request with what its route gives. -/
def answerOf (serverKey : Text) (stamp : Stamp) (today : Date) (incoming : Incoming) :
    Program Service Answer :=
  let check := checkKey serverKey incoming
  match Route.find incoming with
  | .error answer => return answer
  | .ok .health => health
  | .ok .render =>
    guardedBody check incoming RenderRequest.ofJson fun request =>
      render stamp incoming request today
  | .ok .timer => guarded check (.ok ()) fun _ => getTimer
  | .ok .startTimer =>
    guardedBody check incoming StartRequest.ofJson fun request => startTimer request today
  | .ok .stopTimer => guarded check (.ok ()) fun _ => stopTimer
  | .ok .toggleTimer => guarded check (.ok ()) fun _ => toggleTimer
  | .ok .projects => guarded check (refreshFlag incoming) fun refresh => listProjects refresh today
  | .ok (.tasks project) =>
    guarded check (projectNumber project) fun project => listTasks project today
  | .ok .description => return .description

def handle (serverKey : Text) (stamp : Stamp) (today : Date) (incoming : Incoming) :
    Program Service Answer :=
  return sendable (← answerOf serverKey stamp today incoming)

/-- The body that is sent with an answer, if any is: a HEAD request is answered without one. -/
def sentBody? (incoming : Incoming) (answer : Answer) : Option Json :=
  if incoming.method = "HEAD".text || !answer.hasBody then none else some answer.body

end TimeReports.Service
