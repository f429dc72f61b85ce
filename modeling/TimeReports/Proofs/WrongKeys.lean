import TimeReports.Proofs.Authorisation

set_option autoImplicit false

namespace TimeReports.Service

variable {serverKey : Text} {incoming : Incoming} {answer : Answer} {check : KeyCheck} {good : Prop}

/-- Whether an answer denies access: as unauthorised, by its status and by the code in its body. -/
def Answer.Denies (answer : Answer) : Prop :=
  answer.status = 401 ∧ valueAt answer.body [.field "detail".text, .field "code".text] =
    .string "UNAUTHORIZED".text

def Route.TakesBody (route : Route) : Prop := route = .render ∨ route = .startTimer

/-- Whether a request carries a key that can be compared. -/
def Comparable (incoming : Incoming) : Prop :=
  ∃ key, incoming.header? "x-api-key" = some key ∧ Text.isAscii key = true

/-- An answer to a request without the right key: the problem of a wrong key on a condition, and
otherwise a refusal or a failure. -/
structure Turned (good : Prop) (answer : Answer) : Prop where
  denied : good → answer = .problem wrongKey
  otherwise : ¬ good → answer.status = 400 ∨ answer.status = 422 ∨ answer.status = 500

theorem denies_wrongKey : (Answer.problem wrongKey).Denies := ⟨rfl, rfl⟩

theorem Turned.denies_iff (turned : Turned good answer) : answer.Denies ↔ good := by
  constructor
  · intro denies
    by_contra other
    have status := turned.otherwise other
    rw [denies.1] at status
    simp at status
  · intro holds
    rw [turned.denied holds]
    exact denies_wrongKey

theorem turned_of_not (other : ¬ good)
    (status : answer.status = 400 ∨ answer.status = 422 ∨ answer.status = 500) :
    Turned good answer :=
  ⟨fun holds => absurd holds other, fun _ => status⟩

/-- A key that is not the server's is wrong exactly when it can be compared. -/
theorem checkKey_eq_wrong_iff (configured : serverKey ≠ []) (ascii : Text.isAscii serverKey = true)
    (differs : incoming.header? "x-api-key" ≠ some serverKey) :
    checkKey serverKey incoming = .wrong ↔ Comparable incoming := by
  unfold checkKey Comparable
  cases carried : incoming.header? "x-api-key" with
  | none => simp
  | some key =>
    have other : key ≠ serverKey := fun same => differs (carried.trans (congrArg some same))
    cases plain : Text.isAscii key <;> simp [configured, ascii, other, plain]

theorem turned_guarded {α : Type} (wrong : check ≠ .right) (parameters : Record.Checked α)
    (handler : α → Program Service Answer) :
    ∃ answer, guarded check parameters handler = .done answer ∧ Turned (check = .wrong) answer := by
  cases check with
  | right => exact absurd rfl wrong
  | wrong => exact ⟨_, rfl, fun _ => rfl, fun other => absurd rfl other⟩
  | missing =>
    cases parameters <;> exact ⟨_, rfl, turned_of_not KeyCheck.noConfusion (.inr (.inl rfl))⟩
  | notConfigured => exact ⟨_, rfl, turned_of_not KeyCheck.noConfusion (.inr (.inr rfl))⟩
  | incomparable => exact ⟨_, rfl, turned_of_not KeyCheck.noConfusion (.inr (.inr rfl))⟩

theorem Turned.showing (turned : Turned good answer) (body : Body) :
    Turned good (showing body answer) := by
  by_cases holds : good
  · rw [turned.denied holds]
    exact ⟨fun _ => rfl, fun other => absurd holds other⟩
  · refine turned_of_not holds ?_
    unfold Service.showing
    split
    · split
      · exact turned.otherwise holds
      · exact .inr (.inr rfl)
    · exact turned.otherwise holds

theorem Turned.sendable (turned : Turned good answer) : Turned good (sendable answer) := by
  by_cases holds : good
  · rw [turned.denied holds]
    exact ⟨fun _ => rfl, fun other => absurd holds other⟩
  · refine turned_of_not holds ?_
    unfold Service.sendable
    split
    · split
      · exact turned.otherwise holds
      · exact .inr (.inr rfl)
    · split
      · exact turned.otherwise holds
      · exact .inr (.inr rfl)
    · exact turned.otherwise holds

/-- Where a body is taken, the key counts once it has been read. -/
theorem turned_guardedBody {α : Type} (wrong : check ≠ .right) (incoming : Incoming)
    (reader : Record.Reader α) (handler : α → Program Service Answer) :
    ∃ answer, guardedBody check incoming reader handler = .done answer ∧
      Turned (check = .wrong ∧ ∃ body, readBody incoming = .ok body) answer := by
  unfold guardedBody
  split
  · next unread =>
    refine ⟨_, rfl, turned_of_not (by simp [unread]) ?_⟩
    rcases cases_of_readBody unread with rfl | ⟨faults, rfl⟩
    · exact .inl rfl
    · exact .inr (.inl rfl)
  · next body read =>
    obtain ⟨answer, same, turned⟩ := turned_guarded wrong (narrowBody reader body) handler
    rw [same]
    have shown := turned.showing body
    refine ⟨_, rfl, fun holds => shown.denied holds.1, fun other => shown.otherwise ?_⟩
    exact fun wrong => other ⟨wrong, body, read⟩

/-- A request to a guarded route without the right key is turned away at once. -/
theorem exists_turned [Console] {route : Route} (found : Route.find incoming = .ok route)
    (below : guardedPath <+: incoming.path) (wrong : checkKey serverKey incoming ≠ .right)
    (stamp : Stamp) (today : Date) :
    ∃ answer, handle serverKey stamp today incoming = .done answer ∧
      Turned (checkKey serverKey incoming = .wrong ∧
        (route.TakesBody → ∃ body, readBody incoming = .ok body)) answer := by
  obtain ⟨not_health, not_description⟩ := guarded_of_find below found
  obtain ⟨answer, same, turned⟩ : ∃ answer,
      answerOf serverKey stamp today incoming = .done answer ∧
        Turned (checkKey serverKey incoming = .wrong ∧
          (route.TakesBody → ∃ body, readBody incoming = .ok body)) answer := by
    unfold answerOf
    rw [found]
    cases route with
    | health => exact absurd rfl not_health
    | description => exact absurd rfl not_description
    | render => simpa [Route.TakesBody] using turned_guardedBody wrong incoming _ _
    | startTimer => simpa [Route.TakesBody] using turned_guardedBody wrong incoming _ _
    | _ => simpa [Route.TakesBody] using turned_guarded wrong _ _
  refine ⟨_, ?_, turned.sendable⟩
  unfold handle
  rw [same]
  rfl

/-- A request to a guarded route without the key of the service is denied as unauthorised exactly
when it carries a key that can be compared and its body, where one is taken, has been read. Whatever
it is answered, it has no effect. -/
theorem denied_iff_comparable [Console] {route : Route}
    (found : Route.find incoming = .ok route)
    (below : guardedPath <+: incoming.path) (configured : serverKey ≠ [])
    (ascii : Text.isAscii serverKey = true)
    (differs : incoming.header? "x-api-key" ≠ some serverKey) (stamp : Stamp) (today : Date)
    (service : Service) (replies : List Harvest.Reply) :
    ∃ answer : Answer, (handle serverKey stamp today incoming).run service replies =
        ⟨.returned answer, service, replies, []⟩ ∧
      (answer.Denies ↔ Comparable incoming ∧
        (route.TakesBody → ∃ body, readBody incoming = .ok body)) ∧
      (¬ answer.Denies → answer.status = 400 ∨ answer.status = 422 ∨ answer.status = 500) := by
  obtain ⟨answer, same, turned⟩ :=
    exists_turned found below (checkKey_ne_right ⟨below, .inr differs⟩) stamp today
  rw [checkKey_eq_wrong_iff configured ascii differs] at turned
  refine ⟨answer, by rw [same]; rfl, turned.denies_iff, fun other => turned.otherwise ?_⟩
  exact fun good => other (turned.denies_iff.mpr good)

theorem timerRequest_denied : Route.find timerRequest = .ok .timer ∧
    guardedPath <+: timerRequest.path ∧ "other".text ≠ [] ∧ Text.isAscii "other".text = true ∧
    timerRequest.header? "x-api-key" ≠ some "other".text ∧
    ∃ answer : Answer, (handle "other".text ⟨[], [], 0⟩ Execution.someDay timerRequest).run
        knownService [] = ⟨.returned answer, knownService, [], []⟩ ∧ answer.Denies := by
  have found : Route.find timerRequest = .ok .timer := by rfl
  have below : guardedPath <+: timerRequest.path := by decide
  have differs : timerRequest.header? "x-api-key" ≠ some "other".text := by decide
  obtain ⟨answer, ran, denies, -⟩ := denied_iff_comparable found below (by decide) (by decide)
    differs ⟨[], [], 0⟩ Execution.someDay knownService []
  have comparable : Comparable timerRequest := ⟨"key".text, by decide, by decide⟩
  have untaken : ¬ Route.timer.TakesBody := by simp [Route.TakesBody]
  exact ⟨found, below, by decide, by decide, differs, answer, ran,
    denies.mpr ⟨comparable, fun takes => absurd takes untaken⟩⟩

/-- A request for the timer whose key has a letter with an accent. -/
def accentedRequest : Incoming :=
  { timerRequest with headers := [("x-api-key".text, Text.utf8 "é".text)] }

/-- A request for the timer without a key. -/
def keylessRequest : Incoming := { timerRequest with headers := [] }

/-- A key that cannot be compared and a missing one are not denied. -/
theorem wrong_keys_not_denied :
    (handle "key".text ⟨[], [], 0⟩ Execution.someDay accentedRequest).run knownService [] =
        ⟨.returned .crashed, knownService, [], []⟩ ∧ ¬ Answer.crashed.Denies ∧
    (handle "key".text ⟨[], [], 0⟩ Execution.someDay keylessRequest).run knownService [] =
        ⟨.returned (.refused [missingKey]), knownService, [], []⟩ ∧
      ¬ (Answer.refused [missingKey]).Denies := by
  refine ⟨rfl, fun denied => ?_, rfl, fun denied => ?_⟩
  · exact absurd denied.1 (by decide)
  · exact absurd denied.1 (by decide)

end TimeReports.Service
