import TimeReports.Proofs.Budgets
import TimeReports.Proofs.Doubles
import TimeReports.Proofs.Records
import TimeReports.Proofs.TimerAnswers

set_option autoImplicit false

namespace TimeReports.Service

open Execution Program RequestLog

/-- Whether a request is let through to the handler of evaluations, with its body. -/
structure Admitted (serverKey : Text) (incoming : Incoming) (request : RenderRequest) : Prop where
  found : Route.find incoming = .ok .render
  key : checkKey serverKey incoming = .right
  read : ∃ body, readBody incoming = .ok body ∧
    narrowBody RenderRequest.ofJson body = .ok request

section

variable [Console]

def evaluated (request : RenderRequest) (today : Date) (location : Option Location) (desk : Desk)
    (replies : List Harvest.Reply) : Run Desk Execution.Result :=
  executed request.source Session.fetchEntries location (request.today.getD today) desk replies

/-- Which end the handler comes to. -/
inductive Leaves (request : RenderRequest) (today : Date) (desk : Desk)
    (replies : List Harvest.Reply) : Exit → Prop
  | refused {document : Text} {first last : Nat} (named : request.document = some document)
    (starts : request.first = some first) (ends : request.last = some last)
    (inverted : last < first) : Leaves request today desk replies .refused
  | finished {location : Option Location} {result : Execution.Result}
    (located : blockLocation request = .ok location)
    (returned : (evaluated request today location desk replies).outcome = .returned result) :
    Leaves request today desk replies (.finished result)
  | failed {location : Option Location} {fault : Fault}
    (located : blockLocation request = .ok location)
    (failed : (evaluated request today location desk replies).outcome = .failed fault) :
    Leaves request today desk replies (.failed fault)

end

/-- What the response to an evaluation says of it. -/
structure Response where
  state : Text
  failed : Bool
  rewritten : Bool
  queryType : Option Text
  firstDay : Option Text
  lastDay : Option Text

structure Answer.Says (answer : Answer) (response : Response) : Prop where
  state : answer.field? "state" = some (.string response.state)
  failed : answer.field? "failed" = some (.bool response.failed)
  rewritten : answer.field? "rewritten" = some (.bool response.rewritten)
  queryType : answer.field? "query_type" = some (response.queryType.elim .null .string)
  firstDay : answer.field? "from_date" = some (response.firstDay.elim .null .string)
  lastDay : answer.field? "to_date" = some (response.lastDay.elim .null .string)

def memberOf? (name : String) : Json → Option Json
  | .object members => Json.member? members name.text
  | _ => none

/-- The text of the first node of the display of an answer. -/
def Answer.message? (answer : Answer) : Option Text := do
  match ← memberOf? "children" (← answer.field? "display") with
  | .array (node :: _) =>
    match ← memberOf? "text" node with
    | .string text => some text
    | _ => none
  | _ => none

/-- The type of the detail for a state that an evaluation failed in. -/
def failureKinds : List (Text × Text) :=
  [("parse_failed".text, "query_error".text), ("fetch_failed".text, "harvest_error".text),
    ("rewrite_failed".text, "rewrite".text)]

/-- Whether a row and its details agree with a response. -/
structure Reflects (request : RenderRequest) (answer : Answer) (response : Response)
    (row : Columns Datum) (details : List Detail) : Prop where
  state : row.executionState = .text response.state
  queryType : row.queryType = response.queryType.elim .null .text
  firstDay : row.fromDate = response.firstDay.elim .null .text
  lastDay : row.toDate = response.lastDay.elim .null .text
  entries : row.entriesFetched.isNull = false ↔ response.state = State.done.name
  hours : row.totalHours.isNull = false ↔ response.state = State.done.name
  count : details.length = if response.failed || response.rewritten then 1 else 0
  failure : response.failed = true → ∃ kind message, (response.state, kind) ∈ failureKinds ∧
    answer.message? = some message ∧ details = [⟨row.requestId, .text kind, .text message⟩]
  freeze : response.rewritten = true → ∃ document, request.document = some document ∧
    details = [⟨row.requestId, .text "rewrite".text, .text ("Froze block in ".text ++ document)⟩]

/-- Whether a row and its details tell of an end as it was. -/
structure Truthful (stamp : Stamp) (request : RenderRequest) (exit : Exit) (row : Columns Datum)
    (details : List Detail) : Prop where
  names : row.requestId = .text stamp.requestId ∧ row.querySource = .text request.source
  status : row.statusCode = .int exit.status
  responded : exit.status = 200 → ∃ response, exit.answer.Says response ∧
    Reflects request exit.answer response row details
  refused : exit.status = 400 → details = [] ∧ row.errorCode = .text "INVALID_REQUEST".text
  broken : exit.status = 500 → details = [] ∧ row.errorCode = .text "INTERNAL_ERROR".text

variable {serverKey : Text} {stamp : Stamp} {today : Date} {incoming : Incoming}
  {request : RenderRequest} {exit : Exit} {service : Service} {desk : Desk}
  {replies : List Harvest.Reply}

/-- A location is inverted, or it names the document of the request. -/
theorem blockLocation_cases (request : RenderRequest) :
    (∃ document first last, request.document = some document ∧ request.first = some first ∧
      request.last = some last ∧ last < first ∧
      blockLocation request = .error invertedLocation) ∨
    ∃ location, blockLocation request = .ok location ∧
      ∀ place, location = some place → request.document = some place.document := by
  obtain ⟨source, document, first, last, today⟩ := request
  unfold blockLocation
  split
  · next document first last named starts ends =>
    split
    · next inverted => exact Or.inl ⟨document, first, last, named, starts, ends, inverted, rfl⟩
    · refine Or.inr ⟨_, rfl, fun place placed => ?_⟩
      cases placed
      exact named
  · exact Or.inr ⟨none, rfl, nofun⟩

/-- What the log relies on in the result of an evaluation. -/
structure Shaped (request : RenderRequest) (result : Execution.Result) : Prop where
  /-- A failure is shown in one line, and nothing is replaced. -/
  failure : result.failed = true → result.replaced = false ∧
    ∃ message, result.display = .message message "harvest-error"
  frozen : result.replaced = true → ∃ document, request.document = some document
  total : 0 ≤ result.totalHours

theorem shaped_of_evaluated [Console] {location : Option Location} {result : Execution.Result}
    (named : ∀ place, location = some place → request.document = some place.document)
    (returned : (evaluated request today location desk replies).outcome = .returned result) :
    Shaped request result := by
  have ending := ending_of_returned returned
  unfold evaluated at returned
  generalize executed request.source Session.fetchEntries location (request.today.getD today) desk
    replies = run at returned ending
  cases ending with
  | malformed fault =>
    cases returned
    exact ⟨fun _ => ⟨rfl, _, rfl⟩, nofun, Report.totalHours_nonnegative []⟩
  | unfetched query failure =>
    cases returned
    exact ⟨fun _ => ⟨rfl, _, rfl⟩, nofun, Report.totalHours_nonnegative []⟩
  | live query entries =>
    cases returned
    exact ⟨nofun, nofun, Report.totalHours_nonnegative entries⟩
  | frozen query entries markup place after reads found flag written placed =>
    cases returned
    exact ⟨nofun, fun _ => ⟨_, named place placed⟩, Report.totalHours_nonnegative entries⟩
  | kept query entries =>
    cases returned
    exact ⟨fun _ => ⟨rfl, _, rfl⟩, nofun, Report.totalHours_nonnegative entries⟩

def responseOf (result : Execution.Result) : Response where
  state := result.state.name
  failed := result.failed
  rewritten := result.replaced
  queryType := result.query.map fun query => query.kind.keyword
  firstDay := result.query.map fun query => query.range.first.iso
  lastDay := result.query.map fun query => query.range.last.iso

theorem finite_shown (query : Option Query) (shown : Query → Text) :
    finite (query.elim .null fun query => .string (shown query)) =
      (query.map shown).elim .null .string := by
  cases query <;> rfl

theorem says_responseOf (result : Execution.Result) :
    (Exit.finished result).answer.Says (responseOf result) where
  state := rfl
  failed := rfl
  rewritten := rfl
  queryType := congrArg some (finite_shown result.query _)
  firstDay := congrArg some (finite_shown result.query _)
  lastDay := congrArg some (finite_shown result.query _)

theorem store_shown (query : Option Query) (shown : Query → Text)
    (whole : ∀ query, (shown query).Whole) :
    Affinity.text.store (datumOf (query.elim .null fun query => .string (shown query))) =
      (query.map shown).elim .null .text := by
  cases query with
  | none => rfl
  | some query =>
    simp only [Option.elim_some, datumOf_string (whole query), Option.map_some]
    rfl

theorem failed_iff {result : Execution.Result} :
    result.failed = false ↔ result.state.name = State.done.name := by
  unfold Result.failed
  cases result.state <;> decide

theorem notes_of_failed (request : RenderRequest) {result : Execution.Result} {message : Text}
    (failed : result.failed = true) (shown : result.display = .message message "harvest-error") :
    ∃ kind, (result.state.name, kind) ∈ failureKinds ∧
      (Exit.finished result).notes request = [(kind, message)] := by
  obtain ⟨state, display, query, markup, replaced, entryCount, totalHours⟩ := result
  dsimp only at shown
  subst shown
  cases state with
  | parseFailed => exact ⟨_, List.mem_cons_self, rfl⟩
  | fetchFailed => exact ⟨_, List.mem_cons_of_mem _ List.mem_cons_self, rfl⟩
  | replaceFailed =>
    exact ⟨_, List.mem_cons_of_mem _ (List.mem_cons_of_mem _ List.mem_cons_self), rfl⟩
  | done => cases failed

theorem notes_of_done {result : Execution.Result} (done : result.failed = false) :
    (Exit.finished result).notes request =
      if result.replaced then [("rewrite".text, "Froze block in ".text ++ request.document.getD [])]
      else [] := by
  obtain ⟨state, display, query, markup, replaced, entryCount, totalHours⟩ := result
  cases state with
  | done => rfl
  | _ => cases done

theorem message?_of_shown {result : Execution.Result} {message : Text}
    (shown : result.display = .message message "harvest-error") :
    (Exit.finished result).answer.message? = some message := by
  obtain ⟨state, display, query, markup, replaced, entryCount, totalHours⟩ := result
  dsimp only at shown
  subst shown
  rfl

/-- The details that are kept of a record that can be handed over. -/
theorem details_of_loggable (loggable : Loggable stamp incoming request exit) :
    (exit.record stamp incoming request).details.map (keptDetail (.string stamp.requestId)) =
      (exit.notes request).map fun (kind, message) =>
        ⟨.text stamp.requestId, .text kind, .text message⟩ := by
  simp only [Exit.record, List.map_map]
  refine List.map_congr_left fun note noted => ?_
  refine keptDetail_texts (loggable.names _ List.mem_cons_self)
    (whole_of_mem_detailTypes (kind_of_mem_notes noted)) ?_
  cases exit with
  | finished result => exact loggable.texts _ (List.mem_map_of_mem noted)
  | _ => cases noted

/-- The row and the detail of a result agree with the response. -/
theorem reflects_of_shaped {result : Execution.Result} (shaped : Shaped request result)
    (loggable : Loggable stamp incoming request (.finished result)) :
    Reflects request (Exit.finished result).answer (responseOf result)
      (keptRow ((Exit.finished result).columns stamp incoming request))
      (((Exit.finished result).record stamp incoming request).details.map
        (keptDetail (.string stamp.requestId))) := by
  have row_id : (keptRow ((Exit.finished result).columns stamp incoming request)).requestId =
      .text stamp.requestId :=
    congrArg Affinity.text.store (datumOf_string (loggable.names _ List.mem_cons_self))
  have counted (done : result.failed = false) :
      (Affinity.int.store (datumOf (.int result.entryCount))).isNull = false := by
    have fit := (List.forall_mem_cons.mp loggable.numbers).2
    simp only [Exit.counts, done] at fit
    exact isNull_int (handable_int.mpr (fit _ List.mem_cons_self))
  have defined := Number.eq_self_of_nonnegative shaped.total
  rw [details_of_loggable loggable]
  exact {
    state := congrArg Affinity.text.store (datumOf_string (whole_state result.state))
    queryType := store_shown result.query _ fun query => whole_keyword query.kind
    firstDay := store_shown result.query _ fun query => Harvest.Client.whole_iso query.range.first
    lastDay := store_shown result.query _ fun query => Harvest.Client.whole_iso query.range.last
    entries := Iff.trans (Eq.congr_left (isNull_unless _ counted)) failed_iff
    hours := Iff.trans (Eq.congr_left (isNull_unless _ fun _ => isNull_real defined)) failed_iff
    count := by
      rw [List.length_map]
      cases failed : result.failed with
      | true =>
        obtain ⟨-, message, shown⟩ := shaped.failure failed
        obtain ⟨kind, -, noted⟩ := notes_of_failed request failed shown
        simp [noted, responseOf, failed]
      | false =>
        rw [notes_of_done failed]
        cases replaced : result.replaced <;> simp [responseOf, failed, replaced]
    failure := by
      intro failed
      obtain ⟨-, message, shown⟩ := shaped.failure failed
      obtain ⟨kind, typed, noted⟩ := notes_of_failed request failed shown
      refine ⟨kind, message, typed, message?_of_shown shown, ?_⟩
      rw [row_id, noted, List.map_singleton]
    freeze := by
      intro (rewritten : result.replaced = true)
      obtain ⟨document, named⟩ := shaped.frozen rewritten
      have succeeded : result.failed = false := by
        refine Bool.eq_false_iff.mpr fun failed => ?_
        exact Bool.false_ne_true ((shaped.failure failed).1.symm.trans rewritten)
      refine ⟨document, named, ?_⟩
      rw [row_id, notes_of_done succeeded, if_pos rewritten, named, List.map_singleton]
      rfl }

/-- What is written for an end that can be logged tells of it as it was. -/
theorem truthful_of_loggable
    (shaped : ∀ result, exit = .finished result → Shaped request result)
    (loggable : Loggable stamp incoming request exit) :
    Truthful stamp request exit (keptRow (exit.record stamp incoming request).columns)
      ((exit.record stamp incoming request).details.map
        (keptDetail (exit.record stamp incoming request).columns.requestId)) := by
  have identified := loggable.names stamp.requestId List.mem_cons_self
  have sourced : request.source.Whole := loggable.names _ (by simp [Stamp.texts])
  have status := datumOf_int (fitsWord_status exit)
  have code (code : ErrorCode) :
      Affinity.text.store (datumOf (.string code.name)) = .text code.name :=
    congrArg Affinity.text.store (datumOf_string (whole_code code))
  have names :
      (keptRow (exit.record stamp incoming request).columns).requestId = .text stamp.requestId ∧
      (keptRow (exit.record stamp incoming request).columns).querySource =
        .text request.source := by
    cases exit <;> exact ⟨congrArg Affinity.text.store (datumOf_string identified),
      congrArg Affinity.text.store (datumOf_string sourced)⟩
  cases exit with
  | refused =>
    exact {
      names
      status := congrArg Affinity.int.store status
      responded := by rintro ⟨⟩
      refused := fun _ => ⟨rfl, code .invalidRequest⟩
      broken := by rintro ⟨⟩ }
  | finished result =>
    exact {
      names
      status := congrArg Affinity.int.store status
      responded := fun _ => ⟨responseOf result, says_responseOf result,
        reflects_of_shaped (shaped result rfl) loggable⟩
      refused := by rintro ⟨⟩
      broken := by rintro ⟨⟩ }
  | failed fault =>
    exact {
      names
      status := congrArg Affinity.int.store status
      responded := by rintro ⟨⟩
      refused := by rintro ⟨⟩
      broken := fun _ => ⟨rfl, code .internalError⟩ }

theorem run_inDesk {α : Type} (program : Program Desk α) (service : Service)
    (replies : List Harvest.Reply) : (inDesk program).run service replies =
      { outcome := (program.run service.desk replies).outcome
        state := { service with desk := (program.run service.desk replies).state }
        unused := (program.run service.desk replies).unused
        events := (program.run service.desk replies).events } :=
  run_zoom Service.desk (fun service desk => { service with desk }) (fun _ => rfl) (fun _ _ => rfl)
    (fun _ _ _ => rfl) program service replies

/-- The end that the handler comes to when an evaluation has ended. -/
def exitOf : Except Fault Execution.Result → Exit
  | .ok result => .finished result
  | .error fault => .failed fault

theorem resultDetails_eq (request : RenderRequest) (result : Execution.Result) :
    resultDetails request result = ((Exit.finished result).notes request).map
      fun (kind, message) => (.string kind, .string message) := by
  obtain ⟨state, display, query, markup, replaced, entryCount, totalHours⟩ := result
  cases state with
  | done => cases replaced <;> rfl
  | _ => rfl

section

variable [Console]

/-- What the handler does once it is known how it ends. -/
def closing (stamp : Stamp) (incoming : Incoming) (request : RenderRequest) (exit : Exit) :
    Program Service Answer :=
  logged (exit.record stamp incoming request) exit.answer

theorem render_of_located {location : Option Location}
    (located : blockLocation request = .ok location) :
    render stamp incoming request today =
      (inDesk (execute request.source Desk.fetchEntries location (request.today.getD today)
        fun _ => return ())).attempt.bind fun ending =>
          closing stamp incoming request (exitOf ending) := by
  simp only [render, located, bind_eq]
  congr 1
  funext ending
  cases ending with
  | ok result =>
    rw [exitOf, closing, Exit.record, ← resultDetails_eq]
    rfl
  | error fault => rfl

/-- Against fewer replies than there may be pages the handler comes to an end, and then writes its
record. -/
theorem run_render (stamp : Stamp) (incoming : Incoming) (request : RenderRequest) (today : Date)
    (service : Service) (enough : replies.length < service.desk.session.client.pageBudget) :
    ∃ exit desk unused events, Leaves request today service.desk replies exit ∧
      (∀ result, exit = .finished result → Shaped request result) ∧
      (render stamp incoming request today).run service replies =
        ((closing stamp incoming request exit).run { service with desk } unused).behind events := by
  rcases blockLocation_cases request with
    ⟨document, first, last, named, starts, ends, inverted, refused⟩ | ⟨location, located, named⟩
  · refine ⟨.refused, service.desk, replies, [], .refused named starts ends inverted, nofun, ?_⟩
    simp only [render, refused]
    rfl
  · have ends : (evaluated request today location service.desk replies).outcome ≠ .spent :=
      ne_spent_executed fun query _ => Session.ne_spent_fetchEntries _ _ enough
    have ran : (render stamp incoming request today).run service replies =
        Run.andThen (Run.attempted
          { outcome := (evaluated request today location service.desk replies).outcome
            state := { service with
              desk := (evaluated request today location service.desk replies).state }
            unused := (evaluated request today location service.desk replies).unused
            events := (evaluated request today location service.desk replies).events })
          fun ending => closing stamp incoming request (exitOf ending) := by
      rw [render_of_located located, run_bind, run_attempt, run_inDesk]
      rfl
    rw [ran]
    cases outcome : (evaluated request today location service.desk replies).outcome with
    | returned result =>
      refine ⟨.finished result, _, _, _, .finished located outcome, fun other same => ?_, rfl⟩
      cases same
      exact shaped_of_evaluated named outcome
    | failed fault => exact ⟨.failed fault, _, _, _, .failed located outcome, nofun, rfl⟩
    | spent => exact absurd outcome ends

/-- An answer is given behind its record whether or not that is written, unless no notice can be
given of a record that is not. -/
theorem run_logged (record : Record) (answer : Answer) (service : Service)
    (replies : List Harvest.Reply) : (logged record answer).run service replies =
      { outcome := .returned
          (match (service.log.call ⟨record, true⟩).2 with
          | .escaped _ => .crashed
          | _ => answer)
        state := { service with log := (service.log.call ⟨record, true⟩).1 }
        unused := replies
        events :=
          match (service.log.call ⟨record, true⟩).2 with
          | .warned text => [.noticed (.line text)]
          | _ => [] } := by
  rw [logged, bind_eq, run_bind, run_attempt, run_writeLog]
  cases (service.log.call ⟨record, true⟩).2 <;> rfl

/-- The ways in which the handler closes: the record of its end is written, or one of its values
keeps it out; and then notice of that is given, or cannot be. -/
inductive Closes (stamp : Stamp) (incoming : Incoming) (request : RenderRequest) (exit : Exit)
    (service : Service) (unused : List Harvest.Reply) : Run Service Answer → Prop
  | written (loggable : Loggable stamp incoming request exit) :
    Closes stamp incoming request exit service unused
      { outcome := .returned exit.answer
        state := { service with
          log := service.log.extended (keptRow (exit.record stamp incoming request).columns)
            ((exit.record stamp incoming request).details.map
              (keptDetail (exit.record stamp incoming request).columns.requestId)) }
        unused
        events := [] }
  | noticed {fault : RequestLog.Fault} {line : Text}
    (unloggable : ¬ Loggable stamp incoming request exit) (value : fault.OfValue)
    (takes : Console.Takes stamp.requestId)
    (said : RequestLog.warning (exit.record stamp incoming request) fault = .ok line) :
    Closes stamp incoming request exit service unused
      ⟨.returned exit.answer, service, unused, [.noticed (.line line)]⟩
  | silenced {fault : RequestLog.Fault} (unloggable : ¬ Loggable stamp incoming request exit)
    (value : fault.OfValue) (refuses : ¬ Console.Takes stamp.requestId) :
    Closes stamp incoming request exit service unused ⟨.returned .crashed, service, unused, []⟩

theorem closes_closing (fresh : Fresh service.log stamp) (incoming : Incoming)
    (request : RenderRequest) (exit : Exit) (unused : List Harvest.Reply) :
    Closes stamp incoming request exit service unused
      ((closing stamp incoming request exit).run service unused) := by
  have identified : (exit.record stamp incoming request).columns.requestId =
      .string stamp.requestId := by
    cases exit <;> rfl
  rw [closing, run_logged]
  rcases (sound_record fresh incoming request exit).write_cases with
    ⟨handed, written⟩ | ⟨kept_out, fault, value, refused⟩
  · rw [call_of_ok ⟨exit.record stamp incoming request, true⟩ written]
    exact .written (handable_iff_loggable.mp handed)
  · have unloggable : ¬ Loggable stamp incoming request exit := fun loggable =>
      kept_out (handable_iff_loggable.mpr loggable)
    have noticed := exists_noticeOf_iff (whole_of_write fault refused) identified
    rw [call_of_error ⟨exit.record stamp incoming request, true⟩ refused]
    cases notice : noticeOf (exit.record stamp incoming request) fault with
    | ok line =>
      exact .noticed unloggable value (noticed.mp ⟨line, notice⟩) (noticeOf_eq_ok_iff.mp notice).1
    | error reason =>
      refine .silenced unloggable value ?_
      rw [← noticed, notice]
      exact nofun

/-- A request that is let through is answered by the handler. -/
theorem run_handle (admitted : Admitted serverKey incoming request) {answer : Answer}
    {log : Tables} {desk : Desk} {unused : List Harvest.Reply} {events : List Event}
    (given : ∀ faults, answer ≠ .refused faults)
    (rendered : (render stamp incoming request today).run service replies =
      ⟨.returned answer, ⟨desk, log⟩, unused, events⟩) :
    (handle serverKey stamp today incoming).run service replies =
      ⟨.returned (sendable answer), ⟨desk, log⟩, unused, events⟩ := by
  obtain ⟨body, read, narrowed⟩ := admitted.read
  have answered : answerOf serverKey stamp today incoming =
      (render stamp incoming request today).bind fun answer => done (showing body answer) := by
    simp only [answerOf, admitted.found, guardedBody, read, narrowed, guarded, admitted.key,
      bind_eq, pure_eq]
  have shown : showing body answer = answer := by
    cases answer with
    | refused faults => exact absurd rfl (given faults)
    | _ => rfl
  simp only [handle, bind_eq, pure_eq, answered, run_bind, rendered, Run.andThen, run, shown,
    Run.behind, List.append_nil]

/-- What becomes of the record of an end: it is written and tells of the end as it was, if its texts
have bytes and its numbers fit; otherwise nothing is written and a warning is given. -/
structure Recorded (stamp : Stamp) (incoming : Incoming) (request : RenderRequest) (exit : Exit)
    (before : Tables) (run : Run Service Answer) : Prop where
  written : Loggable stamp incoming request exit → ∃ row details,
    run.state.log = before.extended row details ∧ Truthful stamp request exit row details
  /-- What keeps a record out is one of its values, never a constraint. -/
  unwritten : ¬ Loggable stamp incoming request exit → run.state.log = before ∧
    ∃ fault : RequestLog.Fault, fault.OfValue ∧ (Console.Takes stamp.requestId →
      ∃ line, RequestLog.warning (exit.record stamp incoming request) fault = .ok line ∧
        .noticed (.line line) ∈ run.events)

/-- Every evaluation that is let through is logged once and truthfully, with one row and at most one
detail, however its handler ends; all but those whose texts the tables have no bytes for or whose
numbers they have no room for. What is logged is what the handler gives back: a response that cannot
be sent is answered as a failure all the same, and so is any for a request whose id neither the
tables nor the console take. -/
theorem recorded_of_handle (admitted : Admitted serverKey incoming request)
    (fresh : Fresh service.log stamp)
    (enough : replies.length < service.desk.session.client.pageBudget) :
    ∃ exit, Leaves request today service.desk replies exit ∧ exit.answer.status = exit.status ∧
      ((handle serverKey stamp today incoming).run service replies).outcome =
        .returned (if Console.Takes stamp.requestId then sendable exit.answer else .crashed) ∧
      Recorded stamp incoming request exit service.log
        ((handle serverKey stamp today incoming).run service replies) := by
  obtain ⟨exit, desk, unused, events, leaves, shaped, rendered⟩ :=
    run_render stamp incoming request today service enough
  have given : ∀ faults, exit.answer ≠ .refused faults := by cases exit <;> exact nofun
  have crashed : ∀ faults, Answer.crashed ≠ .refused faults := fun _ => nofun
  have status : exit.answer.status = exit.status := by cases exit <;> rfl
  have unchanged : Fresh { service with desk }.log stamp := fresh
  have closed := closes_closing unchanged incoming request exit unused
  generalize (closing stamp incoming request exit).run { service with desk } unused = run
    at closed rendered
  refine ⟨exit, leaves, status, ?_⟩
  cases closed with
  | written loggable =>
    have takes : Console.Takes stamp.requestId :=
      Console.takes_of_whole (loggable.names _ List.mem_cons_self)
    rw [run_handle admitted given rendered, if_pos takes]
    exact ⟨rfl, fun _ => ⟨_, _, rfl, truthful_of_loggable shaped loggable⟩,
      fun unloggable => absurd loggable unloggable⟩
  | noticed unloggable value takes said =>
    rw [run_handle admitted given rendered, if_pos takes]
    refine ⟨rfl, fun loggable => absurd loggable unloggable, fun _ => ⟨rfl, _, value, ?_⟩⟩
    exact fun _ => ⟨_, said, List.mem_append_right _ List.mem_cons_self⟩
  | silenced unloggable value refuses =>
    rw [run_handle admitted crashed rendered, if_neg refuses]
    refine ⟨rfl, fun loggable => absurd loggable unloggable, fun _ => ⟨rfl, _, value, ?_⟩⟩
    exact fun takes => absurd takes refuses

end

def renderRequest (body : String) : Incoming where
  method := "POST".text
  path := "/v1/queries/render".text
  query := []
  headers := [("x-api-key".text, Text.utf8 "key".text),
    ("content-type".text, Text.utf8 "application/json".text)]
  body := Text.utf8 body.text
  peer := "peer".text

/-- A block to evaluate that stands nowhere. -/
def blockOf (source : Text) : RenderRequest := ⟨source, none, none, none, none⟩

/-- A service whose user is known and whose log is empty. -/
def quietService : Service :=
  ⟨⟨.start ⟨"t".text, "a".text, 3⟩ (some 42), ⟨[], [], [], .none⟩⟩, .empty⟩

def entryOn (project : String) : Harvest.Reply :=
  Session.successWith ("\x7b\"time_entries\": [\x7b\"id\": 1, \"spent_date\": \"2025-01-15\", "
    ++ "\"hours\": 1.5, \"project\": \x7b\"id\": 1, \"name\": \"" ++ project
    ++ "\"\x7d, \"task\": \x7b\"id\": 2, \"name\": \"T\"\x7d\x7d]\x7d")

/-- The run of a request to evaluate a block. -/
def rendering (body : String) (replies : List Harvest.Reply) : Run Service Answer :=
  (handle "key".text ⟨"r".text, "t".text, 0⟩ Execution.someDay (renderRequest body)).run
    quietService replies

/-- The status of the answer, and the execution states in the log. -/
def entered (run : Run Service Answer) : Option Nat × List (Option Text) :=
  (run.value?.map (·.status), run.state.log.requests.map (·.executionState.text?))

def bodyOf? (incoming : Incoming) : Option RenderRequest :=
  match readBody incoming with
  | .error _ => none
  | .ok body => (narrowBody RenderRequest.ofJson body).toOption

theorem admitted_renderRequest {body : String} {request : RenderRequest}
    (reads : bodyOf? (renderRequest body) = some request) :
    Admitted "key".text (renderRequest body) request where
  found := by rfl
  key := by rfl
  read := by
    unfold bodyOf? at reads
    split at reads
    · cases reads
    · next content read =>
      refine ⟨content, read, ?_⟩
      cases narrowed : narrowBody RenderRequest.ofJson content with
      | error faults => simp [narrowed, Except.toOption] at reads
      | ok found => simpa [narrowed, Except.toOption] using reads

theorem fresh_quietService (stamp : Stamp) : Fresh quietService.log stamp :=
  fun _ member => absurd member List.not_mem_nil

def reportBody : String := "\x7b\"source\": \"LIST TODAY\"\x7d"

theorem report_recorded :
    Admitted "key".text (renderRequest reportBody) (blockOf "LIST TODAY".text) ∧
      Fresh quietService.log ⟨"r".text, "t".text, 0⟩ ∧
      [entryOn "P"].length < quietService.desk.session.client.pageBudget ∧
      entered (rendering reportBody [entryOn "P"]) = (some 200, [some "done".text]) ∧
      ∃ exit, Leaves (blockOf "LIST TODAY".text) Execution.someDay quietService.desk [entryOn "P"]
          exit ∧ exit.answer.status = exit.status ∧
        (rendering reportBody [entryOn "P"]).outcome =
          .returned (if Console.Takes "r".text then sendable exit.answer else .crashed) ∧
        Recorded ⟨"r".text, "t".text, 0⟩ (renderRequest reportBody) (blockOf "LIST TODAY".text) exit
          quietService.log (rendering reportBody [entryOn "P"]) := by
  have admitted : Admitted "key".text (renderRequest reportBody) (blockOf "LIST TODAY".text) :=
    admitted_renderRequest (by decide +kernel)
  refine ⟨admitted, fresh_quietService _, by decide, by decide +kernel, ?_⟩
  exact recorded_of_handle admitted (fresh_quietService _) (by decide)

/-- A source with a surrogate is evaluated and not logged; and a report that cannot be sent, for a
surrogate in the name of a project, is logged as done. -/
theorem surrogates_unrecorded :
    (Admitted "key".text (renderRequest "\x7b\"source\": \"\\ud800\"\x7d")
        (blockOf [.surrogate 0]) ∧
      Fresh quietService.log ⟨"r".text, "t".text, 0⟩ ∧
      entered (rendering "\x7b\"source\": \"\\ud800\"\x7d" []) = (some 200, [])) ∧
    Admitted "key".text (renderRequest reportBody) (blockOf "LIST TODAY".text) ∧
      entered (rendering reportBody [entryOn "a\\ud83d"]) = (some 500, [some "done".text]) := by
  refine ⟨⟨?_, fresh_quietService _, ?_⟩, ?_, ?_⟩
  · exact admitted_renderRequest (by decide +kernel)
  · decide +kernel
  · exact admitted_renderRequest (by decide +kernel)
  · decide +kernel

end TimeReports.Service
