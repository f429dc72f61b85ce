import TimeReports.Service.Handlers

set_option autoImplicit false

namespace TimeReports.Service

open Display (fields)
open RequestLog (Columns)

variable [Console]

/-- What marks the record of a request in the log. -/
structure Stamp where
  requestId : Text
  timestamp : Text
  processingTime : Int

/-- The location of a block, when the request gives one. Its last line must not come before its
first. -/
def blockLocation (request : RenderRequest) : Except Problem (Option Execution.Location) :=
  match request.document, request.first, request.last with
  | some document, some first, some last =>
    if last < first then
      .error ⟨400, "Invalid block location".text, .invalidRequest,
        ["line_end must not be before line_start".text]⟩
    else .ok (some ⟨document, first, last⟩)
  | _, _, _ => .ok none

/-- The columns of a record before it is known how the evaluation ends. -/
def blankColumns (stamp : Stamp) (incoming : Incoming) (request : RenderRequest) :
    Columns Json where
  requestId := .string stamp.requestId
  timestamp := .string stamp.timestamp
  endpoint := .string "/v1/queries/render".text
  method := .string "POST".text
  clientIp := .string incoming.clientAddress
  querySource := .string request.source
  queryType := .null
  fromDate := .null
  toDate := .null
  executionState := .null
  statusCode := .int 0
  errorCode := .null
  errorMessage := .null
  processingTime := .int stamp.processingTime
  entriesFetched := .null
  totalHours := .null

def resultColumns (columns : Columns Json) (result : Execution.Result) : Columns Json :=
  { columns with
    statusCode := .int 200
    executionState := .string result.state.name
    queryType := result.query.elim .null fun query => .string query.kind.keyword
    fromDate := result.query.elim .null fun query => .string query.range.first.iso
    toDate := result.query.elim .null fun query => .string query.range.last.iso
    entriesFetched := if result.failed then .null else .int result.entryCount
    totalHours := if result.failed then .null else .float result.totalHours }

def problemColumns (columns : Columns Json) (problem : Problem) (message : Text) :
    Columns Json :=
  { columns with
    statusCode := .int problem.status
    errorCode := .string problem.code.name
    errorMessage := .string message }

def messageOf (tree : Display.Tree) : Text :=
  match tree.children with
  | .paragraph text _ _ :: _ => text
  | .heading text _ :: _ => text
  | _ => []

def resultDetails (request : RenderRequest) (result : Execution.Result) : List (Json × Json) :=
  let detail (kind : String) (message : Text) : List (Json × Json) :=
    [(.string kind.text, .string message)]
  match result.state with
  | .parseFailed => detail "query_error" (messageOf result.display)
  | .fetchFailed => detail "harvest_error" (messageOf result.display)
  | .replaceFailed => detail "rewrite" (messageOf result.display)
  | .done =>
    if result.replaced then
      detail "rewrite" ("Froze block in ".text ++ request.document.getD [])
    else []

def resultJson (result : Execution.Result) : Json :=
  fields [("state", .string result.state.name), ("failed", .bool result.failed),
    ("query_type", result.query.elim .null fun query => .string query.kind.keyword),
    ("from_date", result.query.elim .null fun query => .string query.range.first.iso),
    ("to_date", result.query.elim .null fun query => .string query.range.last.iso),
    ("display", result.display.toJson), ("markup", result.markup.elim .null .string),
    ("rewritten", .bool result.replaced)]

/-- Writes a record to the log, with a warning when that fails. -/
def writeLog (record : RequestLog.Record) : Program Service Unit :=
  (RequestLog.writeCarefully record).zoom (·.log) fun service log => { service with log }

/-- Gives an answer behind a record of it. A warning that cannot be given takes the place of the
answer. -/
def logged (record : RequestLog.Record) (answer : Answer) : Program Service Answer := do
  match ← (writeLog record).attempt with
  | .ok () => return answer
  | .error _ => return .crashed

def render (stamp : Stamp) (incoming : Incoming) (request : RenderRequest) (today : Date) :
    Program Service Answer := do
  let columns := blankColumns stamp incoming request
  match blockLocation request with
  | .error problem =>
    logged ⟨problemColumns columns problem problem.error, []⟩ (.problem problem)
  | .ok location =>
    let evaluation := execute request.source Desk.fetchEntries location
      (request.today.getD today) fun _ => return ()
    match ← (inDesk evaluation).attempt with
    | .ok result =>
      logged ⟨resultColumns columns result, resultDetails request result⟩
        (success (resultJson result))
    | .error fault =>
      logged ⟨problemColumns columns internalProblem fault.message, []⟩ (.problem internalProblem)

end TimeReports.Service
