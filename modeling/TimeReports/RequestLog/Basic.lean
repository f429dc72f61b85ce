import TimeReports.Harvest.Program
import TimeReports.RequestLog.Datum

set_option autoImplicit false

namespace TimeReports.RequestLog

/-- Something for every column of the request table. -/
structure Columns (α : Type) where
  requestId : α
  timestamp : α
  endpoint : α
  method : α
  clientIp : α
  querySource : α
  queryType : α
  fromDate : α
  toDate : α
  executionState : α
  statusCode : α
  errorCode : α
  errorMessage : α
  processingTime : α
  entriesFetched : α
  totalHours : α

namespace Columns

variable {α β γ : Type}

def toList (columns : Columns α) : List α :=
  [columns.requestId, columns.timestamp, columns.endpoint, columns.method, columns.clientIp,
    columns.querySource, columns.queryType, columns.fromDate, columns.toDate,
    columns.executionState, columns.statusCode, columns.errorCode, columns.errorMessage,
    columns.processingTime, columns.entriesFetched, columns.totalHours]

def zipWith (f : α → β → γ) (left : Columns α) (right : Columns β) : Columns γ where
  requestId := f left.requestId right.requestId
  timestamp := f left.timestamp right.timestamp
  endpoint := f left.endpoint right.endpoint
  method := f left.method right.method
  clientIp := f left.clientIp right.clientIp
  querySource := f left.querySource right.querySource
  queryType := f left.queryType right.queryType
  fromDate := f left.fromDate right.fromDate
  toDate := f left.toDate right.toDate
  executionState := f left.executionState right.executionState
  statusCode := f left.statusCode right.statusCode
  errorCode := f left.errorCode right.errorCode
  errorMessage := f left.errorMessage right.errorMessage
  processingTime := f left.processingTime right.processingTime
  entriesFetched := f left.entriesFetched right.entriesFetched
  totalHours := f left.totalHours right.totalHours

/-- Column by column, in order, up to the first failure. -/
def mapM {m : Type → Type} [Monad m] (f : α → m β) (columns : Columns α) : m (Columns β) := do
  return {
    requestId := ← f columns.requestId
    timestamp := ← f columns.timestamp
    endpoint := ← f columns.endpoint
    method := ← f columns.method
    clientIp := ← f columns.clientIp
    querySource := ← f columns.querySource
    queryType := ← f columns.queryType
    fromDate := ← f columns.fromDate
    toDate := ← f columns.toDate
    executionState := ← f columns.executionState
    statusCode := ← f columns.statusCode
    errorCode := ← f columns.errorCode
    errorMessage := ← f columns.errorMessage
    processingTime := ← f columns.processingTime
    entriesFetched := ← f columns.entriesFetched
    totalHours := ← f columns.totalHours }

end Columns

structure Column where
  name : Text
  affinity : Affinity
  required : Bool
  deriving DecidableEq, Repr

/-- The columns of the request table, its row number aside. -/
def requestColumns : Columns Column where
  requestId := ⟨"request_id".text, .text, true⟩
  timestamp := ⟨"timestamp".text, .text, true⟩
  endpoint := ⟨"endpoint".text, .text, true⟩
  method := ⟨"method".text, .text, true⟩
  clientIp := ⟨"client_ip".text, .text, false⟩
  querySource := ⟨"query_source".text, .text, false⟩
  queryType := ⟨"query_type".text, .text, false⟩
  fromDate := ⟨"from_date".text, .text, false⟩
  toDate := ⟨"to_date".text, .text, false⟩
  executionState := ⟨"execution_state".text, .text, false⟩
  statusCode := ⟨"status_code".text, .int, true⟩
  errorCode := ⟨"error_code".text, .text, false⟩
  errorMessage := ⟨"error_message".text, .text, false⟩
  processingTime := ⟨"processing_time_ms".text, .int, true⟩
  entriesFetched := ⟨"entries_fetched".text, .int, false⟩
  totalHours := ⟨"total_hours".text, .real, false⟩

/-- The columns of the detail table, its row number aside. -/
def detailColumns : List Column :=
  [⟨"request_id".text, .text, true⟩, ⟨"detail_type".text, .text, true⟩,
    ⟨"message".text, .text, true⟩]

/-- The column that numbers the rows of a table. -/
def rowColumn : Column := ⟨"id".text, .int, false⟩

def requestTable : Text := "api_requests".text

def detailTable : Text := "api_request_details".text

def detailTypes : List Text :=
  ["query_error".text, "harvest_error".text, "rewrite".text, "warning".text]

/-- What is to be written for a request. -/
structure Record where
  columns : Columns Json
  details : List (Json × Json)

structure Detail where
  requestId : Datum
  kind : Datum
  message : Datum

/-- Both tables, with their rows in the order of insertion. -/
structure Tables where
  requests : List (Columns Datum)
  details : List Detail

def Tables.empty : Tables := ⟨[], []⟩

/-- Why a record is not written. -/
inductive Fault where
  | tooLarge
  | unsupported (position : Nat) (kind : Text)
  | unencodable (found : Text.Unencodable)
  | missing (table column : Text)
  | unknownDetail
  | repeatedRequest
  deriving DecidableEq, Repr

/-- What is said of a record that is not written. -/
def Fault.message : Fault → Text
  | .tooLarge => "Python int too large to convert to SQLite INTEGER".text
  | .unsupported position kind => "Error binding parameter ".text ++ Text.natDigits position
      ++ ": type '".text ++ kind ++ "' is not supported".text
  | .unencodable found => found.message
  | .missing table column => "NOT NULL constraint failed: ".text ++ table ++ .char '.' :: column
  | .unknownDetail => ("CHECK constraint failed: detail_type IN "
      ++ "('query_error', 'harvest_error', 'rewrite', 'warning')").text
  | .repeatedRequest => "UNIQUE constraint failed: api_requests.request_id".text

def bindAt (position : Nat) (value : Json) : Except Fault Datum :=
  match Datum.ofJson value with
  | .ok datum => .ok datum
  | .error .tooLarge => .error .tooLarge
  | .error (.unsupported kind) => .error (.unsupported position kind)
  | .error (.unencodable found) => .error (.unencodable found)

def positions : Columns Nat := ⟨1, 2, 3, 4, 5, 6, 7, 8, 9, 10, 11, 12, 13, 14, 15, 16⟩

/-- The first column that must not be null but is. -/
def missingColumn? (cells : List (Column × Datum)) : Option Text :=
  (cells.find? fun (column, datum) => column.required && datum.isNull).map (·.1.name)

def sameRequest (left right : Datum) : Bool := left.text?.isSome && left.text? == right.text?

/-- Writes the row of a request. -/
def Tables.insert (tables : Tables) (values : Columns Json) :
    Except Fault (Tables × Columns Datum) := do
  let bound ← (Columns.zipWith Prod.mk positions values).mapM fun (position, value) =>
    bindAt position value
  let row := Columns.zipWith (fun column datum => column.affinity.store datum) requestColumns bound
  match missingColumn? (Columns.zipWith Prod.mk requestColumns row).toList with
  | some name => .error (.missing requestTable name)
  | none =>
    if tables.requests.any fun other => sameRequest other.requestId row.requestId then
      .error .repeatedRequest
    else .ok ({ tables with requests := tables.requests ++ [row] }, row)

def Tables.insertDetail (tables : Tables) (requestId : Json) (detail : Json × Json) :
    Except Fault Tables := do
  let requestId := Affinity.text.store (← bindAt 1 requestId)
  let kind := Affinity.text.store (← bindAt 2 detail.1)
  let message := Affinity.text.store (← bindAt 3 detail.2)
  match missingColumn? (detailColumns.zip [requestId, kind, message]) with
  | some name => .error (.missing detailTable name)
  | none =>
    if kind.text?.all fun name => !detailTypes.contains name then .error .unknownDetail
    else .ok { tables with details := tables.details ++ [⟨requestId, kind, message⟩] }

def Tables.write (tables : Tables) (record : Record) : Except Fault Tables := do
  let (inserted, _) ← tables.insert record.columns
  record.details.foldlM (fun tables detail =>
    tables.insertDetail record.columns.requestId detail) inserted

/-- What is said when a record is not written but the work goes on. It names the request, whose id
is a text as a rule; an id of another kind may be one that cannot be shown. -/
def warning (record : Record) (fault : Fault) : Except Json.ShowFault Text :=
  match record.columns.requestId.showFault? Json.depthLimit with
  | some reason => .error reason
  | none =>
    .ok ("Warning: failed to write request log ".text ++ record.columns.requestId.asMessage
      ++ ": ".text ++ fault.message)

variable [Console]

/-- Gives notice of a record that is not written. -/
def warn {σ : Type} (record : Record) (fault : Fault) : Program σ Unit :=
  match warning record fault with
  | .ok line => Program.say line
  | .error reason => .fail (.ofShow reason)

/-- Writes a record. A failure is given notice of, so that the work can go on. -/
def writeCarefully (record : Record) : Program Tables Unit := do
  match (← Program.get).write record with
  | .ok tables => Program.modify fun _ => tables
  | .error fault => warn record fault

end TimeReports.RequestLog
