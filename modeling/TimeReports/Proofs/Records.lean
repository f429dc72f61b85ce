import TimeReports.Proofs.Forms
import TimeReports.Proofs.Requests
import TimeReports.Proofs.Transactions

set_option autoImplicit false

namespace TimeReports

namespace RequestLog

variable {n : Int} {text : Text} {x : Float}

theorem handable_null : Handable .null := ⟨.null, rfl⟩

theorem handable_float (x : Float) : Handable (.float x) := ⟨_, rfl⟩

theorem handable_int : Handable (.int n) ↔ fitsWord n = true := by
  simp only [Handable, Datum.ofJson]
  cases fitsWord n <;> simp

theorem handable_string : Handable (.string text) ↔ text.Whole := by
  rw [Text.Whole, ← Text.inUtf8?_eq_none_iff]
  simp only [Handable, Datum.ofJson]
  cases Text.Unencodable.inUtf8? text <;> simp

theorem datumOf_int (fits : fitsWord n = true) : datumOf (.int n) = .int n := by
  simp only [datumOf, Datum.ofJson, fits, ↓reduceIte]

theorem datumOf_string (whole : text.Whole) : datumOf (.string text) = .text text := by
  simp only [datumOf, Datum.ofJson, Text.inUtf8?_eq_none_iff.mpr whole]

theorem datumOf_float (defined : (x != x) = false) : datumOf (.float x) = .real x := by
  simp only [datumOf, Datum.ofJson, defined, Bool.false_eq_true, ↓reduceIte]

theorem isNull_text (handed : Handable (.string text)) :
    (Affinity.text.store (datumOf (.string text))).isNull = false := by
  rw [datumOf_string (handable_string.mp handed)]
  rfl

theorem isNull_int (handed : Handable (.int n)) :
    (Affinity.int.store (datumOf (.int n))).isNull = false := by
  rw [datumOf_int (handable_int.mp handed)]
  rfl

theorem isNull_real (defined : (x != x) = false) :
    (Affinity.real.store (datumOf (.float x))).isNull = false := by
  rw [datumOf_float defined]
  rfl

/-- A column that is left out of a failure is null for it, and only for it. -/
theorem isNull_unless {affinity : Affinity} {value : Json} (failed : Bool)
    (kept : failed = false → (affinity.store (datumOf value)).isNull = false) :
    (affinity.store (datumOf (if failed then .null else value))).isNull = failed := by
  cases failed with
  | true => cases affinity <;> rfl
  | false => exact kept rfl

/-- A row is filled if its request, its time, what was asked for and how it was answered are
there. -/
theorem filled_keptRow_iff {values : Columns Json} : Filled (requestCells (keptRow values)) ↔
    (Affinity.text.store (datumOf values.requestId)).isNull = false ∧
      (Affinity.text.store (datumOf values.timestamp)).isNull = false ∧
      (Affinity.text.store (datumOf values.endpoint)).isNull = false ∧
      (Affinity.text.store (datumOf values.method)).isNull = false ∧
      (Affinity.int.store (datumOf values.statusCode)).isNull = false ∧
      (Affinity.int.store (datumOf values.processingTime)).isNull = false := by
  simp only [Filled, requestCells, keptRow, Columns.zipWith, Columns.toList, List.forall_mem_cons,
    requestColumns, List.not_mem_nil, false_implies, implies_true, and_true, true_implies,
    Bool.false_eq_true, true_and]

theorem keptDetail_texts {requestId kind message : Text} (identified : requestId.Whole)
    (typed : kind.Whole) (said : message.Whole) :
    keptDetail (.string requestId) (.string kind, .string message) =
      ⟨.text requestId, .text kind, .text message⟩ := by
  simp only [keptDetail, datumOf_string identified, datumOf_string typed, datumOf_string said,
    Affinity.store]

/-- A detail of texts is filled. -/
theorem filled_keptDetail {requestId kind message : Text}
    (identified : Handable (.string requestId)) (typed : Handable (.string kind))
    (said : Handable (.string message)) :
    Filled (keptDetail (.string requestId) (.string kind, .string message)).cells := by
  simp only [Filled, Detail.cells, keptDetail, detailColumns, List.zip_cons_cons,
    List.zip_nil_right, List.forall_mem_cons, isNull_text, identified, typed, said,
    List.not_mem_nil, false_implies, implies_true, and_true]

end RequestLog

namespace Service

open RequestLog

/-- The problem of a block whose last line comes before its first. -/
def invertedLocation : Problem :=
  ⟨400, "Invalid block location".text, .invalidRequest,
    ["line_end must not be before line_start".text]⟩

/-- How the handler of an evaluation comes to an end. -/
inductive Exit where
  /-- The location of the block is inverted. -/
  | refused
  | finished (result : Execution.Result)
  | failed (fault : Fault)

namespace Exit

/-- The status of what the handler gives back. -/
def status : Exit → Nat
  | refused => 400
  | finished _ => 200
  | failed _ => 500

/-- What the handler gives back. -/
def answer : Exit → Answer
  | refused => .problem invertedLocation
  | finished result => success (resultJson result)
  | failed _ => .problem internalProblem

def columns (stamp : Stamp) (incoming : Incoming) (request : RenderRequest) :
    Exit → Columns Json
  | refused =>
    problemColumns (blankColumns stamp incoming request) invertedLocation invertedLocation.error
  | finished result => resultColumns (blankColumns stamp incoming request) result
  | failed fault =>
    problemColumns (blankColumns stamp incoming request) internalProblem fault.message

/-- The type and the message of each detail that is written. -/
def notes (request : RenderRequest) : Exit → List (Text × Text)
  | finished result =>
    match result.state with
    | .parseFailed => [("query_error".text, messageOf result.display)]
    | .fetchFailed => [("harvest_error".text, messageOf result.display)]
    | .replaceFailed => [("rewrite".text, messageOf result.display)]
    | .done =>
      if result.replaced then
        [("rewrite".text, "Froze block in ".text ++ request.document.getD [])]
      else []
  | _ => []

def record (stamp : Stamp) (incoming : Incoming) (request : RenderRequest) (exit : Exit) :
    RequestLog.Record where
  columns := exit.columns stamp incoming request
  details := (exit.notes request).map fun (kind, message) => (.string kind, .string message)

/-- The texts of a record that depend on the end. -/
def texts (request : RenderRequest) : Exit → List Text
  | refused => []
  | finished result => ((finished result).notes request).map (·.2)
  | failed fault => [fault.message]

/-- The numbers of a record that depend on the end. -/
def counts : Exit → List Int
  | finished result => if result.failed then [] else [result.entryCount]
  | _ => []

end Exit

/-- Whether no row of the log is of the request that a stamp is for. -/
def Fresh (log : Tables) (stamp : Stamp) : Prop :=
  ∀ row ∈ log.requests, row.requestId ≠ .text stamp.requestId

/-- The texts that every record of a request holds. -/
def Stamp.texts (stamp : Stamp) (incoming : Incoming) (request : RenderRequest) : List Text :=
  [stamp.requestId, stamp.timestamp, incoming.clientAddress, request.source]

/-- Whether the tables have bytes for the texts of a record and room for its numbers. -/
@[mk_iff]
structure Loggable (stamp : Stamp) (incoming : Incoming) (request : RenderRequest) (exit : Exit) :
    Prop where
  names : ∀ text ∈ stamp.texts incoming request, text.Whole
  texts : ∀ text ∈ exit.texts request, text.Whole
  numbers : ∀ n ∈ stamp.processingTime :: exit.counts, fitsWord n = true

variable {stamp : Stamp} {incoming : Incoming} {request : RenderRequest} {exit : Exit}
  {log : Tables}

theorem whole_keyword (kind : ReportKind) : kind.keyword.Whole := by
  cases kind <;> exact Text.whole_text _

theorem whole_state (state : Execution.State) : state.name.Whole := by
  cases state <;> exact Text.whole_text _

theorem whole_code (code : ErrorCode) : code.name.Whole := by
  cases code <;> exact Text.whole_text _

theorem fitsWord_status (exit : Exit) : fitsWord exit.status = true := by
  cases exit <;> rfl

theorem handable_shown (query : Option Query) (shown : Query → Text)
    (whole : ∀ query, (shown query).Whole) :
    Handable (query.elim .null fun query => .string (shown query)) := by
  cases query with
  | none => exact handable_null
  | some query => exact handable_string.mpr (whole query)

theorem handable_problemColumns (problem : Problem) (message : Text)
    (fits : fitsWord problem.status = true) :
    (∀ value ∈ (problemColumns (blankColumns stamp incoming request) problem message).toList,
        Handable value) ↔
      (∀ text ∈ stamp.texts incoming request, text.Whole) ∧ message.Whole ∧
        fitsWord stamp.processingTime = true := by
  simp only [problemColumns, blankColumns, Columns.toList, Stamp.texts, List.forall_mem_cons,
    List.not_mem_nil, false_implies, implies_true, handable_string, handable_int, handable_null,
    Text.whole_text, whole_code, fits, true_and, and_true, and_assoc]

theorem handable_resultColumns (result : Execution.Result) :
    (∀ value ∈ (resultColumns (blankColumns stamp incoming request) result).toList,
        Handable value) ↔
      (∀ text ∈ stamp.texts incoming request, text.Whole) ∧
        fitsWord stamp.processingTime = true ∧
        ∀ n ∈ (Exit.finished result).counts, fitsWord n = true := by
  have status : fitsWord 200 = true := rfl
  have kind := handable_shown result.query _ fun query => whole_keyword query.kind
  have first := handable_shown result.query _ fun query =>
    Harvest.Client.whole_iso query.range.first
  have last := handable_shown result.query _ fun query => Harvest.Client.whole_iso query.range.last
  simp only [resultColumns, blankColumns, Columns.toList, Stamp.texts, List.forall_mem_cons,
    List.not_mem_nil, false_implies, implies_true, handable_string, handable_int, handable_null,
    Text.whole_text, whole_state, status, kind, first, last, true_and, and_true, and_assoc,
    Exit.counts]
  cases result.failed with
  | false => simp [handable_int, handable_float]
  | true => simp [handable_null]

theorem kind_of_mem_notes {note : Text × Text} (noted : note ∈ exit.notes request) :
    note.1 ∈ detailTypes := by
  cases exit with
  | finished result =>
    obtain ⟨state, display, query, markup, replaced, entryCount, totalHours⟩ := result
    cases state <;> cases replaced <;> simp_all [Exit.notes, detailTypes]
  | _ => cases noted

theorem whole_of_mem_detailTypes {kind : Text} (known : kind ∈ detailTypes) : kind.Whole := by
  simp only [detailTypes, List.mem_cons, List.not_mem_nil, or_false] at known
  rcases known with rfl | rfl | rfl | rfl <;> exact Text.whole_text _

/-- The types of details have bytes, so it is up to the messages whether they are handed over. -/
theorem handable_notes :
    (∀ value ∈ (exit.record stamp incoming request).details.flatMap fun detail =>
        [detail.1, detail.2], Handable value) ↔
      ∀ text ∈ (exit.notes request).map (·.2), text.Whole := by
  simp only [Exit.record, List.flatMap_map, List.forall_mem_flatMap, List.forall_mem_cons,
    List.not_mem_nil, false_implies, implies_true, and_true, handable_string, List.forall_mem_map]
  refine forall₂_congr fun note noted => and_iff_right ?_
  exact whole_of_mem_detailTypes (kind_of_mem_notes noted)

/-- Apart from the texts and numbers that are asked about, a record holds nothing that could not be
handed over. -/
theorem handable_iff_loggable :
    (∀ value ∈ (exit.record stamp incoming request).content, Handable value) ↔
      Loggable stamp incoming request exit := by
  rw [loggable_iff, Record.content, List.forall_mem_append, handable_notes]
  cases exit with
  | refused =>
    rw [Exit.record, Exit.columns, handable_problemColumns invertedLocation _ rfl]
    simp [Exit.notes, Exit.texts, Exit.counts, Text.whole_text, invertedLocation]
  | failed fault =>
    rw [Exit.record, Exit.columns, handable_problemColumns internalProblem _ rfl]
    simp [Exit.notes, Exit.texts, Exit.counts]
  | finished result =>
    rw [Exit.record, Exit.columns, handable_resultColumns, Exit.texts]
    simp only [Exit.counts, List.forall_mem_cons]
    tauto

/-- What a record has in the columns that no end leaves out. -/
theorem columns_required (stamp : Stamp) (incoming : Incoming) (request : RenderRequest)
    (exit : Exit) :
    (exit.columns stamp incoming request).requestId = .string stamp.requestId ∧
      (exit.columns stamp incoming request).timestamp = .string stamp.timestamp ∧
      (exit.columns stamp incoming request).endpoint = .string "/v1/queries/render".text ∧
      (exit.columns stamp incoming request).method = .string "POST".text ∧
      (exit.columns stamp incoming request).statusCode = .int exit.status ∧
      (exit.columns stamp incoming request).processingTime = .int stamp.processingTime := by
  cases exit <;> exact ⟨rfl, rfl, rfl, rfl, rfl, rfl⟩

/-- No constraint of the tables is against the record of an end, if its request is new. -/
theorem sound_record (fresh : Fresh log stamp) (incoming : Incoming) (request : RenderRequest)
    (exit : Exit) : (exit.record stamp incoming request).Sound log := by
  obtain ⟨identified, stamped, served, asked, answered, timed⟩ :=
    columns_required stamp incoming request exit
  constructor
  · intro handable
    simp only [Exit.record, Columns.toList, List.forall_mem_cons, identified, stamped, served,
      asked, answered, timed] at handable
    obtain ⟨id, time, path, method, -, -, -, -, -, -, code, -, -, duration, -⟩ := handable
    refine ⟨filled_keptRow_iff.mpr ?_, fun other member => ?_⟩
    · simp only [Exit.record, identified, stamped, served, asked, answered, timed]
      exact ⟨isNull_text id, isNull_text time, isNull_text path, isNull_text method,
        isNull_int code, isNull_int duration⟩
    · have kept : (keptRow (exit.record stamp incoming request).columns).requestId =
          .text stamp.requestId := by
        simp only [keptRow, Columns.zipWith, Exit.record, identified,
          datumOf_string (handable_string.mp id)]
        rfl
      rw [kept]
      exact Bool.eq_false_iff.mpr fun same =>
        fresh other member ((sameRequest_text _ _).mp same)
  · intro detail noted named typed said
    obtain ⟨⟨kind, message⟩, member, rfl⟩ := List.mem_map.mp noted
    have known := kind_of_mem_notes member
    dsimp only [Exit.record] at named ⊢
    rw [identified] at named ⊢
    refine ⟨filled_keptDetail named typed said, kind, known, ?_⟩
    simp only [keptDetail, datumOf_string (handable_string.mp typed)]
    rfl

end Service
end TimeReports
