import Mathlib.Data.List.Forall2
import Mathlib.Data.List.Nodup
import TimeReports.Proofs.Console
import TimeReports.Proofs.Runs
import TimeReports.Service.Render

set_option autoImplicit false

/- Writing to the request log as a transaction. The statements of a record are carried out one after
another on what a connection works on, and only its commit changes what is stored; so a record whose
last detail is refused leaves no row behind. Stored tables always keep their constraints: no
required column is null, no two rows are of the same request, every detail has a type that is known
and refers to a row. A record is accepted exactly if its values can be handed over and the tables
keep their constraints with its rows at their end. -/
namespace TimeReports.RequestLog

variable {tables after : Tables} {values : Columns Json} {record : Record} {row : Columns Datum}
  {requestId : Json} {detail : Json × Json} {kept : Detail}

/-- The row that is kept of the values of a request, if they can be handed over. -/
def rowOf (values : Columns Json) : Except Fault (Columns Datum) := do
  let bound ← (Columns.zipWith Prod.mk positions values).mapM fun (position, value) =>
    bindAt position value
  return Columns.zipWith (fun column datum => column.affinity.store datum) requestColumns bound

/-- The row that is kept of a detail of a request, if its values can be handed over. -/
def detailOf (requestId : Json) (detail : Json × Json) : Except Fault Detail := do
  let requestId ← bindAt 1 requestId
  let kind ← bindAt 2 detail.1
  let message ← bindAt 3 detail.2
  return ⟨Affinity.text.store requestId, Affinity.text.store kind, Affinity.text.store message⟩

def Record.detailRows (record : Record) : Except Fault (List Detail) :=
  record.details.mapM (detailOf record.columns.requestId)

/-- No required column of a row is null. -/
def Filled (cells : List (Column × Datum)) : Prop :=
  ∀ cell ∈ cells, cell.1.required = true → cell.2.isNull = false

def requestCells (row : Columns Datum) : List (Column × Datum) :=
  (Columns.zipWith Prod.mk requestColumns row).toList

def Detail.cells (detail : Detail) : List (Column × Datum) :=
  detailColumns.zip [detail.requestId, detail.kind, detail.message]

def Detail.Known (detail : Detail) : Prop := ∃ kind ∈ detailTypes, detail.kind = .text kind

/-- The constraints of both tables. -/
structure Tables.Valid (tables : Tables) : Prop where
  filled : ∀ row ∈ tables.requests, Filled (requestCells row)
  distinct : (tables.requests.map (·.requestId)).Nodup
  detail_filled : ∀ detail ∈ tables.details, Filled detail.cells
  known : ∀ detail ∈ tables.details, detail.Known
  refers : ∀ detail ∈ tables.details, ∃ row ∈ tables.requests, row.requestId = detail.requestId

/-- Tables with the rows of a record at their end. -/
def Tables.extended (tables : Tables) (row : Columns Datum) (details : List Detail) : Tables :=
  ⟨tables.requests ++ [row], tables.details ++ details⟩

/-- A record that the tables can take: its values can be handed over, and the constraints hold with
its rows as well. -/
def Tables.Takes (tables : Tables) (record : Record) (row : Columns Datum) (details : List Detail) :
    Prop :=
  rowOf record.columns = .ok row ∧ record.detailRows = .ok details ∧
    (tables.extended row details).Valid

/-- A statement that writes one row. -/
inductive Statement where
  | request (values : Columns Json)
  | detail (requestId : Json) (detail : Json × Json)

def Statement.execute (tables : Tables) : Statement → Except Fault Tables
  | .request values => (tables.insert values).map (·.1)
  | .detail requestId detail => tables.insertDetail requestId detail

def Record.statements (record : Record) : List Statement :=
  .request record.columns :: record.details.map (.detail record.columns.requestId)

/-- A connection: the tables as they are stored, and as its statements see and change them. -/
structure Connection where
  stored : Tables
  working : Tables

namespace Connection

def toStored (tables : Tables) : Connection := ⟨tables, tables⟩

/-- Carries out statements up to the first one that fails. What those before it wrote stays written
as far as the connection goes. -/
def executeAll (connection : Connection) : List Statement → Connection × Except Fault Unit
  | [] => (connection, .ok ())
  | statement :: rest =>
    match statement.execute connection.working with
    | .ok working => executeAll { connection with working } rest
    | .error fault => (connection, .error fault)

def commit (connection : Connection) : Connection :=
  { connection with stored := connection.working }

def close (connection : Connection) : Tables := connection.stored

end Connection

/-- Writes a record through a connection of its own, which is closed in any case. -/
def Tables.transact (tables : Tables) (record : Record) : Tables × Except Fault Unit :=
  match (Connection.toStored tables).executeAll record.statements with
  | (connection, .ok ()) => (connection.commit.close, .ok ())
  | (connection, .error fault) => (connection.close, .error fault)

theorem bind_eq_ok {α β : Type} {first : Except Fault α} {next : α → Except Fault β} {value : β} :
    (first >>= next) = .ok value ↔ ∃ found, first = .ok found ∧ next found = .ok value := by
  cases first with
  | error fault => simp only [bind, Except.bind, reduceCtorEq, false_and, exists_false]
  | ok found => simp only [bind, Except.bind, Except.ok.injEq, exists_eq_left']

theorem missingColumn?_eq_none_iff {cells : List (Column × Datum)} :
    missingColumn? cells = none ↔ Filled cells := by
  simp only [missingColumn?, Option.map_eq_none_iff, List.find?_eq_none, Filled, Bool.and_eq_true,
    not_and, Bool.not_eq_true]

/-- Whether a value can be handed over to the tables. -/
def Handable (value : Json) : Prop := ∃ datum, Datum.ofJson value = .ok datum

/-- What is handed over for a value that can be. -/
def datumOf (value : Json) : Datum :=
  match Datum.ofJson value with
  | .ok datum => datum
  | .error _ => .null

/-- The row that is kept of values that can be handed over. -/
def keptRow (values : Columns Json) : Columns Datum :=
  Columns.zipWith (fun column value => column.affinity.store (datumOf value)) requestColumns values

/-- The row that is kept of a detail whose values can be handed over. -/
def keptDetail (requestId : Json) (detail : Json × Json) : Detail :=
  ⟨Affinity.text.store (datumOf requestId), Affinity.text.store (datumOf detail.1),
    Affinity.text.store (datumOf detail.2)⟩

theorem bindAt_eq_ok_iff {position : Nat} {value : Json} {datum : Datum} :
    bindAt position value = .ok datum ↔ Handable value ∧ datum = datumOf value := by
  unfold bindAt Handable datumOf
  cases Datum.ofJson value with
  | ok found => simp [eq_comm]
  | error fault => cases fault <;> simp

/-- A row is kept exactly if each of its values can be handed over. -/
theorem rowOf_eq_ok_iff : rowOf values = .ok row ↔
    (∀ value ∈ values.toList, Handable value) ∧ keptRow values = row := by
  simp only [rowOf, Columns.mapM, Columns.zipWith, bind_eq_ok, bindAt_eq_ok_iff, pure, Except.pure,
    Except.ok.injEq, Columns.toList, List.forall_mem_cons, List.not_mem_nil, and_assoc,
    exists_and_left, exists_eq_left, keptRow, exists_eq_left', IsEmpty.forall_iff, implies_true,
    true_and]

theorem detailOf_eq_ok_iff : detailOf requestId detail = .ok kept ↔
    Handable requestId ∧ Handable detail.1 ∧ Handable detail.2 ∧
      keptDetail requestId detail = kept := by
  simp only [detailOf, bind_eq_ok, bindAt_eq_ok_iff, pure, Except.pure, Except.ok.injEq, and_assoc,
    exists_and_left, exists_eq_left, keptDetail]

theorem list_mapM_eq_ok_iff {α β : Type} {f : α → Except Fault β} {items : List α} {out : List β} :
    items.mapM f = .ok out ↔ List.Forall₂ (fun item value => f item = .ok value) items out := by
  induction items generalizing out with
  | nil => simp only [List.mapM_nil, pure, Except.pure, Except.ok.injEq, List.forall₂_nil_left_iff,
      eq_comm]
  | cons item rest ih =>
    simp only [List.mapM_cons, bind_eq_ok, pure, Except.pure, Except.ok.injEq,
      List.forall₂_cons_left_iff, ih]
    constructor
    · rintro ⟨value, first, values, later, rfl⟩
      exact ⟨value, values, first, later, rfl⟩
    · rintro ⟨value, values, first, later, rfl⟩
      exact ⟨value, first, values, later, rfl⟩

theorem insert_eq (tables : Tables) (values : Columns Json) :
    tables.insert values = (rowOf values >>= fun row =>
      match missingColumn? (requestCells row) with
      | some name => .error (.missing requestTable name)
      | none =>
        if tables.requests.any fun other => sameRequest other.requestId row.requestId then
          .error .repeatedRequest
        else .ok ({ tables with requests := tables.requests ++ [row] }, row)) := by
  unfold Tables.insert rowOf
  cases (Columns.zipWith Prod.mk positions values).mapM fun (position, value) =>
    bindAt position value <;> rfl

/-- A row is inserted exactly if its values can be handed over, none that is required is null and
its request is not yet there. -/
theorem insert_eq_ok_iff : tables.insert values = .ok (after, row) ↔
    rowOf values = .ok row ∧ Filled (requestCells row) ∧
      (∀ other ∈ tables.requests, sameRequest other.requestId row.requestId = false) ∧
      after = { tables with requests := tables.requests ++ [row] } := by
  rw [insert_eq, bind_eq_ok]
  constructor
  · rintro ⟨found, handed, inserted⟩
    split at inserted
    · cases inserted
    · next filled =>
      split at inserted
      · cases inserted
      · next fresh =>
        cases inserted
        refine ⟨handed, missingColumn?_eq_none_iff.mp filled, fun other member => ?_, rfl⟩
        exact Bool.eq_false_iff.mpr fun same => fresh (List.any_eq_true.mpr ⟨other, member, same⟩)
  · rintro ⟨handed, filled, fresh, rfl⟩
    have passed : (tables.requests.any fun other =>
        sameRequest other.requestId row.requestId) = false :=
      List.any_eq_false.mpr fun other member => by simp [fresh other member]
    refine ⟨row, handed, ?_⟩
    simp only [missingColumn?_eq_none_iff.mpr filled, passed, Bool.false_eq_true, ↓reduceIte]

theorem known_iff : kept.Known ↔
    (kept.kind.text?.all fun name => !detailTypes.contains name) = false := by
  unfold Detail.Known
  cases kept.kind <;> simp [Datum.text?]

theorem insertDetail_eq (tables : Tables) (requestId : Json) (detail : Json × Json) :
    tables.insertDetail requestId detail = (detailOf requestId detail >>= fun kept =>
      match missingColumn? kept.cells with
      | some name => .error (.missing detailTable name)
      | none =>
        if kept.kind.text?.all fun name => !detailTypes.contains name then .error .unknownDetail
        else .ok { tables with details := tables.details ++ [kept] }) := by
  unfold Tables.insertDetail detailOf
  cases bindAt 1 requestId <;> cases bindAt 2 detail.1 <;> cases bindAt 3 detail.2 <;> rfl

/-- A detail is inserted exactly if its values can be handed over, none of them is null and its type
is known. -/
theorem insertDetail_eq_ok_iff : tables.insertDetail requestId detail = .ok after ↔
    ∃ kept, detailOf requestId detail = .ok kept ∧ (Filled kept.cells ∧ kept.Known) ∧
      after = { tables with details := tables.details ++ [kept] } := by
  rw [insertDetail_eq, bind_eq_ok]
  refine exists_congr fun kept => and_congr_right fun _ => ?_
  constructor
  · intro inserted
    split at inserted
    · cases inserted
    · next filled =>
      split at inserted
      · cases inserted
      · next known =>
        cases inserted
        exact ⟨⟨missingColumn?_eq_none_iff.mp filled,
          known_iff.mpr (Bool.eq_false_iff.mpr known)⟩, rfl⟩
  · rintro ⟨⟨filled, known⟩, rfl⟩
    simp only [missingColumn?_eq_none_iff.mpr filled, known_iff.mp known, Bool.false_eq_true,
      ↓reduceIte]

theorem foldlM_insertDetail_eq_ok_iff {details : List (Json × Json)} :
    (details.foldlM (fun tables detail => tables.insertDetail requestId detail) tables) =
        .ok after ↔
      ∃ rows, details.mapM (detailOf requestId) = .ok rows ∧
        (∀ row ∈ rows, Filled row.cells ∧ row.Known) ∧
        after = { tables with details := tables.details ++ rows } := by
  induction details generalizing tables with
  | nil => simp [pure, Except.pure, eq_comm]
  | cons detail rest ih =>
    simp only [List.foldlM_cons, List.mapM_cons, bind_eq_ok, ih, insertDetail_eq_ok_iff, pure,
      Except.pure, Except.ok.injEq]
    constructor
    · rintro ⟨_, ⟨first, handed, fits, rfl⟩, rows, later, fit, rfl⟩
      refine ⟨first :: rows, ⟨first, handed, rows, later, rfl⟩, ?_, ?_⟩
      · exact List.forall_mem_cons.mpr ⟨fits, fit⟩
      · simp only [List.append_assoc, List.singleton_append]
    · rintro ⟨_, ⟨first, handed, rows, later, rfl⟩, fit, rfl⟩
      obtain ⟨fits, fit⟩ := List.forall_mem_cons.mp fit
      refine ⟨_, ⟨first, handed, fits, rfl⟩, rows, later, fit, ?_⟩
      simp only [List.append_assoc, List.singleton_append]

/-- A record is written exactly if its row and each of its details can be inserted. -/
theorem write_eq_ok_iff : tables.write record = .ok after ↔
    ∃ row details, rowOf record.columns = .ok row ∧ record.detailRows = .ok details ∧
      Filled (requestCells row) ∧
      (∀ other ∈ tables.requests, sameRequest other.requestId row.requestId = false) ∧
      (∀ kept ∈ details, Filled kept.cells ∧ kept.Known) ∧
      after = tables.extended row details := by
  simp only [Tables.write, bind_eq_ok, Prod.exists, insert_eq_ok_iff,
    foldlM_insertDetail_eq_ok_iff]
  constructor
  · rintro ⟨_, row, ⟨handed, filled, fresh, rfl⟩, details, kept, fit, rfl⟩
    exact ⟨row, details, handed, kept, filled, fresh, fit, rfl⟩
  · rintro ⟨row, details, handed, kept, filled, fresh, fit, rfl⟩
    exact ⟨_, row, ⟨handed, filled, fresh, rfl⟩, details, kept, fit, rfl⟩

/-- A fault of a value that cannot be handed over, and not of a constraint. -/
def Fault.OfValue : Fault → Prop
  | .tooLarge | .unsupported _ _ | .unencodable _ => True
  | .missing _ _ | .unknownDetail | .repeatedRequest => False

/-- The values that a record hands over. -/
def Record.content (record : Record) : List Json :=
  record.columns.toList ++ record.details.flatMap fun detail => [detail.1, detail.2]

/-- A record that keeps the constraints of tables as far as its values can be handed over. -/
structure Record.Sound (record : Record) (tables : Tables) : Prop where
  row : (∀ value ∈ record.columns.toList, Handable value) →
    Filled (requestCells (keptRow record.columns)) ∧ ∀ other ∈ tables.requests,
      sameRequest other.requestId (keptRow record.columns).requestId = false
  details : ∀ detail ∈ record.details, Handable record.columns.requestId → Handable detail.1 →
    Handable detail.2 → Filled (keptDetail record.columns.requestId detail).cells ∧
      (keptDetail record.columns.requestId detail).Known

theorem bind_eq_error {α β : Type} {first : Except Fault α} {next : α → Except Fault β}
    {fault : Fault} : (first >>= next) = .error fault ↔
      first = .error fault ∨ ∃ found, first = .ok found ∧ next found = .error fault := by
  cases first <;> simp [bind, Except.bind]

theorem bind_refused {α β : Type} {good : Fault → Prop} {first : Except Fault α}
    {next : α → Except Fault β} (before : ∀ fault, first = .error fault → good fault)
    (behind : ∀ found fault, next found = .error fault → good fault) :
    ∀ fault, (first >>= next) = .error fault → good fault := by
  intro fault refused
  rcases bind_eq_error.mp refused with stopped | ⟨found, -, stopped⟩
  · exact before fault stopped
  · exact behind found fault stopped

theorem ofValue_of_bindAt {position : Nat} {value : Json} (fault : Fault)
    (refused : bindAt position value = .error fault) : fault.OfValue := by
  unfold bindAt at refused
  split at refused <;> cases refused <;> trivial

section

variable {good : Fault → Prop}
  (binding : ∀ {position value} fault, bindAt position value = .error fault → good fault)
include binding

theorem rowOf_refused (fault : Fault) (refused : rowOf values = .error fault) : good fault := by
  revert fault
  unfold rowOf Columns.mapM
  refine bind_refused ?_ fun _ _ refused => by cases refused
  iterate 16 refine bind_refused binding fun _ => ?_
  exact fun _ refused => by cases refused

theorem detailOf_refused (fault : Fault) (refused : detailOf requestId detail = .error fault) :
    good fault := by
  revert fault
  unfold detailOf
  iterate 3 refine bind_refused binding fun _ => ?_
  exact fun _ refused => by cases refused

end

theorem ofValue_of_insertDetail
    (sound : Handable requestId → Handable detail.1 → Handable detail.2 →
      Filled (keptDetail requestId detail).cells ∧ (keptDetail requestId detail).Known)
    (fault : Fault) (refused : tables.insertDetail requestId detail = .error fault) :
    fault.OfValue := by
  rw [insertDetail_eq, bind_eq_error] at refused
  rcases refused with unbound | ⟨kept, bound, refused⟩
  · exact detailOf_refused ofValue_of_bindAt fault unbound
  · obtain ⟨identified, typed, said, rfl⟩ := detailOf_eq_ok_iff.mp bound
    obtain ⟨filled, known⟩ := sound identified typed said
    simp only [missingColumn?_eq_none_iff.mpr filled, known_iff.mp known, Bool.false_eq_true,
      ↓reduceIte, reduceCtorEq] at refused

/-- A record that keeps the constraints is refused for a value only. -/
theorem Record.Sound.ofValue_of_write (sound : record.Sound tables) (fault : Fault)
    (refused : tables.write record = .error fault) : fault.OfValue := by
  rw [Tables.write, bind_eq_error] at refused
  rcases refused with unwritten | ⟨⟨inserted, row⟩, -, refused⟩
  · rw [insert_eq, bind_eq_error] at unwritten
    rcases unwritten with unbound | ⟨row, bound, refused⟩
    · exact rowOf_refused ofValue_of_bindAt fault unbound
    · obtain ⟨handable, rfl⟩ := rowOf_eq_ok_iff.mp bound
      obtain ⟨filled, fresh⟩ := sound.row handable
      have passed : (tables.requests.any fun other =>
          sameRequest other.requestId (keptRow record.columns).requestId) = false :=
        List.any_eq_false.mpr fun other member => by simp [fresh other member]
      simp only [missingColumn?_eq_none_iff.mpr filled, passed, Bool.false_eq_true, ↓reduceIte,
        reduceCtorEq] at refused
  · have each := sound.details
    dsimp only at refused
    generalize record.details = details at each refused
    induction details generalizing inserted with
    | nil => cases refused
    | cons detail rest ih =>
      obtain ⟨first, others⟩ := List.forall_mem_cons.mp each
      rw [List.foldlM_cons, bind_eq_error] at refused
      rcases refused with unwritten | ⟨next, -, refused⟩
      · exact ofValue_of_insertDetail first fault unwritten
      · exact ih next others refused

theorem whole_of_unsupported {value : Json} {kind : Text}
    (unsupported : Datum.ofJson value = .error (.unsupported kind)) : kind.Whole := by
  unfold Datum.ofJson at unsupported
  split at unsupported
  case h_6 | h_7 =>
    cases unsupported
    exact Text.whole_text _
  all_goals first | (split at unsupported <;> cases unsupported) | cases unsupported

theorem whole_of_bindAt {position : Nat} {value : Json} (fault : Fault)
    (refused : bindAt position value = .error fault) : fault.message.Whole := by
  unfold bindAt at refused
  split at refused <;> cases refused
  · exact Text.whole_text _
  · next kind unsupported =>
    exact Text.whole_append (Text.whole_append (Text.whole_append (Text.whole_append
      (Text.whole_text _) (Text.whole_natDigits _)) (Text.whole_text _))
      (whole_of_unsupported unsupported)) (Text.whole_text _)
  · exact Text.Unencodable.whole_report _ _ _

theorem whole_of_missing {cells : List (Column × Datum)} {table name : Text}
    (columns : ∀ cell ∈ cells, cell.1.name.Whole) (whole : table.Whole)
    (missing : missingColumn? cells = some name) : (Fault.missing table name).message.Whole := by
  obtain ⟨cell, found, rfl⟩ := Option.map_eq_some_iff.mp missing
  exact Text.whole_append (Text.whole_append (Text.whole_text _) whole)
    (List.forall_mem_cons.mpr ⟨rfl, columns cell (List.mem_of_find?_eq_some found)⟩)

theorem whole_of_insert (fault : Fault) (refused : tables.insert values = .error fault) :
    fault.message.Whole := by
  revert fault
  rw [insert_eq]
  refine bind_refused (rowOf_refused whole_of_bindAt) fun row fault refused => ?_
  split at refused
  · next missing =>
    cases refused
    refine whole_of_missing ?_ (Text.whole_text _) missing
    simp [requestCells, Columns.zipWith, Columns.toList, requestColumns, Text.whole_text]
  · split at refused <;> cases refused
    exact Text.whole_text _

theorem whole_of_insertDetail (fault : Fault)
    (refused : tables.insertDetail requestId detail = .error fault) : fault.message.Whole := by
  revert fault
  rw [insertDetail_eq]
  refine bind_refused (detailOf_refused whole_of_bindAt) fun kept fault refused => ?_
  split at refused
  · next missing =>
    cases refused
    refine whole_of_missing ?_ (Text.whole_text _) missing
    simp [Detail.cells, detailColumns, Text.whole_text]
  · split at refused <;> cases refused
    exact Text.whole_text _

/-- What is said of a record that is not written is of characters, whatever its values. -/
theorem whole_of_write (fault : Fault) (refused : tables.write record = .error fault) :
    fault.message.Whole := by
  revert fault
  unfold Tables.write
  refine bind_refused whole_of_insert fun (inserted, row) => ?_
  dsimp only
  induction record.details generalizing inserted with
  | nil => exact fun _ refused => by cases refused
  | cons detail rest ih =>
    rw [List.foldlM_cons]
    exact bind_refused whole_of_insertDetail ih

theorem handable_of_write (written : tables.write record = .ok after) :
    ∀ value ∈ record.content, Handable value := by
  obtain ⟨row, details, bound, kept, -⟩ := write_eq_ok_iff.mp written
  refine List.forall_mem_append.mpr ⟨(rowOf_eq_ok_iff.mp bound).1, ?_⟩
  have pairs := list_mapM_eq_ok_iff.mp kept
  clear kept
  generalize record.details = given at pairs ⊢
  induction pairs with
  | nil => exact fun value member => absurd member List.not_mem_nil
  | cons first rest ih =>
    obtain ⟨-, typed, said, -⟩ := detailOf_eq_ok_iff.mp first
    rw [List.flatMap_cons]
    refine List.forall_mem_append.mpr ⟨?_, ih⟩
    simp only [List.forall_mem_cons, typed, said, List.not_mem_nil, false_implies, implies_true,
      and_self]

/-- A record that keeps the constraints is written if all of its values can be handed over, and
refused for one of them otherwise. -/
theorem Record.Sound.write_cases (sound : record.Sound tables) :
    ((∀ value ∈ record.content, Handable value) ∧
      tables.write record = .ok (tables.extended (keptRow record.columns)
        (record.details.map (keptDetail record.columns.requestId)))) ∨
    (¬ (∀ value ∈ record.content, Handable value) ∧
      ∃ fault : Fault, fault.OfValue ∧ tables.write record = .error fault) := by
  by_cases handable : ∀ value ∈ record.content, Handable value
  · obtain ⟨columns, noted⟩ := List.forall_mem_append.mp handable
    have identified : Handable record.columns.requestId := columns _ List.mem_cons_self
    have each : ∀ detail ∈ record.details, Handable detail.1 ∧ Handable detail.2 := by
      intro detail member
      have both := List.forall_mem_flatMap.mp noted detail member
      exact ⟨both _ List.mem_cons_self, both _ (List.mem_cons_of_mem _ List.mem_cons_self)⟩
    obtain ⟨filled, fresh⟩ := sound.row columns
    refine Or.inl ⟨handable, write_eq_ok_iff.mpr ⟨_, _, rowOf_eq_ok_iff.mpr ⟨columns, rfl⟩, ?_,
      filled, fresh, ?_, rfl⟩⟩
    · refine list_mapM_eq_ok_iff.mpr (List.forall₂_map_right_iff.mpr (List.forall₂_same.mpr ?_))
      intro detail member
      obtain ⟨typed, said⟩ := each detail member
      exact detailOf_eq_ok_iff.mpr ⟨identified, typed, said, rfl⟩
    · intro kept member
      obtain ⟨detail, inside, rfl⟩ := List.mem_map.mp member
      obtain ⟨typed, said⟩ := each detail inside
      exact sound.details detail inside identified typed said
  · refine Or.inr ⟨handable, ?_⟩
    cases written : tables.write record with
    | ok after => exact absurd (handable_of_write written) handable
    | error fault => exact ⟨fault, sound.ofValue_of_write fault written, rfl⟩

theorem sameRequest_text (other : Datum) (text : Text) :
    sameRequest other (.text text) = true ↔ other = .text text := by
  cases other <;> simp [sameRequest, Datum.text?]

theorem executeAll_cases (connection : Connection) (statements : List Statement) :
    (∃ working, statements.foldlM (fun tables statement => statement.execute tables)
        connection.working = .ok working ∧
      connection.executeAll statements = ({ connection with working }, .ok ())) ∨
    ∃ fault working, statements.foldlM (fun tables statement => statement.execute tables)
        connection.working = .error fault ∧
      connection.executeAll statements = ({ connection with working }, .error fault) := by
  induction statements generalizing connection with
  | nil => exact Or.inl ⟨connection.working, rfl, rfl⟩
  | cons statement rest ih =>
    simp only [List.foldlM_cons, Connection.executeAll]
    cases executed : statement.execute connection.working with
    | error fault => exact Or.inr ⟨fault, connection.working, rfl, rfl⟩
    | ok working => exact ih { connection with working }

theorem foldlM_statements (tables : Tables) (record : Record) :
    (record.statements.foldlM (fun tables statement => statement.execute tables) tables) =
      tables.write record := by
  simp only [Record.statements, List.foldlM_cons, List.foldlM_map, Statement.execute, Tables.write]
  cases tables.insert record.columns <;> rfl

/-- A record that is written through a connection is written as a whole, and otherwise nothing of it
is stored. -/
theorem transact_eq (tables : Tables) (record : Record) : tables.transact record =
    match tables.write record with
    | .ok after => (after, .ok ())
    | .error fault => (tables, .error fault) := by
  rw [← foldlM_statements]
  unfold Tables.transact
  rcases executeAll_cases (.toStored tables) record.statements with
    ⟨working, written, executed⟩ | ⟨fault, working, refused, executed⟩
  · rw [executed, show tables = (Connection.toStored tables).working from rfl, written]
    rfl
  · rw [executed, show tables = (Connection.toStored tables).working from rfl, refused]
    rfl

/-- What tables hold after calls: the rows of the records that were written, in order, and their
details, in order. -/
structure Tables.Holds (tables : Tables) (records : List Record) : Prop where
  rows : List.Forall₂ (fun record row => rowOf record.columns = .ok row) records tables.requests
  details : ∃ parts, List.Forall₂ (fun record part => record.detailRows = .ok part) records parts ∧
    tables.details = parts.flatten

theorem Tables.Holds.extended {records : List Record} {details : List Detail}
    (holds : tables.Holds records) (handed : rowOf record.columns = .ok row)
    (kept : record.detailRows = .ok details) :
    (tables.extended row details).Holds (records ++ [record]) where
  rows := List.rel_append holds.rows (.cons handed .nil)
  details := by
    obtain ⟨parts, all, flat⟩ := holds.details
    refine ⟨parts ++ [details], List.rel_append all (.cons kept .nil), ?_⟩
    simp only [Tables.extended, flat, List.flatten_append, List.flatten_singleton]

/-- A call that writes a record. A careful one gives notice of a failure instead of failing. -/
structure Call where
  record : Record
  careful : Bool

/-- How a call ends. -/
inductive Ending where
  | written
  | failed (fault : Fault)
  | warned (text : Text)
  /-- Notice of a failure cannot be given. -/
  | escaped (fault : TimeReports.Fault)

/-- How the run of a careful call ends. -/
def Ending.ofRun (run : Run Tables Unit) : Ending :=
  match run.outcome, run.events with
  | .failed fault, _ => .escaped fault
  | _, .noticed (.line text) :: _ => .warned text
  | _, _ => .written

section

variable [Console]

def Tables.call (tables : Tables) (call : Call) : Tables × Ending :=
  if call.careful then
    let run := (writeCarefully call.record).run tables []
    (run.state, .ofRun run)
  else
    match tables.transact call.record with
    | (after, .ok ()) => (after, .written)
    | (after, .error fault) => (after, .failed fault)

/-- The tables after calls that are made one after another, and how each of them ended. -/
def Tables.calls (tables : Tables) : List Call → Tables × List Ending
  | [] => (tables, [])
  | call :: rest =>
    let (after, ending) := tables.call call
    let (last, endings) := after.calls rest
    (last, ending :: endings)

/-- The line in which a careful call gives notice of a failure, or what keeps it from doing so. -/
def noticeOf (record : Record) (fault : Fault) : Except TimeReports.Fault Text :=
  match warning record fault with
  | .error reason => .error (.ofShow reason)
  | .ok line =>
    match Console.refusal? line with
    | none => .ok line
    | some found => .error (.console found)

/-- How a careful call ends that gives notice of a failure. -/
def Ending.ofNotice : Except TimeReports.Fault Text → Ending
  | .ok line => .warned line
  | .error reason => .escaped reason

/-- What a call does to tables: it writes the whole record where they take it, and nothing where
they do not; then it fails, or gives notice if it is careful. -/
structure Call.Keeps (call : Call) (before after : Tables) (ending : Ending) : Prop where
  takes : ∀ row details, before.Takes call.record row details →
    ending = .written ∧ after = before.extended row details
  refuses : (∀ row details, ¬ before.Takes call.record row details) → after = before ∧
    ∃ fault, ending =
      if call.careful then .ofNotice (noticeOf call.record fault) else .failed fault

theorem run_warn {σ : Type} (record : Record) (fault : Fault) (state : σ)
    (replies : List Harvest.Reply) : (warn record fault).run state replies =
      match noticeOf record fault with
      | .ok line => ⟨.returned (), state, replies, [.noticed (.line line)]⟩
      | .error reason => ⟨.failed reason, state, replies, []⟩ := by
  unfold warn noticeOf
  cases warning record fault with
  | error reason => rfl
  | ok line =>
    cases refused : Console.refusal? line with
    | none => simp only [Program.say_of_takes refused, Program.run, Run.after, refused]
    | some found => simp only [Program.say_of_refusal refused, Program.run, refused]

theorem run_writeCarefully_of_ok (written : tables.write record = .ok after)
    (replies : List Harvest.Reply) :
    (writeCarefully record).run tables replies = ⟨.returned (), after, replies, []⟩ := by
  simp only [writeCarefully, Program.bind_eq, Program.get, Program.bind, Program.run, written,
    Program.modify]

theorem run_writeCarefully_of_error {fault : Fault} (refused : tables.write record = .error fault)
    (replies : List Harvest.Reply) :
    (writeCarefully record).run tables replies = (warn record fault).run tables replies := by
  simp only [writeCarefully, Program.bind_eq, Program.get, Program.bind, Program.run, refused]

theorem call_of_ok (call : Call) (written : tables.write call.record = .ok after) :
    tables.call call = (after, .written) := by
  unfold Tables.call
  split
  · rw [run_writeCarefully_of_ok written]
    rfl
  · simp only [transact_eq, written]

theorem call_of_error (call : Call) {fault : Fault}
    (refused : tables.write call.record = .error fault) : tables.call call =
      (tables,
        if call.careful then .ofNotice (noticeOf call.record fault) else .failed fault) := by
  unfold Tables.call
  split
  · rw [run_writeCarefully_of_error refused, run_warn]
    cases noticeOf call.record fault <;> rfl
  · simp only [transact_eq, refused]

theorem noticeOf_eq_ok_iff {fault : Fault} {line : Text} :
    noticeOf record fault = .ok line ↔ warning record fault = .ok line ∧ Console.Takes line := by
  unfold noticeOf
  cases warning record fault with
  | error reason => simp only [reduceCtorEq, false_and]
  | ok given =>
    simp only [Except.ok.injEq]
    constructor
    · intro noticed
      split at noticed
      · next takes =>
        cases noticed
        exact ⟨rfl, takes⟩
      · cases noticed
    · rintro ⟨rfl, takes⟩
      rw [show Console.refusal? given = none from takes]

/-- Notice of a record whose id is a text is given exactly if the console takes the id. -/
theorem exists_noticeOf_iff {fault : Fault} {id : Text} (said : fault.message.Whole)
    (identified : record.columns.requestId = .string id) :
    (∃ line, noticeOf record fault = .ok line) ↔ Console.Takes id := by
  have named : warning record fault = .ok ("Warning: failed to write request log ".text ++ id
      ++ ": ".text ++ fault.message) := by
    unfold warning
    rw [identified]
    rfl
  simp only [noticeOf_eq_ok_iff, named, Except.ok.injEq, exists_eq_left', Console.takes_append_iff,
    Console.takes_of_whole (Text.whole_text _), Console.takes_of_whole said, true_and, and_true]

end

/-- A record whose second detail is of no known type leaves nothing behind, not even its row. -/
example :
    let columns : Columns Json := ⟨.string "r".text, .string "t".text, .string "/".text,
      .string "GET".text, .null, .null, .null, .null, .null, .null, .int 200, .null, .null, .int 0,
      .null, .null⟩
    let details : List (Json × Json) :=
      [(.string "rewrite".text, .string "a".text), (.string "other".text, .string "b".text)]
    (Tables.empty.transact ⟨columns, details⟩).2 = .error .unknownDetail ∧
      (Tables.empty.transact ⟨columns, details⟩).1.requests.length = 0 := by decide

end TimeReports.RequestLog

namespace TimeReports.Service

variable [Console]

/-- Writing to the log of the service is a careful call. -/
theorem run_writeLog (record : RequestLog.Record) (service : Service)
    (replies : List Harvest.Reply) : (writeLog record).run service replies =
      { outcome :=
          match (service.log.call ⟨record, true⟩).2 with
          | .escaped fault => .failed fault
          | _ => .returned ()
        state := { service with log := (service.log.call ⟨record, true⟩).1 }
        unused := replies
        events :=
          match (service.log.call ⟨record, true⟩).2 with
          | .warned text => [.noticed (.line text)]
          | _ => [] } := by
  have inLog := Program.run_zoom Service.log (fun service log => { service with log })
    (fun _ => rfl) (fun _ _ => rfl) (fun _ _ _ => rfl) (RequestLog.writeCarefully record) service
    replies
  refine inLog.trans ?_
  cases written : service.log.write record with
  | ok after =>
    rw [RequestLog.call_of_ok ⟨record, true⟩ written, RequestLog.run_writeCarefully_of_ok written]
  | error fault =>
    rw [RequestLog.call_of_error ⟨record, true⟩ written,
      RequestLog.run_writeCarefully_of_error written, RequestLog.run_warn]
    simp only [↓reduceIte]
    cases RequestLog.noticeOf record fault <;> rfl

end TimeReports.Service
