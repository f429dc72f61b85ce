import TimeReports.Proofs.Documents
import TimeReports.Proofs.Executions

set_option autoImplicit false

namespace TimeReports

open Program

namespace Desk

theorem run_inSession {α : Type} (program : SessionProgram α) (desk : Desk)
    (replies : List Harvest.Reply) : (inSession program).run desk replies =
      { outcome := (program.run desk.session replies).outcome
        state := { desk with session := (program.run desk.session replies).state }
        unused := (program.run desk.session replies).unused
        events := (program.run desk.session replies).events } :=
  run_zoom Desk.session (fun desk session => { desk with session }) (fun _ => rfl) (fun _ _ => rfl)
    (fun _ _ _ => rfl) program desk replies

theorem run_replaceLines (document : Text) (first last : Int) (replacement : Text) (desk : Desk)
    (replies : List Harvest.Reply) :
    (replaceLines document first last replacement).run desk replies =
      { outcome :=
          match (desk.vault.replaceLines document first last replacement).2 with
          | .ok () => .returned ()
          | .error fault => .failed (.ofVault fault)
        state := { desk with
          vault := (desk.vault.replaceLines document first last replacement).1 }
        unused := replies
        events := [] } := by
  simp only [replaceLines, Program.get, bind_eq, Program.bind, run, Program.modify]
  cases (desk.vault.replaceLines document first last replacement).2 <;> rfl

end Desk

namespace Execution

abbrev SessionFetcher := Date → Date → SessionProgram (List TimeEntry)

def ofSession (fetch : SessionFetcher) : Fetcher Desk :=
  fun first last => Desk.inSession (fetch first last)

def answered (fetch : SessionFetcher) (query : Query) (desk : Desk)
    (replies : List Harvest.Reply) : Run Session (List TimeEntry) :=
  (fetch query.range.first query.range.last).run desk.session replies

variable {source markup : Text} {fetch : SessionFetcher} {location : Option Location}
  {place : Location} {today : Date} {query : Query} {desk : Desk} {replies : List Harvest.Reply}
  {result : Result} {entries : List TimeEntry} {failure : ApiFailure}

theorem fetched_ofSession (fetch : SessionFetcher) (query : Query) (desk : Desk)
    (replies : List Harvest.Reply) : fetched (ofSession fetch) query desk replies =
      { outcome := (answered fetch query desk replies).outcome
        state := { desk with session := (answered fetch query desk replies).state }
        unused := (answered fetch query desk replies).unused
        events := (answered fetch query desk replies).events } :=
  Desk.run_inSession _ desk replies

/-- The vault after a block is replaced by its report, and whether that was done. -/
def replacedAt (vault : Vault) (place : Location) (source markup : Text) :
    Vault × Except Vault.Fault Unit :=
  vault.replaceLines place.document place.first place.last
    (Document.frozenBlock (Query.withoutFlag source) markup)

def Reads (source : Text) (today : Date) (query : Query) : Prop :=
  Query.parse (Query.withoutFlag source) today = .ok query

section

variable [Console]

def executed (source : Text) (fetch : SessionFetcher) (location : Option Location) (today : Date)
    (desk : Desk) (replies : List Harvest.Reply) : Run Desk Result :=
  (execute source (ofSession fetch) location today fun _ => return ()).run desk replies

theorem executed_of_malformed {fault : QueryFault}
    (malformed : Query.parse (Query.withoutFlag source) today = .error (.malformed fault)) :
    executed source fetch location today desk replies =
      ⟨.returned (Execution.failure .parseFailed (parseFailedMessage fault) none), desk, replies,
        []⟩ := by
  unfold executed execute
  rw [evaluate_of_malformed malformed]
  rfl

theorem executed_of_parsed
    (parsed : Query.parse (Query.withoutFlag source) today = .ok query) :
    executed source fetch location today desk replies =
      ((fetchReport (ofSession fetch) query).run desk replies).andThen
        (finish Desk.replaceLines location source) := by
  unfold executed execute
  rw [evaluate_of_parsed parsed, pure_eq, Program.bind, run_bind]

theorem executed_of_unfetched
    (parsed : Query.parse (Query.withoutFlag source) today = .ok query)
    (failed : (answered fetch query desk replies).outcome = .failed (.fetch failure))
    (takes : Console.Takes (fetchFailedLine query failure)) :
    executed source fetch location today desk replies =
      ⟨.returned (unfetched query),
        { desk with session := (answered fetch query desk replies).state },
        (answered fetch query desk replies).unused,
        .noticed (.fetching query.range) :: ((answered fetch query desk replies).events
          ++ [.noticed (.line (fetchFailedLine query failure))])⟩ := by
  have fetching := fetched_ofSession fetch query desk replies
  rw [executed_of_parsed parsed, run_fetchReport_of_failed (by rw [fetching, failed]) takes,
    Run.andThen_of_returned _ rfl,
    finish_of_undone (show (unfetched query).state ≠ .done from State.noConfusion), fetching]
  simp only [run, Run.behind, List.append_nil]

theorem executed_of_fetched
    (parsed : Query.parse (Query.withoutFlag source) today = .ok query)
    (returned : (answered fetch query desk replies).outcome = .returned entries) :
    executed source fetch location today desk replies =
      ((finish Desk.replaceLines location source (report query entries)).run
        { desk with session := (answered fetch query desk replies).state }
        (answered fetch query desk replies).unused).behind
          (.noticed (.fetching query.range) :: (answered fetch query desk replies).events) := by
  have fetching := fetched_ofSession fetch query desk replies
  rw [executed_of_parsed parsed, run_fetchReport_of_returned (by rw [fetching, returned]),
    Run.andThen_of_returned _ rfl, fetching]

theorem executed_of_live (live : Query.isStatic source = false)
    (parsed : Query.parse (Query.withoutFlag source) today = .ok query)
    (returned : (answered fetch query desk replies).outcome = .returned entries) :
    executed source fetch location today desk replies =
      ⟨.returned (report query entries),
        { desk with session := (answered fetch query desk replies).state },
        (answered fetch query desk replies).unused,
        .noticed (.fetching query.range) :: (answered fetch query desk replies).events⟩ := by
  rw [executed_of_fetched parsed returned, finish_of_live live]
  simp only [run, Run.behind, List.append_nil]

theorem executed_of_unplaced (flag : Query.isStatic source = true)
    (parsed : Query.parse (Query.withoutFlag source) today = .ok query)
    (returned : (answered fetch query desk replies).outcome = .returned entries)
    (written : (report query entries).display.markup = .ok markup) :
    executed source fetch none today desk replies =
      ⟨.returned ((report query entries).kept markup .unknownLocation),
        { desk with session := (answered fetch query desk replies).state },
        (answered fetch query desk replies).unused,
        .noticed (.fetching query.range) :: (answered fetch query desk replies).events⟩ := by
  rw [executed_of_fetched parsed returned, finish_of_static flag rfl, freezeInto_none_eq written]
  simp only [run, Run.behind, List.append_nil]

theorem executed_of_placed (flag : Query.isStatic source = true)
    (parsed : Query.parse (Query.withoutFlag source) today = .ok query)
    (returned : (answered fetch query desk replies).outcome = .returned entries)
    (written : (report query entries).display.markup = .ok markup) :
    executed source fetch (some place) today desk replies =
      { outcome :=
          match (replacedAt desk.vault place source markup).2 with
          | .ok () => .returned ((report query entries).frozen markup)
          | .error (.document fault) => .returned ((report query entries).kept markup fault)
          | .error (.storage fault) => .failed (.storage fault)
        state :=
          { session := (answered fetch query desk replies).state
            vault := (replacedAt desk.vault place source markup).1 }
        unused := (answered fetch query desk replies).unused
        events :=
          .noticed (.fetching query.range) :: (answered fetch query desk replies).events } := by
  rw [executed_of_fetched parsed returned, finish_of_static flag rfl, run_freezeInto_some written]
  unfold rewritten replacedAt
  rw [Desk.run_replaceLines]
  generalize desk.vault.replaceLines place.document place.first place.last
    (Document.frozenBlock (Query.withoutFlag source) markup) = replaced
  obtain ⟨vault, outcome⟩ := replaced
  match outcome with
  | .ok () | .error (.document fault) | .error (.storage fault) =>
    simp only [Run.attempted, Run.andThen, conclude, Fault.ofVault, run, Run.behind,
      List.append_nil]

/-- The ways in which an execution gives a result, each with the run that it takes. -/
inductive Ending (source : Text) (fetch : SessionFetcher) (location : Option Location)
    (today : Date) (desk : Desk) (replies : List Harvest.Reply) : Run Desk Result → Prop
  | malformed (fault : QueryFault)
    (malformed : Query.parse (Query.withoutFlag source) today = .error (.malformed fault)) :
    Ending source fetch location today desk replies
      ⟨.returned (Execution.failure .parseFailed (parseFailedMessage fault) none), desk, replies,
        []⟩
  | unfetched (query : Query) (failure : ApiFailure) (reads : Reads source today query)
    (failed : (answered fetch query desk replies).outcome = .failed (.fetch failure))
    (takes : Console.Takes (fetchFailedLine query failure)) :
    Ending source fetch location today desk replies
      ⟨.returned (unfetched query),
        { desk with session := (answered fetch query desk replies).state },
        (answered fetch query desk replies).unused,
        .noticed (.fetching query.range) :: ((answered fetch query desk replies).events
          ++ [.noticed (.line (fetchFailedLine query failure))])⟩
  | live (query : Query) (entries : List TimeEntry) (reads : Reads source today query)
    (returned : (answered fetch query desk replies).outcome = .returned entries)
    (live : Query.isStatic source = false) :
    Ending source fetch location today desk replies
      ⟨.returned (report query entries),
        { desk with session := (answered fetch query desk replies).state },
        (answered fetch query desk replies).unused,
        .noticed (.fetching query.range) :: (answered fetch query desk replies).events⟩
  | frozen (query : Query) (entries : List TimeEntry) (markup : Text) (place : Location)
    (after : Vault) (reads : Reads source today query)
    (returned : (answered fetch query desk replies).outcome = .returned entries)
    (flag : Query.isStatic source = true)
    (written : (report query entries).display.markup = .ok markup)
    (placed : location = some place)
    (replaced : replacedAt desk.vault place source markup = (after, .ok ())) :
    Ending source fetch location today desk replies
      ⟨.returned ((report query entries).frozen markup),
        ⟨(answered fetch query desk replies).state, after⟩,
        (answered fetch query desk replies).unused,
        .noticed (.fetching query.range) :: (answered fetch query desk replies).events⟩
  | kept (query : Query) (entries : List TimeEntry) (markup : Text)
    (fault : Vault.DocumentFault) (after : Vault) (reads : Reads source today query)
    (returned : (answered fetch query desk replies).outcome = .returned entries)
    (flag : Query.isStatic source = true)
    (written : (report query entries).display.markup = .ok markup)
    (unreplaced : (location = none ∧ after = desk.vault) ∨ ∃ place, location = some place ∧
      replacedAt desk.vault place source markup = (after, .error (.document fault))) :
    Ending source fetch location today desk replies
      ⟨.returned ((report query entries).kept markup fault),
        ⟨(answered fetch query desk replies).state, after⟩,
        (answered fetch query desk replies).unused,
        .noticed (.fetching query.range) :: (answered fetch query desk replies).events⟩

theorem ending_of_returned
    (returned : (executed source fetch location today desk replies).outcome = .returned result) :
    Ending source fetch location today desk replies
      (executed source fetch location today desk replies) := by
  cases parsed : Query.parse (Query.withoutFlag source) today with
  | error fault =>
    cases fault with
    | malformed fault =>
      rw [executed_of_malformed parsed]
      exact .malformed fault parsed
    | days fault =>
      unfold executed execute at returned
      rw [evaluate_of_days parsed] at returned
      cases returned
  | ok query =>
    have fetching := fetched_ofSession fetch query desk replies
    have fetchRun := returned
    rw [executed_of_parsed parsed] at fetchRun
    obtain ⟨fetchResult, first, -⟩ := Run.andThen_returned fetchRun
    rcases fetchReport_returned first with ⟨entries, found, -⟩ | ⟨failure, failed, takes, -⟩
    · rw [fetching] at found
      cases flag : Query.isStatic source with
      | false =>
        rw [executed_of_live flag parsed found]
        exact .live query entries parsed found flag
      | true =>
        obtain ⟨markup, written⟩ := markup_report query entries
        cases placed : location with
        | none =>
          rw [executed_of_unplaced flag parsed found written]
          exact .kept query entries markup _ _ parsed found flag written (Or.inl ⟨rfl, rfl⟩)
        | some place =>
          rw [placed, executed_of_placed flag parsed found written] at returned
          rw [executed_of_placed flag parsed found written]
          cases replaced : replacedAt desk.vault place source markup with
          | mk after outcome =>
            rw [replaced] at returned
            match outcome with
            | .ok () =>
              exact .frozen query entries markup place after parsed found flag written rfl replaced
            | .error (.document fault) =>
              exact .kept query entries markup fault after parsed found flag written
                (Or.inr ⟨place, rfl, replaced⟩)
            | .error (.storage fault) => cases returned
    · rw [fetching] at failed
      rw [executed_of_unfetched parsed failed takes]
      exact .unfetched query failure parsed failed takes

end

/-- Whether there is a block to replace, in a file that storage opens. -/
def CanReplace (vault : Vault) (location : Option Location) : Prop :=
  ∃ place, location = some place ∧
    vault.Replaceable place.document place.first place.last ∧ vault.trouble = .none

theorem canReplace_of_replaced {after : Vault} {vault : Vault}
    (replaced : replacedAt vault place source markup = (after, .ok ())) :
    CanReplace vault (some place) := by
  obtain ⟨-, calm, text, holds, inside, -, -⟩ := Vault.replaceLines_eq_ok_iff.mp replaced
  exact ⟨place, rfl, ⟨text, holds, inside⟩, calm⟩

theorem not_canReplace_of_unreplaced {after vault : Vault} {fault : Vault.DocumentFault}
    (unreplaced : (location = none ∧ after = vault) ∨ ∃ place, location = some place ∧
      replacedAt vault place source markup = (after, .error (.document fault))) :
    ¬ CanReplace vault location := by
  rintro ⟨place, placed, replaceable, calm⟩
  rcases unreplaced with ⟨absent, -⟩ | ⟨other, present, failed⟩
  · rw [placed] at absent
    cases absent
  · rw [placed] at present
    cases present
    exact (Vault.replaceLines_eq_error failed).1 ⟨replaceable, calm⟩

/-- How the result of an execution agrees with what was asked for and with the vault. -/
structure Agrees (source : Text) (fetch : SessionFetcher) (location : Option Location)
    (today : Date) (desk : Desk) (replies : List Harvest.Reply) (result : Result)
    (run : Run Desk Result) : Prop where
  unread : result.state = .parseFailed ↔ ¬ ∃ query, Reads source today query
  unasked : result.state = .parseFailed →
    run.state = desk ∧ run.unused = replies ∧ run.events = []
  /-- What is asked for is what the fetcher asks for the days of the query, once. -/
  asked : ∀ query, Reads source today query →
    run.state.session = (answered fetch query desk replies).state ∧
    run.unused = (answered fetch query desk replies).unused ∧
    ∃ lines : List Text, run.events = .noticed (.fetching query.range) ::
      ((answered fetch query desk replies).events ++ lines.map fun line => .noticed (.line line))
  unfetched : result.state = .fetchFailed ↔ ∃ query failure, Reads source today query ∧
    (answered fetch query desk replies).outcome = .failed (.fetch failure)
  live : result.state ≠ .parseFailed → result.state ≠ .fetchFailed →
    Query.isStatic source = false → result.state = .done ∧ result.markup = none
  frozen : result.state ≠ .parseFailed → result.state ≠ .fetchFailed →
    Query.isStatic source = true →
      (result.state = .done ∧ result.replaced = true ↔ CanReplace desk.vault location)
  kept : result.state ≠ .parseFailed → result.state ≠ .fetchFailed →
    Query.isStatic source = true →
      (result.state = .replaceFailed ↔ ¬ CanReplace desk.vault location)
  /-- Without a replacement nothing is written, unless storage stops in the middle of a document. -/
  untouched : result.replaced = false → run.state.vault = desk.vault ∨
    result.state = .replaceFailed ∧ desk.vault.StopsWriting ∧ ∃ place, location = some place ∧
      desk.vault.Replaceable place.document place.first place.last ∧
      ∀ path, path ≠ desk.vault.pathOf place.document →
        run.state.vault.bytesAt? path = desk.vault.bytesAt? path
  /-- A replaced block is in the one file that its location names. -/
  frame : result.replaced = true → ∃ place text markup, location = some place ∧
    desk.vault.Holds place.document text ∧ result.markup = some markup ∧
    run.state.vault = desk.vault.holding (desk.vault.pathOf place.document)
      (Text.utf8 (Vault.splicedText text place.first place.last
        (Document.frozenBlock (Query.withoutFlag source) markup))) ∧
    ∀ path, path ≠ desk.vault.pathOf place.document →
      run.state.vault.bytesAt? path = desk.vault.bytesAt? path

theorem reads_unique {other : Query} (reads : Reads source today query)
    (reads' : Reads source today other) : query = other :=
  Except.ok.inj (reads.symm.trans reads')

theorem not_reads_of_error {fault : ParseFault}
    (refused : Query.parse (Query.withoutFlag source) today = .error fault) :
    ¬ ∃ query, Reads source today query := by
  rintro ⟨query, reads⟩
  rw [Reads, refused] at reads
  cases reads

theorem not_unfetched_of_returned (reads : Reads source today query)
    (returned : (answered fetch query desk replies).outcome = .returned entries) :
    ¬ ∃ query failure, Reads source today query ∧
      (answered fetch query desk replies).outcome = .failed (.fetch failure) := by
  rintro ⟨other, failure, reads', failed⟩
  rw [← reads_unique reads reads', returned] at failed
  cases failed

theorem read_of_reads {state : State} (other : state ≠ .parseFailed)
    (reads : Reads source today query) :
    state = .parseFailed ↔ ¬ ∃ query, Reads source today query := by
  constructor
  · exact fun failed => absurd failed other
  · exact fun unread => absurd ⟨query, reads⟩ unread

/-- A source reads as one query only, so it is enough to know what was asked for that one. -/
theorem asked_of_reads {run : Run Desk Result} (reads : Reads source today query)
    (session : run.state.session = (answered fetch query desk replies).state)
    (unused : run.unused = (answered fetch query desk replies).unused) (lines : List Text)
    (events : run.events = .noticed (.fetching query.range) ::
      ((answered fetch query desk replies).events ++ lines.map fun line => .noticed (.line line)))
    (other : Query) (reads' : Reads source today other) :
    run.state.session = (answered fetch other desk replies).state ∧
      run.unused = (answered fetch other desk replies).unused ∧
      ∃ lines : List Text, run.events = .noticed (.fetching other.range) ::
        ((answered fetch other desk replies).events ++
          lines.map fun line => .noticed (.line line)) := by
  obtain rfl := reads_unique reads reads'
  exact ⟨session, unused, lines, events⟩

/-- The result of an execution, the calls that it made and the vault that it left agree: which
failure it shows is decided by the query and by the fetcher, a static block is replaced exactly
where there is one to replace, and nothing else is written. -/
theorem executed_agrees [Console]
    (returned : (executed source fetch location today desk replies).outcome = .returned result) :
    Agrees source fetch location today desk replies result
      (executed source fetch location today desk replies) := by
  have ending := ending_of_returned returned
  generalize executed source fetch location today desk replies = run at returned ending
  cases ending with
  | malformed fault malformed =>
    cases returned
    have unread := not_reads_of_error malformed
    exact {
      unread := by simp only [Execution.failure, unread, not_false_eq_true]
      unasked := fun _ => ⟨rfl, rfl, rfl⟩
      asked := fun query reads => absurd ⟨query, reads⟩ unread
      unfetched := by
        simp only [Execution.failure, reduceCtorEq, false_iff]
        rintro ⟨query, -, reads, -⟩
        exact unread ⟨query, reads⟩
      live := fun parses => absurd rfl parses
      frozen := fun parses => absurd rfl parses
      kept := fun parses => absurd rfl parses
      untouched := fun _ => Or.inl rfl
      frame := fun replaced => nomatch replaced }
  | unfetched query failure reads failed takes =>
    cases returned
    exact {
      unread := read_of_reads State.noConfusion reads
      unasked := fun refused => nomatch refused
      asked := asked_of_reads reads rfl rfl [fetchFailedLine query failure] rfl
      unfetched := ⟨fun _ => ⟨query, failure, reads, failed⟩, fun _ => rfl⟩
      live := fun _ fetches => absurd rfl fetches
      frozen := fun _ fetches => absurd rfl fetches
      kept := fun _ fetches => absurd rfl fetches
      untouched := fun _ => Or.inl rfl
      frame := fun replaced => nomatch replaced }
  | live query entries reads found live =>
    cases returned
    exact {
      unread := read_of_reads State.noConfusion reads
      unasked := fun refused => nomatch refused
      asked := asked_of_reads reads rfl rfl [] (by rw [List.map_nil, List.append_nil])
      unfetched := by
        simp only [report, reduceCtorEq, not_unfetched_of_returned reads found]
      live := fun _ _ _ => ⟨rfl, rfl⟩
      frozen := fun _ _ flag => absurd (live.symm.trans flag) Bool.false_ne_true
      kept := fun _ _ flag => absurd (live.symm.trans flag) Bool.false_ne_true
      untouched := fun _ => Or.inl rfl
      frame := fun replaced => nomatch replaced }
  | frozen query entries markup place after reads found flag written placed replaced =>
    cases returned
    obtain ⟨-, -, text, holds, -, -, rfl⟩ := Vault.replaceLines_eq_ok_iff.mp replaced
    have can : CanReplace desk.vault location := placed ▸ canReplace_of_replaced replaced
    exact {
      unread := read_of_reads State.noConfusion reads
      unasked := fun refused => nomatch refused
      asked := asked_of_reads reads rfl rfl [] (by rw [List.map_nil, List.append_nil])
      unfetched := by
        simp only [Result.frozen, report, reduceCtorEq, not_unfetched_of_returned reads found]
      live := fun _ _ live => absurd (live.symm.trans flag) Bool.false_ne_true
      frozen := fun _ _ _ => ⟨fun _ => can, fun _ => ⟨rfl, rfl⟩⟩
      kept := fun _ _ _ => ⟨fun refused => (nomatch refused), fun cannot => absurd can cannot⟩
      untouched := fun unreplaced => nomatch unreplaced
      frame := fun _ => ⟨place, text, markup, placed, holds, rfl, rfl,
        fun path different => Vault.bytesAt?_holding_other different⟩ }
  | kept query entries markup fault after reads found flag written unreplaced =>
    cases returned
    have cannot := not_canReplace_of_unreplaced unreplaced
    exact {
      unread := read_of_reads State.noConfusion reads
      unasked := fun refused => nomatch refused
      asked := asked_of_reads reads rfl rfl [] (by rw [List.map_nil, List.append_nil])
      unfetched := by
        simp only [Result.kept, report, reduceCtorEq, not_unfetched_of_returned reads found]
      live := fun _ _ live => absurd (live.symm.trans flag) Bool.false_ne_true
      frozen := fun _ _ _ => ⟨fun done => (nomatch done.1), fun can => absurd can cannot⟩
      kept := fun _ _ _ => ⟨fun _ => cannot, fun _ => rfl⟩
      untouched := fun _ => by
        rcases unreplaced with ⟨-, same⟩ | ⟨place, placed, failed⟩
        · exact Or.inl same
        · refine (Vault.replaceLines_eq_error failed).2.imp_right ?_
          rintro ⟨stops, replaceable, others⟩
          exact ⟨rfl, stops, place, placed, replaceable, others⟩
      frame := fun replaced => nomatch replaced }

def someDay : Date := ⟨2025, 1, 15, by decide⟩

def noneFound : SessionFetcher := fun _ _ => .done []

/-- A document that is a static block. -/
def smallText : Text := "```harvest\nLIST TODAY --static\n```\n".text

/-- A desk with one document that is a static block. -/
def smallDesk (trouble : Vault.Trouble) : Desk where
  session := .start ⟨[], [], 0⟩ none
  vault :=
    { root := ["vault".text]
      directories := [["vault".text]]
      files := [(["vault".text, "d.md".text], Text.utf8 smallText)]
      trouble }

/-- The block of the small desk's document. -/
def smallPlace : Location := ⟨"d.md".text, 0, 2⟩

/-- The state that an execution ends in, and whether its block was replaced. -/
def endState? (run : Run Desk Result) : Option (State × Bool) :=
  run.value?.map fun result => (result.state, result.replaced)

theorem exists_of_endState? {run : Run Desk Result} {state : State} {replaced : Bool}
    (ends : endState? run = some (state, replaced)) : ∃ result, run.outcome = .returned result ∧
      result.state = state ∧ result.replaced = replaced := by
  obtain ⟨result, returned, same⟩ := Option.map_eq_some_iff.mp ends
  cases same
  exact ⟨result, Run.value?_eq_some_iff.mp returned, rfl, rfl⟩

def smallRun (trouble : Vault.Trouble) : Run Desk Result :=
  executed "LIST TODAY --static".text noneFound (some smallPlace) someDay (smallDesk trouble) []

theorem smallRun_agrees : ∃ result, (smallRun .none).outcome = .returned result ∧
    result.state = .done ∧ result.replaced = true ∧
    Agrees "LIST TODAY --static".text noneFound (some smallPlace) someDay (smallDesk .none) []
      result (smallRun .none) := by
  have ends : endState? (smallRun .none) = some (.done, true) := by decide +kernel
  obtain ⟨result, returned, state, replaced⟩ := exists_of_endState? ends
  exact ⟨result, returned, state, replaced, executed_agrees returned⟩

/-- Where storage refuses to open the document, a block that is there is not replaced. -/
theorem smallRun_refused : ∃ result,
    (smallRun (.refusesWriting "Permission denied".text)).outcome = .returned result ∧
    result.state = .replaceFailed ∧
    (smallDesk (.refusesWriting "Permission denied".text)).vault.Replaceable smallPlace.document
      smallPlace.first smallPlace.last := by
  have ends : endState? (smallRun (.refusesWriting "Permission denied".text)) =
      some (.replaceFailed, false) := by decide +kernel
  obtain ⟨result, returned, state, -⟩ := exists_of_endState? ends
  refine ⟨result, returned, state, smallText, ?_, ?_⟩
  · exact ⟨by decide +kernel, by decide +kernel, by decide +kernel, by decide +kernel⟩
  · exact ⟨by decide +kernel, by decide +kernel, by decide +kernel⟩

end Execution

end TimeReports
