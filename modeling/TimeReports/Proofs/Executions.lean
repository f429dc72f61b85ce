import TimeReports.Execution.Basic
import TimeReports.Proofs.Runs

set_option autoImplicit false

namespace TimeReports

namespace Display

variable {nodes : List Node}

/-- Whether a node is of a kind that can be written. -/
def Node.Known (node : Node) : Prop := ∃ lines, markupNode node = .ok lines

theorem exists_markupNodes (known : ∀ node ∈ nodes, node.Known) :
    ∃ lines, markupNodes nodes = .ok lines := by
  induction nodes with
  | nil => exact ⟨[], rfl⟩
  | cons node rest ih =>
    obtain ⟨lines, written⟩ := known node List.mem_cons_self
    obtain ⟨others, behind⟩ := ih fun other member => known other (List.mem_cons_of_mem _ member)
    exact ⟨lines ++ others, by simp only [markupNodes, written, behind]; rfl⟩

/-- Every report can be written as markup. -/
theorem exists_markup_render (view : Report.View) :
    ∃ markup, (render view).markup = .ok markup := by
  have known : ∀ node ∈ (render view).children, node.Known := by
    intro node member
    cases view with
    | noEntries =>
      rw [render, Tree.message, List.mem_singleton] at member
      exact member ▸ ⟨_, rfl⟩
    | list rows =>
      rw [render, ofRows, List.mem_singleton] at member
      exact member ▸ ⟨_, rfl⟩
    | summary summary =>
      simp only [render, ofSummary, List.mem_cons, List.not_mem_nil, or_false] at member
      rcases member with rfl | rfl | rfl | rfl <;> exact ⟨_, rfl⟩
  obtain ⟨lines, written⟩ := exists_markupNodes known
  exact ⟨Text.join ['\n'] (("<div class=\"".text ++ Text.escape (render view).style ++ "\">".text)
    :: lines ++ ["</div>".text]), by simp only [Tree.markup, written]; rfl⟩

end Display

namespace Execution

open Program

variable {σ : Type} {source : Text} {fetch : Fetcher σ} {replace : Rewriter σ}
  {location : Option Location} {today : Date} {onLoading : Display.Tree → Program σ Unit}
  {query : Query} {state : σ} {replies : List Harvest.Reply} {markup : Text} {result : Result}

/-- The result of an execution whose block was replaced. -/
def Result.frozen (result : Result) (markup : Text) : Result :=
  { result with markup := some markup, replaced := true }

/-- The result of an execution whose block could not be replaced. -/
def Result.kept (result : Result) (markup : Text) (fault : Vault.DocumentFault) : Result :=
  { result with
    markup := some markup
    state := .replaceFailed
    display := .message (replaceFailedMessage fault) "harvest-error" }

theorem markup_report (query : Query) (entries : List TimeEntry) :
    ∃ markup, (report query entries).display.markup = .ok markup :=
  Display.exists_markup_render _

def rewritten (replace : Rewriter σ) (location : Location) (source markup : Text) (state : σ)
    (replies : List Harvest.Reply) : Run σ Unit :=
  (replace location.document location.first location.last
    (Document.frozenBlock source markup)).run state replies

/-- What an execution makes of what its rewriter ended with. -/
def conclude (result : Result) (markup : Text) : Except Fault Unit → Program σ Result
  | .ok () => done (result.frozen markup)
  | .error (.document fault) => done (result.kept markup fault)
  | .error fault => fail fault

theorem freezeInto_none_eq (written : result.display.markup = .ok markup) :
    freezeInto replace none source result = done (result.kept markup .unknownLocation) := by
  simp only [freezeInto, written]
  rfl

theorem freezeInto_some_eq {location : Location} (written : result.display.markup = .ok markup) :
    freezeInto replace (some location) source result =
      (replace location.document location.first location.last
        (Document.frozenBlock source markup)).attempt.bind (conclude result markup) := by
  simp only [freezeInto, written]
  rfl

theorem run_freezeInto_some {location : Location} (written : result.display.markup = .ok markup) :
    (freezeInto replace (some location) source result).run state replies =
      (rewritten replace location source markup state replies).attempted.andThen
        (conclude result markup) := by
  rw [freezeInto_some_eq written, run_bind, run_attempt]
  rfl

/-- What an execution does with a result before it ends. -/
def finish (replace : Rewriter σ) (location : Option Location) (source : Text)
    (result : Result) : Program σ Result :=
  if Query.isStatic source && result.state == .done then
    freezeInto replace location (Query.withoutFlag source) result
  else done result

theorem finish_of_live (live : Query.isStatic source = false) (result : Result) :
    finish replace location source result = done result := by
  simp only [finish, live, Bool.false_and, Bool.false_eq_true, ↓reduceIte]

theorem finish_of_undone (undone : result.state ≠ .done) :
    finish replace location source result = done result := by
  simp only [finish, beq_eq_false_iff_ne.mpr undone, Bool.and_false, Bool.false_eq_true, ↓reduceIte]

theorem finish_of_static (isStatic : Query.isStatic source = true)
    (finished : result.state = .done) :
    finish replace location source result =
      freezeInto replace location (Query.withoutFlag source) result := by
  simp only [finish, isStatic, finished, BEq.rfl, Bool.and_self, ↓reduceIte]

variable [Console]

def fetchFailedLine (query : Query) (failure : ApiFailure) : Text :=
  "  Fetch failed for ".text ++ query.range.first.iso ++ "..".text ++ query.range.last.iso
    ++ ": ".text ++ failure.message

/-- The result of an execution whose entries could not be fetched. -/
def unfetched (query : Query) : Result := failure .fetchFailed fetchFailedMessage (some query)

/-- What an execution makes of what its fetcher ended with. -/
def settle (query : Query) : Except Fault (List TimeEntry) → Program σ Result
  | .ok entries => done (report query entries)
  | .error (.fetch failure) => (say (fetchFailedLine query failure)).bind fun _ =>
      done (unfetched query)
  | .error fault => fail fault

def fetched (fetch : Fetcher σ) (query : Query) (state : σ) (replies : List Harvest.Reply) :
    Run σ (List TimeEntry) :=
  (fetch query.range.first query.range.last).run state replies

theorem fetchReport_eq (fetch : Fetcher σ) (query : Query) :
    fetchReport fetch query = tell (.fetching query.range)
      ((fetch query.range.first query.range.last).attempt.bind (settle query)) := by
  unfold fetchReport
  simp only [bind_eq, pure_eq, Program.bind]
  rfl

theorem run_fetchReport (fetch : Fetcher σ) (query : Query) (state : σ)
    (replies : List Harvest.Reply) : (fetchReport fetch query).run state replies =
      ((fetched fetch query state replies).attempted.andThen (settle query)).after
        (.noticed (.fetching query.range)) := by
  rw [fetchReport_eq, run, run_bind, run_attempt]
  rfl

theorem run_fetchReport_of_returned {entries : List TimeEntry}
    (returned : (fetched fetch query state replies).outcome = .returned entries) :
    (fetchReport fetch query).run state replies =
      ⟨.returned (report query entries), (fetched fetch query state replies).state,
        (fetched fetch query state replies).unused,
        .noticed (.fetching query.range) :: (fetched fetch query state replies).events⟩ := by
  rw [run_fetchReport, Run.attempted_of_returned returned, Run.andThen_of_returned _ rfl]
  simp only [settle, run, Run.behind, Run.after, List.append_nil]

theorem run_fetchReport_of_failed {failure : ApiFailure}
    (failed : (fetched fetch query state replies).outcome = .failed (.fetch failure))
    (takes : Console.Takes (fetchFailedLine query failure)) :
    (fetchReport fetch query).run state replies =
      ⟨.returned (unfetched query), (fetched fetch query state replies).state,
        (fetched fetch query state replies).unused,
        .noticed (.fetching query.range) :: ((fetched fetch query state replies).events
          ++ [.noticed (.line (fetchFailedLine query failure))])⟩ := by
  rw [run_fetchReport, Run.attempted_of_failed failed, Run.andThen_of_returned _ rfl, settle,
    say_of_takes takes]
  rfl

/-- A failed fetch that cannot be reported stops the execution. -/
theorem run_fetchReport_of_refusal {failure : ApiFailure} {found : Text.Unencodable}
    (failed : (fetched fetch query state replies).outcome = .failed (.fetch failure))
    (refused : Console.refusal? (fetchFailedLine query failure) = some found) :
    (fetchReport fetch query).run state replies =
      ⟨.failed (.console found), (fetched fetch query state replies).state,
        (fetched fetch query state replies).unused,
        .noticed (.fetching query.range) :: (fetched fetch query state replies).events⟩ := by
  rw [run_fetchReport, Run.attempted_of_failed failed, Run.andThen_of_returned _ rfl, settle,
    say_of_refusal refused]
  simp only [Program.bind, run, Run.behind, Run.after, List.append_nil]

/-- Whether the entries of a query cannot be fetched, and the console refuses the line that says
so. -/
def Unreported (fetch : Fetcher σ) (query : Query) (state : σ) (replies : List Harvest.Reply)
    (found : Text.Unencodable) : Prop :=
  ∃ failure, (fetched fetch query state replies).outcome = .failed (.fetch failure) ∧
    Console.refusal? (fetchFailedLine query failure) = some found

theorem Unreported.unique {found other : Text.Unencodable}
    (unreported : Unreported fetch query state replies found)
    (unreported' : Unreported fetch query state replies other) : found = other := by
  obtain ⟨failure, failed, refused⟩ := unreported
  obtain ⟨failure', failed', refused'⟩ := unreported'
  cases failed.symm.trans failed'
  exact Option.some.inj (refused.symm.trans refused')

/-- A report is there when the entries were fetched, and a failure is shown when the service is what
failed. -/
theorem fetchReport_returned
    (returned : ((fetchReport fetch query).run state replies).outcome = .returned result) :
    (∃ entries, (fetched fetch query state replies).outcome = .returned entries ∧
        result = report query entries) ∨
      ∃ failure, (fetched fetch query state replies).outcome = .failed (.fetch failure) ∧
        Console.Takes (fetchFailedLine query failure) ∧ result = unfetched query := by
  rw [run_fetchReport, Run.outcome_after] at returned
  obtain ⟨ending, first, next⟩ := Run.andThen_returned returned
  cases outcome : (fetched fetch query state replies).outcome with
  | returned entries =>
    rw [Run.attempted_of_returned outcome] at first next
    cases first
    cases next
    exact Or.inl ⟨entries, rfl, rfl⟩
  | spent =>
    simp only [Run.attempted, outcome] at first
    cases first
  | failed fault =>
    rw [Run.attempted_of_failed outcome] at first next
    cases first
    cases fault with
    | fetch failure =>
      rw [settle] at next
      cases refused : Console.refusal? (fetchFailedLine query failure) with
      | none =>
        rw [say_of_takes refused] at next
        cases next
        exact Or.inr ⟨failure, rfl, refused, rfl⟩
      | some found =>
        rw [say_of_refusal refused] at next
        cases next
    | _ => cases next

theorem evaluate_of_malformed {fault : QueryFault}
    (malformed : Query.parse (Query.withoutFlag source) today = .error (.malformed fault)) :
    evaluate source fetch replace location today onLoading =
      done (failure .parseFailed (parseFailedMessage fault) none) := by
  simp only [evaluate, malformed, pure_eq]

theorem evaluate_of_days {fault : Calendar.DayFault}
    (outside : Query.parse (Query.withoutFlag source) today = .error (.days fault)) :
    evaluate source fetch replace location today onLoading = fail (.days fault) := by
  simp only [evaluate, outside]

theorem evaluate_of_parsed
    (parsed : Query.parse (Query.withoutFlag source) today = .ok query) :
    evaluate source fetch replace location today onLoading =
      (onLoading loadingDisplay).bind fun _ =>
        (fetchReport fetch query).bind (finish replace location source) := by
  simp only [evaluate, parsed]
  rfl

end Execution
end TimeReports
