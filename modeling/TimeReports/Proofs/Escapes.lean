import TimeReports.Proofs.DayCounts
import TimeReports.Proofs.Executions

set_option autoImplicit false

namespace TimeReports.Execution

open Program

variable {σ : Type} {source : Text} {fetch : Fetcher σ} {replace : Rewriter σ}
  {location : Option Location} {today : Date} {onLoading : Display.Tree → Program σ Unit}
  {query : Query} {markup : Text} {result : Result}

def IsFetch (fault : Fault) : Prop := ∃ failure, fault = .fetch failure

/-- The faults of a rewriter that an execution expects. -/
def IsDocument (fault : Fault) : Prop := ∃ reason, fault = .document reason

def Result.Shows (result : Result) : Prop := result.display.children ≠ []

theorem shows_failure (state : State) (message : Text) (query : Option Query) :
    (failure state message query).Shows :=
  List.cons_ne_nil _ _

theorem shows_kept (result : Result) (markup : Text) (fault : Vault.DocumentFault) :
    (result.kept markup fault).Shows :=
  List.cons_ne_nil _ _

theorem shows_report (query : Query) (entries : List TimeEntry) : (report query entries).Shows := by
  unfold Result.Shows report
  cases Report.aggregate entries query.kind <;> exact List.cons_ne_nil _ _

/-- Whether a result is a failure that is shown, or a report that can be written as markup. -/
def Result.Presentable (result : Result) : Prop :=
  result.Shows ∧ (result.state = .done → ∃ markup, result.display.markup = .ok markup)

theorem finish_ends
    (replaces : ∀ document first last text,
      (replace document first last text).Ends (fun _ => True) IsDocument)
    (location : Option Location) (source : Text) (presentable : result.Presentable) :
    (finish replace location source result).Ends Result.Shows fun _ => False := by
  by_cases finished : result.state = .done
  · cases flag : Query.isStatic source with
    | false =>
      rw [finish_of_live flag]
      exact ends_done _ presentable.1
    | true =>
      rw [finish_of_static flag finished]
      obtain ⟨markup, written⟩ := presentable.2 finished
      cases location with
      | none =>
        rw [freezeInto_none_eq written]
        exact ends_done _ (shows_kept _ _ _)
      | some location =>
        rw [freezeInto_some_eq written]
        refine Ends.attempt_bind (replaces _ _ _ _) (fun _ _ => ?_) ?_
        · exact ends_done _ presentable.1
        · rintro _ ⟨reason, rfl⟩
          exact ends_done _ (shows_kept _ _ _)
  · rw [finish_of_undone finished]
    exact ends_done _ presentable.1

theorem counted_of_parse (source : Text) (today : Date)
    (counted : ∀ fault, Query.parse source today ≠ .error (.days fault)) :
    ¬ Query.OutsideCalendar today (Query.tokenize source) := by
  intro outside
  obtain ⟨fault, uncounted⟩ := Query.uncounted_parse_iff.mpr outside
  exact counted fault uncounted

section

variable [Console]

/-- With a fetcher that fails as expected the report of a query can be presented, unless a failed
fetch goes unreported. -/
theorem fetchReport_ends
    (fetches : ∀ first last, (fetch first last).Ends (fun _ => True) IsFetch) (query : Query)
    (state : σ) (replies : List Harvest.Reply) :
    (∃ result, result.Presentable ∧
        ((fetchReport fetch query).run state replies).outcome = .returned result ∧
        ∀ found, ¬ Unreported fetch query state replies found) ∨
      ∃ found, Unreported fetch query state replies found ∧
        ((fetchReport fetch query).run state replies).outcome = .failed (.console found) := by
  rcases fetches query.range.first query.range.last state replies with
    ⟨entries, -, returned⟩ | ⟨_, ⟨failure, rfl⟩, failed⟩
  · refine Or.inl ⟨report query entries, ⟨shows_report query entries, fun _ =>
      markup_report query entries⟩, by rw [run_fetchReport_of_returned returned], ?_⟩
    rintro found ⟨failure, failed, -⟩
    exact nomatch returned.symm.trans failed
  · cases refused : Console.refusal? (fetchFailedLine query failure) with
    | none =>
      have undone : (unfetched query).state ≠ .done := (by decide : State.fetchFailed ≠ .done)
      refine Or.inl ⟨unfetched query, ⟨shows_failure _ _ _, fun finished =>
        absurd finished undone⟩, by rw [run_fetchReport_of_failed failed refused], ?_⟩
      rintro found ⟨other, failed', refused'⟩
      cases failed.symm.trans failed'
      exact nomatch refused.symm.trans refused'
    | some found =>
      exact Or.inr ⟨found, ⟨failure, failed, refused⟩,
        by rw [run_fetchReport_of_refusal failed refused]⟩

theorem evaluate_ends_of_parsed
    (fetches : ∀ first last, (fetch first last).Ends (fun _ => True) IsFetch)
    (replaces : ∀ document first last text,
      (replace document first last text).Ends (fun _ => True) IsDocument)
    (parsed : Query.parse (Query.withoutFlag source) today = .ok query) {state : σ}
    {replies : List Harvest.Reply} {loading : Run σ Unit}
    (loads : (onLoading loadingDisplay).run state replies = loading)
    (loaded : loading.outcome = .returned ()) {outcome : Outcome Result}
    (ends : ((evaluate source fetch replace location today onLoading).run state replies).outcome =
      outcome) :
    (∃ result, result.Shows ∧ outcome = .returned result ∧
        ∀ found, ¬ Unreported fetch query loading.state loading.unused found) ∨
      ∃ found, Unreported fetch query loading.state loading.unused found ∧
        outcome = .failed (.console found) := by
  rw [evaluate_of_parsed parsed, run_bind, loads, Run.andThen_of_returned _ loaded, run_bind,
    Run.outcome_behind] at ends
  rcases fetchReport_ends fetches query loading.state loading.unused with
    ⟨result, presentable, returned, reported⟩ | ⟨found, unreported, failed⟩
  · rw [Run.andThen_of_returned _ returned, Run.outcome_behind] at ends
    have finished := finish_ends replaces location source presentable
      ((fetchReport fetch query).run loading.state loading.unused).state
      ((fetchReport fetch query).run loading.state loading.unused).unused
    obtain ⟨ending, shows, returned⟩ | ⟨fault, impossible, -⟩ := finished
    · exact Or.inl ⟨ending, shows, ends.symm.trans returned, reported⟩
    · exact impossible.elim
  · rw [Run.andThen_of_failed _ failed] at ends
    exact Or.inr ⟨found, unreported, ends.symm⟩

/-- An execution with a fetcher and a rewriter that fail as expected shows a result, unless the days
of its query cannot be counted or the console refuses the line about a failed fetch; in either case
the execution fails. The days of a query cannot be counted exactly where reading it ends in anything
but a query or the message about a malformed one. -/
theorem evaluate_shows_iff
    (fetches : ∀ first last, (fetch first last).Ends (fun _ => True) IsFetch)
    (replaces : ∀ document first last text,
      (replace document first last text).Ends (fun _ => True) IsDocument)
    (loads : ∀ tree, (onLoading tree).Ends (fun _ => True) fun _ => False) :
    (∀ source today, (∃ fault, Query.parse source today = .error (.days fault)) ↔
      Query.OutsideCalendar today (Query.tokenize source)) ∧
    ∀ source location today state replies,
      let loading := (onLoading loadingDisplay).run state replies
      let outcome :=
        ((evaluate source fetch replace location today onLoading).run state replies).outcome
      ((∃ result, result.Shows ∧ outcome = .returned result) ↔
        ¬ Query.OutsideCalendar today (Query.tokenize (Query.withoutFlag source)) ∧
        ∀ query found, Query.parse (Query.withoutFlag source) today = .ok query →
          ¬ Unreported fetch query loading.state loading.unused found) ∧
      (Query.OutsideCalendar today (Query.tokenize (Query.withoutFlag source)) →
        ∃ fault, outcome = .failed (.days fault)) ∧
      ∀ query found, Query.parse (Query.withoutFlag source) today = .ok query →
        Unreported fetch query loading.state loading.unused found →
          outcome = .failed (.console found) := by
  refine ⟨fun source today => Query.uncounted_parse_iff, ?_⟩
  intro source location today state replies loading outcome
  cases parsed : Query.parse (Query.withoutFlag source) today with
  | ok query =>
    have counted := counted_of_parse (Query.withoutFlag source) today (by simp [parsed])
    obtain ⟨⟨⟩, -, loaded⟩ | ⟨fault, impossible, -⟩ := loads loadingDisplay state replies
    case inr => exact impossible.elim
    rcases evaluate_ends_of_parsed fetches replaces parsed rfl loaded (rfl : _ = outcome) with
      ⟨result, shows, returned, reported⟩ | ⟨found, unreported, failed⟩
    · refine ⟨iff_of_true ⟨result, shows, returned⟩ ⟨counted, ?_⟩,
        fun outside => absurd outside counted, ?_⟩
      · rintro _ found ⟨⟩
        exact reported found
      · rintro _ found ⟨⟩ unreported
        exact absurd unreported (reported found)
    · refine ⟨iff_of_false ?_ fun conditions => conditions.2 query found rfl unreported,
        fun outside => absurd outside counted, ?_⟩
      · rintro ⟨result, -, returned⟩
        cases failed.symm.trans returned
      · rintro _ other ⟨⟩ unreported'
        rw [failed, unreported.unique unreported']
  | error fault =>
    cases fault with
    | malformed fault =>
      have counted := counted_of_parse (Query.withoutFlag source) today (by simp [parsed])
      have shown : outcome =
          .returned (failure .parseFailed (parseFailedMessage fault) none) := by
        simp only [outcome, evaluate_of_malformed parsed, run]
      refine ⟨iff_of_true ⟨_, shows_failure _ _ _, shown⟩ ⟨counted, ?_⟩,
        fun outside => absurd outside counted, ?_⟩
      · rintro query found ⟨⟩
      · rintro query found ⟨⟩
    | days fault =>
      have failed : outcome = .failed (.days fault) := by
        simp only [outcome, evaluate_of_days parsed, run]
      have outside := Query.uncounted_parse_iff.mp ⟨fault, parsed⟩
      refine ⟨iff_of_false ?_ fun conditions => conditions.1 outside,
        fun _ => ⟨fault, failed⟩, ?_⟩
      · rintro ⟨result, -, returned⟩
        cases failed.symm.trans returned
      · rintro query found ⟨⟩

end

def noEntries : Fetcher Unit := fun _ _ => done []

def noRewriting : Rewriter Unit := fun _ _ _ _ => done ()

/-- Three days can be counted, and the fetcher does not fail. -/
theorem evaluate_three_days_shows :
    (∀ first last, (noEntries first last).Ends (fun _ => True) IsFetch) ∧
    (∀ document first last text,
      (noRewriting document first last text).Ends (fun _ => True) IsDocument) ∧
    ∃ result, result.Shows ∧
      ((evaluate "LIST PAST 3 DAYS".text noEntries noRewriting none ⟨2025, 1, 15, by decide⟩
        fun _ => done ()).run () []).outcome = .returned result := by
  have fetches (first last : Date) : (noEntries first last).Ends (fun _ => True) IsFetch :=
    ends_done _ trivial
  have replaces (document : Text) (first last : Int) (text : Text) :
      (noRewriting document first last text).Ends (fun _ => True) IsDocument :=
    ends_done _ trivial
  refine ⟨fetches, replaces, ?_⟩
  have always := evaluate_shows_iff fetches replaces
    (show ∀ tree : Display.Tree, (done () : Program Unit Unit).Ends (fun _ => True) fun _ => False
      from fun _ => ends_done _ trivial)
  refine (always.2 _ _ _ _ _).1.mpr ⟨fun outside => ?_, ?_⟩
  · obtain ⟨fault, refused⟩ := (always.1 _ _).mpr outside
    cases refused
  · rintro query found - ⟨failure, failed, -⟩
    cases failed

/-- Faults of counting days are no faults of the query's form, and reach the host. -/
theorem evaluate_many_days_escapes :
    ((evaluate "LIST PAST 99999999999 DAYS".text noEntries noRewriting none
      ⟨2025, 1, 15, by decide⟩ fun _ => done ()).run () []).outcome =
      .failed (.days .countTooLarge) := by
  rfl

end TimeReports.Execution
