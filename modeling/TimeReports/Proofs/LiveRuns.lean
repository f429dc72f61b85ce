import TimeReports.Proofs.Outcomes
import TimeReports.Proofs.StaticFlag

set_option autoImplicit false

namespace TimeReports

namespace Program

variable {σ α β γ : Type}

/-- Programs that follow one another may be put together in either order. -/
theorem bind_bind (program : Program σ α) (next : α → Program σ β) (last : β → Program σ γ) :
    (program.bind next).bind last = program.bind fun value => (next value).bind last := by
  induction program with
  | done value => rfl
  | fail fault => rfl
  | spent => rfl
  | look program ih => exact congrArg look (funext ih)
  | put state program ih => exact congrArg (put state) ih
  | tell notice program ih => exact congrArg (tell notice) ih
  | ask request program ih => exact congrArg (ask request) (funext ih)

end Program

namespace Execution

open Program

variable {σ : Type} {source : Text} {fetch : Fetcher σ} {replace replaceLive : Rewriter σ}
  {location liveLocation : Option Location} {today : Date}
  {onLoading : Display.Tree → Program σ Unit} {state : σ} {replies : List Harvest.Reply}
  {shown result : Result} {markup : Text}

/-- An execution is that of what its block says without the flag, with the replacement behind it. -/
theorem evaluate_eq_live [Console] (source : Text) (replaceLive : Rewriter σ)
    (liveLocation : Option Location) :
    evaluate source fetch replace location today onLoading =
      (evaluate (Query.withoutFlag source) fetch replaceLive liveLocation today onLoading).bind
        (finish replace location source) := by
  have live := Query.isStatic_withoutFlag source
  have same : Query.withoutFlag (Query.withoutFlag source) = Query.withoutFlag source := by
    rw [Query.withoutFlag, live, if_neg Bool.false_ne_true]
  cases parsed : Query.parse (Query.withoutFlag source) today with
  | error fault =>
    cases fault with
    | malformed fault =>
      rw [evaluate_of_malformed parsed, evaluate_of_malformed (same.symm ▸ parsed), Program.bind,
        finish_of_undone State.noConfusion]
    | days fault =>
      rw [evaluate_of_days parsed, evaluate_of_days (same.symm ▸ parsed), Program.bind]
  | ok query =>
    have passes : finish replaceLive liveLocation (Query.withoutFlag source) = done :=
      funext (finish_of_live live)
    rw [evaluate_of_parsed parsed, evaluate_of_parsed (same.symm ▸ parsed), bind_bind, passes]
    simp only [bind_bind, Program.bind]

/-- What a live execution that is done shows can be written as markup. -/
theorem exists_markup_of_done [Console] (live : Query.isStatic source = false)
    (returned : ((evaluate source fetch replace location today onLoading).run state
      replies).outcome = .returned shown) (finished : shown.state = .done) :
    ∃ markup, shown.display.markup = .ok markup := by
  cases parsed : Query.parse (Query.withoutFlag source) today with
  | error fault =>
    cases fault with
    | malformed fault =>
      rw [evaluate_of_malformed parsed] at returned
      cases returned
      cases finished
    | days fault =>
      rw [evaluate_of_days parsed] at returned
      cases returned
  | ok query =>
    rw [evaluate_of_parsed parsed, run_bind] at returned
    obtain ⟨-, -, behind⟩ := Run.andThen_returned returned
    rw [run_bind] at behind
    obtain ⟨first, fetches, last⟩ := Run.andThen_returned behind
    rw [finish_of_live live] at last
    cases last
    rcases fetchReport_returned fetches with ⟨entries, -, rfl⟩ | ⟨failure, -, -, rfl⟩
    · exact markup_report query entries
    · cases finished

/-- What becomes of the replacement of a block, when the live run is done. -/
theorem run_finish_of_static {place : Location} (flag : Query.isStatic source = true)
    (finished : shown.state = .done) (written : shown.display.markup = .ok markup) :
    (finish replace (some place) source shown).run state replies =
      (rewritten replace place (Query.withoutFlag source) markup state replies).attempted.andThen
        (conclude shown markup) := by
  rw [finish_of_static flag finished, run_freezeInto_some written]

theorem rewritten_of_done {writing : Run σ Unit} (finished : result.state = .done)
    (returned : (writing.attempted.andThen (conclude shown markup)).outcome = .returned result) :
    writing.outcome = .returned () := by
  cases outcome : writing.outcome with
  | returned value => rfl
  | spent =>
    simp only [Run.attempted, Run.andThen, outcome] at returned
    cases returned
  | failed fault =>
    rw [Run.attempted_of_failed outcome, Run.andThen_of_returned _ rfl, Run.outcome_behind]
      at returned
    cases fault with
    | document fault =>
      cases returned
      cases finished
    | _ => cases returned

/-- Freezing shows what live evaluation shows. Unless the execution of what a static block says
without its flag is done, that of the block itself is the same run. If it is done, the text that
replaces the block is made of what the block says and of what the live execution shows; and exactly
if that text takes the block's place, the block's execution is done as well, has asked for the same
and shows the same, and nothing but the replacement is behind it. -/
theorem frozen_shows_live [Console] (source : Text) (flag : Query.isStatic source = true)
    (fetch : Fetcher σ) (replace replaceLive : Rewriter σ)
    (location liveLocation : Option Location) (today : Date)
    (onLoading : Display.Tree → Program σ Unit) (state : σ) (replies : List Harvest.Reply) :
    let text := Query.withoutFlag source
    let live := (evaluate text fetch replaceLive liveLocation today onLoading).run state replies
    let frozen := (evaluate source fetch replace location today onLoading).run state replies
    ((∀ shown, live.outcome = .returned shown → shown.state ≠ .done) → frozen = live) ∧
    ∀ shown, live.outcome = .returned shown → shown.state = .done →
      ∃ markup, shown.display.markup = .ok markup ∧ ∀ place, location = some place →
        let writing := (replace place.document place.first place.last
          (Document.frozenBlock text markup)).run live.state live.unused
        (writing.outcome = .returned () → frozen =
          ⟨.returned { shown with markup := some markup, replaced := true }, writing.state,
            writing.unused, live.events ++ writing.events⟩) ∧
        ∀ result, frozen.outcome = .returned result → result.state = .done →
          writing.outcome = .returned () := by
  intro text live frozen
  have followed : frozen = live.andThen (finish replace location source) := by
    change (evaluate source fetch replace location today onLoading).run state replies = _
    rw [evaluate_eq_live source replaceLive liveLocation, run_bind]
  refine ⟨fun undone => ?_, fun shown returned finished => ?_⟩
  · rw [followed]
    cases outcome : live.outcome with
    | returned shown =>
      rw [Run.andThen_of_returned _ outcome, finish_of_undone (undone shown outcome)]
      simp only [run, Run.behind, List.append_nil, ← outcome]
    | failed fault => rw [Run.andThen_of_failed _ outcome, ← outcome]
    | spent =>
      simp only [Run.andThen, outcome]
      rw [← outcome]
  · obtain ⟨markup, written⟩ :=
      exists_markup_of_done (Query.isStatic_withoutFlag source) returned finished
    refine ⟨markup, written, ?_⟩
    rintro place rfl writing
    rw [followed, Run.andThen_of_returned _ returned, run_finish_of_static flag finished written]
    refine ⟨fun replaced => ?_, fun result ended done => ?_⟩
    · change (writing.attempted.andThen _).behind _ = _
      rw [Run.attempted_of_returned replaced, Run.andThen_of_returned _ rfl]
      simp only [conclude, run, Run.behind, List.append_nil]
      rfl
    · exact rewritten_of_done done ended

/-- The small desk's block is replaced by what it shows without its flag. -/
theorem smallRun_shows_live :
    let live := executed "LIST TODAY".text noneFound none someDay (smallDesk .none) []
    ∃ shown markup, live.outcome = .returned shown ∧ shown.state = .done ∧
      shown.display.markup = .ok markup ∧
      (smallRun .none).outcome =
        .returned { shown with markup := some markup, replaced := true } := by
  intro live
  have liveEnds : endState? live = some (.done, false) := by decide +kernel
  have frozenEnds : endState? (smallRun .none) = some (.done, true) := by decide +kernel
  obtain ⟨shown, returned, finished, -⟩ := exists_of_endState? liveEnds
  obtain ⟨result, ended, done, -⟩ := exists_of_endState? frozenEnds
  have without : Query.withoutFlag "LIST TODAY --static".text = "LIST TODAY".text := by
    decide +kernel
  obtain ⟨markup, written, placed⟩ := (frozen_shows_live "LIST TODAY --static".text
    (by decide +kernel) (ofSession noneFound) Desk.replaceLines Desk.replaceLines (some smallPlace)
    none someDay (fun _ => return ()) (smallDesk .none) []).2 shown (without ▸ returned) finished
  have replaced := (placed smallPlace rfl).2 result ended done
  exact ⟨shown, markup, returned, finished, written,
    congrArg Run.outcome ((placed smallPlace rfl).1 replaced)⟩

end Execution
end TimeReports
