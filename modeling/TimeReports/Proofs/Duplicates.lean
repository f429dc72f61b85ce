import TimeReports.Proofs.Following
import TimeReports.Proofs.Ledger
import TimeReports.Proofs.Outcomes

set_option autoImplicit false

namespace TimeReports

namespace Session

open Harvest Program

section Calls

variable [Console] {past : List Exchange} {session : Session}

/-- Exchanges in which every creation of an entry stands right behind a listing of its day, made for
a user who is known, in which there is none for its project and task. -/
inductive Guarded (known : Option Int) : List Exchange → Prop
  | start : Guarded known []
  | other {past : List Exchange} {exchange : Exchange} (guarded : Guarded known past)
    (method : exchange.request.method ≠ "POST".text) : Guarded known (past ++ [exchange])
  | creation {past listing : List Exchange} {user project task : Int} {day : Date} {budget : Nat}
    {entries : List TimeEntry} {reply : Reply} (guarded : Guarded known (past ++ listing))
    (knownOf : KnownOf known past user)
    (gives : (Source.range day day user).Gives budget 1 listing (.returned entries))
    (absent : entryFor? project task entries = none) :
    Guarded known (past ++ listing ++ [⟨Client.creating project task day, reply⟩])

section Guarded

variable {known : Option Int} {exchanges : List Exchange}

theorem Guarded.append (guarded : Guarded known past) (none : CreatesNone exchanges) :
    Guarded known (past ++ exchanges) := by
  induction exchanges generalizing past with
  | nil =>
    rw [List.append_nil]
    exact guarded
  | cons exchange exchanges ih =>
    rw [List.append_cons]
    apply ih (guarded.other (none exchange List.mem_cons_self))
    intro other member
    exact none other (List.mem_cons_of_mem _ member)

theorem Guarded.of_prefix (guarded : Guarded known exchanges) (front : past <+: exchanges) :
    Guarded known past := by
  induction guarded with
  | start =>
    rw [List.prefix_nil.mp front]
    exact .start
  | other guarded method ih =>
    rcases List.prefix_concat_iff.mp front with rfl | earlier
    · exact .other guarded method
    · exact ih earlier
  | creation guarded knownOf gives absent ih =>
    rcases List.prefix_concat_iff.mp front with rfl | earlier
    · exact .creation guarded knownOf gives absent
    · exact ih earlier

/-- A user known after exchanges is known of all the exchanges so far. -/
theorem KnownOf.behind {user : Int} (before : ∀ id, session.user = some id → KnownOf known past id)
    (knownOf : KnownOf session.user exchanges user) : KnownOf known (past ++ exchanges) user := by
  rcases knownOf with same | ⟨reply, member, found⟩
  · exact (before user same).append
  · exact Or.inr ⟨reply, List.mem_append_right _ member, found⟩

theorem Guarded.started {project task : Int} {today : Date} {changed : List Request}
    (guarded : Guarded known past) (before : ∀ id, session.user = some id → KnownOf known past id)
    (started : Started session project task today exchanges changed) :
    Guarded known (past ++ exchanges) := by
  cases started with
  | created resolved gives absent reads =>
    rename_i lookup listing behind user entries reply
    have lookedUp := guarded.append
      (createsNone_of_onlyReads (onlyReads_of_lookup resolved.asked))
    have listed := lookedUp.append (createsNone_of_onlyReads gives.onlyReads)
    have made : Guarded known (past ++ lookup ++ listing ++
        [⟨Client.creating project task today, reply⟩]) :=
      listed.creation (resolved.knownOf.behind before) gives absent
    have whole := made.append (createsNone_of_onlyReads reads)
    simp only [List.append_assoc, List.singleton_append] at whole
    exact whole
  | restarted resolved gives found reads =>
    rename_i lookup listing behind user entries entry reply
    have restart : CreatesNone (⟨Client.changing entry.id "restart", reply⟩ :: behind) := by
      intro exchange member
      rcases List.mem_cons.mp member with rfl | among
      · change "PATCH".text ≠ "POST".text
        decide
      · exact createsNone_of_onlyReads reads exchange among
    have listed := (createsNone_of_onlyReads gives.onlyReads).append restart
    have lookedUp := createsNone_of_onlyReads (onlyReads_of_lookup resolved.asked)
    exact guarded.append (lookedUp.append listed)
  | unlisted resolved gives breaks =>
    have listed := createsNone_of_onlyReads gives.onlyReads
    have lookedUp := createsNone_of_onlyReads (onlyReads_of_lookup resolved.asked)
    exact guarded.append (lookedUp.append listed)
  | unasked asked => exact guarded.append (createsNone_of_onlyReads (onlyReads_of_lookup asked))

end Guarded

inductive TimerCall where
  | start (project task : Int) (today : Date)
  | stop
  | toggle

def TimerCall.operation : TimerCall → Operation
  | start project task today => .startTimer project task today
  | stop => .stopTimer
  | toggle => .toggleTimer

/-- What holds between calls: no entry was created without a look at those of its day, and the user
that the session holds is known. -/
structure Careful (known : Option Int) (past : List Exchange) (session : Session) : Prop where
  guarded : Guarded known past
  knownOf : ∀ id, session.user = some id → KnownOf known past id

theorem Careful.append {known : Option Int} {exchanges : List Exchange} {timer : Option TimeEntry}
    (careful : Careful known past session) (none : CreatesNone exchanges) :
    Careful known (past ++ exchanges) { session with runningTimer := timer } where
  guarded := careful.guarded.append none
  knownOf id same := (careful.knownOf id same).append

theorem keeps_careful (known : Option Int) (call : TimerCall) :
    call.operation.program.Keeps (fun _ _ => True) (Careful known) := by
  cases call with
  | start project task today =>
    apply Keeps.bind
    · intro past session careful
      apply assures_startTimer
      intro exchanges changed outcome user timer started knownOf
      exact ⟨careful.guarded.started careful.knownOf started,
        fun id same => (knownOf id same).behind careful.knownOf⟩
    · intro entry
      exact keeps_done
  | stop =>
    apply Keeps.bind
    · intro past session careful
      apply assures_stopTimer
      · intro idle
        exact careful
      · intro exchanges outcome timer none _
        exact careful.append none
    · intro entry
      exact keeps_done
  | toggle =>
    apply Keeps.bind
    · intro past session careful
      apply assures_toggleTimer
      · intro exchanges running session' refreshed _
        obtain ⟨timer, rfl⟩ := refreshed.exists_timer
        exact careful.append (createsNone_of_onlyReads refreshed.onlyReads)
      · intro exchanges outcome timer none _
        exact careful.append none
    · intro entry
      exact keeps_done

/-- What calls come to, one after another. -/
def called (calls : List TimerCall) : SessionProgram Unit :=
  performed (calls.map TimerCall.operation)

theorem keeps_called (known : Option Int) (calls : List TimerCall) :
    (called calls).Keeps (fun _ _ => True) (Careful known) := by
  induction calls with
  | nil => exact keeps_done
  | cons call later ih =>
    apply Keeps.bind (keeps_careful known call).toEnd
    intro done
    exact ih

/-- A user who is known is the one whose entries a truthful service keeps. -/
theorem KnownOf.eq {known : Option Int} {user id : Int} {first ledger : Ledger}
    (knownOf : KnownOf known past id) (own : ∀ id, known = some id → id = user)
    (reached : Ledger.Reaches user first past ledger) : id = user := by
  rcases knownOf with same | ⟨reply, member, decides⟩
  · exact own id same
  · obtain ⟨ledger, truthful⟩ := reached.truthful_of_mem member rfl
    obtain ⟨found, read, rfl⟩ := exists_user_of_decided decides
    exact truthful.names Client.path_user found read

/-- Exchanges that are guarded make no second entry of one. -/
theorem Guarded.atMostOnce {known : Option Int} {user : Int} {first ledger : Ledger}
    (guarded : Guarded known past) (own : ∀ id, known = some id → id = user)
    (once : first.AtMostOnce) (reached : Ledger.Reaches user first past ledger) :
    ledger.AtMostOnce := by
  induction guarded generalizing ledger with
  | start =>
    rw [reached.eq_start]
    exact once
  | other guarded method ih =>
    obtain ⟨before, earlier, served⟩ := reached.last
    exact served.atMostOnce method (ih earlier)
  | creation guarded knownOf gives absent ih =>
    rename_i past listing id project task day budget entries reply
    obtain ⟨before, listed, served⟩ := reached.last
    obtain ⟨earlier, truthful⟩ := listed.through gives.onlyReads
    obtain rfl := knownOf.eq own earlier
    have free : (project, task, day) ∉ before.slots := by
      apply Ledger.not_mem_slots gives truthful
      intro entry member both
      have other := List.find?_eq_none.mp absent entry member
      simp [both.1, both.2] at other
    rcases served.of_creating with rfl | added
    · exact ih listed
    · exact added.nodup_iff.mpr (List.nodup_cons.mpr ⟨free, ih listed⟩)

/-- However often and in whatever way starts, stops and toggles of the timer fail and are repeated,
with their effects or without them, a service that had at most one entry for each project, task and
day has no more at any time. The start of a timer creates an entry just when the listing of the day
was completed without one, and restarts the first one of a listing that has one; when the listing
breaks off it does neither. -/
theorem atMostOnce_of_calls (session : Session) (user : Int)
    (own : ∀ id, session.user = some id → id = user) (calls : List TimerCall)
    (replies : List Reply) (first : Ledger) (once : first.AtMostOnce) :
    (∀ moment ∈ (called calls).moments session replies, ∀ ledger,
      Ledger.Reaches user first moment.past ledger → ledger.AtMostOnce) ∧
    ∀ (session : Session) (project task : Int) (today : Date) (replies : List Reply),
      Started session project task today
        ((startTimer project task today).run session replies).exchanges
        (changes ((startTimer project task today).run session replies).exchanges) := by
  constructor
  · intro moment happened ledger reached
    have careful : Careful session.user ((called calls).run session replies).exchanges
        ((called calls).run session replies).state := by
      have start : Careful session.user [] session := ⟨.start, fun id same => Or.inl same⟩
      exact (keeps_called session.user calls start).run replies
    have guarded := careful.guarded.of_prefix (prefix_of_mem_moments happened)
    exact guarded.atMostOnce own once reached
  · intro session project task today replies
    have started : ∃ changed, Started session project task today
        ((startTimer project task today).run session replies).exchanges changed := by
      have assured : (startTimer project task today).Assures (fun _ _ => True)
          (fun _ past _ => ∃ changed, Started session project task today past changed) []
          session := by
        apply assures_startTimer
        intro exchanges changed outcome user timer started knownOf
        exact ⟨changed, started⟩
      exact assured.run replies
    obtain ⟨changed, started⟩ := started
    rw [started.changes_eq]
    exact started

end Calls

def trackedEntry : TimeEntry where
  id := 1
  spentDate := Execution.someDay
  hours := 0
  project := ⟨1, "P".text⟩
  task := ⟨2, "T".text⟩
  client := none
  notes := none
  isRunning := true
  hours_nonneg := by decide

/-- Replies to a lookup, to a listing without entries and to the creation of one, which is lost, and
then to a listing with that entry and to its restart. -/
def lostReplies : List Reply :=
  [successWith "\x7b\"id\": 7\x7d",
    successWith "\x7b\"time_entries\": []\x7d",
    .timedOut,
    successWith ("\x7b\"time_entries\": [\x7b\"id\": 1, \"spent_date\": \"2025-01-15\", "
      ++ "\"hours\": 0, \"project\": \x7b\"id\": 1, \"name\": \"P\"\x7d, "
      ++ "\"task\": \x7b\"id\": 2, \"name\": \"T\"\x7d, \"is_running\": true\x7d]\x7d"),
    .timedOut]

/-- A start whose creation of an entry is lost, and the same start once more. -/
def repeatedStart : List TimerCall :=
  [.start 1 2 Execution.someDay, .start 1 2 Execution.someDay]

/-- A session in which nothing is known yet. -/
def freshSession : Session := .start ⟨"t".text, "a".text, 3⟩ none

/-- The second start finds the entry that the first one created without hearing of it. -/
theorem repeatedStart_atMostOnce :
    ∃ moment ∈ (called repeatedStart).moments freshSession lostReplies,
      (changes moment.past).map (·.method) = ["POST".text, "PATCH".text] ∧
      ∃ ledger, Ledger.Reaches 7 (.onOnePage []) moment.past ledger ∧
        ledger.entries = [trackedEntry] ∧ ledger.AtMostOnce := by
  have ending := List.mem_of_getLast?
    (getLast?_moments (called repeatedStart) freshSession lostReplies)
  have through : Ledger.goesThrough 7 []
      ((called repeatedStart).run freshSession lostReplies).exchanges
      [[], [], [trackedEntry], [trackedEntry], [trackedEntry]] = true := by decide +kernel
  have reached := Ledger.Reaches.start.goesThrough through
  have sent : (changes ((called repeatedStart).run freshSession lostReplies).exchanges).map
      (·.method) = ["POST".text, "PATCH".text] := by decide +kernel
  have known : ∀ id, freshSession.user = some id → id = 7 := nofun
  have once : (Ledger.onOnePage []).AtMostOnce := List.nodup_nil
  have always := (atMostOnce_of_calls freshSession 7 known repeatedStart lostReplies
    (.onOnePage []) once).1
  exact ⟨_, ending, sent, .onOnePage [trackedEntry], reached, rfl, always _ ending _ reached⟩

end Session
end TimeReports
