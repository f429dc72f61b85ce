import TimeReports.Proofs.Following
import TimeReports.Proofs.Listings
import TimeReports.Proofs.Outcomes

set_option autoImplicit false

namespace TimeReports

namespace Harvest

open Program

variable {α : Type} {reader : Record.Reader α} {what : String} {reply : Reply}

/-- An answer whose body is not too deep to be read, or a failure of communication. -/
def Reply.Ordinary : Reply → Prop
  | .answered response => ∀ container, Json.ofBytes response.body ≠ .error (.tooDeep container)
  | .timedOut => True
  | .unreachable _ => True
  | .broke _ => False

theorem ordinary_answered_iff {response : Response} : (Reply.answered response).Ordinary ↔
    (match Json.ofBytes response.body with
      | .error (.tooDeep _) => false
      | _ => true) = true := by
  change (∀ container, Json.ofBytes response.body ≠ .error (.tooDeep container)) ↔ _
  cases Json.ofBytes response.body with
  | ok value => simp
  | error fault => cases fault <;> simp

instance : DecidablePred Reply.Ordinary
  | .answered _ => decidable_of_iff _ ordinary_answered_iff.symm
  | .timedOut => inferInstanceAs (Decidable True)
  | .unreachable _ => inferInstanceAs (Decidable True)
  | .broke _ => inferInstanceAs (Decidable False)

/-- A message that is said is a member of an object, and something. -/
theorem said?_eq_some {value : Option Json} {message : Json}
    (said : Client.said? value = some message) : ∃ members, value = some (.object members) ∧
      Json.member? members "message".text = some message ∧ message.isSomething = true := by
  cases value with
  | none => cases said
  | some value =>
    cases value with
    | object members =>
      obtain ⟨present, something⟩ := Option.filter_eq_some_iff.mp said
      exact ⟨members, rfl, present, something⟩
    | _ => cases said

theorem isSomething_of_said?_eq_none {members : List (Text × Json)} {message : Json}
    (silent : Client.said? (some (.object members)) = none)
    (present : Json.member? members "message".text = some message) :
    message.isSomething = false := by
  have filtered : (Json.member? members "message".text).filter Json.isSomething = none := silent
  rw [present] at filtered
  simpa using filtered

theorem ordinary_notFound : notFound.Ordinary := by
  intro container
  have undecoded : Json.ofBytes [] = .error (.malformed 0) := rfl
  rw [undecoded]
  nofun

/-- A reply that a page was read from was there. -/
theorem Source.Reads.heard {source : Source α}
    (refuses : ∃ fault, source.read notFound = .failed fault)
    {number : Nat} {exchanges : List Exchange} {pages : List (Page α)}
    (reads : source.Reads number exchanges pages) :
    ∀ exchange ∈ exchanges, exchange.reply ≠ notFound := by
  intro exchange member absent
  obtain ⟨page, read⟩ := reads.read_of_mem exchange member
  obtain ⟨fault, refused⟩ := refuses
  rw [absent, refused] at read
  cases read

def connectionFailedLine (message : Text) : Text := "  Harvest API request error: ".text ++ message

section Reporting

variable [Console]

/-- What keeps a failed connection from being reported. -/
def Silenced (reply : Reply) (found : Text.Unencodable) : Prop :=
  ∃ message, reply = .unreachable message ∧
    Console.refusal? (connectionFailedLine message) = some found

/-- The failure that is reported when a reply does not hold a record. -/
inductive Reported (reader : Record.Reader α) (what : String) : Reply → ApiFailure → Prop
  | timedOut : Reported reader what .timedOut ⟨"Harvest API request timed out.".text, none⟩
  | unreachable (message : Text) (takes : Console.Takes (connectionFailedLine message)) :
    Reported reader what (.unreachable message) ⟨"Failed to connect to Harvest API.".text, none⟩
  | refused {response : Response} {members : List (Text × Json)} {message : Json}
    (status : response.isSuccess = false)
    (decoded : Json.ofBytes response.body = .ok (.object members))
    (present : Json.member? members "message".text = some message)
    (something : message.isSomething = true) :
    Reported reader what (.answered response)
      ⟨"Harvest API Error: ".text ++ message.asMessage, some response.status⟩
  | refusedSilently {response : Response} (status : response.isSuccess = false)
    (silent : ∀ members message, Json.ofBytes response.body = .ok (.object members) →
      Json.member? members "message".text = some message → message.isSomething = false) :
    Reported reader what (.answered response)
      ⟨"Harvest API Error: ".text ++ response.phrase, some response.status⟩
  | undecodable {response : Response} {fault : Json.ReadFault}
    (status : response.isSuccess = true) (undecoded : Json.ofBytes response.body = .error fault) :
    Reported reader what (.answered response)
      ⟨"Unexpected response from Harvest API.".text, some response.status⟩
  | misshapen {response : Response} {value : Json} {faults : List Record.Fault}
    (status : response.isSuccess = true) (decoded : Json.ofBytes response.body = .ok value)
    (misread : reader value = .error faults) :
    Reported reader what (.answered response)
      ⟨"Unexpected ".text ++ what.text ++ " response from Harvest API.".text, none⟩

section Answered

variable {response : Response}

/-- What is reported of an answer without success. -/
theorem reported_of_refused (status : response.isSuccess = false) :
    Reported reader what (.answered response)
      (Client.failure response (Json.ofBytes response.body).toOption) := by
  unfold Client.failure
  cases said : Client.said? (Json.ofBytes response.body).toOption with
  | some message =>
    obtain ⟨members, whole, present, something⟩ := said?_eq_some said
    cases decoded : Json.ofBytes response.body with
    | ok value =>
      rw [decoded] at whole
      cases whole
      exact .refused status decoded present something
    | error fault =>
      rw [decoded] at whole
      cases whole
  | none =>
    apply Reported.refusedSilently status
    intro members message decoded present
    rw [decoded] at said
    exact isSomething_of_said?_eq_none said present

theorem readAs_of_refused (status : response.isSuccess = false)
    (ordinary : (Reply.answered response).Ordinary) :
    readAs reader what (.answered response) =
      .failed (.harvest (Client.failure response (Json.ofBytes response.body).toOption)) := by
  unfold readAs
  simp only [Client.received, Client.bodyOf, Client.valueOf, status]
  cases decoded : Json.ofBytes response.body with
  | ok value => rfl
  | error fault =>
    cases fault with
    | tooDeep container => exact absurd decoded (ordinary container)
    | _ => rfl

/-- An answer of success holds a record, or a failure is reported for it. -/
theorem readAs_of_success (reader : Record.Reader α) (what : String)
    (status : response.isSuccess = true) (ordinary : (Reply.answered response).Ordinary) :
    (∃ value, readAs reader what (.answered response) = .returned value) ∨
      ∃ failure, Reported reader what (.answered response) failure ∧
        readAs reader what (.answered response) = .failed (.harvest failure) := by
  unfold readAs
  simp only [Client.received, Client.bodyOf, Client.valueOf, status]
  cases decoded : Json.ofBytes response.body with
  | ok value =>
    simp only [narrow, bind_eq, pure_eq, Program.bind, if_true]
    cases read : reader value with
    | ok record => exact Or.inl ⟨record, rfl⟩
    | error faults => exact Or.inr ⟨_, .misshapen status decoded read, rfl⟩
  | error fault =>
    cases fault with
    | tooDeep container => exact absurd decoded (ordinary container)
    | _ => exact Or.inr ⟨_, .undecodable status decoded, rfl⟩

end Answered

theorem readAs_unreachable_of_takes {message : Text}
    (takes : Console.Takes (connectionFailedLine message)) :
    readAs reader what (.unreachable message) =
      .failed (.harvest ⟨"Failed to connect to Harvest API.".text, none⟩) := by
  unfold connectionFailedLine at takes
  simp only [readAs, Client.received, say_of_takes takes]
  rfl

theorem readAs_unreachable_of_refusal {message : Text} {found : Text.Unencodable}
    (refused : Console.refusal? (connectionFailedLine message) = some found) :
    readAs reader what (.unreachable message) = .failed (.console found) := by
  unfold connectionFailedLine at refused
  simp only [readAs, Client.received, say_of_refusal refused]
  rfl

/-- An ordinary reply holds a record, or a failure is reported for it, unless the console refuses
the line about a connection that failed. -/
theorem readAs_of_ordinary (reader : Record.Reader α) (what : String)
    (ordinary : reply.Ordinary) :
    (∃ value, readAs reader what reply = .returned value) ∨
      (∃ failure, Reported reader what reply failure ∧
        readAs reader what reply = .failed (.harvest failure)) ∨
      ∃ found, Silenced reply found ∧ readAs reader what reply = .failed (.console found) := by
  cases reply with
  | timedOut => exact Or.inr (Or.inl ⟨_, .timedOut, rfl⟩)
  | unreachable message =>
    cases refused : Console.refusal? (connectionFailedLine message) with
    | none =>
      exact Or.inr (Or.inl ⟨_, .unreachable message refused, readAs_unreachable_of_takes refused⟩)
    | some found =>
      exact Or.inr (Or.inr ⟨found, ⟨message, rfl, refused⟩, readAs_unreachable_of_refusal refused⟩)
  | broke fault => exact ordinary.elim
  | answered response =>
    cases status : response.isSuccess with
    | false =>
      exact Or.inr (Or.inl ⟨_, reported_of_refused status, readAs_of_refused status ordinary⟩)
    | true =>
      exact (readAs_of_success reader what status ordinary).imp_right Or.inl

theorem readAs_notFound (reader : Record.Reader α) (what : String) :
    ∃ fault, readAs reader what notFound = .failed fault := ⟨_, rfl⟩

end Reporting

end Harvest

namespace Session

open Harvest Program

section Reporting

variable [Console]

variable {session : Session} {first last : Date}

theorem Resolved.heard {known : Option Int} {lookup : List Exchange} {user : Int}
    (resolved : Resolved known lookup user) : ∀ exchange ∈ lookup, exchange.reply ≠ notFound := by
  cases resolved with
  | known =>
    intro exchange member
    cases member
  | found found =>
    intro exchange member absent
    rw [List.mem_singleton.mp member] at absent
    have undecided : decided? notFound = some none := rfl
    dsimp only at absent
    rw [absent, undecided] at found
    cases found

end Reporting

end Session
end TimeReports
