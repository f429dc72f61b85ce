import TimeReports.Query.Fault

set_option autoImplicit false

namespace TimeReports.Query

/-- Refuses words behind a complete range. -/
def nothingBehind (words : List Text) : Except ParseFault Unit :=
  if words.isEmpty then .ok () else .error (.malformed (.range (.trailing words)))

/-- The range of `PAST`, from the words behind it. -/
def pastRange (words : List Text) (anchor : Date) : Except ParseFault DateRange :=
  match words with
  | [] => .error (.malformed (.range (.notCount [])))
  | count :: rest =>
    if !Text.isNumeral count then .error (.malformed (.range (.notCount count)))
    else
      match Number.readNumeral count with
      | .error (.tooLong digits) => .error (.days (.tooManyDigits digits))
      | .error .malformed => .error (.malformed (.range (.notCount count)))
      | .ok 0 => .error (.malformed (.range (.zeroCount count)))
      | .ok (before + 1) =>
        match rest with
        | unit :: behind =>
          if unit ≠ "DAYS".text then .error (.malformed (.range .pastForm))
          else do
            nothingBehind behind
            (DateRange.upTo anchor before).mapError .days
        | [] => .error (.malformed (.range .pastForm))

def readLiteral (word : Text) : Except ParseFault Date :=
  match Calendar.ofLiteral? word with
  | some date => .ok date
  | none => .error (.malformed (.range (.notDate word)))

/-- The range of `FROM`, from the words behind it. -/
def fromRange : List Text → Except ParseFault DateRange
  | start :: middle :: stop :: behind =>
    if middle ≠ "TO".text then .error (.malformed (.range .fromForm))
    else do
      nothingBehind behind
      let first ← readLiteral start
      let last ← readLiteral stop
      match DateRange.of? first last with
      | some range => .ok range
      | none => .error (.malformed (.range (.inverted first last)))
  | _ => .error (.malformed (.range .fromForm))

/-- The range that a keyword and the words behind it write, seen from an anchor day. -/
def resolveRange (keyword : Text) (words : List Text) (anchor : Date) :
    Except ParseFault DateRange :=
  if keyword = "TODAY".text then do
    nothingBehind words
    .ok (DateRange.single anchor)
  else if keyword = "WEEK".text then do
    nothingBehind words
    (DateRange.week anchor).mapError .days
  else if keyword = "MONTH".text then do
    nothingBehind words
    .ok (DateRange.month anchor)
  else if keyword = "PAST".text then pastRange words anchor
  else if keyword = "FROM".text then fromRange words
  else .error (.malformed (.range (.unknownKeyword keyword)))

end TimeReports.Query
