import TimeReports.Calendar.Range

set_option autoImplicit false

namespace TimeReports

/-- What can be wrong with the range of a query. -/
inductive RangeFault where
  /-- Words stand behind a complete range. -/
  | trailing (words : List Text)
  /-- The count after `PAST` is missing or not a number. -/
  | notCount (word : Text)
  /-- The count after `PAST` is zero. -/
  | zeroCount (word : Text)
  | pastForm
  | fromForm
  | notDate (word : Text)
  | inverted (first last : Date)
  | unknownKeyword (word : Text)
  deriving DecidableEq, Repr

/-- What is said of two days in the wrong order. -/
def invertedMessage (first last : Date) : Text :=
  "Start date ".text ++ first.iso ++ " is after end date ".text ++ last.iso ++ ".".text

def RangeFault.message : RangeFault → Text
  | .trailing words => "Unexpected tokens after time range: ".text ++ Text.join [' '] words
  | .notCount word => "Invalid day count '".text ++ word
      ++ "'. Use 'PAST <number> DAYS'.".text
  | .zeroCount word => "Invalid day count '".text ++ word
      ++ "'. The number of days must be at least 1.".text
  | .pastForm => "Invalid PAST format. Use 'PAST <number> DAYS'.".text
  | .fromForm => "Invalid FROM...TO format. Use 'FROM YYYY-MM-DD TO YYYY-MM-DD'.".text
  | .notDate word => "Invalid date '".text ++ word ++ "'. Use YYYY-MM-DD.".text
  | .inverted first last => invertedMessage first last
  | .unknownKeyword word => "Unknown time range specifier: ".text ++ word

inductive QueryFault where
  | empty
  | tooShort
  | unknownKind (word : Text)
  | inverted (first last : Date)
  | range (fault : RangeFault)
  deriving DecidableEq, Repr

def QueryFault.message : QueryFault → Text
  | .empty => "Query is empty.".text
  | .tooShort => "Query is too short.".text
  | .unknownKind word => "Invalid query type: ".text ++ word
      ++ ". Must be LIST or SUMMARY.".text
  | .inverted first last => invertedMessage first last
  | .range fault => fault.message

/-- Why reading a query gives none. -/
inductive ParseFault where
  | malformed (fault : QueryFault)
  | days (fault : Calendar.DayFault)
  deriving DecidableEq, Repr

end TimeReports
