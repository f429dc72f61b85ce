set_option autoImplicit false

namespace TimeReports

inductive CodePoint where
  | char (c : Char)
  /-- A surrogate, counted from the first one. -/
  | surrogate (index : Fin 2048)
  deriving DecidableEq, Repr

instance : Coe Char CodePoint where
  coe := .char

namespace CodePoint

def firstSurrogate : Nat := 0xD800

def toNat : CodePoint → Nat
  | char c => c.toNat
  | surrogate index => firstSurrogate + index

/-- The character of a number, refused for surrogates and for numbers beyond the last character. -/
def charOf? (code : Nat) : Option CodePoint :=
  if h : code.isValidChar then some (.char ⟨UInt32.ofNat code, by
    have small : code < 4294967296 := by
      rcases h with h | ⟨_, h⟩ <;> omega
    simpa [UInt32.isValidChar, UInt32.toNat_ofNat, Nat.mod_eq_of_lt small] using h⟩)
  else none

/-- The code point of a number, refused for numbers beyond the last one. -/
def ofNat? (code : Nat) : Option CodePoint :=
  if h : firstSurrogate ≤ code ∧ code < firstSurrogate + 2048 then
    some (.surrogate ⟨code - firstSurrogate, by omega⟩)
  else charOf? code

/-- The code point of a number; numbers beyond the last one give the replacement character. -/
def ofNat (code : Nat) : CodePoint := (ofNat? code).getD (.char '\uFFFD')

instance : LE CodePoint where
  le a b := a.toNat ≤ b.toNat

instance (a b : CodePoint) : Decidable (a ≤ b) :=
  inferInstanceAs (Decidable (a.toNat ≤ b.toNat))

def isSurrogate : CodePoint → Bool
  | char _ => false
  | surrogate _ => true

/-- One of the ten digits of ASCII. -/
def isDigit (c : CodePoint) : Bool := '0' ≤ c && c ≤ '9'

/-- A letter of ASCII. -/
def isAlpha (c : CodePoint) : Bool := ('a' ≤ c && c ≤ 'z') || ('A' ≤ c && c ≤ 'Z')

/-- A letter or digit of ASCII. -/
def isAlphanum (c : CodePoint) : Bool := c.isAlpha || c.isDigit

/-- Capital letters of ASCII made small. -/
def toLower (c : CodePoint) : CodePoint :=
  if 'A' ≤ c ∧ c ≤ 'Z' then ofNat (c.toNat + 32) else c

/-- Small letters of ASCII made capital. -/
def toUpper (c : CodePoint) : CodePoint :=
  if 'a' ≤ c ∧ c ≤ 'z' then ofNat (c.toNat - 32) else c

end CodePoint

/-- A text, as its code points in order. -/
abbrev Text := List CodePoint

/-- A text as a string. Surrogates, which no string holds, become the replacement character. -/
def Text.string (text : Text) : String :=
  String.ofList <| text.map fun
    | .char c => c
    | .surrogate _ => '\uFFFD'

end TimeReports

def String.text (s : String) : TimeReports.Text := s.toList.map .char
