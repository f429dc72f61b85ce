import TimeReports.Text.Encoding

set_option autoImplicit false

namespace TimeReports.Address.Punycode

/-- The letter or digit for a number below thirty-six. -/
def digitOf (n : Nat) : CodePoint := "abcdefghijklmnopqrstuvwxyz0123456789".text.getD n '0'

/-- What a letter or digit is worth. -/
def valueOf? (c : CodePoint) : Option Nat :=
  if c.isAlpha then some (c.toLower.toNat - 97)
  else if c.isDigit then some (c.toNat - 22)
  else none

/-- The least digit that is not the last of its number, at a place of it. -/
def threshold (bias place : Nat) : Nat := min 26 (max 1 (36 * (place + 1) - bias))

theorem threshold_pos (bias place : Nat) : 1 ≤ threshold bias place := by
  unfold threshold
  omega

/-- The bias for a step of the given size, and what is left of the size, after divisions that make
it small. -/
def scaled (bias delta : Nat) : Nat :=
  if 455 < delta then scaled (bias + 36) (delta / 35) else bias + 36 * delta / (delta + 38)
termination_by delta
decreasing_by omega

/-- The bias after a step that has led to a text of `length` characters. -/
def adapted (delta length : Nat) (isFirst : Bool) : Nat :=
  let delta := if isFirst then delta / 700 else delta / 2
  scaled 0 (delta + delta / length)

def firstBias : Nat := 72

/-- The least code point that is put in its place by a step. -/
def firstCode : Nat := 0x80

def digits (bias place n : Nat) : Text :=
  let limit := threshold bias place
  if n < limit then [digitOf n]
  else
    digitOf (limit + (n - limit) % (36 - limit))
      :: digits bias (place + 1) ((n - limit) / (36 - limit))
termination_by n
decreasing_by
  have positive := threshold_pos bias place
  have smaller := Nat.div_le_self (n - threshold bias place) (36 - threshold bias place)
  omega

structure Writer where
  output : Text
  /-- The places passed over since the last step. -/
  delta : Nat
  bias : Nat
  /-- How many characters are in their places. -/
  count : Nat
  isFirst : Bool
  deriving DecidableEq, Repr

/-- Passes a place, or writes the step that puts a character with this code point there. -/
def Writer.pass (code : Nat) (writer : Writer) (c : CodePoint) : Writer :=
  if c.toNat < code then { writer with delta := writer.delta + 1 }
  else if c.toNat = code then
    ⟨writer.output ++ digits writer.bias 0 writer.delta, 0,
      adapted writer.delta (writer.count + 1) writer.isFirst, writer.count + 1, false⟩
  else writer

/-- Writes the steps for the given code points, in order, where all below `next` are written. -/
def writeSteps (text : Text) : List Nat → Nat → Writer → Writer
  | [], _, writer => writer
  | code :: codes, next, writer =>
    let start := { writer with delta := writer.delta + (code - next) * (writer.count + 1) }
    let after := text.foldl (Writer.pass code) start
    writeSteps text codes (code + 1) { after with delta := after.delta + 1 }

/-- A text in ASCII. -/
def encode (text : Text) : Text :=
  let plain := text.filter fun c => c.toNat < firstCode
  let codes := ((text.map CodePoint.toNat).filter (firstCode ≤ ·)).mergeSort.eraseDups
  let writer := writeSteps text codes firstCode ⟨[], 0, firstBias, plain.length, true⟩
  (if plain.isEmpty then [] else plain ++ "-".text) ++ writer.output

structure Reader where
  text : Text
  /-- The code point of the last character that was put in its place. -/
  code : Nat
  /-- The place behind that character. -/
  place : Nat
  bias : Nat
  isFirst : Bool
  /-- The value of the digits that were read of a step. -/
  total : Nat
  /-- What the next digit is multiplied by. -/
  weight : Nat
  /-- How many digits were read of a step. -/
  count : Nat
  deriving DecidableEq, Repr

/-- Takes a step: counts places on from the last one, with a greater code point whenever the text is
at its end, and puts the character there. -/
def Reader.step? (reader : Reader) (delta : Nat) : Option Reader :=
  let length := reader.text.length + 1
  let place := reader.place + delta
  (CodePoint.ofNat? (reader.code + place / length)).map fun c =>
    ⟨reader.text.take (place % length) ++ c :: reader.text.drop (place % length), c.toNat,
      place % length + 1, adapted delta length reader.isFirst, false, 0, 1, 0⟩

def Reader.read? (reader : Reader) (c : CodePoint) : Option Reader := do
  let digit ← valueOf? c
  let limit := threshold reader.bias reader.count
  let total := reader.total + digit * reader.weight
  if digit < limit then reader.step? total
  else
    some { reader with
      total := total, weight := reader.weight * (36 - limit), count := reader.count + 1 }

/-- The text that a text in ASCII stands for. The last step has to be complete. -/
def decode? (text : Text) : Option Text := do
  let steps := (text.reverse.takeWhile (· ≠ .char '-')).reverse
  let plain := text.take (text.length - steps.length - 1)
  let reader ← steps.foldlM Reader.read? ⟨plain, firstCode, 0, firstBias, true, 0, 1, 0⟩
  if reader.count = 0 then some reader.text else none

end TimeReports.Address.Punycode
