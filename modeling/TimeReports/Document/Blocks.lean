import TimeReports.Document.Lines
import TimeReports.Text.Blank

set_option autoImplicit false

namespace TimeReports.Document

/-- A fenced block: the lines of its fences, counted from zero, and what stands between them. -/
structure Block where
  first : Nat
  last : Nat
  source : Text
  deriving DecidableEq, Repr

def queryLanguage : Text := "harvest".text

def isTag (language : Text) : Text → Bool
  | [] => language.isEmpty
  | c :: rest =>
    (language.isPrefixOf (c :: rest) && ((c :: rest).drop language.length).all Text.isBlank)
      || (Text.isBlank c && isTag language rest)

/-- The longest fence of at most `length` characters in front of a text that leaves the tag. -/
def fenceUpTo? (language text : Text) : Nat → Option Text
  | 0 => none
  | length + 1 =>
    if length + 1 < 3 then none
    else if isTag language (text.drop (length + 1)) then some (text.take (length + 1))
    else fenceUpTo? language text length

def openingFence? (language line : Text) : Option Text :=
  match line.dropWhile Text.isBlank with
  | [] => none
  | mark :: rest =>
    if mark = CodePoint.ofNat 96 ∨ mark = '~' then
      fenceUpTo? language (mark :: rest) ((mark :: rest).takeWhile (· = mark)).length
    else none

def closes (fence line : Text) : Bool := Text.trim line == fence

/-- The blocks in lines that start at a number, where the next `inside` lines belong to a block
already found. -/
def blocksFrom (language : Text) : Nat → Nat → List Text → List Block
  | _, _, [] => []
  | number, inside + 1, _ :: rest => blocksFrom language (number + 1) inside rest
  | number, 0, line :: rest =>
    match openingFence? language line with
    | none => blocksFrom language (number + 1) 0 rest
    | some fence =>
      match rest.findIdx? (closes fence) with
      | none => blocksFrom language (number + 1) 0 rest
      | some length =>
        ⟨number, number + 1 + length, Text.join ['\n'] (rest.take length)⟩
          :: blocksFrom language (number + 1) (length + 1) rest

/-- The blocks of a document that are tagged with a language. -/
def blocksOf (language text : Text) : List Block :=
  blocksFrom language 0 0 (Lines.ofText text).items

def queryBlocks (text : Text) : List Block := blocksOf queryLanguage text

end TimeReports.Document
