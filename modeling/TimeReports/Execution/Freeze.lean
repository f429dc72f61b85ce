import TimeReports.Display.Plain
import TimeReports.Document.Blocks
import TimeReports.Execution.Basic

set_option autoImplicit false

namespace TimeReports.Execution

variable [Console]

def staticBlocks (text : Text) : List Document.Block :=
  (Document.queryBlocks text).filter fun block => Query.isStatic block.source

/-- Executes one block of a document. Gives whether it was replaced. -/
def freezeBlock (document : Text) (today : Date) (block : Document.Block) :
    Program Desk Bool := do
  let result ← execute block.source Desk.fetchEntries (some ⟨document, block.first, block.last⟩)
    today fun _ => return ()
  if result.replaced then
    Program.say ("  Froze lines ".text ++ Text.natDigits block.first ++ "-".text
      ++ Text.natDigits block.last)
    return true
  else
    let plain ← Program.ofExcept Fault.display result.display.plain
    Program.say ("  Lines ".text ++ Text.natDigits block.first ++ "-".text
      ++ Text.natDigits block.last ++ ": ".text ++ plain)
    return false

/-- Executes blocks in order. Gives how many were not replaced. -/
def freezeBlocks (document : Text) (today : Date) : List Document.Block → Program Desk Nat
  | [] => return 0
  | block :: rest => do
    let frozen ← freezeBlock document today block
    let failures ← freezeBlocks document today rest
    return failures + (if frozen then 0 else 1)

/-- Freezes the static blocks of a document. Gives how many could not be frozen. -/
def freezeDocument (document : Text) (today : Date) : Program Desk Nat := do
  let text ← Desk.read document
  let blocks := staticBlocks text
  Program.say ("Found ".text ++ Text.natDigits blocks.length ++ " static block(s) in ".text
    ++ document)
  freezeBlocks document today blocks.reverse

end TimeReports.Execution
