import TimeReports.Proofs.Confinement

set_option autoImplicit false

namespace TimeReports.Vault

variable {vault after : Vault} {document text replacement : Text} {path : Path} {first last : Int}
  {fault : Fault} {left : Text.Bytes}

/-- Replacing lines fails after the document was opened for writing, and leaves other bytes in it
than were there before. -/
structure Spoils (vault : Vault) (document : Text) (first last : Int) (replacement : Text)
    (left : Text.Bytes) (fault : Fault) : Prop where
  late : ∃ text, vault.read document = .ok text ∧ InRange text first last ∧
    vault.Leaves document (splicedText text first last replacement) left fault
  other : vault.bytesAt? (vault.pathOf document) ≠ some left

/-- A document fault comes late only when storage stops in the middle of the writing. -/
theorem Spoils.stopsWriting {rewrite : DocumentFault}
    (spoils : vault.Spoils document first last replacement left (.document rewrite)) :
    vault.StopsWriting := by
  obtain ⟨text, -, -, leaves⟩ := spoils.late
  cases leaves with
  | stopping trouble encodes => exact ⟨_, _, trouble⟩

theorem Spoils.bytesAt?_after
    (spoils : vault.Spoils document first last replacement left fault)
    (failed : vault.replaceLines document first last replacement = (after, .error fault)) :
    after.bytesAt? (vault.pathOf document) = some left := by
  obtain ⟨text, reads, inside, leaves⟩ := spoils.late
  rw [replaceLines_eq_error_iff.mpr (.writing reads inside leaves)] at failed
  cases failed
  exact bytesAt?_holding_same (read_eq_ok_iff.mp reads).2.2.bytes

theorem FailsAt.bytesAt?_other (fails : vault.FailsAt document first last replacement after fault)
    (different : path ≠ vault.pathOf document) : after.bytesAt? path = vault.bytesAt? path := by
  cases fails with
  | writing reads inside leaves => exact bytesAt?_holding_other different
  | _ => rfl

theorem FailsAt.intact (fails : vault.FailsAt document first last replacement after fault)
    (harmless : ¬ ∃ left, vault.Spoils document first last replacement left fault) :
    after.bytesAt? (vault.pathOf document) = vault.bytesAt? (vault.pathOf document) := by
  cases fails with
  | writing reads inside leaves =>
    rw [bytesAt?_holding_same (read_eq_ok_iff.mp reads).2.2.bytes]
    by_contra other
    exact harmless ⟨_, ⟨_, reads, inside, leaves⟩, Ne.symm other⟩
  | _ => rfl

/-- Where replacing lines fails, with whatever fault, no other file changes, and the bytes of the
document are as before exactly if the failure does not spoil it. With a document fault it does so
only when storage stops in the middle of the writing, and the document then holds what was written
until then. -/
theorem intact_iff_not_spoils
    (failed : vault.replaceLines document first last replacement = (after, .error fault)) :
    (∀ other, other ≠ vault.pathOf document → after.bytesAt? other = vault.bytesAt? other) ∧
    (after.bytesAt? (vault.pathOf document) = vault.bytesAt? (vault.pathOf document) ↔
      ¬ ∃ left, vault.Spoils document first last replacement left fault) ∧
    ∀ left rewrite, fault = .document rewrite →
      vault.Spoils document first last replacement left fault →
        vault.StopsWriting ∧ after.bytesAt? (vault.pathOf document) = some left := by
  have fails := replaceLines_eq_error_iff.mp failed
  refine ⟨fun _ => fails.bytesAt?_other, ⟨?_, fails.intact⟩, ?_⟩
  · rintro same ⟨left, spoils⟩
    exact spoils.other (same ▸ spoils.bytesAt?_after failed)
  · rintro left rewrite rfl spoils
    exact ⟨spoils.stopsWriting, spoils.bytesAt?_after failed⟩

/-- The vault with one page, which cannot be written. -/
def lockedVault : Vault := { pageVault with trouble := .refusesWriting "Permission denied".text }

/-- A page that storage does not open for writing is as it was. -/
theorem lockedVault_intact :
    lockedVault.replaceLines "d.md".text 0 0 "x".text = (lockedVault,
      .error (.document (.unwritable "d.md".text "Permission denied".text))) ∧
    ¬ ∃ left, lockedVault.Spoils "d.md".text 0 0 "x".text left
      (.document (.unwritable "d.md".text "Permission denied".text)) := by
  have failed : lockedVault.replaceLines "d.md".text 0 0 "x".text = (lockedVault,
      .error (.document (.unwritable "d.md".text "Permission denied".text))) := by decide
  exact ⟨failed, (intact_iff_not_spoils failed).2.1.mp rfl⟩

/-- The vault with one page, on storage with room for one more byte. -/
def fullVault : Vault :=
  { pageVault with trouble := .stopsWriting 1 "No space left on device".text }

/-- Of the two lines of a page one letter is left, and yet it is said not to be written. -/
theorem fullVault_cutOff :
    fullVault.replaceLines "d.md".text 0 0 "xy".text =
      (fullVault.holding pagePath (Text.utf8 "x".text),
        .error (.document (.unwritable "d.md".text "No space left on device".text))) ∧
    fullVault.bytesAt? pagePath = some (Text.utf8 "a\nb".text) ∧
    (fullVault.holding pagePath (Text.utf8 "x".text)).bytesAt? pagePath =
      some (Text.utf8 "x".text) ∧
    Text.utf8 "x".text ≠ Text.utf8 "a\nb".text := by
  decide

end TimeReports.Vault
