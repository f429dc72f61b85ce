import TimeReports.Proofs.Occurrences
import TimeReports.Proofs.Surroundings

set_option autoImplicit false

namespace TimeReports

namespace Text

theorem length_pieces (mark : CodePoint) (text : Text) :
    (pieces mark text).length = text.count mark + 1 := by
  induction text with
  | nil => rfl
  | cons c rest ih =>
    by_cases same : c = mark
    · subst same
      rw [pieces_cons_mark, List.length_cons, ih, List.count_cons_self]
    · rw [pieces_cons_of_ne same, List.length_modifyHead, ih, List.count_cons_of_ne same]

end Text

namespace Document

open Text

variable {text : Text}

theorem ended_ofText (text : Text) :
    (Lines.ofText text).ended = (text.getLast? == some feed) := by
  rw [ofText_eq]
  dsimp only
  split <;> rfl

theorem some_line_ofText (text : Text) : (Lines.ofText text).items ≠ [] := by
  rw [ofText_eq]
  dsimp only
  split
  · exact fun none => pieces_ne_nil _ _ (List.map_eq_nil_iff.mp none)
  · exact pieces_ne_nil _ _

theorem lineEnd_eq_both_iff : (Lines.ofText text).lineEnd = .both ↔ [back, feed] <:+: text := by
  rw [← occurs_iff, ofText_eq]
  dsimp only
  split
  · next occurring => exact iff_of_true rfl occurring
  · next absent => exact iff_of_false LineEnd.noConfusion absent

/-- A document that is put together again has all its line ends fitted. -/
theorem toText_ofText (text : Text) :
    (Lines.ofText text).toText = (Lines.ofText text).lineEnd.fitted text := by
  rw [toText_eq_join (some_line_ofText text), items_ofText, LineEnd.fitted]

theorem feed_not_mem_items {line : Text} (member : line ∈ (Lines.ofText text).items) :
    feed ∉ line := by
  have clean : ∀ row ∈ pieces feed text, feed ∉ row := fun _ => not_mem_of_mem_pieces
  exact clean_lines clean line (items_ofText text ▸ List.mem_append_left _ member)

theorem length_items (text : Text) : (Lines.ofText text).items.length =
    text.count feed + if text.getLast? = some feed then 0 else 1 := by
  have lengths := congrArg List.length (items_ofText text)
  rw [List.length_append, List.length_map, length_pieces, ended_ofText] at lengths
  by_cases last : text.getLast? = some feed
  · simpa [last] using lengths
  · simpa [last] using lengths

/-- Putting a document together again from its lines gives it back exactly when its lines are ended
alike and none of them loses a carriage return. No line holds a line feed, and there is a line for
each line feed and one for what stands behind the last. -/
theorem reassembled_iff (text : Text) :
    ((Lines.ofText text).toText = text ↔ ¬ [back, feed] <:+: text ∨
      (∀ before behind, text = before ++ feed :: behind → before.getLast? = some back) ∧
        text.getLast? ≠ some back) ∧
    (∀ line ∈ (Lines.ofText text).items, feed ∉ line) ∧
    (Lines.ofText text).items.length =
      text.count feed + if text.getLast? = some feed then 0 else 1 := by
  refine ⟨?_, fun line => feed_not_mem_items, length_items text⟩
  rw [toText_ofText, fitted_eq_self_iff, ← lineEnd_eq_both_iff]
  cases (Lines.ofText text).lineEnd with
  | lineFeed => exact iff_of_true trivial (.inl LineEnd.noConfusion)
  | both => exact (or_iff_right (not_not.mpr rfl)).symm

/-- A line feed alone among line ends of both characters gets a carriage return. -/
example : (Lines.ofText "a\r\nb\nc".text).toText = "a\r\nb\r\nc".text := by decide

end Document

end TimeReports
