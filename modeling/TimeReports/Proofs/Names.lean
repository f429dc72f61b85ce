import TimeReports.Proofs.Markup
import TimeReports.Proofs.Totals
import TimeReports.Query.Basic

set_option autoImplicit false

namespace TimeReports

namespace Report

variable {name : Text}

/-- A report shows names of its entries. -/
theorem mem_of_mem_shownNames {entries : List TimeEntry} {kind : ReportKind}
    (member : name ∈ Display.shownNames (aggregate entries kind)) :
    ∃ entry ∈ entries, name = entry.project.name ∨ name = entry.task.name := by
  unfold aggregate at member
  by_cases empty : entries.isEmpty = true
  · simp [empty, Display.shownNames] at member
  · rw [if_neg empty] at member
    cases kind with
    | list =>
      obtain ⟨row, inside, named⟩ := List.mem_flatMap.mp member
      obtain ⟨entry, found, rfl⟩ := List.mem_map.mp inside
      refine ⟨entry, found, ?_⟩
      simpa [Row.ofEntry] using named
    | summary =>
      have twice : name ∈ (summarize (entries.map namedHours)).totals.map (·.1) := by
        simpa [Display.shownNames] using member
      have ranks : (ranked (totalsByName (entries.map namedHours))).Perm _ := ranked_perm _
      rw [summarize, (ranks.map _).mem_iff, map_fst_totalsByName, mem_firstNames,
        List.map_map] at twice
      obtain ⟨entry, found, named⟩ := List.mem_map.mp twice
      exact ⟨entry, found, Or.inl named.symm⟩

end Report

namespace Text

variable {pattern replacement text : Text} {c : CodePoint}

theorem mem_of_mem_substituteFrom {inside : Nat}
    (member : c ∈ substituteFrom pattern replacement inside text) : c ∈ replacement ∨ c ∈ text := by
  induction text generalizing inside with
  | nil => simp [substituteFrom] at member
  | cons first rest ih =>
    cases inside with
    | succ inside =>
      rw [substituteFrom] at member
      exact (ih member).imp_right (List.mem_cons_of_mem _)
    | zero =>
      rw [substituteFrom] at member
      split at member
      · rcases List.mem_append.mp member with member | member
        · exact Or.inl member
        · exact (ih member).imp_right (List.mem_cons_of_mem _)
      · rcases List.mem_cons.mp member with rfl | member
        · exact Or.inr List.mem_cons_self
        · exact (ih member).imp_right (List.mem_cons_of_mem _)

theorem trim_isInfix (text : Text) : trim text <:+: text := by
  obtain ⟨blanks, split, -⟩ := exists_trimRight_append (text.dropWhile isBlank)
  have front : trim text <+: text.dropWhile isBlank := ⟨blanks, split.symm⟩
  exact front.isInfix.trans (List.dropWhile_suffix isBlank).isInfix

theorem trim_subset (text : Text) : trim text ⊆ text := (trim_isInfix text).subset

end Text

namespace Query

variable {source : Text} {c : CodePoint}

theorem mem_of_mem_withoutFlag (member : c ∈ withoutFlag source) : c = .char ' ' ∨ c ∈ source := by
  unfold withoutFlag at member
  split at member
  · have inside := Text.trim_subset _ member
    exact (Text.mem_of_mem_substituteFrom inside).imp_left List.mem_singleton.mp
  · exact Or.inr member

end Query

end TimeReports
