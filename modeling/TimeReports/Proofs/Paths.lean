import Mathlib.Logic.Relation
import TimeReports.Vault.Path

set_option autoImplicit false

namespace TimeReports.Vault

open Relation

variable {names shorter : List Text} {name document : Text} {path other directory : Path}

/-- A name that stays where it is: nothing, or a single dot. -/
def StaysPut (name : Text) : Prop := name = [] ∨ name = [.char '.']

/-- Two dots, which lead out of a directory. -/
def upwards : Text := [.char '.', .char '.']

def LeadsOn (name : Text) : Prop := ¬ StaysPut name ∧ name ≠ upwards

/-- One shortening of names that lead from the root of the file system on. -/
inductive Shortens : List Text → List Text → Prop
  | put {front back : List Text} {name : Text} (stays : StaysPut name) :
    Shortens (front ++ name :: back) (front ++ back)
  | out {front back : List Text} {name : Text} (leads : LeadsOn name) :
    Shortens (front ++ name :: upwards :: back) (front ++ back)
  | atRoot {back : List Text} : Shortens (upwards :: back) back

def Normal (path : Path) : Prop := ∀ name ∈ path, LeadsOn name

def Normalizes (names : List Text) (path : Path) : Prop :=
  ReflTransGen Shortens names path ∧ Normal path

theorem step_of_staysPut (path : Path) (stays : StaysPut name) : step path name = path := by
  rcases stays with rfl | rfl <;> rfl

theorem step_upwards (path : Path) : step path upwards = path.dropLast := rfl

theorem step_of_leadsOn (path : Path) (leads : LeadsOn name) : step path name = path ++ [name] := by
  obtain ⟨moves, ahead⟩ := leads
  simp only [step, show ¬ (name = [] ∨ name = [.char '.']) from moves, ↓reduceIte,
    show ¬ name = [.char '.', .char '.'] from ahead]

theorem Normal.nil : Normal [] := fun _ member => absurd member List.not_mem_nil

theorem Normal.step (normal : Normal path) (name : Text) : Normal (step path name) := by
  by_cases stays : StaysPut name
  · rwa [step_of_staysPut path stays]
  · by_cases up : name = upwards
    · subst up
      exact fun other member => normal other (List.dropLast_subset path member)
    · have leads : LeadsOn name := ⟨stays, up⟩
      rw [step_of_leadsOn path leads]
      intro other member
      rcases List.mem_append.mp member with before | last
      · exact normal other before
      · rwa [List.mem_singleton.mp last]

theorem Normal.foldl_step (normal : Normal path) (names : List Text) :
    Normal (names.foldl Vault.step path) := by
  induction names generalizing path with
  | nil => exact normal
  | cons name rest ih => exact ih (normal.step name)

theorem foldl_step_of_normal (front : Path) (normal : Normal path) :
    path.foldl step front = front ++ path := by
  induction path generalizing front with
  | nil => exact (List.append_nil front).symm
  | cons name rest ih =>
    obtain ⟨leads, normal⟩ := List.forall_mem_cons.mp normal
    rw [List.foldl_cons, step_of_leadsOn front leads, ih _ normal, List.append_assoc,
      List.singleton_append]

/-- Following the names finds the same path after a shortening. -/
theorem foldl_step_of_shortens (shortens : Shortens names shorter) :
    names.foldl step [] = shorter.foldl step [] := by
  cases shortens with
  | put stays =>
    rw [List.foldl_append, List.foldl_append, List.foldl_cons, step_of_staysPut _ stays]
  | out leads =>
    rw [List.foldl_append, List.foldl_append, List.foldl_cons, List.foldl_cons,
      step_of_leadsOn _ leads, step_upwards, List.dropLast_concat]
  | atRoot => rfl

theorem foldl_step_of_shortened (shortened : ReflTransGen Shortens names shorter) :
    names.foldl step [] = shorter.foldl step [] := by
  induction shortened with
  | refl => rfl
  | tail _ shortens ih => exact ih.trans (foldl_step_of_shortens shortens)

/-- Each name that is followed is a shortening of what has been reached with that name behind it,
or none. -/
theorem shortens_step (normal : Normal path) (name : Text) (rest : List Text) :
    ReflTransGen Shortens (path ++ name :: rest) (step path name ++ rest) := by
  by_cases stays : StaysPut name
  · rw [step_of_staysPut path stays]
    exact .single (.put stays)
  · by_cases up : name = upwards
    · subst up
      rw [step_upwards]
      rcases List.eq_nil_or_concat path with rfl | ⟨front, last, rfl⟩
      · exact .single .atRoot
      · have leads : LeadsOn last := normal last (by simp)
        rw [List.concat_eq_append, List.dropLast_concat, List.append_assoc]
        exact .single (.out leads)
    · rw [step_of_leadsOn path ⟨stays, up⟩, List.append_assoc]
      exact .refl

theorem shortens_foldl_step (normal : Normal path) (names : List Text) :
    ReflTransGen Shortens (path ++ names) (names.foldl step path) := by
  induction names generalizing path with
  | nil =>
    rw [List.append_nil]
    exact .refl
  | cons name rest ih => exact (shortens_step normal name rest).trans (ih (normal.step name))

/-- Names have one normal path, the one that following them finds. -/
theorem normalizes_iff : Normalizes names path ↔ names.foldl step [] = path := by
  constructor
  · rintro ⟨shortened, normal⟩
    rw [foldl_step_of_shortened shortened, foldl_step_of_normal [] normal, List.nil_append]
  · rintro rfl
    exact ⟨shortens_foldl_step .nil names, Normal.nil.foldl_step names⟩

theorem Normalizes.unique (normalizes : Normalizes names path)
    (normalizes' : Normalizes names other) : path = other :=
  (normalizes_iff.mp normalizes).symm.trans (normalizes_iff.mp normalizes')

/-- The names that a text gives, seen from a directory: those of the directory in front, unless the
text starts at the root of the file system. -/
def namesFrom (directory : Path) (text : Text) : List Text :=
  base directory text ++ Text.pieces '/' text

/-- What a text leads to is the normal path of its names. -/
theorem normalizes_follow (normal : Normal directory) (text : Text) :
    Normalizes (namesFrom directory text) (follow directory text) := by
  have from_base : Normal (base directory text) := by
    unfold base
    split
    · exact .nil
    · exact normal
  rw [normalizes_iff, namesFrom, List.foldl_append, foldl_step_of_normal [] from_base,
    List.nil_append, follow]

end TimeReports.Vault
