import TimeReports.Proofs.Moments

set_option autoImplicit false

namespace TimeReports

variable {ι : Type}

/-- Something that happens while programs overlap. -/
inductive Label (ι : Type) where
  | begun (who : ι)
  /-- The service handles the request of an exchange, and the reply is on its way. -/
  | handled (who : ι) (exchange : Exchange)
  /-- The reply of an exchange is delivered, and the program goes on. -/
  | delivered (who : ι) (exchange : Exchange)

namespace Label

def handled? : Label ι → Option (ι × Exchange)
  | handled who exchange => some (who, exchange)
  | _ => none

/-- The exchange that a label says is delivered, with its program. -/
def delivered? : Label ι → Option (ι × Exchange)
  | delivered who exchange => some (who, exchange)
  | _ => none

end Label

def handled (labels : List (Label ι)) : List (ι × Exchange) := labels.filterMap Label.handled?

def delivered (labels : List (Label ι)) : List (ι × Exchange) := labels.filterMap Label.delivered?

def own [DecidableEq ι] (who : ι) (exchanges : List (ι × Exchange)) : List Exchange :=
  (exchanges.filter fun exchange => exchange.1 = who).map (·.2)

section Labels

variable {labels : List (Label ι)} {exchange : Exchange}

theorem handled_append (front back : List (Label ι)) :
    handled (front ++ back) = handled front ++ handled back := List.filterMap_append

theorem delivered_append (front back : List (Label ι)) :
    delivered (front ++ back) = delivered front ++ delivered back := List.filterMap_append

theorem handled_snoc (label : Label ι) :
    handled (labels ++ [label]) = handled labels ++ label.handled?.toList := by
  rw [handled_append]
  cases label <;> rfl

theorem delivered_snoc (label : Label ι) :
    delivered (labels ++ [label]) = delivered labels ++ label.delivered?.toList := by
  rw [delivered_append]
  cases label <;> rfl

variable [DecidableEq ι] {who other : ι}

theorem own_append (front back : List (ι × Exchange)) :
    own who (front ++ back) = own who front ++ own who back := by
  rw [own, List.filter_append, List.map_append]
  rfl

theorem own_self (exchanges : List (ι × Exchange)) :
    own who (exchanges ++ [(who, exchange)]) = own who exchanges ++ [exchange] := by
  rw [own_append]
  simp [own]

theorem own_other (different : other ≠ who) (exchanges : List (ι × Exchange)) :
    own who (exchanges ++ [(other, exchange)]) = own who exchanges := by
  rw [own_append]
  simp [own, different]

theorem own_cons_self (exchanges : List (ι × Exchange)) :
    own who ((who, exchange) :: exchanges) = exchange :: own who exchanges := by
  simp [own]

theorem own_cons_other (different : other ≠ who) (exchanges : List (ι × Exchange)) :
    own who ((other, exchange) :: exchanges) = own who exchanges := by
  simp [own, different]

/-- A list is split in one way only at the first item that is marked. -/
theorem split_unique {β : Type} (marked : β → Prop) {front front' back back' : List β}
    {item item' : β} (before : ∀ other ∈ front, ¬ marked other)
    (before' : ∀ other ∈ front', ¬ marked other)
    (there : marked item) (there' : marked item')
    (same : front ++ item :: back = front' ++ item' :: back') :
    front = front' ∧ item = item' ∧ back = back' := by
  induction front generalizing front' with
  | nil =>
    cases front' with
    | nil =>
      obtain ⟨rfl, rfl⟩ := List.cons.inj same
      exact ⟨rfl, rfl, rfl⟩
    | cons first front' =>
      obtain ⟨rfl, -⟩ := List.cons.inj same
      exact absurd there (before' _ List.mem_cons_self)
  | cons first front ih =>
    cases front' with
    | nil =>
      obtain ⟨rfl, -⟩ := List.cons.inj same
      exact absurd there' (before _ List.mem_cons_self)
    | cons first' front' =>
      obtain ⟨rfl, rest⟩ := List.cons.inj same
      obtain ⟨rfl, item_eq, rfl⟩ := ih (List.forall_mem_cons.mp before).2
        (List.forall_mem_cons.mp before').2 rest
      exact ⟨rfl, item_eq, rfl⟩

theorem own_eq_nil_iff {exchanges : List (ι × Exchange)} :
    own who exchanges = [] ↔ ∀ exchange ∈ exchanges, exchange.1 ≠ who := by
  simp [own]

/-- Around the only exchange of a program there are those of others. -/
theorem own_of_single {front back : List (ι × Exchange)} {only : Exchange}
    (single : own who (front ++ (who, exchange) :: back) = [only]) :
    own who front = [] ∧ exchange = only ∧ own who back = [] := by
  rw [own_append, own_cons_self] at single
  obtain ⟨front_eq, rest⟩ | ⟨front_eq, rest⟩ := List.append_eq_singleton_iff.mp single
  · obtain ⟨rfl, back_eq⟩ := List.cons.inj rest
    exact ⟨front_eq, rfl, back_eq⟩
  · cases rest

/-- The first exchange of a program, with those of others before it. -/
theorem split_of_own {exchanges : List (ι × Exchange)} {more : List Exchange}
    (same : own who exchanges = exchange :: more) :
    ∃ front back, exchanges = front ++ (who, exchange) :: back ∧ own who front = [] ∧
      own who back = more := by
  obtain ⟨⟨_, _⟩, later, filtered, rfl, behind⟩ := List.map_eq_cons_iff.mp same
  obtain ⟨front, back, rfl, others, mine, rest⟩ := List.filter_eq_cons_iff.mp filtered
  obtain rfl := of_decide_eq_true mine
  refine ⟨front, back, rfl, ?_, ?_⟩
  · rw [own, List.filter_eq_nil_iff.mpr others, List.map_nil]
  · rw [own, rest, behind]

/-- Where there are exchanges of one program only, its last one is the last of all. -/
theorem last_of_own {exchanges : List (ι × Exchange)} {init : List Exchange}
    (others : ∀ other, other ≠ who → own other exchanges = [])
    (same : own who exchanges = init ++ [exchange]) :
    ∃ front, exchanges = front ++ [(who, exchange)] := by
  rcases List.eq_nil_or_concat exchanges with rfl | ⟨front, ⟨other, ending⟩, rfl⟩
  · simp [own] at same
  · rw [List.concat_eq_append] at others same ⊢
    by_cases mine : other = who
    · subst mine
      rw [own_self] at same
      obtain ⟨-, last⟩ := List.append_inj' same rfl
      cases last
      exact ⟨front, rfl⟩
    · have absent := others other mine
      rw [own_self] at absent
      simp at absent

/-- There are no exchanges but those of some program. -/
theorem eq_nil_of_own {exchanges : List (ι × Exchange)} (none : ∀ who, own who exchanges = []) :
    exchanges = [] := by
  cases exchanges with
  | nil => rfl
  | cons first others =>
    obtain ⟨who, exchange⟩ := first
    have absent := none who
    rw [own_cons_self] at absent
    cases absent

/-- A single exchange, where no other program has any. -/
theorem eq_singleton_of_own {exchanges : List (ι × Exchange)}
    (others : ∀ other, other ≠ who → own other exchanges = [])
    (single : own who exchanges = [exchange]) : exchanges = [(who, exchange)] := by
  obtain ⟨front, back, rfl, noneBefore, noneBehind⟩ := split_of_own single
  have empty (part : List (ι × Exchange)) (mine : own who part = [])
      (theirs : ∀ other, other ≠ who → own other part = []) : part = [] := by
    apply eq_nil_of_own
    intro other
    by_cases same : other = who
    · rw [same]
      exact mine
    · exact theirs other same
  have apart (other : ι) (different : other ≠ who) :
      own other front = [] ∧ own other back = [] := by
    have absent := others other different
    rw [own_append, own_cons_other different.symm] at absent
    exact List.append_eq_nil_iff.mp absent
  rw [empty front noneBefore fun other different => (apart other different).1,
    empty back noneBehind fun other different => (apart other different).2, List.nil_append]

theorem own_filter (keep : Exchange → Bool) (exchanges : List (ι × Exchange)) :
    own who (exchanges.filter fun exchange => keep exchange.2) =
      (own who exchanges).filter keep := by
  induction exchanges with
  | nil => rfl
  | cons first exchanges ih =>
    obtain ⟨other, exchange⟩ := first
    by_cases same : other = who
    · subst same
      rw [own_cons_self, List.filter_cons, List.filter_cons, ← ih]
      split
      · exact own_cons_self _
      · rfl
    · rw [own_cons_other same, List.filter_cons, ← ih]
      split
      · exact own_cons_other same _
      · rfl

theorem mem_own {exchanges : List (ι × Exchange)} :
    exchange ∈ own who exchanges ↔ (who, exchange) ∈ exchanges := by
  simp [own]

end Labels

end TimeReports
