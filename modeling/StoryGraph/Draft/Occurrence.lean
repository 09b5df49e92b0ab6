namespace StoryGraph.Occurrence

variable {α : Type}

/-- Every name once, where it occurs first. -/
def distinct : List String → List String
  | [] => []
  | name :: names => name :: (distinct names).filter (· ≠ name)

def lastIndex? (name : String) : List String → Option Nat
  | [] => none
  | other :: names =>
    match lastIndex? name names with
    | some position => some (position + 1)
    | none => if other = name then some 0 else none

/-- The last item under a name, with the name of the item after it. -/
def last? (name : String) : List (String × α) → Option (α × Option String)
  | [] => none
  | (other, item) :: items =>
    match last? name items with
    | some found => some found
    | none => if other = name then some (item, items.head?.map Prod.fst) else none

theorem mem_distinct {name : String} {names : List String} :
    name ∈ distinct names ↔ name ∈ names := by
  induction names with
  | nil => rfl
  | cons other names ih =>
    by_cases h : name = other <;> simp [distinct, ih, h]

theorem nodup_distinct (names : List String) : (distinct names).Nodup := by
  induction names with
  | nil => exact List.nodup_nil
  | cons name names ih =>
    refine List.nodup_cons.2 ⟨?_, ih.filter _⟩
    simp

theorem isSome_lastIndex? {name : String} {names : List String} :
    (lastIndex? name names).isSome ↔ name ∈ names := by
  induction names with
  | nil => simp [lastIndex?]
  | cons other names ih =>
    rw [lastIndex?, List.mem_cons, ← ih]
    cases lastIndex? name names with
    | some position => simp
    | none => by_cases h : other = name <;> simp [h, Ne.symm]

theorem isSome_last? {name : String} {items : List (String × α)} :
    (last? name items).isSome ↔ name ∈ items.map Prod.fst := by
  induction items with
  | nil => simp [last?]
  | cons head items ih =>
    obtain ⟨other, item⟩ := head
    rw [last?, List.map_cons, List.mem_cons, ← ih]
    cases last? name items with
    | some found => simp
    | none => by_cases h : other = name <;> simp [h, Ne.symm]

end StoryGraph.Occurrence
