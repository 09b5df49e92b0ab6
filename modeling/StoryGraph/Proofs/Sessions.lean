import Mathlib.Data.Nat.Count
import StoryGraph.Session

namespace StoryGraph.Session

variable {κ : Type}

def askedBefore (calls : List (Option κ)) : Nat → Option κ
  | 0 => none
  | position + 1 => calls[position]?.join

/-- The call at a position asks for a draft that the call before it does not ask for. -/
def Changes (calls : List (Option κ)) (position : Nat) : Prop :=
  calls[position]?.join ≠ none ∧ askedBefore calls position ≠ calls[position]?.join

theorem changes_iff {calls : List (Option κ)} {position : Nat} {call : Option κ}
    (h : calls[position]? = some call) :
    Changes calls position ↔ call ≠ none ∧ askedBefore calls position ≠ call := by
  rw [Changes, h]
  rfl

variable [DecidableEq κ]

instance (calls : List (Option κ)) : DecidablePred (Changes calls) :=
  fun _ ↦ inferInstanceAs (Decidable (_ ∧ _))

def after (content : κ → Draft) (session : Session κ) (calls : List (Option κ)) : Session κ :=
  calls.foldl (fun session call ↦ (session.request content call).2) session

def answers (content : κ → Draft) (session : Session κ) : List (Option κ) → List (Option Edition)
  | [] => []
  | call :: calls =>
    (session.request content call).1 :: (session.request content call).2.answers content calls

variable {content : κ → Draft} {settings : Settings} {session : Session κ} {calls : List (Option κ)}
  {call : Option κ} {key : κ} {position first later : Nat}

theorem length_answers (content : κ → Draft) (session : Session κ) (calls : List (Option κ)) :
    (session.answers content calls).length = calls.length := by
  induction calls generalizing session with
  | nil => rfl
  | cons call calls ih => rw [answers, List.length_cons, ih, List.length_cons]

theorem getElem?_answers (h : calls[position]? = some call) :
    (session.answers content calls)[position]? =
      some ((session.after content (calls.take position)).request content call).1 := by
  induction calls generalizing session position with
  | nil => cases h
  | cons head calls ih =>
    rw [answers]
    cases position with
    | zero =>
      cases h
      rfl
    | succ position => exact ih h

theorem after_take_succ (h : calls[position]? = some call) :
    session.after content (calls.take (position + 1)) =
      ((session.after content (calls.take position)).request content call).2 := by
  rw [after, List.take_add_one, h, List.foldl_append]
  rfl

/-- A session that was last asked for a draft, with the graph of that draft as the latest of its
editions, or one that keeps nothing. -/
def keeping (content : κ → Draft) (settings : Settings) (last : Option κ) (compiles : Nat) :
    Session κ where
  settings
  cached := last.map fun key ↦ (key, ⟨compiles, (content key).compile settings⟩)
  compiles

/-- A graph is compiled if and only if its draft is not the one that was asked for last. -/
theorem request_keeping (content : κ → Draft) (settings : Settings) (last call : Option κ)
    (compiles : Nat) :
    (keeping content settings last compiles).request content call =
      (call.map fun key ↦ ⟨compiles + if call ≠ none ∧ last ≠ call then 1 else 0,
          (content key).compile settings⟩,
        keeping content settings call
          (compiles + if call ≠ none ∧ last ≠ call then 1 else 0)) := by
  cases call with
  | none => rfl
  | some key =>
    rw [request]
    by_cases hlast : last = some key
    · have hcached : (keeping content settings last compiles).cached.filter (·.1 = key) =
          some (key, ⟨compiles, (content key).compile settings⟩) := by
        simp [keeping, hlast, Option.filter]
      have hsame : ¬ (some key ≠ none ∧ last ≠ some key) := fun h ↦ h.2 hlast
      simp only [hcached, if_neg hsame]
      rw [hlast]
      rfl
    · have hcached : (keeping content settings last compiles).cached.filter (·.1 = key) = none := by
        cases last with
        | none => rfl
        | some other =>
          have hne : ¬ other = key := fun heq ↦ hlast (congrArg some heq)
          simp [keeping, Option.filter, hne]
      have hchange : some key ≠ none ∧ last ≠ some key := ⟨nofun, hlast⟩
      simp only [hcached, if_pos hchange]
      rfl

theorem after_take_eq_keeping (content : κ → Draft) (settings : Settings)
    (h : position ≤ calls.length) :
    (new settings).after content (calls.take position) =
      keeping content settings (askedBefore calls position)
        (Nat.count (Changes calls) position) := by
  induction position with
  | zero => rfl
  | succ position ih =>
    have hget : calls[position]? = some calls[position] := List.getElem?_eq_getElem h
    rw [after_take_succ hget, ih (Nat.le_of_lt h), request_keeping, Nat.count_succ,
      if_congr (changes_iff hget) rfl rfl, askedBefore, hget]
    rfl

theorem getElem?_answers_new (content : κ → Draft) (settings : Settings)
    (h : calls[position]? = some call) :
    ((new settings).answers content calls)[position]? = some (call.map fun key ↦
      ⟨Nat.count (Changes calls) (position + 1), (content key).compile settings⟩) := by
  have hlt : position < calls.length := (List.getElem?_eq_some_iff.mp h).1
  rw [getElem?_answers h, after_take_eq_keeping content settings (Nat.le_of_lt hlt),
    request_keeping, Nat.count_succ, if_congr (changes_iff h) rfl rfl]

theorem exists_asked_of_answer {edition : Edition}
    (h : ((new settings).answers content calls)[position]? = some (some edition)) :
    ∃ key, calls[position]? = some (some key) ∧
      edition = ⟨Nat.count (Changes calls) (position + 1), (content key).compile settings⟩ := by
  have hlt : position < calls.length := by
    rw [← length_answers content (new settings) calls]
    exact (List.getElem?_eq_some_iff.mp h).1
  have hget : calls[position]? = some calls[position] := List.getElem?_eq_getElem hlt
  rw [getElem?_answers_new content settings hget, Option.some.injEq, Option.map_eq_some_iff] at h
  obtain ⟨key, hkey, rfl⟩ := h
  exact ⟨key, by rw [hget, hkey], rfl⟩

theorem count_changes_of_asked (hle : first ≤ later)
    (h : ∀ between, first ≤ between → between ≤ later → calls[between]? = some (some key)) :
    Nat.count (Changes calls) (later + 1) = Nat.count (Changes calls) (first + 1) := by
  induction later, hle using Nat.le_induction with
  | base => rfl
  | succ later hle ih =>
    have hbefore : askedBefore calls (later + 1) = some key := by
      rw [askedBefore, h later hle (Nat.le_succ later)]
      rfl
    have hasked := h (later + 1) (Nat.le_succ_of_le hle) le_rfl
    have hsame : ¬ Changes calls (later + 1) :=
      fun hchanges ↦ ((changes_iff hasked).mp hchanges).2 hbefore
    rw [Nat.count_succ, if_neg hsame]
    exact ih fun between hfirst hlater ↦ h between hfirst (Nat.le_succ_of_le hlater)

/-- If nothing has changed at a call for a draft, this draft was asked for all the time. -/
theorem asked_of_count_changes_eq (hle : first ≤ later) (hlater : calls[later]? = some (some key))
    (hcount : Nat.count (Changes calls) (later + 1) = Nat.count (Changes calls) (first + 1)) :
    ∀ between, first ≤ between → between ≤ later → calls[between]? = some (some key) := by
  induction later, hle using Nat.le_induction with
  | base =>
    intro between hfirst hbetween
    rw [Nat.le_antisymm hbetween hfirst, hlater]
  | succ later hle ih =>
    have hmono : Nat.count (Changes calls) (first + 1) ≤ Nat.count (Changes calls) (later + 1) :=
      Nat.count_monotone _ (Nat.succ_le_succ hle)
    rw [Nat.count_succ] at hcount
    have hsame : ¬ Changes calls (later + 1) := by
      intro hchanges
      rw [if_pos hchanges] at hcount
      omega
    -- So the call before was for this draft as well.
    have hbefore : askedBefore calls (later + 1) = some key := by
      by_contra hne
      exact hsame ((changes_iff hlater).mpr ⟨nofun, hne⟩)
    rw [if_neg hsame] at hcount
    intro between hfirst hbetween
    rcases Nat.le_succ_iff.mp hbetween with hbetween | rfl
    · exact ih (Option.join_eq_some_iff.mp hbefore) hcount between hfirst hbetween
    · exact hlater

/-- Whatever a session is asked for, it answers with the graph of the draft that it is asked for,
and with nothing where it is asked for no draft. Two answers are the same edition if and only if the
same draft, and nothing else, was asked for from the one call to the other; so what was compiled
counts the calls for another draft than the one before. -/
theorem answers_coherent (content : κ → Draft) (settings : Settings) (calls : List (Option κ)) :
    ((new settings).answers content calls).length = calls.length ∧
      (∀ position : Nat, calls[position]? = some none →
        ((new settings).answers content calls)[position]? = some none) ∧
      (∀ (position : Nat) (key : κ), calls[position]? = some (some key) → ∃ edition : Edition,
        ((new settings).answers content calls)[position]? = some (some edition) ∧
          edition.graph = (content key).compile settings) ∧
      (∀ (first later : Nat) (edition edition' : Edition), first ≤ later →
        ((new settings).answers content calls)[first]? = some (some edition) →
        ((new settings).answers content calls)[later]? = some (some edition') →
          (edition.number = edition'.number ↔ ∃ key, ∀ between, first ≤ between →
            between ≤ later → calls[between]? = some (some key))) ∧
      ((new settings).after content calls).compiles = Nat.count (Changes calls) calls.length := by
  refine ⟨length_answers content _ calls, ?_, ?_, ?_, ?_⟩
  · intro position h
    exact getElem?_answers_new content settings h
  · intro position key h
    exact ⟨_, getElem?_answers_new content settings h, rfl⟩
  · intro first later edition edition' hle hfirst hlater
    obtain ⟨key, hkey, rfl⟩ := exists_asked_of_answer hfirst
    obtain ⟨key', hkey', rfl⟩ := exists_asked_of_answer hlater
    constructor
    · intro hnumber
      exact ⟨key', asked_of_count_changes_eq hle hkey' hnumber.symm⟩
    · intro h
      obtain ⟨key, h⟩ := h
      exact (count_changes_of_asked hle h).symm
  · have hafter := after_take_eq_keeping content settings (le_refl calls.length)
    rw [List.take_length] at hafter
    rw [hafter]
    rfl

example : Nat.count (Changes [some "a", some "a", none, some "a", some "b", some "a"]) 6 = 4 := by
  decide

end StoryGraph.Session
