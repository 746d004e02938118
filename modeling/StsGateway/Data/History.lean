import Mathlib.Data.List.Basic
import Mathlib.Order.Lattice

namespace StsGateway.Data

/-! Append-only histories, sliding windows over a history sorted by a key, and lists that
each event adds to and thins out.
-/

section History

variable {α : Type} {holds : List α → α → Prop} {history : List α} {item : α}

/-- Every item of the history is related to what came before it. -/
def EachStep (holds : List α → α → Prop) (history : List α) : Prop :=
  ∀ earlier item later, history = earlier ++ item :: later → holds earlier item

theorem eachStep_nil : EachStep holds [] := by
  intro earlier item later split
  simp at split

theorem eachStep_concat :
    EachStep holds (history ++ [item]) ↔ EachStep holds history ∧ holds history item := by
  constructor
  · intro each
    refine ⟨fun earlier present later split => ?_, each history item [] rfl⟩
    exact each earlier present (later ++ [item]) (by simp [split])
  · intro holds earlier present later split
    obtain ⟨each, last⟩ := holds
    rcases List.eq_nil_or_concat' later with rfl | ⟨front, final, rfl⟩
    · obtain ⟨rfl, same⟩ := List.append_inj' split rfl
      cases same
      exact last
    · have regrouped : history ++ [item] = (earlier ++ present :: front) ++ [final] := by
        simpa using split
      exact each earlier present front (List.append_inj_left' regrouped rfl)

theorem getElem?_of_prefix {front whole : List α} {index : Nat} (isPrefix : front <+: whole)
    (found : front[index]? = some item) : whole[index]? = some item := by
  obtain ⟨bound, same⟩ := List.getElem?_eq_some_iff.mp found
  rw [List.prefix_iff_getElem?.mp isPrefix index bound, same]

end History

section Window

variable {α κ : Type} [LinearOrder κ] {key : α → κ} {cut : κ} {history : List α}

/-- In a sorted history the items from a cut on are all but the first few. -/
theorem filter_eq_drop (sorted : history.Pairwise fun first second => key first ≤ key second)
    (cut : κ) : ∃ count ≤ history.length,
      (history.filter fun item => cut ≤ key item) = history.drop count ∧
        ∀ item ∈ history.take count, key item < cut := by
  induction history with
  | nil => exact ⟨0, Nat.le_refl 0, rfl, by simp⟩
  | cons item rest ih =>
      obtain ⟨first, sorted⟩ := List.pairwise_cons.mp sorted
      by_cases reached : cut ≤ key item
      · have all : ∀ present ∈ item :: rest, cut ≤ key present := by
          intro present member
          rcases List.mem_cons.mp member with rfl | member
          · exact reached
          · exact le_trans reached (first present member)
        exact ⟨0, Nat.zero_le _, List.filter_eq_self.mpr (by simpa using all), by simp⟩
      · obtain ⟨count, bound, kept, below⟩ := ih sorted
        refine ⟨count + 1, Nat.succ_le_succ bound, ?_, ?_⟩
        · rw [List.filter_cons_of_neg (by simpa using reached), kept, List.drop_succ_cons]
        · intro present member
          rw [List.take_succ_cons] at member
          rcases List.mem_cons.mp member with rfl | member
          · exact not_le.mp reached
          · exact below present member

theorem filter_drop_eq {count : Nat} (below : ∀ item ∈ history.take count, key item < cut) :
    ((history.drop count).filter fun item => cut ≤ key item) =
      history.filter fun item => cut ≤ key item := by
  have gone : ((history.take count).filter fun item => cut ≤ key item) = [] := by
    apply List.filter_eq_nil_iff.mpr
    intro item member
    simpa using below item member
  have split : history.filter (fun item => decide (cut ≤ key item)) =
      (history.take count ++ history.drop count).filter fun item => decide (cut ≤ key item) := by
    rw [List.take_append_drop]
  rw [split, List.filter_append, gone, List.nil_append]

end Window

section Survivors

variable {ε α : Type} (adds : ε → List α) (keeps : ε → α → Bool)

/-- What is left of the items each event added once all later events have kept some of them. -/
def survivors : List ε → List α
  | [] => []
  | event :: later =>
      ((adds event).filter fun item => later.all fun next => keeps next item) ++ survivors later

theorem survivors_append (earlier later : List ε) :
    survivors adds keeps (earlier ++ later) =
      (survivors adds keeps earlier).filter (fun item => later.all fun next => keeps next item) ++
        survivors adds keeps later := by
  induction earlier with
  | nil => rfl
  | cons event rest ih =>
      rw [List.cons_append, survivors, survivors, ih, List.filter_append, List.filter_filter,
        List.append_assoc]
      congr 2
      funext item
      rw [List.all_append, Bool.and_comm]

theorem survivors_concat (events : List ε) (event : ε) :
    survivors adds keeps (events ++ [event]) =
      (survivors adds keeps events).filter (keeps event) ++ adds event := by
  rw [survivors_append]
  simp [survivors]

end Survivors

end StsGateway.Data
