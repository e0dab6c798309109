/-!
# Index sets

Sets of indices as strictly increasing lists, so that a set has one form and is listed in order.

* `mem_insert`: what an insertion adds.
* `increasing_insert`: an insertion keeps the order.
-/

namespace NodeLink

abbrev IndexSet := List Nat

namespace IndexSet

/-- Each index is smaller than all those after it. -/
def Increasing (s : IndexSet) : Prop := s.Pairwise (· < ·)

/-- Passes the smaller indices and puts `i` before the first larger one, unless it is there. -/
def insert (i : Nat) : IndexSet → IndexSet
  | [] => [i]
  | j :: rest =>
    if j < i then j :: insert i rest
    else if j = i then j :: rest
    else i :: j :: rest

theorem mem_insert (i k : Nat) (s : IndexSet) : k ∈ insert i s ↔ k = i ∨ k ∈ s := by
  induction s with
  | nil => simp [insert]
  | cons j rest ih =>
    by_cases hlt : j < i
    · rw [insert, if_pos hlt, List.mem_cons, ih, List.mem_cons]
      exact or_left_comm
    · by_cases heq : j = i
      · rw [insert, if_neg hlt, if_pos heq, List.mem_cons, heq]
        exact ⟨Or.inr, fun h => h.elim Or.inl id⟩
      · rw [insert, if_neg hlt, if_neg heq, List.mem_cons]

theorem increasing_insert (i : Nat) {s : IndexSet} (h : Increasing s) :
    Increasing (insert i s) := by
  induction s with
  | nil => exact List.pairwise_singleton _ i
  | cons j rest ih =>
    obtain ⟨hj, hrest⟩ := List.pairwise_cons.mp h
    by_cases hlt : j < i
    · rw [insert, if_pos hlt]
      refine List.pairwise_cons.mpr ⟨fun k hk => ?_, ih hrest⟩
      rcases (mem_insert i k rest).mp hk with hki | hk
      · omega
      · exact hj k hk
    · by_cases heq : j = i
      · rw [insert, if_neg hlt, if_pos heq]
        exact h
      · rw [insert, if_neg hlt, if_neg heq]
        refine List.pairwise_cons.mpr ⟨fun k hk => ?_, h⟩
        rcases List.mem_cons.mp hk with hkj | hk
        · omega
        · have := hj k hk
          omega

end IndexSet
end NodeLink
