import Mathlib.Data.List.Induction

namespace HostWatch

variable {α : Type} {begins keeps : List α → α → Prop}

/-- Something has begun in a history, and what came after it has kept it. Whether a move begins or
keeps it may depend on all the moves before. -/
def Since (begins keeps : List α → α → Prop) (moves : List α) : Prop :=
  ∃ past move later, moves = past ++ move :: later ∧ begins past move ∧
    ∀ more next rest, later = more ++ next :: rest → keeps (past ++ move :: more) next

def Once (happens : List α → α → Prop) : List α → Prop := Since happens fun _ _ => True

@[simp] theorem not_since_nil : ¬ Since begins keeps [] := by
  rintro ⟨past, move, later, eq, -⟩
  cases past <;> cases eq

theorem since_append_singleton {moves : List α} {move : α} :
    Since begins keeps (moves ++ [move]) ↔
      begins moves move ∨ Since begins keeps moves ∧ keeps moves move := by
  constructor
  · rintro ⟨past, first, later, eq, begun, kept⟩
    -- the last move is the one that began it, or comes at the end of those after it
    rcases List.eq_nil_or_concat later with rfl | ⟨middle, last, rfl⟩
    · obtain ⟨rfl, same⟩ := List.append_inj' eq rfl
      cases same
      exact Or.inl begun
    · rw [List.concat_eq_append, ← List.cons_append, ← List.append_assoc] at eq
      obtain ⟨rfl, same⟩ := List.append_inj' eq rfl
      cases same
      refine Or.inr ⟨⟨past, first, middle, rfl, begun, ?_⟩, kept middle move [] (by simp)⟩
      intro more next rest split
      exact kept more next (rest ++ [move]) (by simp [split])
  · rintro (begun | ⟨⟨past, first, later, rfl, begun, kept⟩, keeping⟩)
    · refine ⟨moves, move, [], rfl, begun, fun more next rest none => ?_⟩
      cases more <;> cases none
    · refine ⟨past, first, later ++ [move], by simp, begun, fun more next rest split => ?_⟩
      rcases List.eq_nil_or_concat rest with rfl | ⟨before, last, rfl⟩
      · obtain ⟨rfl, same⟩ := List.append_inj' split rfl
        cases same
        exact keeping
      · rw [List.concat_eq_append, ← List.cons_append, ← List.append_assoc] at split
        obtain ⟨inner, -⟩ := List.append_inj' split rfl
        exact kept more next before inner

@[simp] theorem not_once_nil : ¬ Once begins [] := not_since_nil

theorem once_append_singleton {moves : List α} {move : α} :
    Once begins (moves ++ [move]) ↔ begins moves move ∨ Once begins moves := by
  rw [Once, since_append_singleton, and_true]

end HostWatch
