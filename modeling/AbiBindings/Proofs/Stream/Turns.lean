/-!
# Turns

Several parties act on one state, one turn after the other and in any order. If no turn leads away
from the end and some party always brings it nearer, the end comes whatever the order is, as long as
no party stops acting.

Results:
* `after_keeps`: what every turn keeps holds at every time.
* `Progress.ends_of_fair`: the end comes if every party acts again and again.
-/

namespace AbiBindings.Stream

/-- The state after the first turns of a schedule. -/
def after (step : σ → τ → σ) (s : σ) (schedule : Nat → τ) : Nat → σ
  | 0 => s
  | n + 1 => step (after step s schedule n) (schedule n)

/-- Every party acts again and again. -/
def Fair (party : τ → π) (schedule : Nat → τ) : Prop := ∀ q n, ∃ m, n ≤ m ∧ party (schedule m) = q

/-- Why a system comes to its end. -/
structure Progress (step : σ → τ → σ) (party : τ → π) (inv ended : σ → Prop) (weight : σ → Nat) :
    Prop where
  keeps : ∀ s t, inv s → inv (step s t)
  /-- A turn changes nothing, or it brings the end nearer. -/
  nearer : ∀ s t, inv s → ¬ ended s → step s t = s ∨ weight (step s t) < weight s
  /-- There is a party that brings the end nearer, whatever its turn is. -/
  helps : ∀ s, inv s → ¬ ended s → ∃ q, ∀ t, party t = q → weight (step s t) < weight s

variable {step : σ → τ → σ} {party : τ → π} {inv ended : σ → Prop} {weight : σ → Nat} {s : σ}
  {schedule : Nat → τ}

theorem after_keeps (hkeeps : ∀ s t, inv s → inv (step s t)) (hs : inv s) (n : Nat) :
    inv (after step s schedule n) := by
  induction n with
  | zero => exact hs
  | succ n ih => exact hkeeps _ _ ih

namespace Progress

/-- Until the end comes nearer, the state is as it was. -/
theorem eq_or_nearer (h : Progress step party inv ended weight) (hs : inv s) (n d : Nat) :
    (∃ k, ended (after step s schedule k)) ∨
      after step s schedule (n + d) = after step s schedule n ∨
      ∃ k, weight (after step s schedule k) < weight (after step s schedule n) := by
  induction d with
  | zero => exact .inr (.inl rfl)
  | succ d ih =>
    rcases ih with hend | heq | hlt
    · exact .inl hend
    · by_cases hend : ended (after step s schedule (n + d))
      · exact .inl ⟨n + d, hend⟩
      · rcases h.nearer _ (schedule (n + d)) (after_keeps h.keeps hs _) hend with hstep | hstep
        · exact .inr (.inl (hstep.trans heq))
        · rw [heq] at hstep
          refine .inr (.inr ⟨n + d + 1, ?_⟩)
          rw [after, heq]
          exact hstep
    · exact .inr (.inr hlt)

/-- If every party acts again and again, the end comes. -/
theorem ends_of_fair (h : Progress step party inv ended weight) (hs : inv s)
    (hfair : Fair party schedule) : ∃ n, ended (after step s schedule n) := by
  suffices hall : ∀ w n, weight (after step s schedule n) = w →
      ∃ k, ended (after step s schedule k) from hall _ 0 rfl
  intro w
  induction w using Nat.strongRecOn with
  | ind w ih =>
    intro n hw
    by_cases hend : ended (after step s schedule n)
    · exact ⟨n, hend⟩
    · -- Either the end has come nearer before the helping party acts, or its turn does that.
      obtain ⟨q, hq⟩ := h.helps _ (after_keeps h.keeps hs n) hend
      obtain ⟨m, hm, hparty⟩ := hfair q n
      obtain ⟨d, rfl⟩ := Nat.exists_eq_add_of_le hm
      rcases h.eq_or_nearer hs n d with hdone | heq | ⟨k, hlt⟩
      · exact hdone
      · have hlt : weight (after step s schedule (n + d + 1)) < w := by
          rw [after, heq, ← hw]
          exact hq _ hparty
        exact ih _ hlt _ rfl
      · exact ih _ (hw ▸ hlt) _ rfl

end Progress

end AbiBindings.Stream
