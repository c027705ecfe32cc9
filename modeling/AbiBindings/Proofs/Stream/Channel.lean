import AbiBindings.Stream.Channel

/-!
# What a channel yields

A cell that is filled once and a bounded queue seen at one moment, and the choice between several
ways to go on.

Results:
* `select_some_mem`: what a choice yields is what one of its ways yields.
* `select_none_iff`: a choice waits exactly if each of its ways does.
-/

namespace AbiBindings.Stream

/-! ## Cells that are filled once -/

namespace OneShot

@[simp] theorem send_ne_taken {c : OneShot α} (h : c ≠ .taken) (v : α) : c.send v ≠ .taken := by
  cases c <;> simp_all [send]

end OneShot

/-! ## Bounded queues -/

namespace Channel

@[simp] theorem push_items (c : Channel α) (a : α) : (c.push a).items = c.items ++ [a] := rfl

@[simp] theorem push_capacity (c : Channel α) (a : α) : (c.push a).capacity = c.capacity := rfl

@[simp] theorem push_hasSender (c : Channel α) (a : α) : (c.push a).hasSender = c.hasSender := rfl

@[simp] theorem dropSender_items (c : Channel α) : c.dropSender.items = c.items := rfl

@[simp] theorem dropSender_hasSender (c : Channel α) : c.dropSender.hasSender = false := rfl

@[simp] theorem dropSender_hasReceiver (c : Channel α) :
    c.dropSender.hasReceiver = c.hasReceiver := rfl

@[simp] theorem dropReceiver_items (c : Channel α) : c.dropReceiver.items = [] := rfl

@[simp] theorem dropReceiver_hasSender (c : Channel α) :
    c.dropReceiver.hasSender = c.hasSender := rfl

@[simp] theorem dropReceiver_hasReceiver (c : Channel α) : c.dropReceiver.hasReceiver = false := rfl

/-- An empty queue has room, whatever its capacity is, unless that is zero. -/
theorem hasRoom_of_items_nil {c : Channel α} (hc : 0 < c.capacity) (h : c.items = []) :
    c.hasRoom = true := by
  simp [hasRoom, h, hc]

end Channel

/-! ## Waiting for several things -/

theorem mem_rotateLeft {l : List α} {n : Nat} {a : α} : a ∈ l.rotateLeft n ↔ a ∈ l := by
  unfold List.rotateLeft
  dsimp only
  split
  · rfl
  · rw [List.mem_append, or_comm, ← List.mem_append, List.take_append_drop]

theorem select_some_mem {start : Nat} {arms : List (Arm σ α)} {s : σ} {r : α × σ}
    (h : select start arms s = some r) : ∃ arm ∈ arms, arm s = some r := by
  obtain ⟨arm, hmem, harm⟩ := List.exists_of_findSome?_eq_some h
  exact ⟨arm, mem_rotateLeft.mp hmem, harm⟩

theorem select_none_iff {start : Nat} {arms : List (Arm σ α)} {s : σ} :
    select start arms s = none ↔ ∀ arm ∈ arms, arm s = none := by
  simp only [select, List.findSome?_eq_none_iff, mem_rotateLeft]

end AbiBindings.Stream
