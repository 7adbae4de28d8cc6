import Mathlib.Algebra.BigOperators.Group.Finset.Piecewise
import Mathlib.Algebra.Order.BigOperators.Group.Finset
import Mathlib.Algebra.Order.Group.Multiset
import MatchRobot.Proofs.Task.Routine

/-!
# All the mail at once

`World.mail` is what waits in all mailboxes together, as a multiset of messages with their addresses.
Work never adds to it, and the end of a wait changes it by the message that is taken or posted there.
-/

namespace MatchRobot

instance : Fintype Address :=
  ⟨⟨Address.all, by decide⟩, fun a => by cases a <;> decide⟩

/-- Messages with the address that they share. -/
def addressed (a : Address) (ms : List Message) : Multiset (Address × Message) :=
  (ms.map fun m => (a, m) : List (Address × Message))

@[simp] lemma addressed_nil (a : Address) : addressed a [] = 0 := rfl

@[simp] lemma addressed_append (a : Address) (ms ns : List Message) :
    addressed a (ms ++ ns) = addressed a ms + addressed a ns := by
  simp [addressed]

@[simp] lemma map_snd_addressed (a : Address) (ms : List Message) :
    (addressed a ms).map Prod.snd = ms := by
  rw [addressed, Multiset.map_coe, List.map_map]
  exact congrArg _ (List.map_id ms)

lemma addressed_le {a : Address} {ms ns : List Message} (h : ms.Sublist ns) :
    addressed a ms ≤ addressed a ns :=
  Multiset.coe_le.2 (h.map _).subperm

/-- What waits in the mailboxes. -/
def World.mail (w : World) : Multiset (Address × Message) :=
  ∑ a, addressed a (w.post.queue a)

/-- In a sum over everybody, what one of them has can be told apart from the rest. -/
lemma exists_rest {ι M : Type} [Fintype ι] [DecidableEq ι] [AddCommMonoid M] {β : ι → Type}
    (f : ∀ i, β i → M) (g : ∀ i, β i) (i : ι) : ∃ rest, ∑ j, f j (g j) = f i (g i) + rest ∧
      ∀ x, ∑ j, f j (Function.update g i x j) = f i x + rest := by
  refine ⟨∑ j ∈ Finset.univ \ {i}, f j (g j), ?_, fun x => ?_⟩
  · rw [Finset.sum_eq_add_sum_sdiff_singleton_of_mem (Finset.mem_univ i)]
  · have each : ∀ j, f j (Function.update g i x j) =
        Function.update (fun j => f j (g j)) i (f i x) j := Function.apply_update f g i x
    simp only [each]
    rw [Finset.sum_update_of_mem (Finset.mem_univ i)]

/-! ### Waits -/

/-- The message that the end of a wait takes, with the mailbox that it comes from. -/
def Wait.picked : Wait → Wake → List (Address × Message)
  | .receive a _, .received m _ => [(a, m)]
  | _, _ => []

lemma Wait.taken_eq_postedTo (box : Address) (wait : Wait) (wake : Wake) :
    wait.taken box wake = postedTo box (wait.picked wake) := by
  cases wait with
  | receive a limit =>
    cases wake with
    | received m limit' =>
      by_cases h : a = box <;> simp [taken, picked, postedTo, h]
    | _ => rfl
  | _ => rfl

/-- Letters can be sorted by their mailboxes. -/
lemma sum_postedTo (posts : List (Address × Message)) :
    ∑ a, addressed a (postedTo a posts) = posts := by
  induction posts with
  | nil => exact Finset.sum_const_zero
  | cons x rest ih =>
    have head : ∀ a, addressed a (postedTo a (x :: rest)) =
        (if x.1 = a then {x} else 0) + addressed a (postedTo a rest) := by
      intro a
      by_cases h : x.1 = a
      · subst h
        simp [addressed, postedTo]
      · simp [addressed, postedTo, h]
    rw [Finset.sum_congr rfl fun a _ => head a, Finset.sum_add_distrib, ih, Finset.sum_ite_eq,
      if_pos (Finset.mem_univ _)]
    rfl

namespace World

variable {bin : Option Address} {v w : World} {wait : Wait} {wake : Wake}

/-- Work adds nothing to the mail. -/
lemma Kept.mail_le (h : Kept bin v w) : w.mail ≤ v.mail :=
  Finset.sum_le_sum fun a _ => addressed_le (h.suffix a).sublist

/-- The end of a wait accounts for all changes of the mail. -/
lemma Ended.mail (h : v.Ended wait wake w) :
    v.mail + wait.posted wake = wait.picked wake + w.mail := by
  have box : ∀ a, addressed a (v.post.queue a) + addressed a (postedTo a (wait.posted wake)) =
      addressed a (postedTo a (wait.picked wake)) + addressed a (w.post.queue a) := by
    intro a
    rw [← addressed_append, ← addressed_append, h.queue a, Wait.taken_eq_postedTo]
  have all : ∑ a, (addressed a (v.post.queue a) + addressed a (postedTo a (wait.posted wake))) =
      ∑ a, (addressed a (postedTo a (wait.picked wake)) + addressed a (w.post.queue a)) :=
    Finset.sum_congr rfl fun a _ => box a
  rw [Finset.sum_add_distrib, Finset.sum_add_distrib, sum_postedTo, sum_postedTo] at all
  exact all

end World

end MatchRobot
