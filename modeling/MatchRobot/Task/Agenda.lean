import MatchRobot.Clock

/-!
# Agendas

An `Agenda` holds the times at which somebody wants to be woken. Timers that nobody waits for any more
stay on it until their time comes, so it may grow long: it is a search tree whose two sides differ in
height by one at most, and every operation takes as many steps as the tree is high.

What an agenda holds is said by `Agenda.toList`, its times in the order of the tree. `insert` adds one
time and keeps the list strictly increasing, `first?` is its head and `rest` its tail.
-/

namespace MatchRobot

/-- A search tree of times; each node keeps its height. -/
inductive Agenda
  | empty
  | node (height : Nat) (before : Agenda) (time : Micros) (after : Agenda)
  deriving Repr, DecidableEq

namespace Agenda

/-- How high a tree is. -/
def height : Agenda → Nat
  | empty => 0
  | node h _ _ _ => h

/-- The times on an agenda, in the order of the tree. -/
def toList : Agenda → List Micros
  | empty => []
  | node _ a t b => a.toList ++ t :: b.toList

/-! ### Balance -/

/-- A tree of two sides and what stands between them. -/
def join (a : Agenda) (t : Micros) (b : Agenda) : Agenda :=
  node (max a.height b.height + 1) a t b

/-- Lifts the left side, which is too high. -/
def liftLeft (a : Agenda) (t : Micros) (b : Agenda) : Agenda :=
  match a with
  | empty => join a t b
  | node _ aa u ab =>
    if ab.height ≤ aa.height then join aa u (join ab t b)
    else match ab with
      | empty => join a t b
      | node _ c v d => join (join aa u c) v (join d t b)

/-- Lifts the right side, which is too high. -/
def liftRight (a : Agenda) (t : Micros) (b : Agenda) : Agenda :=
  match b with
  | empty => join a t b
  | node _ ba u bb =>
    if ba.height ≤ bb.height then join (join a t ba) u bb
    else match ba with
      | empty => join a t b
      | node _ c v d => join (join a t c) v (join d u bb)

/-- A balanced tree of two sides whose heights differ by two at most. -/
def balance (a : Agenda) (t : Micros) (b : Agenda) : Agenda :=
  if b.height + 1 < a.height then liftLeft a t b
  else if a.height + 1 < b.height then liftRight a t b
  else join a t b

@[simp] theorem toList_join (a : Agenda) (t : Micros) (b : Agenda) :
    (join a t b).toList = a.toList ++ t :: b.toList := rfl

theorem toList_liftLeft (a : Agenda) (t : Micros) (b : Agenda) :
    (liftLeft a t b).toList = a.toList ++ t :: b.toList := by
  unfold liftLeft
  split
  · rfl
  · split
    · simp [toList]
    · split <;> simp [toList]

theorem toList_liftRight (a : Agenda) (t : Micros) (b : Agenda) :
    (liftRight a t b).toList = a.toList ++ t :: b.toList := by
  unfold liftRight
  split
  · rfl
  · split
    · simp [toList]
    · split <;> simp [toList]

/-- Balancing a tree changes its shape only. -/
@[simp] theorem toList_balance (a : Agenda) (t : Micros) (b : Agenda) :
    (balance a t b).toList = a.toList ++ t :: b.toList := by
  unfold balance
  split
  · exact toList_liftLeft a t b
  · split
    · exact toList_liftRight a t b
    · rfl

/-! ### Operations -/

/-- Adds a time, if it is not there yet. -/
def insert (t : Micros) : Agenda → Agenda
  | empty => join empty t empty
  | node h a u b =>
    if t < u then balance (a.insert t) u b
    else if u < t then balance a u (b.insert t)
    else node h a u b

/-- The earliest time. -/
def first? : Agenda → Option Micros
  | empty => none
  | node _ empty t _ => some t
  | node _ a _ _ => a.first?

/-- An agenda without its earliest time. -/
def rest : Agenda → Agenda
  | empty => empty
  | node _ empty _ b => b
  | node _ a t b => balance a.rest t b

/-! ### What the operations do to the times -/

@[simp] theorem toList_empty : empty.toList = [] := rfl

/-- A time is on the agenda once it has been added, and no other time is forgotten. -/
theorem mem_toList_insert {t u : Micros} {a : Agenda} :
    u ∈ (a.insert t).toList ↔ u = t ∨ u ∈ a.toList := by
  induction a with
  | empty => simp [insert]
  | node h a v b iha ihb =>
    unfold insert
    split
    · simp [toList, iha, or_assoc]
    · next hle =>
      split
      · simp only [toList_balance, toList, List.mem_append, List.mem_cons, ihb]
        grind
      · next hge =>
        obtain rfl : t = v := Nat.le_antisymm (Nat.not_lt.1 hge) (Nat.not_lt.1 hle)
        simp only [toList, List.mem_append, List.mem_cons]
        grind

/-- The times stay in their order, each of them once. -/
theorem pairwise_toList_insert {a : Agenda} (h : a.toList.Pairwise (· < ·)) (t : Micros) :
    (a.insert t).toList.Pairwise (· < ·) := by
  induction a with
  | empty => simp [insert]
  | node k a v b iha ihb =>
    simp only [toList, List.pairwise_append, List.pairwise_cons] at h
    obtain ⟨ha, ⟨hv, hb⟩, hab⟩ := h
    unfold insert
    split
    · next hlt =>
      simp only [toList_balance, List.pairwise_append, List.pairwise_cons]
      refine ⟨iha ha, ⟨hv, hb⟩, fun u hu x hx => ?_⟩
      rcases mem_toList_insert.1 hu with rfl | hu
      · rcases List.mem_cons.1 hx with rfl | hx
        · exact hlt
        · exact Nat.lt_trans hlt (hv x hx)
      · exact hab u hu x hx
    · split
      · next hgt =>
        simp only [toList_balance, List.pairwise_append, List.pairwise_cons]
        refine ⟨ha, ⟨fun x hx => ?_, ihb hb⟩, fun u hu x hx => ?_⟩
        · rcases mem_toList_insert.1 hx with rfl | hx
          · exact hgt
          · exact hv x hx
        · rcases List.mem_cons.1 hx with rfl | hx
          · exact hab u hu x (List.mem_cons_self ..)
          · rcases mem_toList_insert.1 hx with rfl | hx
            · exact Nat.lt_trans (hab u hu v (List.mem_cons_self ..)) hgt
            · exact hab u hu x (List.mem_cons_of_mem _ hx)
      · simp only [toList, List.pairwise_append, List.pairwise_cons]
        exact ⟨ha, ⟨hv, hb⟩, hab⟩

theorem toList_ne_nil {h : Nat} {a : Agenda} {t : Micros} {b : Agenda} :
    (node h a t b).toList ≠ [] := by
  simp [toList]

/-- The earliest time is the head of the times. -/
theorem first?_eq_head? (a : Agenda) : a.first? = a.toList.head? := by
  fun_induction first? a with
  | case1 => rfl
  | case2 => rfl
  | case3 h a t b hne ih =>
    cases a with
    | empty => exact absurd rfl hne
    | node => simp [ih, toList, List.head?_append]

/-- Without its earliest time an agenda holds the tail of the times. -/
theorem toList_rest (a : Agenda) : a.rest.toList = a.toList.tail := by
  fun_induction rest a with
  | case1 => rfl
  | case2 => rfl
  | case3 h a t b hne ih =>
    cases a with
    | empty => exact absurd rfl hne
    | node =>
      rw [toList_balance, ih]
      exact (List.tail_append_of_ne_nil toList_ne_nil).symm

end Agenda

end MatchRobot
