import MatchRobot.Clock

/-!
# The grip

A gripper never jumps between open and closed. Every hold or release starts a transition that settles
after a time of its own; a stop ends a transition at once on the side it was heading for.

| grip      | hold      | release   | stop     | settled  |
|-----------|-----------|-----------|----------|----------|
| `opened`  | `closing` | `opening` | `opened` |          |
| `opening` | `closing` | `opening` | `opened` | `opened` |
| `closing` | `closing` | `opening` | `closed` | `closed` |
| `closed`  | `closing` | `opening` | `closed` |          |
-/

namespace MatchRobot

/-- The state of a gripper; a transition remembers when it started. -/
inductive Grip
  | opened
  | opening (since : Micros)
  | closing (since : Micros)
  | closed
  deriving Repr, DecidableEq

namespace Grip

/-- The grip after a hold; a closing gripper keeps its start. -/
def hold (now : Micros) : Grip → Grip
  | closing since => closing since
  | _ => closing now

/-- The grip after a release; an opening gripper keeps its start. -/
def release (now : Micros) : Grip → Grip
  | opening since => opening since
  | _ => opening now

/-- The grip after a stop. -/
def stop : Grip → Grip
  | opened | opening _ => opened
  | closed | closing _ => closed

/-- The grip once its transition has lasted for `span`. -/
def settle (now span : Micros) : Grip → Except Fault Grip
  | opening since => do
    let due ← Clock.after since span
    return if due ≤ now then opened else opening since
  | closing since => do
    let due ← Clock.after since span
    return if due ≤ now then closed else closing since
  | g => .ok g

/-- Whether two grips are the same state, whenever they started. -/
def sameKind : Grip → Grip → Bool
  | opened, opened | opening _, opening _ | closing _, closing _ | closed, closed => true
  | _, _ => false

/-- Whether the gripper is fully closed. -/
def isClosed : Grip → Bool
  | closed => true
  | _ => false

@[simp] theorem stop_stop (g : Grip) : g.stop.stop = g.stop := by
  cases g <;> rfl

@[simp] theorem hold_hold (g : Grip) (s t : Micros) : (g.hold s).hold t = g.hold s := by
  cases g <;> rfl

@[simp] theorem release_release (g : Grip) (s t : Micros) :
    (g.release s).release t = g.release s := by
  cases g <;> rfl

end Grip

end MatchRobot
