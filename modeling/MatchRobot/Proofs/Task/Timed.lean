import Mathlib.Algebra.GroupWithZero.Nat
import Mathlib.Data.List.Basic
import MatchRobot.Proofs.Task.Routine

/-!
# Runs against the clock

Work takes no time. The clock moves on only when a look has found that the task goes on to wait, and
at most to the time of its alarm. `Wait.Lasts` says that of a wait, and `Routine.TimedRun` is a run in
which the clock keeps to it and each stretch of time is noted with the wait that it went by in. The
surroundings may do what they like between two movements of the clock.
-/

namespace MatchRobot

/-- The alarm that limits a wait. -/
def Wait.alarm? : Wait → Option Alarm
  | .sleep alarm | .resume alarm => some alarm
  | .receive _ limit => limit
  | .none | .send .. => Option.none

/-- A wait goes on in a world, and its alarm, if it has one, is armed and does not ring before the given
time. -/
structure Wait.Lasts (wait : Wait) (v : World) (time : Micros) : Prop where
  later : v.now ≤ time
  pending : ∃ wait' w, v.poll wait = .pending wait' w
  quiet : ∀ alarm, wait.alarm? = some alarm → alarm.armed ∧ time ≤ alarm.time

/-- A wait for room lasts only while the mailbox is full. -/
lemma Wait.Lasts.hasRoom {v : World} {a : Address} {m : Message} {time : Micros}
    (h : (Wait.send a m).Lasts v time) : v.post.hasRoom a = false := by
  obtain ⟨wait', w, pending⟩ := h.pending
  cases room : v.post.hasRoom a with
  | false => rfl
  | true => simp [World.poll, World.post?, PostOffice.post?, room] at pending

/-- A sleep is over once its time has come. -/
lemma World.poll_sleep_eq_over {v w : World} {alarm : Alarm} {wake : Wake}
    (h : v.poll (.sleep alarm) = .over wake w) : alarm.time ≤ v.now ∧ w = v := by
  simp only [poll, pollAlarm] at h
  split at h
  · next rings =>
    cases h
    simp only [Alarm.rings, Bool.and_eq_true, decide_eq_true_eq] at rings
    exact ⟨rings.2, rfl⟩
  · cases h

/-- A sleep that goes on has its alarm armed. -/
lemma World.poll_sleep_eq_pending {v w : World} {alarm : Alarm} {wait : Wait}
    (h : v.poll (.sleep alarm) = .pending wait w) :
    wait = .sleep { alarm with armed := true } ∧ w.now = v.now := by
  have still := (World.rearmed_of_poll h).2.now
  simp only [poll, pollAlarm] at h
  split at h
  · cases h
  · cases h
    exact ⟨rfl, still⟩

/-- A sleep that fits the clock ends after its span. -/
lemma Wait.eq_of_sleepFor {now span : Micros} {wait : Wait} (h : sleepFor now span = .ok wait) :
    wait = .sleep ⟨now + span, false⟩ := by
  obtain ⟨time, later, slept⟩ := bind_eq_ok.1 h
  cases slept
  unfold Clock.after at later
  split at later
  · cases later
    rfl
  · cases later

/-- A look at a wait that goes on leaves the time of its alarm alone. -/
lemma World.alarm?_of_poll {v w : World} {wait wait' : Wait} (h : v.poll wait = .pending wait' w) :
    wait'.alarm?.map Alarm.time = wait.alarm?.map Alarm.time := by
  have alarmed : ∀ {u : World} {alarm : Alarm} {f : Alarm → Wait},
      (∀ a, (f a).alarm? = some a) → u.pollAlarm alarm f = .pending wait' w →
        wait'.alarm?.map Alarm.time = some alarm.time := by
    intro u alarm f hf polled
    unfold pollAlarm at polled
    split at polled
    · cases polled
    · cases polled
      rw [hf, Option.map_some]
  cases wait with
  | none => cases h
  | sleep alarm => exact alarmed (fun _ => rfl) h
  | receive box limit =>
    simp only [poll] at h
    split at h
    · cases h
    · cases limit with
      | none =>
        cases h
        rfl
      | some alarm => exact alarmed (fun _ => rfl) h
  | send box m =>
    simp only [poll] at h
    split at h
    · cases h
    · cases h
      rfl
  | resume alarm =>
    simp only [poll] at h
    split at h
    · cases h
    · exact alarmed (fun _ => rfl) h

/-- What is noted of a run against the clock. -/
inductive Passage (ε : Type)
  | noted (note : ε)
  /-- The task waited that long. -/
  | elapsed (wait : Wait) (span : Micros)

namespace Passage

variable {ε : Type}

/-- The notes of a run, in order. -/
def notes (t : List (Passage ε)) : List ε :=
  t.filterMap fun | noted x => some x | _ => none

@[simp] lemma notes_append (t l : List (Passage ε)) : notes (t ++ l) = notes t ++ notes l :=
  List.filterMap_append

@[simp] lemma notes_noted (l : List ε) : notes (l.map .noted) = l := by
  simp [notes, List.filterMap_map]

@[simp] lemma notes_elapsed (wait : Wait) (span : Micros) :
    notes [(elapsed wait span : Passage ε)] = [] :=
  rfl

/-- The time that a task spent waiting for room. -/
def forRoom (t : List (Passage ε)) : Micros :=
  (t.filterMap fun | elapsed (.send ..) span => some span | _ => none).sum

@[simp] lemma forRoom_append (t l : List (Passage ε)) : forRoom (t ++ l) = forRoom t + forRoom l := by
  rw [forRoom, List.filterMap_append, List.sum_append]
  rfl

@[simp] lemma forRoom_noted (l : List ε) : forRoom (l.map .noted) = 0 := by
  simp [forRoom, List.filterMap_map, List.filterMap_none]

@[simp] lemma forRoom_send (a : Address) (m : Message) (span : Micros) :
    forRoom [(elapsed (.send a m) span : Passage ε)] = span :=
  Nat.add_zero span

end Passage

namespace Routine

variable {ι α σ ε : Type}

/-- A run of a task against the clock. -/
inductive TimedRun (f : Routine ι α σ ε)
    (outside : σ × World → σ × World → Prop) :
    Stage ι α σ → List (Passage ε) → Stage ι α σ → Prop
  | start (a : Stage ι α σ) : TimedRun f outside a [] a
  | look {a b c : Stage ι α σ} {t : List (Passage ε)} {l : List ε} (run : TimedRun f outside a t b)
      (step : f.Step b l c) : TimedRun f outside a (t ++ l.map .noted) c
  | around {a : Stage ι α σ} {t : List (Passage ε)} {p : Progress ι α} {s s' : σ} {w w' : World}
      (run : TimedRun f outside a t (p, s, w)) (change : outside (s, w) (s', w'))
      (still : w'.now = w.now) : TimedRun f outside a t (p, s', w')
  | tick {a : Stage ι α σ} {t : List (Passage ε)} {wait : Wait} {c : ι} {s : σ} {w : World}
      {time : Micros} (run : TimedRun f outside a t (.waiting wait c, s, w))
      (lasts : wait.Lasts w time) :
      TimedRun f outside a (t ++ [.elapsed wait (time - w.now)])
        (.waiting wait c, s, { w with now := time })

section

variable {f : Routine ι α σ ε} {outside : σ × World → σ × World → Prop}

/-- Runs against the clock can be put together. -/
lemma TimedRun.trans {a b c : Stage ι α σ} {t l : List (Passage ε)}
    (first : f.TimedRun outside a t b) (second : f.TimedRun outside b l c) :
    f.TimedRun outside a (t ++ l) c := by
  induction second with
  | start => rw [List.append_nil]; exact first
  | look run step ih =>
    rw [← List.append_assoc]
    exact .look ih step
  | around run change still ih => exact .around ih change still
  | tick run lasts ih =>
    rw [← List.append_assoc]
    exact .tick ih lasts

/-- Surroundings that may do less have the same runs, and others. -/
lemma TimedRun.mono {inside : σ × World → σ × World → Prop} {a b : Stage ι α σ}
    {t : List (Passage ε)} (run : f.TimedRun inside a t b)
    (h : ∀ x y, inside x y → outside x y) : f.TimedRun outside a t b := by
  induction run with
  | start => exact .start _
  | look run step ih => exact .look ih step
  | around run change still ih => exact .around ih (h _ _ change) still
  | tick run lasts ih => exact .tick ih lasts

/-- A task that sleeps can be left alone until its alarm is due. -/
lemma exists_run_to_alarm (f : Routine ι α σ ε) (outside : σ × World → σ × World → Prop)
    (alarm : Alarm) (c : ι) (s : σ) {w : World} (early : w.now ≤ alarm.time) :
    ∃ t v, f.TimedRun outside (.waiting (.sleep alarm) c, s, w) t
        (.waiting (.sleep { alarm with armed := true }) c, s, v) ∧
      Passage.notes t = [] ∧ v.now = alarm.time := by
  obtain ⟨time, armed⟩ := alarm
  -- the first look arms the alarm, if nobody has looked yet
  have armed_run : ∃ t v, f.TimedRun outside (.waiting (.sleep ⟨time, armed⟩) c, s, w) t
      (.waiting (.sleep ⟨time, true⟩) c, s, v) ∧ Passage.notes t = [] ∧ v.now = w.now := by
    cases armed with
    | true => exact ⟨[], w, .start _, rfl, rfl⟩
    | false =>
      have looked : w.poll (.sleep ⟨time, false⟩) = .pending (.sleep ⟨time, true⟩) (w.expectTime time) :=
        rfl
      refine ⟨_, _, (TimedRun.start _).look (.pending looked), rfl, ?_⟩
      exact (World.rearmed_of_poll looked).2.now
  obtain ⟨t, v, armed_run, silent, now⟩ := armed_run
  rw [← now] at early
  rcases Nat.lt_or_eq_of_le early with before | due
  · have asleep : (Alarm.mk time true).rings v.now = false := by simp [Alarm.rings, before]
    have lasts : (Wait.sleep ⟨time, true⟩).Lasts v time :=
      ⟨early, ⟨_, _, by simp [World.poll, World.pollAlarm, asleep]; exact ⟨rfl, rfl⟩⟩, by
        rintro alarm h
        cases h
        exact ⟨rfl, Nat.le_refl _⟩⟩
    exact ⟨_, _, armed_run.tick lasts, by simp [silent], rfl⟩
  · exact ⟨t, v, armed_run, silent, due⟩

end

/-! ### Runs that are played -/

/-- What happens next in a run against the clock that is played. -/
inductive TimedMove
  | look
  /-- The surroundings change the world. -/
  | around (change : World → World)
  | tick (time : Micros)

/-- Whether a wait lasts until a time. -/
def lasts? (wait : Wait) (v : World) (time : Micros) : Bool :=
  decide (v.now ≤ time) &&
    (match v.poll wait with | .pending .. => true | .over .. => false) &&
    wait.alarm?.all fun alarm => alarm.armed && decide (time ≤ alarm.time)

/-- Plays a move, if it is possible. -/
def timedMove? (f : Routine ι α σ ε) (a : Stage ι α σ) :
    TimedMove → Option (List (Passage ε) × Stage ι α σ)
  | .look => (f.look? a).map fun (l, b) => (l.map .noted, b)
  | .around change => some ([], a.1, a.2.1, { change a.2.2 with now := a.2.2.now })
  | .tick time => match a with
    | (.finished _, _, _) => none
    | (.waiting wait c, s, w) =>
      if lasts? wait w time then
        some ([.elapsed wait (time - w.now)], .waiting wait c, s, { w with now := time })
      else none

/-- Plays a run against the clock. -/
def playTimed (f : Routine ι α σ ε) :
    List TimedMove → Stage ι α σ → Option (List (Passage ε) × Stage ι α σ)
  | [], a => some ([], a)
  | move :: moves, a => do
    let (t, b) ← f.timedMove? a move
    let (l, c) ← f.playTimed moves b
    return (t ++ l, c)

lemma lasts_of_lasts? {wait : Wait} {v : World} {time : Micros} (h : lasts? wait v time = true) :
    wait.Lasts v time := by
  simp only [lasts?, Bool.and_eq_true, decide_eq_true_eq] at h
  obtain ⟨⟨later, pending⟩, quiet⟩ := h
  refine ⟨later, ?_, fun alarm alarmed => ?_⟩
  · split at pending
    · next wait' w looked => exact ⟨wait', w, looked⟩
    · cases pending
  · rw [alarmed, Option.all_some, Bool.and_eq_true, decide_eq_true_eq] at quiet
    exact quiet

/-- What is played is a run, if the surroundings may do anything to the world. -/
lemma timedRun_of_playTimed {f : Routine ι α σ ε} {outside : σ × World → σ × World → Prop}
    {moves : List TimedMove} {a b : Stage ι α σ} {t : List (Passage ε)}
    (free : ∀ s v w, outside (s, v) (s, w)) (h : f.playTimed moves a = some (t, b)) :
    f.TimedRun outside a t b := by
  suffices ∀ e s, f.TimedRun outside e s a → f.TimedRun outside e (s ++ t) b from
    this a [] (.start a)
  intro e s run
  induction moves generalizing a s t with
  | nil =>
    cases h
    rw [List.append_nil]
    exact run
  | cons move moves ih =>
    simp only [playTimed, Option.bind_eq_bind, Option.bind_eq_some_iff] at h
    obtain ⟨⟨l, c⟩, moved, ⟨u, d⟩, played, h⟩ := h
    cases h
    rw [← List.append_assoc]
    refine ih played (s ++ l) ?_
    cases move with
    | look =>
      obtain ⟨⟨l, c⟩, looked, h⟩ := Option.map_eq_some_iff.1 moved
      cases h
      exact run.look (step_of_look? looked)
    | around change =>
      cases moved
      rw [List.append_nil]
      exact run.around (free _ _ _) rfl
    | tick time =>
      obtain ⟨_ | _, x, w⟩ := a
      · simp only [timedMove?] at moved
        split at moved
        · next lasts =>
          cases moved
          exact run.tick (lasts_of_lasts? lasts)
        · cases moved
      · cases moved

/-- A task that begins well and passes a check on the run that is played then. -/
lemma exists_timedRun_of_begun {f : Routine ι α σ ε} {opening : Except Fault (Stage ι α σ)}
    {moves : List TimedMove} {good : List (Passage ε) × Stage ι α σ → Bool}
    (h : (opening.toOption.any fun a => (f.playTimed moves a).any good) = true) :
    ∃ a t b, opening = .ok a ∧ f.TimedRun (fun _ _ => True) a t b ∧ good (t, b) = true := by
  cases opening with
  | error e => cases h
  | ok a =>
    have h : (f.playTimed moves a).any good = true := h
    obtain ⟨⟨t, b⟩, played, passed⟩ := (Option.any_eq_true _ _).1 h
    exact ⟨a, t, b, rfl, timedRun_of_playTimed (fun _ _ _ => trivial) played, passed⟩

end Routine

end MatchRobot
