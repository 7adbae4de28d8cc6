import MatchRobot.Proofs.Autonomy.Calls
import MatchRobot.Proofs.Task.Timed

/-!
# How long a call lasts

The limit of a call is set when it has posted its last message, and it holds for the collection of
replies. `Call.Due` says where the clock stands then: as long as messages are posted, it stands where
the waits for room have taken it, and after that the alarm is set to a span later.

So a call lasts for that span and for the time that it waited for room (`Call.pending_until`), however
long that is: `Call.pending_after_limit` is a call that has not even posted its first message when its
time is over.
-/

namespace MatchRobot

namespace Call

/-- A call with a limit to the collection of replies, which begins at the given time. -/
inductive Due (span since : Micros) : Progress Call CallResult → World → Prop
  /-- That time is not before the present. -/
  | posting {c : Call} {a : Address} {m : Message} {w : World} (limited : c.timeout = some span)
      (unposted : c.unposted.isSome) (now : w.now = since) :
      Due span since (.waiting (.send a m) c) w
  | collecting {c : Call} {alarm : Alarm} {w : World} (posted : c.unposted = none)
      (time : alarm.time = since + span) (before : w.now ≤ alarm.time) :
      Due span since (.waiting (.receive .autoParser (some alarm)) c) w
  | done {r : CallResult} {w : World} : Due span since (.finished r) w

variable {span since : Micros} {c : Call} {v w : World} {p : Progress Call CallResult}

/-! ### One stretch of work -/

/-- Whoever collects replies waits at most until the alarm. -/
lemma due_collect {alarm : Alarm} (posted : c.unposted = none) (time : alarm.time = since + span)
    (before : w.now ≤ alarm.time) : Due span since (c.collect (some alarm)) w := by
  rcases c.collect_cases (some alarm) with ⟨-, hc⟩ | ⟨-, hc⟩
  · rw [hc]
    exact .collecting posted time before
  · rw [hc]
    exact .done

/-- The alarm is set when no message is left to be posted. -/
lemma due_post {rest : List (Address × Command)} (limited : c.timeout = some span)
    (now : v.now = since) (h : c.post rest v = .ok (p, w)) : Due span since p w := by
  cases rest with
  | cons x more =>
    obtain ⟨a, command⟩ := x
    cases h
    exact .posting limited rfl now
  | nil =>
    simp only [post] at h
    obtain ⟨limit, alarmed, h⟩ := bind_eq_ok.1 h
    cases h
    unfold Call.limit at alarmed
    rw [limited] at alarmed
    obtain ⟨time, after, alarmed⟩ := bind_eq_ok.1 alarmed
    cases alarmed
    have later : time = v.now + span := by
      unfold Clock.after at after
      split at after
      · cases after
        rfl
      · cases after
    refine due_collect rfl ?_ ?_
    · rw [later, now]
    · rw [later]
      exact Nat.le_add_right _ _

lemma due_start {caller caller' : Caller} {targets : List Address} {commands : List Command}
    (limited : caller.timeout = some span)
    (h : start caller targets commands v = .ok (p, caller', w)) : Due span v.now p w := by
  by_cases even : targets.length = commands.length
  · unfold start at h
    rw [if_neg (not_not_intro even)] at h
    obtain ⟨⟨q, u⟩, posted, h⟩ := bind_eq_ok.1 h
    cases h
    exact due_post limited (kept_sweep v).now posted
  · rw [(start_of_length_ne even h).1]
    exact .done

/-- Going on with a call leaves its limit where it is. -/
lemma due_resume {wait : Wait} {wake : Wake} {u : World} (due : Due span since (.waiting wait c) u)
    (ended : u.Ended wait wake v) (h : c.resume wake v = .ok (p, w)) : Due span since p w := by
  have now := ended.untouched.1
  cases due with
  | posting limited unposted since =>
    obtain ⟨rest, left⟩ := Option.isSome_iff_exists.1 unposted
    simp only [resume, left] at h
    exact due_post limited (now.trans since) h
  | collecting posted time before =>
    simp only [resume, posted] at h
    cases ended with
    | @received _ _ m _ taken =>
      cases h
      have counted := (kept_count c m v).now
      refine due_collect ((c.unposted_count m v).trans posted) time ?_
      rw [counted, now]
      exact before
    | missed =>
      cases h
      exact .done

/-- A look at a call that waits on changes nothing of its limit. -/
lemma Due.rearmed {wait wait' : Wait} (due : Due span since (.waiting wait c) v)
    (looked : v.poll wait = .pending wait' w) : Due span since (.waiting wait' c) w := by
  obtain ⟨rearmed, kept⟩ := World.rearmed_of_poll looked
  have same := World.alarm?_of_poll looked
  cases due with
  | posting limited unposted now =>
    cases rearmed
    exact .posting limited unposted (kept.now.trans now)
  | collecting posted time before =>
    cases rearmed with
    | @receive _ _ limit =>
      cases limit with
      | none => cases same
      | some alarm =>
        simp only [Wait.alarm?, Option.map_some, Option.some.injEq] at same
        refine .collecting posted (same.trans time) ?_
        rw [kept.now, same]
        exact before

/-! ### Runs -/

/-- All through a run, the replies are due a span after the end of the waits for room. -/
lemma due_of_run {outside : Caller × World → Caller × World → Prop}
    {a b : Stage Call CallResult Caller} {t : List (Passage Note)}
    (begun : Due span since a.1 a.2.2) (run : routine.TimedRun outside a t b) :
    Due span (since + Passage.forRoom t) b.1 b.2.2 := by
  induction run with
  | start => exact begun
  | look run step ih =>
    rw [Passage.forRoom_append, Passage.forRoom_noted, Nat.add_zero]
    cases step with
    | pending looked => exact ih.rearmed looked
    | woken looked worked =>
      obtain ⟨⟨q, u⟩, resumed, done⟩ := bind_eq_ok.1 worked
      cases done
      exact due_resume ih (World.ended_of_poll looked) resumed
  | around run change still ih =>
    cases ih with
    | posting limited unposted now => exact .posting limited unposted (still.trans now)
    | collecting posted time before =>
      refine .collecting posted time ?_
      rw [still]
      exact before
    | done => exact .done
  | @tick t wait c s w time run lasts ih =>
    rw [Passage.forRoom_append]
    cases ih with
    | posting limited unposted now =>
      refine .posting limited unposted ?_
      calc time = w.now + (time - w.now) := (Nat.add_sub_cancel' lasts.later).symm
        _ = since + (Passage.forRoom t + (time - w.now)) := by rw [now, Nat.add_assoc]
        _ = _ := by rw [Passage.forRoom_send]
    | collecting posted limit before => exact .collecting posted limit (lasts.quiet _ rfl).2

/-- A call that is not over has not lasted longer than its limit and the time that it waited for room,
and as long as it posts messages, no longer than it waited for room. -/
theorem pending_until {outside : Caller × World → Caller × World → Prop} {caller caller' : Caller}
    {targets : List Address} {commands : List Command} {v w : World} {p : Progress Call CallResult}
    (limited : caller.timeout = some span)
    (started : start caller targets commands v = .ok (p, caller', w))
    {b : Stage Call CallResult Caller} {t : List (Passage Note)}
    (run : routine.TimedRun outside (p, caller', w) t b) {wait : Wait} {c : Call}
    (pending : b.1 = .waiting wait c) :
    b.2.2.now ≤ v.now + Passage.forRoom t + span ∧
      (c.unposted.isSome → b.2.2.now = v.now + Passage.forRoom t) := by
  have due := due_of_run (due_start limited started) run
  rw [pending] at due
  cases due with
  | posting limited unposted now =>
    rw [now]
    exact ⟨Nat.le_add_right _ _, fun _ => rfl⟩
  | collecting posted time before =>
    refine ⟨time ▸ before, fun unposted => ?_⟩
    rw [posted] at unposted
    cases unposted

/-! ### A call that waits for room -/

/-- A world in which the mailbox of the drivetrain is full. -/
def crowded : World :=
  { post := PostOffice.empty.setQueue .drivetrain
      (List.replicate Settings.mailboxDepth { command := .drive .stop }) }

/-- A caller that gives its replies a second, and calls into that world. -/
def overdueCall : Except Fault (Stage Call CallResult Caller) :=
  start { timeout := some Clock.second } [.drivetrain] [.drive .stop] crowded

/-- It waits for room for two seconds, and then for a reply. -/
lemma exists_overdue : ∃ first t b wait c, overdueCall = .ok first ∧
    routine.TimedRun (fun _ _ => True) first t b ∧ b.1 = .waiting wait c ∧
    Passage.forRoom t = 2 * Clock.second ∧ b.2.2.now = 3 * Clock.second := by
  have played : (overdueCall.toOption.any fun first =>
      (routine.playTimed [.look, .tick (2 * Clock.second),
          .around fun w => (w.discard .drivetrain).2, .look, .look, .tick (3 * Clock.second)]
        first).any fun x => x.2.1.isWaiting && Passage.forRoom x.1 == 2 * Clock.second &&
          x.2.2.2.now == 3 * Clock.second) = true := by
    decide +kernel
  obtain ⟨first, t, b, begun, run, passed⟩ := Routine.exists_timedRun_of_begun played
  simp only [Bool.and_eq_true, beq_iff_eq, Progress.isWaiting_iff] at passed
  obtain ⟨⟨⟨wait, c, pending⟩, room⟩, now⟩ := passed
  exact ⟨first, t, b, wait, c, begun, run, pending, room, now⟩

theorem overdue_call_is_pending : ∃ first t b wait c, overdueCall = .ok first ∧
    routine.TimedRun (fun _ _ => True) first t b ∧ b.1 = .waiting wait c ∧
    b.2.2.now = 3 * Clock.second ∧ b.2.2.now ≤ Passage.forRoom t + Clock.second := by
  obtain ⟨first, t, b, wait, c, begun, run, pending, room, now⟩ := exists_overdue
  have bound := (pending_until rfl begun run pending).1
  have zero : crowded.now = 0 := rfl
  rw [zero, Nat.zero_add] at bound
  exact ⟨first, t, b, wait, c, begun, run, pending, now, bound⟩

/-- The limit is no limit to the whole call: time goes by while it waits for room. -/
theorem pending_after_limit : ¬ ∀ (caller caller' : Caller) (span : Micros) (targets : List Address)
    (commands : List Command) (v w : World) (p : Progress Call CallResult) t b wait c,
    caller.timeout = some span → start caller targets commands v = .ok (p, caller', w) →
    routine.TimedRun (fun _ _ => True) (p, caller', w) t b → b.1 = .waiting wait c →
    b.2.2.now ≤ v.now + span := by
  intro claim
  obtain ⟨⟨p, caller', w⟩, t, b, wait, c, begun, run, pending, -, now⟩ := exists_overdue
  have early := claim _ caller' _ _ _ _ w p t b wait c rfl begun run pending
  rw [now] at early
  exact absurd early (by decide)

end Call

end MatchRobot
