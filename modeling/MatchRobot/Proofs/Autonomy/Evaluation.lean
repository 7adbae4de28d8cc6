import MatchRobot.Autonomy.Sequencer
import MatchRobot.Proofs.Autonomy.Calls

/-!
# Lines under way

What the interpreter does between two waits. It leaves the clock and the mode flag alone, posts
nothing itself, and empties no mailbox but that of the replies. Where it waits, the place in the line
fits what it waits for (`Evaluation.Fits`): a line that a pause holds waits for the operator, a line
that posts sends somebody on an errand, and a call asks the drivetrain and collects the replies at
their mailbox.

A line is dispatched once and posts one message at most. `Evaluation.toDispatch` and
`Evaluation.toPost` count what is still to come of a line, and `Interpreter.advances_resume` says that
going on with a line never adds to it.
-/

namespace MatchRobot

/-! ### Places in a line -/

namespace Evaluation

/-- The place in a line fits what the line waits for. -/
inductive Fits : Evaluation → Wait → Prop
  | held {k : Keyword} {args : List Char} {line : String} {a : Alarm} :
      Fits (.held k args line) (.resume a)
  | posting {next : AfterPost} {a : Address} {m : Message} (errand : m.Errand a) :
      Fits (.posting next) (.send a m)
  | delayHeld {waited total : Micros} {a : Alarm} : Fits (.delayHeld waited total) (.resume a)
  | delaying {waited total : Micros} {a : Alarm} : Fits (.delaying waited total) (.sleep a)
  | asking {c : Call} {ok failed : String} {command : DriveCommand} (last : c.unposted = some [])
      (short : c.received < c.expected) :
      Fits (.calling c ok failed) (.send .drivetrain (c.message (.drive command)))
  | collecting {c : Call} {ok failed : String} {limit : Option Alarm} (posted : c.unposted = none) :
      Fits (.calling c ok failed) (.receive .autoParser limit)
  | settling {a : Alarm} : Fits .settling (.sleep a)

/-- A line never waits to post a reply. -/
lemma Fits.mild {e : Evaluation} {wait : Wait} (h : e.Fits wait) : wait.Mild := by
  cases h with
  | posting errand => exact Wait.mild_send errand.plain
  | asking => exact Wait.mild_send rfl
  | collecting => exact Wait.mild_receive _ _
  | _ => intro a m hm; cases hm

/-- The only mailbox that a line reads is that of the replies. -/
lemma Fits.reads {e : Evaluation} {wait : Wait} {box : Address} {limit : Option Alarm}
    (h : e.Fits wait) (hw : wait = .receive box limit) : box = .autoParser := by
  subst hw
  cases h
  rfl

/-- Whether its alarm is armed makes no difference to what a line waits for. -/
lemma Fits.rearmed {e : Evaluation} {wait wait' : Wait} (h : e.Fits wait) (r : wait.Rearmed wait') :
    e.Fits wait' := by
  cases h with
  | held => cases r; exact .held
  | posting errand => cases r; exact .posting errand
  | delayHeld => cases r; exact .delayHeld
  | delaying => cases r; exact .delaying
  | asking last short => cases r; exact .asking last short
  | collecting posted => cases r; exact .collecting posted
  | settling => cases r; exact .settling

/-- How often a line is still dispatched. -/
def toDispatch : Evaluation → Nat
  | held .. => 1
  | _ => 0

/-- How many messages a line still posts at most, the one that it waits to post included. -/
def toPost : Evaluation → Nat
  | held .. | posting _ => 1
  | calling c _ _ => if c.unposted.isSome then 1 else 0
  | _ => 0

lemma toDispatch_le_one (e : Evaluation) : e.toDispatch ≤ 1 := by
  cases e <;> simp [toDispatch]

lemma toPost_le_one (e : Evaluation) : e.toPost ≤ 1 := by
  cases e with
  | calling c ok failed =>
    cases h : c.unposted <;> simp [toPost, h]
  | _ => simp [toPost]

/-- The message that a line waits to post is among those that it still posts. -/
lemma Fits.posted_le_toPost {e : Evaluation} {wait : Wait} (h : e.Fits wait) (wake : Wake) :
    (wait.posted wake).length ≤ e.toPost := by
  cases h with
  | posting => cases wake <;> simp [Wait.posted, toPost]
  | asking last => cases wake <;> simp [Wait.posted, toPost, last]
  | _ => exact Nat.zero_le _

end Evaluation

/-- What a count gives for the phase of a task, which is nothing once the task is finished. -/
def Progress.left {ι α : Type} (count : ι → Nat) : Progress ι α → Nat
  | .waiting _ c => count c
  | .finished _ => 0

lemma Progress.left_le_one {ι α : Type} (p : Progress ι α) {count : ι → Nat}
    (h : ∀ c, count c ≤ 1) : p.left count ≤ 1 := by
  cases p with
  | waiting wait c => exact h c
  | finished a => exact Nat.zero_le 1

/-! ### The interpreter -/

namespace Interpreter

/-- What work on a line leads to: the world `v` is left alone but for the replies, the line stops at a
fitting wait, its dispatches so far and still to come are `d`, and it posts `k` messages at most. -/
structure Advances (v : World) (d k : Nat) (stage : Stage Evaluation Bool Interpreter) : Prop where
  kept : World.Kept (some .autoParser) v stage.2.2
  fits : ∀ wait e, stage.1 = .waiting wait e → e.Fits wait
  dispatched : stage.2.1.dispatched + stage.1.left Evaluation.toDispatch = d
  posts : stage.1.left Evaluation.toPost ≤ k

section

variable {v w : World} {i : Interpreter} {k : Nat} {stage : Stage Evaluation Bool Interpreter}

lemma advances_finished {b : Bool} (h : World.Kept (some .autoParser) v w) :
    Advances v i.dispatched k (.finished b, i, w) :=
  ⟨h, fun _ _ h => (nomatch h), rfl, Nat.zero_le _⟩

lemma advances_waiting {wait : Wait} {e : Evaluation} (h : World.Kept (some .autoParser) v w)
    (fit : e.Fits wait) (posts : e.toPost ≤ k) :
    Advances v (i.dispatched + e.toDispatch) k (.waiting wait e, i, w) :=
  ⟨h, fun _ _ h => by cases h; exact fit, rfl, posts⟩

lemma advances_delay {waited total : Micros} (h : World.Kept (some .autoParser) v w)
    (done : i.delay waited total w = .ok stage) : Advances v i.dispatched k stage := by
  unfold delay at done
  split at done
  · split at done
    · obtain ⟨wait, hwait, done⟩ := bind_eq_ok.1 done
      obtain ⟨a, rfl⟩ := Wait.eq_resume_of_resumeFor hwait
      cases done
      exact advances_waiting h .delayHeld (Nat.zero_le _)
    · obtain ⟨wait, hwait, done⟩ := bind_eq_ok.1 done
      obtain ⟨a, rfl⟩ := Wait.isSleep_of_sleepFor hwait
      cases done
      exact advances_waiting h .delaying (Nat.zero_le _)
  · cases done
    exact advances_finished h

lemma advances_send {a : Address} {c : Command} {next : AfterPost}
    (h : World.Kept (some .autoParser) v w) (errand : Message.Errand { command := c } a)
    (done : i.send a c next w = .ok stage) : Advances v i.dispatched 1 stage := by
  cases done
  exact advances_waiting h (.posting errand) (Nat.le_refl _)

/-- A call of the drivetrain stops to post its one message. -/
lemma advances_call {c : DriveCommand} {ok failed : String}
    (h : World.Kept (some .autoParser) v w) (done : i.call c ok failed w = .ok stage) :
    Advances v i.dispatched 1 stage := by
  obtain ⟨⟨p, caller, u⟩, started, done⟩ := bind_eq_ok.1 done
  cases done
  obtain ⟨b, last, short, rfl, rfl⟩ := Call.start_one_eq_ok started
  exact advances_waiting (i := { i with caller := caller }) (h.trans (Call.kept_sweep w))
    (.asking last short) (by simp [Evaluation.toPost, last])

/-- Collecting replies posts nothing more. -/
lemma advances_collect {c : Call} {limit : Option Alarm} {ok failed : String}
    (h : World.Kept (some .autoParser) v w) (posted : c.unposted = none) :
    Advances v i.dispatched k (i.follow ok failed w (c.collect limit)) := by
  rcases c.collect_cases limit with ⟨-, hc⟩ | ⟨-, hc⟩
  · rw [hc]
    exact advances_waiting h (.collecting posted) (by simp [Evaluation.toPost, posted])
  · rw [hc]
    refine advances_finished ?_
    unfold reportCall
    split
    · exact World.kept_status _ h
    · exact World.kept_status _ (World.kept_notice _ h)

lemma advances_execute {s : Statement} {line : String} (h : World.Kept (some .autoParser) v w)
    (done : i.execute s line w = .ok stage) : Advances v i.dispatched 1 stage := by
  cases s with
  | mode block =>
    cases done
    exact ⟨World.kept_notice _ h, fun _ _ h => (nomatch h), rfl, Nat.zero_le _⟩
  | debug on =>
    cases done
    exact advances_finished (World.kept_setDebug on h)
  | message text =>
    cases done
    exact advances_finished (World.kept_notice _ h)
  | delay secs => exact advances_delay (World.kept_status _ h) done
  | measuredMove | proximityMove | turn => exact advances_call h done
  | nop =>
    cases done
    exact advances_finished h
  | _ =>
    refine advances_send h ?_ done
    exact ⟨nofun, rfl, rfl, nofun⟩

/-- Dispatching a line counts it. -/
lemma advances_dispatch {key : Keyword} {args : List Char} {line : String}
    (h : World.Kept (some .autoParser) v w) (done : i.dispatch key args line w = .ok stage) :
    Advances v (i.dispatched + 1) 1 stage := by
  have listed : World.Kept (some .autoParser) v (if w.control.debug then
      w.notice (.dispatching (i.elapsed w.now) key (String.ofList args)) else w) := by
    split
    · exact World.kept_notice _ h
    · exact h
  unfold dispatch at done
  simp only at done
  split at done
  · exact advances_execute (i := { i with dispatched := i.dispatched + 1 }) listed done
  · cases done
    exact advances_finished (i := { i with dispatched := i.dispatched + 1 })
      (World.kept_status _ (World.kept_notice _ listed))

lemma advances_proceed {key : Keyword} {args : List Char} {line : String}
    (h : World.Kept (some .autoParser) v w) (done : i.proceed key args line w = .ok stage) :
    Advances v (i.dispatched + 1) 1 stage := by
  unfold proceed at done
  split at done
  · obtain ⟨wait, hwait, done⟩ := bind_eq_ok.1 done
    obtain ⟨a, rfl⟩ := Wait.eq_resume_of_resumeFor hwait
    cases done
    exact advances_waiting h .held (Nat.le_refl _)
  · exact advances_dispatch h done

lemma kept_refuse (e : ParseError) (line : String) (h : World.Kept (some .autoParser) v w) :
    World.Kept (some .autoParser) v (i.refuse e line w) := by
  unfold refuse
  simp only
  split
  · exact World.kept_notice _ (World.kept_status _ (World.kept_status _ h))
  · exact World.kept_notice _ (World.kept_status _ h)

/-- A line is dispatched once, if its keyword is found at all. -/
lemma advances_evaluate {line : String} (h : World.Kept (some .autoParser) v w)
    (done : i.evaluate line w = .ok stage) :
    ∃ d, i.dispatched ≤ d ∧ d ≤ i.dispatched + 1 ∧ Advances v d 1 stage := by
  unfold evaluate at done
  simp only at done
  split at done
  · cases done
    exact ⟨_, Nat.le_refl _, Nat.le_succ _, advances_finished (World.kept_notice _ h)⟩
  · split at done
    · cases done
      exact ⟨_, Nat.le_refl _, Nat.le_succ _, advances_finished h⟩
    · split at done
      · cases done
        exact ⟨_, Nat.le_refl _, Nat.le_succ _, advances_finished (kept_refuse _ _ h)⟩
      · exact ⟨_, Nat.le_succ _, Nat.le_refl _, advances_proceed h done⟩

/-- A message that was waited for is counted, and otherwise the call is given up. -/
lemma advances_collected {c : Call} {ok failed : String} {wake : Wake} (posted : c.unposted = none)
    (done : i.resume (.calling c ok failed) wake w = .ok stage) : Advances w i.dispatched 0 stage := by
  obtain ⟨⟨p, u⟩, resumed, done⟩ := bind_eq_ok.1 done
  cases done
  unfold Call.resume at resumed
  split at resumed
  · next h => rw [posted] at h; cases h
  · next m limit _ =>
    cases resumed
    exact advances_collect (Call.kept_count c m w).weaken ((c.unposted_count m w).trans posted)
  · cases resumed
    exact advances_finished
      (World.kept_status _ (World.kept_notice _ (Call.kept_giveUp c w).weaken))

/-- Going on with a line adds nothing to what it still has to do, and the message that it was waiting
to post is done with. -/
lemma advances_resume {e : Evaluation} {wait : Wait} {wake : Wake} (fit : e.Fits wait)
    (done : i.resume e wake w = .ok stage) :
    Advances w (i.dispatched + e.toDispatch) (e.toPost - (wait.posted wake).length) stage := by
  cases fit with
  | held => exact advances_proceed (.refl w) done
  | @posting next a m errand =>
    cases next with
    | report s =>
      cases done
      exact advances_finished (World.kept_status _ (.refl w))
    | finish line =>
      cases done
      exact advances_finished (World.kept_notice _ (World.kept_status _ (.refl w)))
    | settle =>
      obtain ⟨wait, hwait, done⟩ := bind_eq_ok.1 done
      obtain ⟨b, rfl⟩ := Wait.isSleep_of_sleepFor hwait
      cases done
      exact advances_waiting (.refl w) .settling (Nat.zero_le _)
  | delayHeld => exact advances_delay (.refl w) done
  | delaying => exact advances_delay (.refl w) done
  | @asking c ok failed command last short =>
    obtain ⟨⟨p, u⟩, resumed, done⟩ := bind_eq_ok.1 done
    cases done
    simp only [Call.resume, last] at resumed
    obtain ⟨rfl, limit, rfl⟩ := Call.post_nil_eq_ok resumed
    exact advances_collect (.refl u) rfl
  | @collecting c ok failed limit posted =>
    have zero : (Evaluation.calling c ok failed).toPost = 0 := by simp [Evaluation.toPost, posted]
    rw [zero, Nat.zero_sub]
    exact advances_collected posted done
  | settling =>
    cases done
    exact advances_finished (World.kept_status _ (.refl w))

end

end Interpreter

/-! ### Script runs -/

namespace Pilot

variable {v w : World}

/-- What a run leaves alone while it walks from line to line. -/
lemma keeps_advance (p : Pilot) (lines : List (Nat × String))
    (h : World.Kept (some .autoParser) v w) :
    Keeps (fun r : Run => r.line.Fits) (some .autoParser) v (p.advance w lines) := by
  induction lines generalizing p w with
  | nil => exact keeps_finished (World.kept_notice _ h)
  | cons head rest ih =>
    obtain ⟨n, line⟩ := head
    unfold advance
    split
    · exact keeps_finished (World.kept_notice _ (World.kept_notice _ h))
    · split
      · exact ih p h
      · refine keeps_bind fun b evaluated => ?_
        obtain ⟨progress, i, u⟩ := b
        obtain ⟨d, -, -, advanced⟩ := Interpreter.advances_evaluate h evaluated
        cases progress with
        | waiting wait e => exact keeps_waiting advanced.kept (advanced.fits wait e rfl)
        | finished stop =>
          cases stop with
          | true => exact keeps_finished (World.kept_notice _ advanced.kept)
          | false => exact ih _ advanced.kept

/-- A run waits at a place in a line that fits what it waits for. -/
lemma keeps_run (p : Pilot) (w : World) :
    Keeps (fun r : Run => r.line.Fits) (some .autoParser) w (p.run w) := by
  unfold run
  split
  · exact keeps_advance _ _ (.refl w)
  · exact keeps_finished (.refl w)

lemma keeps_resume (p : Pilot) {r : Run} {wait : Wait} {wake : Wake}
    (fit : r.line.Fits wait) :
    Keeps (fun r : Run => r.line.Fits) (some .autoParser) w (p.resume r wake w) := by
  refine keeps_bind fun b resumed => ?_
  obtain ⟨progress, i, u⟩ := b
  have advanced := Interpreter.advances_resume fit resumed
  cases progress with
  | waiting wait e => exact keeps_waiting advanced.kept (advanced.fits wait e rfl)
  | finished stop =>
    cases stop with
    | true => exact keeps_finished (World.kept_notice _ advanced.kept)
    | false => exact keeps_advance _ _ advanced.kept

end Pilot

end MatchRobot
