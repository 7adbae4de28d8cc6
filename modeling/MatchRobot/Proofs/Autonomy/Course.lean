import MatchRobot.Proofs.Autonomy.Leaving

/-!
# The course of a script

What a script posts is settled by its text. `Script.reading` says how a line is taken: it is passed over,
it is refused because it has no keyword, or it is a command. `Share` is what one line contributes (the
messages that it posts, the dispatch that is counted and whether it ends the script), and
`Script.course` puts the shares of the lines together, up to the first that ends the script.

`Interpreter.Follows` says that the work on a line keeps to the share of the line wherever it stops, and
`Pilot.onCourse_of_run` that a whole run does as long as the robot stays in autonomous. The surroundings
may do what they like to everything else: pause and resume, answer or not, fill and empty mailboxes.
So two runs of one script that come to their end in autonomous post the same messages
(`Pilot.posts_follow_text`).
-/

namespace MatchRobot

/-! ### What is seen of a message -/

/-- Where a message goes, what it says, and whether its sender waits for an answer. -/
structure Outline where
  box : Address
  command : Command
  asks : Bool

/-- The outline of a message that is posted. -/
def Outline.of (x : Address × Message) : Outline :=
  ⟨x.1, x.2.command, x.2.expectsReply⟩

/-! ### Lines -/

/-- How the interpreter takes a line. -/
inductive Reading
  /-- The line is blank or a comment. -/
  | passed
  /-- It has no keyword. -/
  | refused (e : ParseError)
  | command (key : Keyword) (args : List Char)

/-- How a line is taken. -/
def Script.reading (how : KeywordMatch) (cs : List Char) : Reading :=
  if isSkippable cs || Interpreter.isComment cs then .passed
  else match splitKeyword how cs with
    | .error e => .refused e
    | .ok (key, args) => .command key args

namespace Statement

/-- The messages that a statement posts. -/
def outlines (config : AutoConfig) : Statement → List Outline
  | .begin => [⟨.drivetrain, .auto .run, false⟩]
  | .finish => [⟨.drivetrain, .auto .complete, false⟩]
  | .move left right => [⟨.drivetrain, .drive (.autoMove (-left) right), false⟩]
  | .measuredMove params => [⟨.drivetrain, .drive (.measuredMove params), true⟩]
  | .proximityMove params => [⟨.drivetrain, .drive (.proximityMove params), true⟩]
  | .timedMove speed time => [⟨.drivetrain, .drive (.timedMove speed time), false⟩]
  | .turn angle timeout => [⟨.drivetrain, .drive (.turn angle timeout), true⟩]
  | .releaseGear => [⟨.gearIntake, .gear (.release config.gearSpeed), false⟩]
  | .holdGear => [⟨.gearIntake, .gear (.hold config.gearSpeed), false⟩]
  | .hangGear => [⟨.gearFloor, .floor .hangGear, false⟩]
  | .climber => [⟨.climber, .climber (.pulse config.climberSpeed), false⟩]
  | .mode _ | .debug _ | .message _ | .delay _ | .nop => []

/-- Whether a statement ends the script. -/
def ends : Statement → Bool
  | .finish => true
  | _ => false

/-- The statement that ends a script is the one of its keyword. -/
lemma ends_of_parse {key : Keyword} {args : List Char} {s : Statement}
    (h : parse key args = .ok s) : s.ends = (key == .finish) := by
  obtain ⟨xs, -, built⟩ := bind_eq_ok.1 h
  cases key with
  | move =>
    simp only [build] at built
    split at built
    · cases built
    · cases built
      rfl
  | _ =>
    cases built
    rfl

end Statement

/-- What a line contributes to a script. -/
structure Share where
  posts : List Outline
  /-- How often the line is dispatched. -/
  dispatches : Nat
  /-- Whether the script ends with the line. -/
  ends : Bool

/-- The share of a line that is taken in the given way. -/
def Reading.share (config : AutoConfig) : Reading → Share
  | passed => ⟨[], 0, false⟩
  | refused _ => ⟨[], 0, true⟩
  | command key args =>
    ⟨match Statement.parse key args with
      | .ok s => s.outlines config
      | .error _ => [], 1, key == .finish⟩

/-! ### Scripts -/

/-- What a script leads to. -/
structure Course where
  posts : List Outline
  dispatches : Nat
  ending : RunEnd

/-- A line and what comes after it, which is nothing if the line ends the script. -/
def Share.before (s : Share) (c : Course) : Course :=
  if s.ends then ⟨s.posts, s.dispatches, .terminated⟩
  else ⟨s.posts ++ c.posts, s.dispatches + c.dispatches, c.ending⟩

/-- The share of a line of a script. -/
def Script.share (config : AutoConfig) (line : String) : Share :=
  (reading config.keywordMatch line.toList).share config

/-- The course of a script, line by line. -/
def Script.course (config : AutoConfig) : List String → Course
  | [] => ⟨[], 0, .exhausted⟩
  | line :: rest => (share config line).before (course config rest)

lemma Share.before_of_ends {s : Share} (h : s.ends = true) (c : Course) :
    s.before c = ⟨s.posts, s.dispatches, .terminated⟩ :=
  if_pos h

lemma Share.before_of_goes_on {s : Share} (h : s.ends = false) (c : Course) :
    s.before c = ⟨s.posts ++ c.posts, s.dispatches + c.dispatches, c.ending⟩ :=
  if_neg (by simp [h])

/-! ### Lines under way -/

namespace Evaluation

/-- The messages that a line under way is to post when its wait is over. -/
def later (config : AutoConfig) : Evaluation → List Outline
  | held key args _ => ((Reading.command key args).share config).posts
  | _ => []

/-- The messages that a line under way is still to post. -/
def ahead (config : AutoConfig) (wait : Wait) (e : Evaluation) : List Outline :=
  (wait.posted .sent).map Outline.of ++ e.later config

/-- Whether the script ends with the line under way. -/
def ends : Evaluation → Bool
  | held key _ _ => key == .finish
  | posting (.finish _) => true
  | _ => false

/-- What a line under way is still to contribute. -/
def share (config : AutoConfig) (wait : Wait) (e : Evaluation) : Share :=
  ⟨e.ahead config wait, e.toDispatch, e.ends⟩

/-- Whether its alarm is armed makes no difference to what a line is still to post. -/
lemma ahead_of_rearmed (config : AutoConfig) (e : Evaluation) {wait wait' : Wait}
    (h : wait.Rearmed wait') : e.ahead config wait' = e.ahead config wait := by
  cases h <;> rfl

/-- What the end of a wait posts comes first. -/
lemma ahead_of_ended (config : AutoConfig) (e : Evaluation) {wait : Wait} {wake : Wake} {v w : World}
    (ended : v.Ended wait wake w) :
    (wait.posted wake).map Outline.of ++ e.later config = e.ahead config wait := by
  cases ended <;> rfl

end Evaluation

/-! ### The interpreter -/

namespace Interpreter

/-- Work on a line keeps to the line: the messages `os` are still to be posted, and the script ends with
the line if `ends` says so. -/
structure Follows (config : AutoConfig) (os : List Outline) (ends : Bool)
    (stage : Stage Evaluation Bool Interpreter) : Prop where
  same : stage.2.1.config = config
  waiting : ∀ wait e, stage.1 = .waiting wait e → e.ahead config wait = os ∧ e.ends = ends
  finished : ∀ stop, stage.1 = .finished stop → os = [] ∧ stop = ends

section

variable {config : AutoConfig} {i : Interpreter} {w : World}
  {stage : Stage Evaluation Bool Interpreter}

lemma follows_finished {stop : Bool} (h : i.config = config) :
    Follows config [] stop (.finished stop, i, w) where
  same := h
  waiting := by
    intro wait e he
    cases he
  finished := by
    intro b hb
    cases hb
    exact ⟨rfl, rfl⟩

lemma follows_waiting {wait : Wait} {e : Evaluation} {os : List Outline} {ends : Bool}
    (h : i.config = config) (ahead : e.ahead config wait = os) (stops : e.ends = ends) :
    Follows config os ends (.waiting wait e, i, w) where
  same := h
  waiting := by
    intro wait' e' he
    cases he
    exact ⟨ahead, stops⟩
  finished := by
    intro b hb
    cases hb

/-- A delay posts nothing, and the script goes on after it. -/
lemma follows_delay {waited total : Micros} (h : i.config = config)
    (done : i.delay waited total w = .ok stage) : Follows config [] false stage := by
  unfold delay at done
  split at done
  · split at done
    · obtain ⟨wait, hwait, done⟩ := bind_eq_ok.1 done
      obtain ⟨alarm, rfl⟩ := Wait.eq_resume_of_resumeFor hwait
      cases done
      exact follows_waiting h rfl rfl
    · obtain ⟨wait, hwait, done⟩ := bind_eq_ok.1 done
      obtain ⟨alarm, rfl⟩ := Wait.isSleep_of_sleepFor hwait
      cases done
      exact follows_waiting h rfl rfl
  · cases done
    exact follows_finished h

/-- A command that nobody answers is posted. -/
lemma follows_send {a : Address} {c : Command} {next : AfterPost} (h : i.config = config)
    (done : i.send a c next w = .ok stage) :
    Follows config [⟨a, c, false⟩] (Evaluation.posting next).ends stage := by
  cases done
  exact follows_waiting h rfl rfl

/-- A call posts one message to the drivetrain. -/
lemma follows_call {c : DriveCommand} {ok failed : String} (h : i.config = config)
    (done : i.call c ok failed w = .ok stage) :
    Follows config [⟨.drivetrain, .drive c, true⟩] false stage := by
  obtain ⟨⟨p, caller, u⟩, started, done⟩ := bind_eq_ok.1 done
  obtain ⟨call, -, -, rfl, rfl⟩ := Call.start_one_eq_ok started
  cases done
  exact follows_waiting (i := { i with caller := caller }) h rfl rfl

/-- Collecting replies posts nothing, whatever the replies are. -/
lemma follows_collect {c : Call} {limit : Option Alarm} {ok failed : String}
    (h : i.config = config) : Follows config [] false (i.follow ok failed w (c.collect limit)) := by
  rcases c.collect_cases limit with ⟨-, waits⟩ | ⟨-, done⟩
  · rw [waits]
    exact follows_waiting h rfl rfl
  · rw [done]
    exact follows_finished h

/-- A statement posts what it is there for. -/
lemma follows_execute {s : Statement} {line : String} (h : i.config = config)
    (done : i.execute s line w = .ok stage) : Follows config (s.outlines config) s.ends stage := by
  cases s with
  | mode block =>
    cases done
    exact follows_finished (i := { i with modeBlock := block }) h
  | debug on | message text | nop =>
    cases done
    exact follows_finished h
  | delay secs => exact follows_delay h done
  | measuredMove params | proximityMove params | turn angle timeout => exact follows_call h done
  | releaseGear | holdGear | climber =>
    subst h
    exact follows_send rfl done
  | _ => exact follows_send h done

/-- The parameters of a line decide whether it posts anything. -/
lemma follows_dispatch {key : Keyword} {args : List Char} {line : String} (h : i.config = config)
    (done : i.dispatch key args line w = .ok stage) :
    Follows config ((Reading.command key args).share config).posts (key == .finish) stage := by
  have counted : ({ i with dispatched := i.dispatched + 1 } : Interpreter).config = config := h
  cases parsed : Statement.parse key args with
  | ok s =>
    have posts : ((Reading.command key args).share config).posts = s.outlines config := by
      simp only [Reading.share, parsed]
    rw [posts, ← Statement.ends_of_parse parsed]
    simp only [dispatch, parsed] at done
    exact follows_execute counted done
  | error e =>
    have posts : ((Reading.command key args).share config).posts = [] := by
      simp only [Reading.share, parsed]
    have other : (key == .finish) = false := by
      rw [beq_eq_false_iff_ne]
      rintro rfl
      cases parsed
    rw [posts, other]
    simp only [dispatch, parsed] at done
    cases done
    exact follows_finished counted

/-- A pause holds a line back, and changes nothing of what it is to post. -/
lemma follows_proceed {key : Keyword} {args : List Char} {line : String} (h : i.config = config)
    (done : i.proceed key args line w = .ok stage) :
    Follows config ((Reading.command key args).share config).posts (key == .finish) stage := by
  unfold proceed at done
  split at done
  · obtain ⟨wait, hwait, done⟩ := bind_eq_ok.1 done
    obtain ⟨alarm, rfl⟩ := Wait.eq_resume_of_resumeFor hwait
    cases done
    exact follows_waiting (e := .held key args line) h rfl rfl
  · exact follows_dispatch h done

/-- What the interpreter makes of a line that the sequencer hands over. -/
lemma evaluate_of_reading {line : String} (carried : Script.isSkippable line.toList = false) :
    i.evaluate line w = match Script.reading i.config.keywordMatch line.toList with
      | .passed => .ok (.finished false, i, w)
      | .refused e => .ok (.finished true, i, i.refuse e line w)
      | .command key args => i.proceed key args line w := by
  have nonempty : line.toList ≠ [] := by
    intro empty
    rw [empty] at carried
    cases carried
  simp only [evaluate, Script.reading, carried, Bool.false_or, if_neg nonempty]
  split
  · rfl
  · cases Script.splitKeyword i.config.keywordMatch line.toList <;> rfl

/-- A line that the sequencer hands over is worked on as its text says, and counted as such. -/
lemma follows_evaluate {line : String} (carried : Script.isSkippable line.toList = false)
    (done : i.evaluate line w = .ok stage) :
    Follows i.config (Script.share i.config line).posts (Script.share i.config line).ends stage ∧
      stage.2.1.dispatched + stage.1.left Evaluation.toDispatch =
        i.dispatched + (Script.share i.config line).dispatches ∧
      stage.2.2.mode = w.mode := by
  rw [evaluate_of_reading carried] at done
  unfold Script.share
  cases taken : Script.reading i.config.keywordMatch line.toList with
  | passed =>
    rw [taken] at done
    cases done
    exact ⟨follows_finished rfl, rfl, rfl⟩
  | refused e =>
    rw [taken] at done
    cases done
    exact ⟨follows_finished rfl, rfl, (kept_refuse e line (.refl w)).mode⟩
  | command key args =>
    rw [taken] at done
    have advanced := advances_proceed (.refl w) done
    exact ⟨follows_proceed rfl done, advanced.dispatched, advanced.kept.mode⟩

/-- Going on with a line, whose message is posted, leaves the others to come. -/
lemma follows_resume {e : Evaluation} {wait : Wait} {wake : Wake} (fit : e.Fits wait)
    (done : i.resume e wake w = .ok stage) :
    Follows i.config (e.later i.config) e.ends stage := by
  cases fit with
  | held => exact follows_proceed rfl done
  | @posting next a m errand =>
    cases next with
    | report s =>
      cases done
      exact follows_finished rfl
    | finish line =>
      cases done
      exact follows_finished rfl
    | settle =>
      obtain ⟨wait, hwait, done⟩ := bind_eq_ok.1 done
      obtain ⟨alarm, rfl⟩ := Wait.isSleep_of_sleepFor hwait
      cases done
      exact follows_waiting rfl rfl rfl
  | delayHeld => exact follows_delay rfl done
  | delaying => exact follows_delay rfl done
  | @asking c ok failed command last short =>
    obtain ⟨⟨p, u⟩, resumed, done⟩ := bind_eq_ok.1 done
    simp only [Call.resume, last] at resumed
    obtain ⟨rfl, limit, rfl⟩ := Call.post_nil_eq_ok resumed
    cases done
    exact follows_collect rfl
  | @collecting c ok failed limit posted =>
    obtain ⟨⟨p, u⟩, resumed, done⟩ := bind_eq_ok.1 done
    cases done
    unfold Call.resume at resumed
    split at resumed
    · next pending =>
      rw [posted] at pending
      cases pending
    · cases resumed
      exact follows_collect rfl
    · cases resumed
      exact follows_finished rfl
  | settling =>
    cases done
    exact follows_finished rfl

end

end Interpreter

/-! ### Script runs -/

namespace Pilot

/-- The course that a run has still before it. -/
inductive Due (config : AutoConfig) : Progress Run RunResult → Course → Prop
  | within (wait : Wait) (r : Run) : Due config (.waiting wait r)
      ((r.line.share config wait).before (Script.course config (r.rest.map Prod.snd)))
  | ended {why : RunEnd} : Due config (.finished (.ok why)) ⟨[], 0, why⟩

/-- A run is to post the messages `os` yet, and to end in the given way with so many lines dispatched. -/
def OnCourse (config : AutoConfig) (os : List Outline) (total : Nat) (ending : RunEnd)
    (stage : Stage Run RunResult Pilot) : Prop :=
  stage.2.1.interpreter.config = config ∧ ∃ n, Due config stage.1 ⟨os, n, ending⟩ ∧
    stage.2.1.interpreter.dispatched + n = total

variable {p : Pilot} {w : World} {stage : Stage Run RunResult Pilot} {os : List Outline}
  {total : Nat} {ending : RunEnd}

/-- A run goes on from the work on a line as the line and the rest of the script say. -/
lemma onCourse_of_follows (share : Share) {lines : List (Nat × String)}
    {line : Stage Evaluation Bool Interpreter}
    (follows : Interpreter.Follows p.interpreter.config share.posts share.ends line)
    (count : line.2.1.dispatched + line.1.left Evaluation.toDispatch =
      p.interpreter.dispatched + share.dispatches)
    (rest : ∀ {q : Pilot}, q.interpreter = line.2.1 → line.1 = .finished false →
      q.advance line.2.2 lines = .ok stage →
      OnCourse q.interpreter.config (Script.course q.interpreter.config (lines.map Prod.snd)).posts
        (q.interpreter.dispatched +
          (Script.course q.interpreter.config (lines.map Prod.snd)).dispatches)
        (Script.course q.interpreter.config (lines.map Prod.snd)).ending stage)
    (done : (match line.1 with
      | .waiting wait e => pure
          (.waiting wait ⟨e, lines⟩, { p with interpreter := line.2.1 }, line.2.2)
      | .finished true => pure (finish { p with interpreter := line.2.1 } .terminated line.2.2)
      | .finished false => advance { p with interpreter := line.2.1 } line.2.2 lines :
        Except Fault (Stage Run RunResult Pilot)) = .ok stage) :
    let whole := share.before (Script.course p.interpreter.config (lines.map Prod.snd))
    OnCourse p.interpreter.config whole.posts (p.interpreter.dispatched + whole.dispatches)
      whole.ending stage := by
  obtain ⟨progress, i, u⟩ := line
  have same : i.config = p.interpreter.config := follows.same
  cases progress with
  | waiting wait e =>
    obtain ⟨ahead, ends⟩ := follows.waiting wait e rfl
    have counted : i.dispatched + e.toDispatch = p.interpreter.dispatched + share.dispatches :=
      count
    cases done
    have within : Due p.interpreter.config _ _ := .within wait ⟨e, lines⟩
    cases stop : share.ends with
    | true =>
      rw [Share.before_of_ends (ends.trans stop)] at within
      rw [Share.before_of_ends stop]
      exact ⟨same, _, ahead ▸ within, counted⟩
    | false =>
      rw [Share.before_of_goes_on (ends.trans stop)] at within
      rw [Share.before_of_goes_on stop, ← ahead]
      refine ⟨same, _, within, ?_⟩
      simp only [Evaluation.share]
      omega
  | finished stop =>
    obtain ⟨none, ends⟩ := follows.finished stop rfl
    have counted : i.dispatched = p.interpreter.dispatched + share.dispatches := count
    cases stop with
    | true =>
      cases done
      rw [Share.before_of_ends ends.symm, none]
      exact ⟨same, 0, .ended, counted⟩
    | false =>
      have rest := rest (q := { p with interpreter := i }) rfl rfl done
      rw [Share.before_of_goes_on ends.symm, none, List.nil_append]
      simp only [same] at rest
      rwa [counted, Nat.add_assoc] at rest

/-- Walking from line to line, a run is on the course of its lines. -/
lemma onCourse_of_advance {lines : List (Nat × String)} (auto : w.mode.inAuto = true)
    (done : p.advance w lines = .ok stage) :
    let whole := Script.course p.interpreter.config (lines.map Prod.snd)
    OnCourse p.interpreter.config whole.posts (p.interpreter.dispatched + whole.dispatches)
      whole.ending stage := by
  induction lines generalizing p w with
  | nil =>
    cases done
    exact ⟨rfl, 0, .ended, rfl⟩
  | cons head rest ih =>
    obtain ⟨n, line⟩ := head
    simp only [advance, auto, Bool.not_true, Bool.false_eq_true, if_false] at done
    split at done
    · next skippable =>
      have nothing : Script.share p.interpreter.config line = ⟨[], 0, false⟩ := by
        simp [Script.share, Script.reading, skippable, Reading.share]
      simp only [List.map_cons, Script.course, nothing, Share.before, Bool.false_eq_true, if_false,
        List.nil_append, Nat.zero_add]
      exact ih auto done
    · next carried =>
      obtain ⟨b, evaluated, done⟩ := bind_eq_ok.1 done
      obtain ⟨follows, count, still⟩ :=
        Interpreter.follows_evaluate (by simpa using carried) evaluated
      refine onCourse_of_follows _ follows count (fun {q} hq _ done => ?_) done
      exact ih (by rw [still]; exact auto) done

/-- The numbers of the lines can be forgotten. -/
lemma map_snd_numbered (s : StoredScript) : s.numbered.map Prod.snd = s.lines := by
  simp [StoredScript.numbered, Function.comp_def]

/-- A run begins on the course of its script. -/
lemma onCourse_of_run_start (auto : w.mode.inAuto = true) (loaded : p.sequencer.phase = .loading)
    (done : p.run w = .ok stage) :
    let whole := Script.course p.interpreter.config p.sequencer.script.lines
    OnCourse p.interpreter.config whole.posts whole.dispatches whole.ending stage := by
  simp only [run, if_pos loaded] at done
  have onCourse := onCourse_of_advance auto done
  rw [map_snd_numbered] at onCourse
  simpa [Interpreter.restart] using onCourse

/-- In autonomous, going on with a run posts what is due next and stays on the course. -/
lemma onCourse_of_resume {config : AutoConfig} {r : Run} {wait : Wait} {wake : Wake} {v : World}
    (fit : r.line.Fits wait) (ended : v.Ended wait wake w) (auto : w.mode.inAuto = true)
    (before : OnCourse config os total ending (.waiting wait r, p, v))
    (done : p.resume r wake w = .ok stage) :
    ∃ os', (wait.posted wake).map Outline.of ++ os' = os ∧
      OnCourse config os' total ending stage := by
  obtain ⟨rfl, n, due, sum⟩ := before
  obtain ⟨b, resumed, done⟩ := bind_eq_ok.1 done
  have advanced := Interpreter.advances_resume fit resumed
  have follows := Interpreter.follows_resume fit resumed
  have posted := Evaluation.ahead_of_ended p.interpreter.config r.line ended
  have sum : p.interpreter.dispatched + n = total := sum
  have onCourse := onCourse_of_follows
    ⟨r.line.later p.interpreter.config, r.line.toDispatch, r.line.ends⟩ follows advanced.dispatched
    (fun {q} _ _ done => onCourse_of_advance (by rw [advanced.kept.mode]; exact auto) done) done
  generalize tail : Script.course p.interpreter.config (r.rest.map Prod.snd) = rest at onCourse
  generalize whole : (⟨os, n, ending⟩ : Course) = course at due
  cases due with
  | within =>
    rw [tail] at whole
    cases stop : r.line.ends with
    | true =>
      rw [Share.before_of_ends (by exact stop)] at onCourse whole
      cases whole
      refine ⟨_, posted, ?_⟩
      rw [← sum]
      exact onCourse
    | false =>
      rw [Share.before_of_goes_on (by exact stop)] at onCourse whole
      cases whole
      refine ⟨r.line.later p.interpreter.config ++ rest.posts, ?_, ?_⟩
      · rw [← List.append_assoc, posted]
        rfl
      · rw [← sum]
        exact onCourse

/-- All through a run in autonomous, what has been posted and what is still due are together what the
script posts. -/
lemma onCourse_of_run {config : AutoConfig} {a b : Stage Run RunResult Pilot}
    {t : List (Address × Message)} (fits : ∀ wait r, a.1 = .waiting wait r → r.line.Fits wait)
    (auto : a.2.2.mode.inAuto = true) (begun : OnCourse config os total ending a)
    (run : routine.Run (Around fun m => m.inAuto = true) a t b) :
    b.2.2.mode.inAuto = true ∧
      ∃ os', t.map Outline.of ++ os' = os ∧ OnCourse config os' total ending b := by
  induction run with
  | start => exact ⟨auto, os, rfl, begun⟩
  | look run step ih =>
    obtain ⟨still, os', posted, before⟩ := ih
    have fit := fits_of_run run fits
    cases step with
    | @pending wait wait' r p v u looked =>
      obtain ⟨rearmed, kept⟩ := World.rearmed_of_poll looked
      refine ⟨by rw [kept.mode]; exact still, os', by rw [List.append_nil]; exact posted, ?_⟩
      obtain ⟨same, n, due, sum⟩ := before
      refine ⟨same, n, ?_, sum⟩
      have within : Due config _ _ := .within wait' r
      rw [Evaluation.share, Evaluation.ahead_of_rearmed config r.line rearmed] at within
      generalize (⟨os', n, ending⟩ : Course) = course at due ⊢
      cases due
      exact within
    | @woken wait wake r p v u stage looked worked =>
      have ended := World.ended_of_poll looked
      have woken : u.mode.inAuto = true := by
        rw [ended.mode]
        exact still
      obtain ⟨os'', later, after⟩ := onCourse_of_resume (fit _ _ rfl) ended woken before worked
      refine ⟨?_, os'', ?_, after⟩
      · rw [(keeps_resume p (fit _ _ rfl) _ _ _ worked).1.mode]
        exact woken
      · rw [List.map_append, List.append_assoc]
        exact (congrArg _ later).trans posted
  | around run change ih =>
    obtain ⟨-, os', posted, before⟩ := ih
    obtain ⟨same, allowed⟩ := change
    refine ⟨allowed, os', posted, ?_⟩
    subst same
    exact before

/-- A run that has come to its end in autonomous has followed the course of its script. -/
lemma course_of_finished {config : AutoConfig} {first b : Stage Run RunResult Pilot}
    {t : List (Address × Message)} {why : RunEnd} (same : p.interpreter.config = config)
    (auto : w.mode.inAuto = true) (begun : p.run w = .ok first)
    (run : routine.Run (Around fun m => m.inAuto = true) first t b)
    (ended : b.1 = .finished (.ok why)) :
    Script.course config p.sequencer.script.lines =
      ⟨t.map Outline.of, b.2.1.interpreter.dispatched, why⟩ := by
  subst same
  by_cases loaded : p.sequencer.phase = .loading
  · have kept := keeps_run p w _ _ _ begun
    have onCourse := onCourse_of_run_start auto loaded begun
    obtain ⟨-, os, posted, -, n, due, sum⟩ :=
      onCourse_of_run kept.2 (by rw [kept.1.mode]; exact auto) onCourse run
    rw [ended] at due
    cases due
    rw [List.append_nil] at posted
    rw [posted, ← Nat.add_zero b.2.1.interpreter.dispatched, sum]
  · -- Without a freshly loaded script nothing is run, and the result is an error.
    have refused : first = (.finished (.error .notLoaded), p, w) := by
      simp only [Pilot.run, if_neg loaded, Except.ok.injEq] at begun
      exact begun.symm
    have still : b.1 = .finished (.error .notLoaded) := by
      clear ended
      subst refused
      induction run with
      | start => rfl
      | look run step ih =>
        cases step with
        | pending => cases ih
        | woken => cases ih
      | around run change ih => exact ih
    rw [still] at ended
    cases ended

/-! ### Two runs of one script -/

/-- What a script posts depends only on its text: two runs of it that come to their end in autonomous
post the same messages, and end in the same way. These are the messages of its lines in their order,
and every line is dispatched as often as its text says, however often the runs are held up and
whatever is answered. -/
theorem posts_follow_text {p q : Pilot} {v w : World} {first first' b b' : Stage Run RunResult Pilot}
    {t l : List (Address × Message)} {why why' : RunEnd}
    (script : q.sequencer.script = p.sequencer.script)
    (config : q.interpreter.config = p.interpreter.config)
    (auto : v.mode.inAuto = true) (begun : p.run v = .ok first)
    (run : routine.Run (Around fun m => m.inAuto = true) first t b)
    (ended : b.1 = .finished (.ok why))
    (auto' : w.mode.inAuto = true) (begun' : q.run w = .ok first')
    (run' : routine.Run (Around fun m => m.inAuto = true) first' l b')
    (ended' : b'.1 = .finished (.ok why')) :
    l.map Outline.of = t.map Outline.of ∧ why' = why ∧
      Script.course p.interpreter.config p.sequencer.script.lines =
        ⟨t.map Outline.of, b.2.1.interpreter.dispatched, why⟩ ∧
      b'.2.1.interpreter.dispatched = b.2.1.interpreter.dispatched := by
  have here := course_of_finished rfl auto begun run ended
  have there := course_of_finished config auto' begun' run' ended'
  rw [script, here] at there
  simp only [Course.mk.injEq] at there
  obtain ⟨posts, dispatches, ending⟩ := there
  exact ⟨posts.symm, ending.symm, here, dispatches.symm⟩

/-- A script that calls the drivetrain, releases a gear and ends. -/
def errand : Pilot :=
  loaded ["MMOVE 0.5 1000 0.5", "RGEAR", "END"]

/-- In autonomous, something else happens. -/
def inAuto (change : World → World) : Routine.Move Pilot :=
  .around fun x => (x.1, { change x.2 with mode := .autonomous })

/-- The first call is answered. -/
def answered (w : World) : World :=
  { w with
    post := w.post.setQueue .autoParser [{ command := Reply.ok.toCommand, callId := 1 }] }

/-- The time comes at which replies are no longer waited for. -/
def overdue (w : World) : World :=
  { w with now := 15 * Clock.second }

/-- Whether a run has come to the end of that script with all its messages posted. -/
def errandDone (x : List (Address × Message) × Stage Run RunResult Pilot) : Bool :=
  x.1.length == 3 && match x.2.1 with
    | .finished (.ok .terminated) => true
    | _ => false

lemma terminated_of_errandDone {t : List (Address × Message)} {b : Stage Run RunResult Pilot}
    (h : errandDone (t, b) = true) : t.length = 3 ∧ b.1 = .finished (.ok .terminated) := by
  obtain ⟨posted, ended⟩ := Bool.and_eq_true_iff.1 h
  refine ⟨beq_iff_eq.1 posted, ?_⟩
  split at ended
  · next terminated => exact terminated
  · cases ended

/-- The script posts the same whether its call is answered well at once, or a pause holds it up and its
call is never answered. -/
theorem errand_follows_text : ∃ first t b first' l b',
    errand.run { mode := .autonomous } = .ok first ∧
    routine.Run (Around fun m => m.inAuto = true) first t b ∧
    errand.run pausedInAuto = .ok first' ∧
    routine.Run (Around fun m => m.inAuto = true) first' l b' ∧
    t.length = 3 ∧ l.map Outline.of = t.map Outline.of := by
  have prompt : ((errand.run { mode := .autonomous }).toOption.any fun first =>
      (routine.play [.look, inAuto answered, .look, .look, .look] first).any errandDone) = true := by
    decide +kernel
  have slow : ((errand.run pausedInAuto).toOption.any fun first =>
      (routine.play [.look, inAuto World.unpause, .look, .look, .look, inAuto overdue, .look, .look,
        .look] first).any errandDone) = true := by
    decide +kernel
  obtain ⟨first, t, b, begun, run, passed⟩ :=
    Routine.exists_run_of_begun (Around fun m => m.inAuto = true) prompt
      (by simp [inAuto, Around, Mode.inAuto])
  obtain ⟨first', l, b', begun', run', passed'⟩ :=
    Routine.exists_run_of_begun (Around fun m => m.inAuto = true) slow
      (by simp [inAuto, Around, Mode.inAuto])
  obtain ⟨posted, ended⟩ := terminated_of_errandDone passed
  obtain ⟨-, ended'⟩ := terminated_of_errandDone passed'
  exact ⟨first, t, b, first', l, b', begun, run, begun', run', posted,
    (posts_follow_text rfl rfl rfl begun run ended rfl begun' run' ended').1⟩

end Pilot

end MatchRobot
