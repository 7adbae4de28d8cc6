import MatchRobot.Proofs.Autonomy.Course
import MatchRobot.Proofs.Script.Words

/-!
# One line at a time

What the interpreter owes to whoever hands it a line, which may be any text: whether the script is over
with it, how often it is dispatched, and what it posts. All three are settled by the text of the line
(`Script.Stops`, `Script.splitKeyword`, `Keyword.errand?`), and the surroundings only decide how long it
takes: they may pause and resume, fill and empty mailboxes, answer or not.

`Interpreter.follows_of_run` carries this through a run of the interpreter on its line, and
`Interpreter.evaluate_as_written` puts it together. A line that is to stop the script can do so from
wherever it is held up (`Interpreter.can_stop`).
-/

namespace MatchRobot

/-! ### What a line says -/

/-- Where the command of a keyword goes, if it has one, and whether its sender waits for an answer. -/
def Keyword.errand? : Keyword → Option (Address × Bool)
  | begin | finish | move | timedMove => some (.drivetrain, false)
  | measuredMove | proximityMove | turn => some (.drivetrain, true)
  | releaseGear | holdGear => some (.gearIntake, false)
  | hangGear => some (.gearFloor, false)
  | climber => some (.climber, false)
  | mode | debug | message | delay | nop => none

/-- A statement posts what its keyword is there for. -/
lemma Statement.errand_of_parse (config : AutoConfig) {key : Keyword} {args : List Char} {s : Statement}
    (parsed : parse key args = .ok s) :
    (s.outlines config).map (fun o => (o.box, o.asks)) = key.errand?.toList := by
  obtain ⟨xs, -, built⟩ := bind_eq_ok.1 parsed
  cases key with
  | move =>
    simp only [build] at built
    split at built
    · cases built
    · cases built
      rfl
  | _ =>
    cases built
    rfl

namespace Script

/-- The interpreter passes over a line: it is empty, or a comment. -/
def Passed (cs : List Char) : Prop :=
  cs = [] ∨ (Text.dropBlanks cs).head? = some comment

/-- A line stops the script: it is not passed over, and it has no keyword or the one that ends a script. -/
def Stops (how : KeywordMatch) (cs : List Char) : Prop :=
  ¬ Passed cs ∧
    ((∃ e, splitKeyword how cs = .error e) ∨ ∃ args, splitKeyword how cs = .ok (.finish, args))

/-- A line posts nothing: it is passed over, it has no keyword, or its parameters are wrong. -/
def Silent (how : KeywordMatch) (cs : List Char) : Prop :=
  Passed cs ∨ (∃ e, splitKeyword how cs = .error e) ∨
    ∃ key args e, splitKeyword how cs = .ok (key, args) ∧ Statement.parse key args = .error e

/-! ### Comments -/

/-- A keyword opens neither with a blank nor like a comment. -/
lemma exists_head (key : Keyword) :
    ∃ c more, key.chars = c :: more ∧ Text.isBlank c = false ∧ c ≠ comment := by
  cases key <;> exact ⟨_, _, rfl, by decide, by decide⟩

/-- A word that opens with a blank or like a comment names no keyword. -/
lemma lookup_eq_none {how : KeywordMatch} {c : Char} {w : List Char}
    (odd : Text.isBlank c = true ∨ c = comment) : Keyword.lookup how (c :: w) = none := by
  refine List.find?_eq_none.2 fun key _ fits => ?_
  obtain ⟨d, more, spelled, unblank, other⟩ := exists_head key
  have same : d = c := by
    cases how with
    | exact =>
      have whole : c :: w = key.chars := beq_iff_eq.1 fits
      rw [spelled] at whole
      exact (List.cons.inj whole).1.symm
    | leading =>
      have front : key.chars <+: c :: w := List.isPrefixOf_iff_prefix.1 fits
      rw [spelled] at front
      exact (List.cons_prefix_cons.1 front).1
  subst same
  rcases odd with blank | opens
  · rw [unblank] at blank
    cases blank
  · exact other opens

/-- Where the first word of a comment begins there is a blank or the mark of the comment. -/
lemma head_skip_comment {cs : List Char} (marked : (Text.dropBlanks cs).head? = some comment) :
    ∃ c more, skip cs = c :: more ∧ (Text.isBlank c = true ∨ c = comment) := by
  obtain ⟨text, left⟩ := List.head?_eq_some_iff.1 marked
  have split : cs = cs.takeWhile Text.isBlank ++ comment :: text := by
    rw [← left, Text.dropBlanks, List.takeWhile_append_dropWhile]
  have blank : ∀ c ∈ cs.takeWhile Text.isBlank, Text.isBlank c = true :=
    fun c hc => List.mem_takeWhile_imp hc
  generalize cs.takeWhile Text.isBlank = blanks at split blank
  rw [split, skip, List.dropWhile_append]
  cases stuck : blanks.dropWhile isDelimiter with
  | nil => exact ⟨comment, text, rfl, .inr rfl⟩
  | cons c more =>
    have first : c ∈ blanks.dropWhile isDelimiter := stuck ▸ List.mem_cons_self ..
    exact ⟨c, more ++ comment :: text, rfl, .inl (blank c ((List.dropWhile_sublist _).mem first))⟩

/-- A line that is passed over has no keyword. -/
lemma splitKeyword_of_passed (how : KeywordMatch) {cs : List Char} (passed : Passed cs) :
    ∃ e, splitKeyword how cs = .error e := by
  rcases passed with rfl | marked
  · exact ⟨_, rfl⟩
  · obtain ⟨c, more, left, odd⟩ := head_skip_comment marked
    have solid : isDelimiter c = false := head_skip cs (by rw [left]; rfl)
    have first : word (c :: more) = c :: word more := by
      simp [word, solid]
    refine ⟨.unknownKeyword, ?_⟩
    simp only [splitKeyword, next, left, first, lookup_eq_none odd]

/-- A line with a keyword is not passed over. -/
lemma not_passed {how : KeywordMatch} {cs : List Char} {x : Keyword × List Char}
    (found : splitKeyword how cs = .ok x) : ¬ Passed cs := by
  intro passed
  obtain ⟨e, none⟩ := splitKeyword_of_passed how passed
  cases found.symm.trans none

end Script

namespace Interpreter

variable {i : Interpreter} {config : AutoConfig} {line : String} {w : World}
  {os : List Outline} {ends : Bool} {total : Nat} {a b first : Stage Evaluation Bool Interpreter}
  {t : List (Address × Message)}

/-! ### How a line begins -/

lemma isComment_iff {cs : List Char} :
    isComment cs = true ↔ (Text.dropBlanks cs).head? = some Script.comment := by
  rw [isComment, beq_iff_eq]

/-- The ways in which the interpreter takes a line. -/
inductive Takes (how : KeywordMatch) (cs : List Char) : Reading → Prop
  | passed (passed : Script.Passed cs) : Takes how cs .passed
  | refused {e : ParseError} (carried : ¬ Script.Passed cs) (none : Script.splitKeyword how cs = .error e) :
      Takes how cs (.refused e)
  | command {key : Keyword} {args : List Char} (found : Script.splitKeyword how cs = .ok (key, args)) :
      Takes how cs (.command key args)

/-- A line is worked on as it is taken, and counted as such. -/
lemma takes_of_evaluate (done : i.evaluate line w = .ok first) :
    ∃ r, Takes i.config.keywordMatch line.toList r ∧
      Follows i.config (r.share i.config).posts (r.share i.config).ends first ∧
      first.2.1.dispatched + first.1.left Evaluation.toDispatch =
        i.dispatched + (r.share i.config).dispatches ∧
      ∀ wait e, first.1 = .waiting wait e → e.Fits wait := by
  simp only [evaluate] at done
  split at done
  · next empty =>
    cases done
    exact ⟨_, .passed (.inl empty), follows_finished rfl, rfl,
      (advances_finished (k := 0) (.refl _)).fits⟩
  · next filled =>
    split at done
    · next marked =>
      cases done
      exact ⟨_, .passed (.inr (isComment_iff.1 marked)), follows_finished rfl, rfl,
        (advances_finished (k := 0) (.refl _)).fits⟩
    · next unmarked =>
      have carried : ¬ Script.Passed line.toList := by
        rintro (empty | marked)
        · exact filled empty
        · exact unmarked (isComment_iff.2 marked)
      cases found : Script.splitKeyword i.config.keywordMatch line.toList with
      | error e =>
        rw [found] at done
        cases done
        exact ⟨_, .refused carried found, follows_finished rfl, rfl,
          (advances_finished (k := 0) (.refl _)).fits⟩
      | ok x =>
        obtain ⟨key, args⟩ := x
        rw [found] at done
        have advanced := advances_proceed (.refl w) done
        exact ⟨_, .command found, follows_proceed rfl done, advanced.dispatched, advanced.fits⟩

/-! ### The run of a line -/

/-- The work on a line as a routine; noted are the messages that it posts. -/
def routine : Routine Evaluation Bool Interpreter (Address × Message) where
  resume e wake i w := i.resume e wake w
  notes wait _ wake _ _ := wait.posted wake

/-- What the surroundings may do while a line is worked on: whatever they like to the world, as long as
they leave the interpreter to itself. -/
def Aside (x y : Interpreter × World) : Prop :=
  y.1 = x.1

/-- The line is on its way: the messages `os` are still to be posted, `total` is what its dispatches will
come to, and where it waits, that fits its place. -/
structure UnderWay (config : AutoConfig) (os : List Outline) (ends : Bool) (total : Nat)
    (stage : Stage Evaluation Bool Interpreter) : Prop where
  follows : Follows config os ends stage
  counted : stage.2.1.dispatched + stage.1.left Evaluation.toDispatch = total
  fits : ∀ wait e, stage.1 = .waiting wait e → e.Fits wait

/-- A look at a line posts what comes first of what is still to be posted. -/
lemma underWay_of_step {l : List (Address × Message)} (before : UnderWay config os ends total a)
    (step : routine.Step a l b) :
    ∃ os', l.map Outline.of ++ os' = os ∧ UnderWay config os' ends total b := by
  obtain ⟨follows, counted, fits⟩ := before
  cases step with
  | @pending wait wait' e i v w looked =>
    obtain ⟨rearmed, -⟩ := World.rearmed_of_poll looked
    obtain ⟨ahead, stops⟩ := follows.waiting _ _ rfl
    refine ⟨os, rfl, follows_waiting follows.same ?_ stops, counted, ?_⟩
    · rw [e.ahead_of_rearmed config rearmed]
      exact ahead
    · intro wait'' e'' waits
      cases waits
      exact (fits _ _ rfl).rearmed rearmed
  | @woken wait wake e i v w stage looked worked =>
    have fit := fits _ _ rfl
    have advanced := advances_resume fit worked
    obtain rfl : i.config = config := follows.same
    obtain ⟨ahead, stops⟩ := follows.waiting _ _ rfl
    refine ⟨e.later i.config, ?_, ?_, advanced.dispatched.trans counted, advanced.fits⟩
    · rw [← ahead]
      exact e.ahead_of_ended i.config (World.ended_of_poll looked)
    · rw [← stops]
      exact follows_resume fit worked

/-- All through the work on a line, what it has posted and what it is still to post are together what it
was to post at first. -/
lemma follows_of_run (begun : UnderWay config os ends total a) (run : routine.Run Aside a t b) :
    ∃ os', t.map Outline.of ++ os' = os ∧ UnderWay config os' ends total b := by
  induction run with
  | start => exact ⟨os, rfl, begun⟩
  | look run step ih =>
    obtain ⟨os', posted, before⟩ := ih
    obtain ⟨os'', next, after⟩ := underWay_of_step before step
    refine ⟨os'', ?_, after⟩
    rw [List.map_append, List.append_assoc, next, posted]
  | around run change ih =>
    obtain ⟨os', posted, before⟩ := ih
    have same := before.follows.same
    cases change
    exact ⟨os', posted, ⟨same, before.follows.waiting, before.follows.finished⟩, before.counted,
      before.fits⟩

/-! ### Lines that stop the script -/

/-- With the mailboxes emptied there is room for a message. -/
lemma exists_post (w : World) (box : Address) (m : Message) :
    ∃ u, ({ w with post := .empty } : World).post? box m = some u := by
  have room : PostOffice.empty.hasRoom box = true := by
    simp [PostOffice.hasRoom, PostOffice.count, Settings.mailboxDepth]
  exact ⟨_, by rw [World.post?, PostOffice.post?, if_pos room]; rfl⟩

/-- The last line of a script ends it once there is room for its message. -/
lemma can_stop_posting (text : String) {wait : Wait} (fit : (Evaluation.posting (.finish text)).Fits wait) :
    ∃ l c, routine.Run Aside (.waiting wait (.posting (.finish text)), i, w) l c ∧
      c.1 = .finished true := by
  cases fit with
  | @posting _ box m errand =>
    obtain ⟨u, posted⟩ := exists_post w box m
    have looked : ({ w with post := .empty } : World).poll (.send box m) = .over .sent u := by
      simp only [World.poll, posted]
    have emptied : routine.Run Aside (.waiting (.send box m) (.posting (.finish text)), i, w) []
        (.waiting (.send box m) (.posting (.finish text)), i, { w with post := .empty }) :=
      (Routine.Run.start _).around rfl
    exact ⟨_, _, emptied.look (.woken looked rfl), rfl⟩

/-- A pause that holds the last line of a script can be lifted. -/
lemma can_stop_held {text : String} {args : List Char} {wait : Wait}
    (fit : (Evaluation.held .finish args text).Fits wait) :
    ∃ l c, routine.Run Aside (.waiting wait (.held .finish args text), i, w) l c ∧
      c.1 = .finished true := by
  cases fit with
  | @held _ _ _ alarm =>
    let u := w.unpause
    have looked : u.poll (.resume alarm) =
        .over .resumed { u with control := { u.control with signal := .quiet } } := rfl
    obtain ⟨v, i', lifted⟩ : ∃ v i', i.resume (.held .finish args text) .resumed
        { u with control := { u.control with signal := .quiet } } =
          .ok (.waiting (.send .drivetrain { command := .auto .complete }) (.posting (.finish text)), i', v) :=
      ⟨_, _, rfl⟩
    have errand : Message.Errand { command := .auto .complete } .drivetrain :=
      ⟨nofun, rfl, rfl, nofun⟩
    have held : routine.Run Aside (.waiting (.resume alarm) (.held .finish args text), i, w) []
        (.waiting (.resume alarm) (.held .finish args text), i, u) :=
      (Routine.Run.start _).around rfl
    obtain ⟨l, c, stopped, ended⟩ := can_stop_posting (i := i') (w := v) text (.posting errand)
    exact ⟨_, c, (held.look (.woken looked lifted)).trans stopped, ended⟩

/-- From wherever it is held up, a line that is to stop the script can do so. -/
lemma can_stop (under : UnderWay config os true total b) :
    ∃ l c, routine.Run Aside b l c ∧ c.1 = .finished true := by
  obtain ⟨progress, i, w⟩ := b
  cases progress with
  | finished stop =>
    obtain ⟨-, rfl⟩ := under.follows.finished stop rfl
    exact ⟨[], _, .start _, rfl⟩
  | waiting wait e =>
    have fit := under.fits wait e rfl
    obtain ⟨-, stops⟩ := under.follows.waiting wait e rfl
    cases e with
    | held key args text =>
      obtain rfl : key = .finish := beq_iff_eq.1 stops
      exact can_stop_held fit
    | posting next =>
      cases next with
      | finish text => exact can_stop_posting text fit
      | report status => cases stops
      | settle => cases stops
    | _ => cases stops

/-! ### Any line -/

/-- Whether a line ends the script is a matter of how it is taken. -/
lemma ends_of_takes {how : KeywordMatch} {cs : List Char} {r : Reading} (taken : Takes how cs r) :
    (r.share config).ends = true ↔ Script.Stops how cs := by
  cases taken with
  | passed passed => exact iff_of_false Bool.false_ne_true fun stops => stops.1 passed
  | refused carried none => exact iff_of_true rfl ⟨carried, .inl ⟨_, none⟩⟩
  | @command key args found =>
    constructor
    · intro ends
      obtain rfl : key = .finish := beq_iff_eq.1 ends
      exact ⟨Script.not_passed found, .inr ⟨args, found⟩⟩
    · rintro ⟨-, ⟨e, none⟩ | ⟨args', last⟩⟩
      · cases found.symm.trans none
      · cases found.symm.trans last
        rfl

/-- A line is dispatched if it has a keyword. -/
lemma dispatches_of_takes {how : KeywordMatch} {cs : List Char} {r : Reading} (taken : Takes how cs r) :
    (r.share config).dispatches = (Script.splitKeyword how cs).isOk.toNat := by
  cases taken with
  | passed passed =>
    obtain ⟨e, none⟩ := Script.splitKeyword_of_passed how passed
    rw [none]
    rfl
  | refused carried none =>
    rw [none]
    rfl
  | command found =>
    rw [found]
    rfl

/-- A line posts what its statement does, or it is silent. -/
lemma posts_of_takes (config : AutoConfig) {how : KeywordMatch} {cs : List Char} {r : Reading}
    (taken : Takes how cs r) :
    (Script.Silent how cs → (r.share config).posts = []) ∧
      ∀ key args s, Script.splitKeyword how cs = .ok (key, args) → Statement.parse key args = .ok s →
        (r.share config).posts = s.outlines config := by
  cases taken with
  | passed passed =>
    exact ⟨fun _ => rfl, fun key args s found _ => absurd passed (Script.not_passed found)⟩
  | refused carried none =>
    refine ⟨fun _ => rfl, fun key args s found _ => ?_⟩
    cases found.symm.trans none
  | @command key args found =>
    constructor
    · rintro (passed | ⟨e, none⟩ | ⟨key', args', e, found', wrong⟩)
      · exact absurd passed (Script.not_passed found)
      · cases found.symm.trans none
      · cases found.symm.trans found'
        simp only [Reading.share, wrong]
    · intro key' args' s found' parsed
      cases found.symm.trans found'
      simp only [Reading.share, parsed]

/-- What comes of a line is what its text says, whatever the surroundings do while it is worked on. It
stops the script if it is not passed over, and has no keyword or the one that ends a script; and from
wherever it is held up, it can. It is dispatched once if it has a keyword, and otherwise not at all. It
never posts anything if it is passed over, has no keyword or has wrong parameters; otherwise it posts
the message of its keyword, if that has one, and no other. -/
theorem evaluate_as_written (begun : i.evaluate line w = .ok first) (run : routine.Run Aside first t b) :
    let how := i.config.keywordMatch
    (∀ stop, b.1 = .finished stop → (stop = true ↔ Script.Stops how line.toList) ∧
      b.2.1.dispatched = i.dispatched + (Script.splitKeyword how line.toList).isOk.toNat) ∧
    (Script.Stops how line.toList → ∃ l c, routine.Run Aside b l c ∧ c.1 = .finished true) ∧
    (Script.Silent how line.toList → t = []) ∧
    ∀ key args s, Script.splitKeyword how line.toList = .ok (key, args) →
      Statement.parse key args = .ok s → t.map Outline.of <+: s.outlines i.config ∧
      ∀ stop, b.1 = .finished stop → t.map Outline.of = s.outlines i.config ∧
        t.map (fun x => (x.1, x.2.expectsReply)) = key.errand?.toList := by
  obtain ⟨r, taken, follows, counted, fits⟩ := takes_of_evaluate begun
  obtain ⟨os, posted, under⟩ := follows_of_run ⟨follows, rfl, fits⟩ run
  obtain ⟨silent, posts⟩ := posts_of_takes i.config taken
  refine ⟨fun stop ended => ?_, fun stops => ?_, fun quiet => ?_, fun key args s found parsed => ?_⟩
  · obtain ⟨-, rfl⟩ := under.follows.finished stop ended
    refine ⟨ends_of_takes taken, ?_⟩
    rw [← dispatches_of_takes taken, ← counted, ← under.counted, ended]
    rfl
  · rw [(ends_of_takes taken).2 stops] at under
    exact can_stop under
  · rw [silent quiet] at posted
    exact List.map_eq_nil_iff.1 (List.append_eq_nil_iff.1 posted).1
  · rw [posts key args s found parsed] at posted
    refine ⟨⟨os, posted⟩, fun stop ended => ?_⟩
    obtain ⟨rfl, -⟩ := under.follows.finished stop ended
    rw [List.append_nil] at posted
    refine ⟨posted, ?_⟩
    rw [← Statement.errand_of_parse i.config parsed, ← posted, List.map_map]
    rfl

/-- A turn whose answer never comes: it is dispatched, asks the drivetrain and goes on to the next
line. -/
theorem turn_as_written : ∃ first t b, (fresh {} 0).evaluate "TURN 90 2" {} = .ok first ∧
    routine.Run Aside first t b ∧ b.1 = .finished false ∧ b.2.1.dispatched = 1 ∧
    t.map (fun x => (x.1, x.2.expectsReply)) = [(.drivetrain, true)] := by
  have played : (((fresh {} 0).evaluate "TURN 90 2" {}).toOption.any fun first =>
      (routine.play [.look, .look, .around fun x => (x.1, { x.2 with now := 15 * Clock.second }),
        .look] first).any fun y => y.2.1.result? == some false) = true := by
    decide +kernel
  obtain ⟨first, t, b, begun, run, passed⟩ :=
    Routine.exists_run_of_begun Aside played (by simp [Aside])
  have ended : b.1 = .finished false := Progress.result?_eq_some_iff.1 (beq_iff_eq.1 passed)
  have found : Script.splitKeyword .exact "TURN 90 2".toList = .ok (.turn, "90 2".toList) := rfl
  have readable : (Statement.parse .turn "90 2".toList).isOk = true := by decide +kernel
  cases parsed : Statement.parse .turn "90 2".toList with
  | error e =>
    rw [parsed] at readable
    cases readable
  | ok s =>
    obtain ⟨finished, -, -, posts⟩ := evaluate_as_written begun run
    obtain ⟨-, counted⟩ := finished false ended
    obtain ⟨-, posted⟩ := (posts .turn _ s found parsed).2 false ended
    exact ⟨first, t, b, begun, run, ended, counted, posted⟩

end Interpreter

end MatchRobot
