import MatchRobot.Dispatcher
import MatchRobot.Proofs.Subsystem.Rest

/-!
# The robot at work

An `Assembly` is the robot with all its parts, each of them in the loop of its cycle, and the dispatcher
at its desk. They share one world, and `Assembly.Step` interleaves them in any order: a part is looked at,
the dispatcher begins to change the mode or goes on to tell the tasks, it gives out the commands of a
sample or reports the battery, or the surroundings do something. The dispatcher does one thing at a
time. The surroundings let the clock run, work the operator's switches and the sensors and change the
script; they leave the mode flag and the mailboxes to the robot.

An `Occurrence` is something that happens in such a run: a deed of a part, a wait for mail that was in
vain, a change of the mode flag, or a task that is told.
-/

namespace MatchRobot

/-! ### What happens -/

/-- Something that happens while the robot works. -/
inductive Occurrence
  | did (part : Part) (deed : Deed)
  /-- The time was up before a message arrived in the mailbox. -/
  | missed (part : Part) (box : Address)
  | changed (mode : Mode)
  /-- The dispatcher posts the news of a mode. -/
  | told (a : Address) (m : Message)

/-- The mode that a message is the news of. -/
def Message.mode? (m : Message) : Option Mode :=
  match m.command with
  | .state mode => some mode
  | _ => none

namespace Occurrence

/-- What a part does, in order. -/
def deeds (p : Part) (t : List Occurrence) : List Deed :=
  t.filterMap fun | did q d => if q = p then some d else none | _ => none

/-- The modes that a part hears of, in order. -/
def heard (p : Part) (t : List Occurrence) : List Mode :=
  (Deed.taken (deeds p t)).filterMap Message.mode?

/-- The mailboxes in which a part waited in vain, in order. -/
def misses (p : Part) (t : List Occurrence) : List Address :=
  t.filterMap fun | missed q a => if q = p then some a else none | _ => none

/-- The modes that the flag moved to, in order. -/
def changes (t : List Occurrence) : List Mode :=
  t.filterMap fun | changed m => some m | _ => none

/-- What the dispatcher tells the tasks, in order. -/
def tellings (t : List Occurrence) : List (Address × Message) :=
  t.filterMap fun | told a m => some (a, m) | _ => none

end Occurrence

/-- The mailbox in which a wait was in vain. -/
def Wait.missed : Wait → Wake → List Address
  | .receive a _, .rang => [a]
  | _, _ => []

/-- Whether a task waits for room in a mailbox. -/
def Progress.awaitsRoom {ι α : Type} (box : Address) : Progress ι α → Bool
  | .waiting (.send x _) _ => x == box
  | _ => false

lemma Progress.awaitsRoom_iff {ι α : Type} {p : Progress ι α} {box : Address} :
    p.awaitsRoom box = true ↔ ∃ message phase, p = .waiting (.send box message) phase := by
  unfold awaitsRoom
  split
  · simp
  · next other => simpa using fun message phase => other box message phase

/-- The loop of a part; noted are its deeds and the waits that were in vain. -/
def Part.routine (p : Part) : Routine (Cycle p.Job) Empty (Runner p.State) Occurrence where
  resume := Cycle.runOn
  notes wait c wake r w :=
    (Cycle.deeds wait c wake r w).map (.did p) ++ (wait.missed wake).map (.missed p)

/-- A change of mode that is under way as a routine; noted are the tasks that are told. -/
def Broadcast.routine : Routine Broadcast Bool Dispatcher Occurrence where
  resume b _ d w := .ok (b.resume true, d, w)
  notes wait _ wake _ _ := (wait.posted wake).map fun x => .told x.1 x.2

/-! ### The robot -/

/-- The parts of the robot and the dispatcher, with the change of mode that is under way or the result
of the last one. -/
structure Assembly where
  world : World
  dispatcher : Dispatcher
  desk : Progress Broadcast Bool
  parts : ∀ p : Part, Progress (Cycle p.Job) Empty × Runner p.State

/-- What the surroundings leave alone: the clock does not go back, and nobody else sets the mode flag or
touches the mailboxes. -/
structure World.Aside (v w : World) : Prop where
  now : v.now ≤ w.now
  mode : w.mode = v.mode
  post : w.post = v.post

namespace Assembly

/-- Where a part stands. -/
def stage (a : Assembly) (p : Part) : Stage (Cycle p.Job) Empty (Runner p.State) :=
  ((a.parts p).1, (a.parts p).2, a.world)

/-- The robot with a part that stands somewhere else. -/
def setStage (a : Assembly) (p : Part) (s : Stage (Cycle p.Job) Empty (Runner p.State)) : Assembly :=
  { a with world := s.2.2, parts := Function.update a.parts p (s.1, s.2.1) }

/-- The dispatcher is not about to tell anybody. -/
def Idle (a : Assembly) : Prop :=
  ∃ r, a.desk = .finished r

instance (a : Assembly) : Decidable a.Idle :=
  match h : a.desk with
  | .finished r => .isTrue ⟨r, h⟩
  | .waiting .. => .isFalse fun ⟨r, finished⟩ => by
    rw [h] at finished
    cases finished

/-- The dispatcher changes the mode. -/
def change (a : Assembly) (m : Mode) : Assembly :=
  let (desk, d, w) := a.dispatcher.changeState m a.world
  { a with desk := desk, dispatcher := d, world := w }

/-- The dispatcher gives out the commands of a sample. -/
def sample (a : Assembly) (i : DriverInput) : Assembly :=
  let (_, d, w) := a.dispatcher.teleop i a.world
  { a with dispatcher := d, world := w }

/-- The dispatcher reports the battery voltage. -/
def battery (a : Assembly) (volts : Float32) : Assembly :=
  { a with world := (Dispatcher.reportBattery volts a.world).2 }

/-- What can happen next. -/
inductive Step : Assembly → List Occurrence → Assembly → Prop
  | part {a : Assembly} {p : Part} {l : List Occurrence}
      {s : Stage (Cycle p.Job) Empty (Runner p.State)} (step : p.routine.Step (a.stage p) l s) :
      Step a l (a.setStage p s)
  | change {a : Assembly} {m : Mode} (idle : a.Idle) :
      Step a (if a.world.mode = m then [] else [.changed m]) (a.change m)
  | tell {a : Assembly} {l : List Occurrence} {desk : Progress Broadcast Bool} {d : Dispatcher}
      {w : World} (step : Broadcast.routine.Step (a.desk, a.dispatcher, a.world) l (desk, d, w)) :
      Step a l { a with desk := desk, dispatcher := d, world := w }
  | sample {a : Assembly} {i : DriverInput} (idle : a.Idle) : Step a [] (a.sample i)
  | battery {a : Assembly} {volts : Float32} (idle : a.Idle) : Step a [] (a.battery volts)
  | around {a : Assembly} {w : World} {rs : ∀ p : Part, Runner p.State} (aside : a.world.Aside w)
      (sensed : ∀ p, (rs p).loops = (a.parts p).2.loops ∧
        p.Senses (a.parts p).2.subsystem (rs p).subsystem) :
      Step a [] { a with world := w, parts := fun p => ((a.parts p).1, rs p) }

/-- What can happen in any order; the occurrences come in order. -/
inductive Run : Assembly → List Occurrence → Assembly → Prop
  | start (a : Assembly) : Run a [] a
  | step {a b c : Assembly} {t l : List Occurrence} (run : Run a t b) (step : Step b l c) :
      Run a (t ++ l) c

/-- The beginning of the work: the mailboxes are empty, every part is about to listen, and the dispatcher
has nothing to tell. -/
structure Fresh (a : Assembly) : Prop where
  empty : ∀ box, a.world.post.queue box = []
  idle : a.Idle
  listening : ∀ p : Part, ∃ limit, (a.parts p).1 = .waiting (.receive p.address limit) .listening

/-- A robot that is about to begin its work, with a script. -/
def ready (script : String) (drive : DriveConfig) (auto : AutoConfig) : Assembly where
  world := { source := .text script }
  dispatcher := {}
  desk := .finished false
  parts p := (.waiting (.receive p.address (some { time := Settings.componentCycle })) .listening,
    match p with
    | .drivetrain => ⟨{ config := drive }, 0⟩
    | .autonomous => ⟨{ pilot := Pilot.fresh auto 0 }, 0⟩
    | .climber | .hopper | .gearIntake | .gearFloor => ⟨{}, 0⟩)

lemma fresh_ready (script : String) (drive : DriveConfig) (auto : AutoConfig) :
    (ready script drive auto).Fresh where
  empty box := PostOffice.queue_empty box
  idle := ⟨false, rfl⟩
  listening _ := ⟨_, rfl⟩

/-! ### Runs that are played -/

/-- What happens next in a run that is played. -/
inductive Move
  | part (p : Part)
  | change (m : Mode)
  | tell
  | sample (i : DriverInput)
  /-- The clock moves on. -/
  | wait (span : Micros)

/-- Plays a move, if it is possible. -/
def move? (a : Assembly) : Move → Option (List Occurrence × Assembly)
  | .part p => (p.routine.look? (a.stage p)).map fun (l, s) => (l, a.setStage p s)
  | .change m => match a.desk with
    | .waiting .. => none
    | .finished _ => some (if a.world.mode = m then [] else [.changed m], a.change m)
  | .tell => (Broadcast.routine.look? (a.desk, a.dispatcher, a.world)).map fun (l, desk, d, w) =>
      (l, { a with desk := desk, dispatcher := d, world := w })
  | .sample i => match a.desk with
    | .waiting .. => none
    | .finished _ => some ([], a.sample i)
  | .wait span => some ([], { a with world := { a.world with now := a.world.now + span } })

/-- Plays a run. -/
def play (a : Assembly) : List Move → Option (List Occurrence × Assembly)
  | [] => some ([], a)
  | move :: moves => do
    let (l, b) ← a.move? move
    let (t, c) ← b.play moves
    return (l ++ t, c)

lemma step_of_move? {a b : Assembly} {move : Move} {l : List Occurrence}
    (h : a.move? move = some (l, b)) : Step a l b := by
  cases move with
  | part p =>
    obtain ⟨⟨l, s⟩, looked, h⟩ := Option.map_eq_some_iff.1 h
    cases h
    exact .part (Routine.step_of_look? looked)
  | change m =>
    simp only [move?] at h
    split at h
    · cases h
    · next r idle =>
      cases h
      exact .change ⟨r, idle⟩
  | tell =>
    obtain ⟨⟨l, desk, d, w⟩, looked, h⟩ := Option.map_eq_some_iff.1 h
    cases h
    exact .tell (Routine.step_of_look? looked)
  | sample i =>
    simp only [move?] at h
    split at h
    · cases h
    · next r idle =>
      cases h
      exact .sample ⟨r, idle⟩
  | wait span =>
    cases h
    exact .around ⟨Nat.le_add_right _ _, rfl, rfl⟩ fun p => ⟨rfl, Part.Senses.refl p _⟩

/-- Runs can be put together. -/
lemma Run.trans {a b c : Assembly} {t l : List Occurrence} (first : Run a t b) (second : Run b l c) :
    Run a (t ++ l) c := by
  induction second with
  | start =>
    rw [List.append_nil]
    exact first
  | step run step ih =>
    rw [← List.append_assoc]
    exact .step ih step

/-- What is played is a run. -/
lemma run_of_play {a b : Assembly} {moves : List Move} {t : List Occurrence}
    (h : a.play moves = some (t, b)) : Run a t b := by
  induction moves generalizing a t with
  | nil =>
    cases h
    exact .start _
  | cons move moves ih =>
    simp only [play, Option.bind_eq_bind, Option.bind_eq_some_iff] at h
    obtain ⟨⟨l, c⟩, moved, ⟨u, d⟩, played, h⟩ := h
    cases h
    have first := (Run.start a).step (step_of_move? moved)
    exact first.trans (ih played)

end Assembly

end MatchRobot
