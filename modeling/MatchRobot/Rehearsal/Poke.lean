import MatchRobot.Rehearsal.Scene

/-!
# Pokes

A poke reaches into a scene from outside and takes no time: it changes a sensor, the mode flag or a
switch, moves messages around, or has a look.
-/

namespace MatchRobot

/-- Something that happens to a scene at once. -/
inductive Poke
  | setMode (mode : Mode)
  | draw (motor : MotorName) (amps : Float32)
  | turnArm (counts : Int32)
  | pressGear (closed : Bool)
  | standBack (inches : Float32)
  | pause
  | unpause
  | togglePause
  | setDebug (on : Bool)
  | setSource (source : ScriptSource)
  /-- Posts a message if there is room for it. -/
  | offer (box : Address) (message : Message)
  /-- Throws away what waits in a mailbox. -/
  | discard (box : Address)
  /-- Takes out what waits in a mailbox. -/
  | drain (box : Address)
  /-- Looks at the hardware of the part that owns a mailbox. -/
  | sample (box : Address)
  /-- Looks at the pilot. -/
  | look

namespace Scene

/-- The scene with another world. -/
def withWorld (s : Scene) (w : World) : Scene :=
  { s with world := w }

/-- Carries out a poke. -/
def poke (s : Scene) : Poke → Finding × Scene
  | .setMode m => (.nothing, s.withWorld { s.world with mode := m })
  | .draw motor amps => (.nothing, { s with robot := s.robot.draw motor amps })
  | .turnArm n => (.nothing, { s with robot := s.robot.turnArm n })
  | .pressGear b => (.nothing, { s with robot := s.robot.pressGear b })
  | .standBack x => (.nothing, { s with robot := s.robot.standBack x })
  | .pause => (.nothing, s.withWorld s.world.pause)
  | .unpause => (.nothing, s.withWorld s.world.unpause)
  | .togglePause => (.nothing, s.withWorld s.world.togglePause)
  | .setDebug on => (.nothing, s.withWorld (s.world.setDebug on))
  | .setSource source => (.nothing, s.withWorld { s.world with source := source })
  | .offer a m =>
    let (sent, w) := s.world.offer a m
    (.bool sent, s.withWorld w)
  | .discard a =>
    let (n, w) := s.world.discard a
    (.count n, s.withWorld w)
  | .drain a =>
    let (ms, w) := s.world.drain a
    (.messages ms, s.withWorld w)
  | .sample a => match Part.ofAddress? a with
    | some p =>
      let (h, s) := s.look p
      (.hardware h, s)
    | none => (.nothing, s)
  | .look => (.looked s.viewPilot, s)

end Scene

end MatchRobot
