import MatchRobot.Device.Pulse
import MatchRobot.Proofs.Number.Arithmetic

/-!
# What becomes of the writes to a pulse channel

A motor on a pulse channel passes an output on only if it differs from the last one. What it
compares with is the output it tried last, not the one that the channel took last: the value is
kept before the write, and a write that fails leaves it kept. So a failed write is tried again
only for another output. As long as the same output is asked for, the channel keeps the duty
cycle of the last write that went well, and a stop that failed stays without effect however often
it is repeated.

Any sequence of calls is run here, each with the channel in or out of order as it pleases.
-/

namespace MatchRobot

open Single

/-- What a motor is asked for. -/
inductive PulseOrder where
  | set (x : Float32)
  | stop

namespace PulseOrder

/-- The output that an order comes to. -/
def output : PulseOrder → Float32
  | set x => clamp (-1) 1 x
  | stop => clamp (-1) 1 0

/-- A motor does as it is asked. -/
def apply (m : PulseMotor) : PulseOrder → Except Fault (PulseMotor × Option Float32)
  | set x => m.set x
  | stop => m.stop

end PulseOrder

/-- An order, and whether the channel fails to take a write at the time. -/
structure PulseCall where
  order : PulseOrder
  failing : Bool := false

/-- A write that was tried: the output it was for, and whether it went well. -/
structure PulseTrial where
  output : Float32
  written : Bool

namespace PulseMotor

/-! ## Calls -/

/-- A motor as it is built, and the write of its first output. -/
def build (channel : PulseChannel) (frequency : Nat) (turned : Bool) :
    Except Fault (PulseMotor × PulseTrial) := do
  let (m, failed) ← start channel frequency
  return (if turned then m.reversed else m, ⟨0, failed.isNone⟩)

/-- The motor while its channel takes writes, or while it fails to. -/
def whilst (failing : Bool) (m : PulseMotor) : PulseMotor :=
  { m with channel.failing := failing }

/-- One call, and the write it tries if it tries one. -/
def obey (m : PulseMotor) (c : PulseCall) : Except Fault (PulseMotor × Option PulseTrial) := do
  let (after, failed) ← c.order.apply (m.whilst c.failing)
  let tried := after.channel.writes != m.channel.writes
  return (after, if tried then some ⟨c.order.output, failed.isNone⟩ else none)

/-- One call after another, and the writes they try. -/
def obeyAll (m : PulseMotor) : List PulseCall → Except Fault (PulseMotor × List PulseTrial)
  | [] => .ok (m, [])
  | c :: calls => do
    let (m, trial) ← m.obey c
    let (m, trials) ← m.obeyAll calls
    return (m, trial.toList ++ trials)

/-! ## Outputs and duty cycles -/

lemma pulse_neg_zero (inverted : Bool) : pulse inverted (-0) = pulse inverted 0 := by
  cases inverted <;> decide +kernel

lemma pulse_zero_of_turned (inverted : Bool) : pulse inverted 0 = pulse false 0 := by
  cases inverted <;> decide +kernel

/-- Outputs that compare equal have the same pulse, though zeros compare equal under both signs. -/
lemma pulse_congr {x y : Float32} (inverted : Bool) (h : (x == y) = true) :
    pulse inverted x = pulse inverted y := by
  have of_zero : ∀ z : Float32, (∃ s, unpacked z = .zero s) → pulse inverted z = pulse inverted 0 := by
    intro z zero
    rcases eq_zero_or_eq_neg_zero zero with rfl | rfl
    · rfl
    · exact pulse_neg_zero inverted
  rcases eq_or_zeros_of_beq h with rfl | ⟨zero, zero'⟩
  · rfl
  · rw [of_zero x zero, of_zero y zero']

/-! ## One call -/

/-- The ticks that stand for an output on the channel of a motor. -/
def ticks (m : PulseMotor) (x : Float32) : Nat :=
  dutyOf (pulse m.inverted x) m.channel.maxDuty (1000000 / m.frequency)

/-- A motor that can put its outputs into ticks: its period is some number of microseconds. -/
def Runs (m : PulseMotor) : Prop :=
  1000000 / m.frequency ≠ 0

lemma duty_eq {m : PulseMotor} (runs : m.Runs) (x : Float32) : m.duty x = .ok (m.ticks x) :=
  if_neg runs

/-- A motor after it tried to write an output. -/
def tried (m : PulseMotor) (x : Float32) (failing : Bool) : PulseMotor :=
  { m with
    value := x
    channel.failing := failing
    channel.writes := m.channel.writes + 1
    channel.duty := if failing then m.channel.duty else m.ticks x }

lemma set_of_same {m : PulseMotor} {x : Float32} (same : (m.value == clamp (-1) 1 x) = true) :
    m.set x = .ok (m, none) :=
  if_pos same

lemma set_of_differs {m : PulseMotor} {x : Float32} (runs : m.Runs)
    (differs : (m.value == clamp (-1) 1 x) = false) :
    m.set x = .ok (m.tried (clamp (-1) 1 x) m.channel.failing,
      if m.channel.failing then some (clamp (-1) 1 x) else none) := by
  simp only [set, differs, duty_eq runs, bind, Except.bind]
  obtain ⟨⟨duty, maxDuty, writes, failing⟩, value, frequency, inverted⟩ := m
  cases failing <;> rfl

/-- An order is an output that is set. -/
lemma apply_eq_set (m : PulseMotor) (order : PulseOrder) :
    ∃ x, order.apply m = m.set x ∧ order.output = clamp (-1) 1 x := by
  cases order with
  | set x => exact ⟨x, rfl, rfl⟩
  | stop => exact ⟨0, rfl, rfl⟩

/-- An output that equals the remembered one leaves everything as it is. -/
lemma obey_of_same {m : PulseMotor} {c : PulseCall} (same : (m.value == c.order.output) = true) :
    m.obey c = .ok (m.whilst c.failing, none) := by
  obtain ⟨x, applied, output⟩ := apply_eq_set (m.whilst c.failing) c.order
  rw [output] at same
  have unset : (m.whilst c.failing).set x = .ok (m.whilst c.failing, none) := set_of_same same
  have unchanged : ((m.whilst c.failing).channel.writes != m.channel.writes) = false :=
    bne_self_eq_false m.channel.writes
  simp only [obey, applied, unset, bind, Except.bind, unchanged]
  rfl

/-- Any other output is tried, and it is remembered whether or not the channel takes it. -/
lemma obey_of_differs {m : PulseMotor} {c : PulseCall} (runs : m.Runs)
    (differs : (m.value == c.order.output) = false) :
    m.obey c = .ok (m.tried c.order.output c.failing, some ⟨c.order.output, !c.failing⟩) := by
  obtain ⟨x, applied, output⟩ := apply_eq_set (m.whilst c.failing) c.order
  rw [output] at differs ⊢
  have wrote : (m.whilst c.failing).set x = .ok (m.tried (clamp (-1) 1 x) c.failing,
      if c.failing then some (clamp (-1) 1 x) else none) :=
    set_of_differs (m := m.whilst c.failing) runs differs
  have grown : ((m.tried (clamp (-1) 1 x) c.failing).channel.writes != m.channel.writes) = true :=
    bne_iff_ne.2 (Nat.succ_ne_self _)
  simp only [obey, applied, wrote, bind, Except.bind, grown, output]
  cases c.failing <;> rfl

/-! ## What a motor remembers and what its channel holds -/

/-- The ticks that a channel owes to the writes that were tried: those of the last one that went well,
or those it came with. -/
def owed (ticks : Float32 → Nat) (initial : Nat) (trials : List PulseTrial) : Nat :=
  ((trials.filter PulseTrial.written).getLast?.map fun trial => ticks trial.output).getD initial

/-- How a motor stands to the writes that were tried so far: it remembers the output of the last of
them, and its channel holds the ticks of the last that went well. -/
structure Follows (ticks : Float32 → Nat) (initial : Nat) (trials : List PulseTrial)
    (m : PulseMotor) : Prop where
  runs : m.Runs
  reckons : m.ticks = ticks
  remembered : trials.getLast?.map PulseTrial.output = some m.value
  held : m.channel.duty = owed ticks initial trials

variable {ticks : Float32 → Nat} {initial : Nat} {trials : List PulseTrial} {m : PulseMotor}

lemma owed_append (ticks : Float32 → Nat) (initial : Nat) (trials : List PulseTrial)
    (trial : PulseTrial) : owed ticks initial (trials ++ [trial]) =
      if trial.written then ticks trial.output else owed ticks initial trials := by
  cases written : trial.written <;> simp [owed, List.filter_append, written]

/-- Neutral is the same either way round. -/
lemma ticks_reversed_zero (m : PulseMotor) : m.reversed.ticks 0 = m.ticks 0 := by
  have pulses : pulse true 0 = pulse m.inverted 0 :=
    (pulse_zero_of_turned true).trans (pulse_zero_of_turned m.inverted).symm
  exact congrArg (dutyOf · m.channel.maxDuty (1000000 / m.frequency)) pulses

/-- A motor can be built on a channel if its period is some number of microseconds. -/
lemma build_eq (channel : PulseChannel) {frequency : Nat} (turned : Bool)
    (runs : 1000000 / frequency ≠ 0) :
    build channel frequency turned = .ok
      (let m := tried { channel := channel, frequency := frequency } 0 channel.failing
       if turned then m.reversed else m, ⟨0, !channel.failing⟩) := by
  have unset : (Float32.ofBits 0x7fc00000 == clamp (-1) 1 0) = false := by decide +kernel
  have zero : clamp (-1) 1 0 = 0 := by decide +kernel
  have started := set_of_differs (m := { channel := channel, frequency := frequency }) runs unset
  rw [zero] at started
  simp only [build, start, started, bind, Except.bind]
  cases channel.failing <;> rfl

lemma runs_of_build {channel : PulseChannel} {frequency : Nat} {turned : Bool}
    {first : PulseTrial} (built : build channel frequency turned = .ok (m, first)) :
    1000000 / frequency ≠ 0 := by
  intro stuck
  have unset : (Float32.ofBits 0x7fc00000 == clamp (-1) 1 0) = false := by decide +kernel
  have faults : start channel frequency = .error .noPeriod := by
    simp only [start, set, duty, unset, stuck, if_true, bind, Except.bind]
    rfl
  simp only [build, faults, bind, Except.bind] at built
  cases built

/-- A motor that is built has tried one write, of the output that it starts from. -/
lemma follows_of_build {channel : PulseChannel} {frequency : Nat} {turned : Bool}
    {first : PulseTrial} (built : build channel frequency turned = .ok (m, first)) :
    m.Follows m.ticks channel.duty [first] := by
  have runs := runs_of_build built
  rw [build_eq channel turned runs] at built
  cases built
  obtain ⟨duty, maxDuty, writes, failing⟩ := channel
  -- The motor is turned around only after its first write.
  cases turned <;> cases failing
  · exact ⟨runs, rfl, rfl, rfl⟩
  · exact ⟨runs, rfl, rfl, rfl⟩
  · exact ⟨runs, rfl, rfl, (ticks_reversed_zero _).symm⟩
  · exact ⟨runs, rfl, rfl, rfl⟩

/-- What a call is bound to try: nothing if its output equals the remembered one. -/
def due (m : PulseMotor) (c : PulseCall) : Option PulseTrial :=
  if m.value == c.order.output then none else some ⟨c.order.output, !c.failing⟩

/-- A call tries what it is due to try, and the motor goes on following what was tried. -/
lemma Follows.obey (h : m.Follows ticks initial trials) (c : PulseCall) :
    ∃ m', m.obey c = .ok (m', m.due c) ∧ m'.Follows ticks initial (trials ++ (m.due c).toList) ∧
      ticks c.order.output = ticks m'.value := by
  obtain rfl := h.reckons
  cases same : m.value == c.order.output with
  | true =>
    have nothing : m.due c = none := if_pos same
    rw [nothing, Option.toList_none, List.append_nil]
    exact ⟨_, obey_of_same same, ⟨h.runs, rfl, h.remembered, h.held⟩,
      congrArg (dutyOf · _ _) (pulse_congr _ same).symm⟩
  | false =>
    have something : m.due c = some ⟨c.order.output, !c.failing⟩ := if_neg (by rw [same]; exact nofun)
    rw [something, Option.toList_some]
    refine ⟨_, obey_of_differs h.runs same, ⟨h.runs, rfl, ?_, ?_⟩, rfl⟩
    · rw [List.getLast?_concat]
      rfl
    · calc (m.tried c.order.output c.failing).channel.duty
        _ = if c.failing then m.channel.duty else m.ticks c.order.output := rfl
        _ = if !c.failing then m.ticks c.order.output else owed m.ticks initial trials := by
          cases c.failing with
          | true => exact h.held
          | false => rfl
        _ = _ := (owed_append _ initial trials ⟨c.order.output, !c.failing⟩).symm

/-! ## Any number of calls -/

/-- No sequence of calls faults, and after each the motor follows what was tried. The last call's
output has the ticks of the remembered one, whether or not it was written. -/
lemma Follows.obeyAll (h : m.Follows ticks initial trials) (calls : List PulseCall) :
    ∃ m' more, m.obeyAll calls = .ok (m', more) ∧ m'.Follows ticks initial (trials ++ more) ∧
      ∀ c ∈ calls.getLast?, ticks c.order.output = ticks m'.value := by
  induction calls generalizing m trials with
  | nil => exact ⟨m, [], rfl, by rwa [List.append_nil], nofun⟩
  | cons c calls ih =>
    obtain ⟨m₁, obeyed, follows₁, asked₁⟩ := h.obey c
    obtain ⟨m₂, more, obeyed_rest, follows₂, asked₂⟩ := ih follows₁
    refine ⟨m₂, (m.due c).toList ++ more, ?_, by rwa [← List.append_assoc], ?_⟩
    · simp only [PulseMotor.obeyAll, obeyed, obeyed_rest, bind, Except.bind]
      rfl
    · cases calls with
      | nil =>
        cases obeyed_rest
        intro c' last
        obtain rfl := Option.some_inj.1 last
        exact asked₁
      | cons c' calls => exact asked₂

/-- As long as the output asked for equals the remembered one, nothing is tried and the channel keeps
its duty cycle. -/
lemma obeyAll_of_same {calls : List PulseCall}
    (same : ∀ c ∈ calls, (m.value == c.order.output) = true) :
    ∃ m', m.obeyAll calls = .ok (m', []) ∧ m'.channel.duty = m.channel.duty := by
  induction calls generalizing m with
  | nil => exact ⟨m, rfl, rfl⟩
  | cons c calls ih =>
    have obeyed := obey_of_same (same c List.mem_cons_self)
    obtain ⟨m', rest, kept⟩ :=
      ih (m := m.whilst c.failing) fun c' among => same c' (List.mem_cons_of_mem c among)
    refine ⟨m', ?_, kept⟩
    simp only [obeyAll, obeyed, rest, bind, Except.bind]
    rfl

/-- The writes that a motor tries, and what its channel holds, after any sequence of calls with any
pattern of failures. The next call tries a write exactly if its output differs from the one tried
last, whether that was written or not. The channel holds the ticks for the last output that was
written, so after a call whose last tried write went well it holds the ticks for what that call asked
for. No repetition of the output tried last, be it a stop, changes anything any more. -/
theorem writes_of_calls {channel : PulseChannel} {frequency : Nat} {turned : Bool}
    {first : PulseTrial} (built : build channel frequency turned = .ok (m, first))
    (calls : List PulseCall) :
    ∃ m' trials last, m.obeyAll calls = .ok (m', trials) ∧
      (first :: trials).getLast? = some last ∧
      (∀ c, ∃ after, m'.obey c = .ok (after,
        if last.output == c.order.output then none else some ⟨c.order.output, !c.failing⟩)) ∧
      m'.channel.duty = owed m.ticks channel.duty (first :: trials) ∧
      (last.written = true → ∀ c ∈ calls.getLast?, m.duty c.order.output = .ok m'.channel.duty) ∧
      ∀ more, (∀ c ∈ more, (last.output == c.order.output) = true) →
        ∃ after, m'.obeyAll more = .ok (after, []) ∧ after.channel.duty = m'.channel.duty := by
  have begun := follows_of_build built
  obtain ⟨m', trials, obeyed, follows, asked⟩ := begun.obeyAll calls
  obtain ⟨last, is_last, output⟩ := Option.map_eq_some_iff.1 follows.remembered
  refine ⟨m', trials, last, obeyed, is_last, ?_, follows.held, ?_, ?_⟩
  · intro c
    obtain ⟨after, obeyed, -, -⟩ := follows.obey c
    exact ⟨after, by rw [output]; exact obeyed⟩
  · intro written c is_last_call
    obtain ⟨earlier, split⟩ := List.getLast?_eq_some_iff.1 is_last
    rw [duty_eq begun.runs, asked c is_last_call, follows.held, split, owed_append, if_pos written,
      output]
  · rw [output]
    exact fun more same => obeyAll_of_same same

/-- A motor at half speed whose stop the channel fails to take. -/
theorem half_speed_is_kept :
    ∃ m first, build { maxDuty := 20000 } 50 false = .ok (m, first) ∧
      ∃ m' trials last, m.obeyAll [⟨.set 0.5, false⟩, ⟨.stop, true⟩] = .ok (m', trials) ∧
        (first :: trials).getLast? = some last ∧
        (∀ c, ∃ after, m'.obey c = .ok (after,
          if last.output == c.order.output then none else some ⟨c.order.output, !c.failing⟩)) ∧
        m'.channel.duty = owed m.ticks 0 (first :: trials) := by
  have runs : 1000000 / 50 ≠ 0 := by decide
  have built := build_eq { maxDuty := 20000 } false runs
  obtain ⟨m', trials, last, obeyed, is_last, next, held, -⟩ :=
    writes_of_calls built [⟨.set 0.5, false⟩, ⟨.stop, true⟩]
  exact ⟨_, _, built, m', trials, last, obeyed, is_last, next, held⟩

/-- A failed write is not tried again: at half speed a stop fails, and the stop that follows it, which
the channel would take, leaves the motor at half speed. -/
theorem failed_stop_is_not_repeated :
    ∃ m first m' trials after, build { maxDuty := 20000 } 50 false = .ok (m, first) ∧
      m.obeyAll [⟨.set 0.5, false⟩, ⟨.stop, true⟩] = .ok (m', trials) ∧
      trials = [⟨0.5, true⟩, ⟨0, false⟩] ∧
      m'.obey ⟨.stop, false⟩ = .ok (after, none) ∧
      after.channel.duty = 1750 ∧ m.duty 0 = .ok 1500 := by
  have runs : 1000000 / 50 ≠ 0 := by decide
  have built := build_eq { maxDuty := 20000 } false runs
  have half : clamp (-1) 1 0.5 = 0.5 := by decide +kernel
  have zero : clamp (-1) 1 0 = 0 := by decide +kernel
  let idle : PulseMotor := tried { channel := { maxDuty := 20000 }, frequency := 50 } 0 false
  let fast := idle.tried 0.5 false
  let stuck := fast.tried 0 true
  have speeds_up : idle.obey ⟨.set 0.5, false⟩ = .ok (fast, some ⟨0.5, true⟩) := by
    have obeyed := obey_of_differs (m := idle) (c := ⟨.set 0.5, false⟩) runs (by decide +kernel)
    rwa [PulseOrder.output, half] at obeyed
  have fails : fast.obey ⟨.stop, true⟩ = .ok (stuck, some ⟨0, false⟩) := by
    have obeyed := obey_of_differs (m := fast) (c := ⟨.stop, true⟩) runs (by decide +kernel)
    rwa [PulseOrder.output, zero] at obeyed
  have ignored : stuck.obey ⟨.stop, false⟩ = .ok (stuck.whilst false, none) :=
    obey_of_same (by decide +kernel)
  refine ⟨idle, ⟨0, true⟩, stuck, _, stuck.whilst false, built, ?_, rfl, ignored, ?_, ?_⟩
  · simp only [obeyAll, speeds_up, fails, bind, Except.bind]
    rfl
  · change idle.ticks 0.5 = 1750
    decide +kernel
  · exact (duty_eq (m := idle) runs 0).trans
      (congrArg _ (show idle.ticks 0 = 1500 by decide +kernel))

end PulseMotor

end MatchRobot
