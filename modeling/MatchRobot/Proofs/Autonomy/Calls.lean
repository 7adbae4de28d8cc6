import Mathlib.Data.List.Basic
import MatchRobot.Autonomy.Call
import MatchRobot.Proofs.Task.Routine

/-!
# Calls under way

A call posts its messages one after the other and then counts replies. `Call.routine` is a call as a
routine that notes both: the messages that it posts and those that it counts. `Call.Stands` says where
a call stands by what has been noted of it, and `Call.stands_of_step` that it keeps standing so.

A message is counted if it is a reply under the number of the call. The call ends well or rejected
with the reply that makes the count complete, and not before; an error among the replies tells the two
ends apart.
-/

namespace MatchRobot

/-- The next number is one more than the last, until all numbers are used. -/
lemma Caller.toNat_nextCall {c : Caller} (h : c.lastCall.toNat + 1 < UInt32.size) :
    c.nextCall.toNat = c.lastCall.toNat + 1 := by
  have sum : (c.lastCall + 1).toNat = c.lastCall.toNat + 1 := by
    rw [UInt32.toNat_add, UInt32.toNat_one]
    exact Nat.mod_eq_of_lt h
  have one : 1 ≤ c.lastCall + 1 := by
    rw [UInt32.le_iff_toNat_le, sum, UInt32.toNat_one]
    omega
  have next : c.nextCall = c.lastCall + 1 := by
    change (if c.lastCall + 1 ≤ 1 then (1 : UInt32) else c.lastCall + 1) = c.lastCall + 1
    split
    · next le => exact UInt32.le_antisymm one le
    · rfl
  rw [next, sum]

namespace Call

/-! ### One stretch of work -/

lemma kept_sweep (w : World) : World.Kept (some .autoParser) w (sweep w) :=
  World.kept_discard_notice .autoParser .staleReplies w

/-- A call of one target stops to post its only message. -/
lemma start_one_eq_ok {caller caller' : Caller} {a : Address} {command : Command} {v w : World}
    {p : Progress Call CallResult} (h : start caller [a] [command] v = .ok (p, caller', w)) :
    ∃ c : Call, c.unposted = some [] ∧ c.received < c.expected ∧
      p = .waiting (.send a (c.message command)) c ∧ w = sweep v := by
  cases h
  exact ⟨⟨caller.nextCall, caller.timeout, 1, 0, false, some []⟩, rfl, Nat.one_pos, rfl, rfl⟩

/-- A call that has posted all its messages goes on to collect replies, in the same world. -/
lemma post_nil_eq_ok {c : Call} {v w : World} {p : Progress Call CallResult}
    (h : c.post [] v = .ok (p, w)) : w = v ∧ ∃ limit, p = { c with unposted := none }.collect limit := by
  simp only [post] at h
  obtain ⟨limit, -, h⟩ := bind_eq_ok.1 h
  cases h
  exact ⟨rfl, limit, rfl⟩

/-- Posting the next message waits for room, in the same world. -/
lemma world_of_post {c : Call} {rest : List (Address × Command)} {v w : World}
    {p : Progress Call CallResult} (h : c.post rest v = .ok (p, w)) : w = v := by
  cases rest with
  | nil => exact (post_nil_eq_ok h).1
  | cons x more =>
    cases h
    rfl

/-- Collecting replies means waiting for them, or being done. -/
lemma collect_cases (c : Call) (limit : Option Alarm) :
    (c.received < c.expected ∧ c.collect limit = .waiting (.receive .autoParser limit) c) ∨
      (c.expected ≤ c.received ∧
        c.collect limit = .finished (if c.failed then .error .rejected else .ok ())) := by
  unfold collect
  split
  · exact .inl ⟨‹_›, rfl⟩
  · exact .inr ⟨by omega, rfl⟩

lemma kept_count (c : Call) (m : Message) (w : World) : World.Kept none w (c.count m w).2 := by
  unfold count
  split
  · exact World.kept_notice _ (.refl w)
  · split
    · exact World.kept_notice _ (.refl w)
    · simp only
      split
      · exact World.kept_notice _ (World.kept_status _ (.refl w))
      · exact World.kept_notice _ (World.kept_status _ (.refl w))

lemma kept_giveUp (c : Call) (w : World) : World.Kept none w (c.giveUp w).2 :=
  World.kept_notice _ (World.kept_status _ (.refl w))

/-- A message is counted if it is a reply to the call. -/
lemma count_cases (c : Call) (m : Message) (w : World) :
    (c.count m w).1 = c ∨ m.callId = c.id ∧ ∃ r, m.command.asReply = some r ∧
      (c.count m w).1 =
        { c with received := c.received + 1, failed := c.failed || r == .error } := by
  unfold count
  split
  · exact .inl rfl
  · next number =>
    split
    · exact .inl rfl
    · next r reply => exact .inr ⟨not_not.1 number, r, reply, rfl⟩

/-- Counting a message changes nothing of what is still to be posted. -/
lemma unposted_count (c : Call) (m : Message) (w : World) :
    (c.count m w).1.unposted = c.unposted := by
  rcases c.count_cases m w with same | ⟨-, r, -, more⟩
  · rw [same]
  · rw [more]

/-- Counting a message leaves the number of expected replies alone. -/
lemma expected_count (c : Call) (m : Message) (w : World) :
    (c.count m w).1.expected = c.expected := by
  rcases c.count_cases m w with same | ⟨-, r, -, more⟩
  · rw [same]
  · rw [more]

lemma kept_resume {c : Call} {wake : Wake} {v w : World} {p : Progress Call CallResult}
    (h : c.resume wake v = .ok (p, w)) : World.Kept none v w := by
  unfold resume at h
  split at h
  · rw [world_of_post h]
  · next m limit _ =>
    cases h
    exact kept_count c m v
  · cases h
    exact kept_giveUp c v

/-! ### What is noted of a call -/

/-- Something that a call does with a message. -/
inductive Note
  | sent (letter : Address × Message)
  | counted (m : Message)

namespace Note

/-- The messages posted, in order. -/
def letters (l : List Note) : List (Address × Message) :=
  l.filterMap fun | sent x => some x | _ => none

/-- The messages counted, in order. -/
def answers (l : List Note) : List Message :=
  l.filterMap fun | counted m => some m | _ => none

end Note

/-- The message that a call counts when it goes on. -/
def tally (c : Call) (wake : Wake) (w : World) : List Message :=
  match c.unposted, wake with
  | none, .received m _ => if (c.count m w).1.received = c.received then [] else [m]
  | _, _ => []

/-- Nothing is counted as long as messages are posted. -/
lemma tally_of_unposted {c : Call} {rest : List (Address × Command)} (h : c.unposted = some rest)
    (wake : Wake) (w : World) : c.tally wake w = [] := by
  simp [tally, h]

/-- Nothing is counted when time is up. -/
lemma tally_rang (c : Call) (w : World) : c.tally .rang w = [] := by
  unfold tally
  split
  · next h => cases h
  · rfl

/-- At most the message that arrived is counted. -/
lemma tally_sublist (c : Call) (m : Message) (limit : Option Alarm) (w : World) :
    (c.tally (.received m limit) w).Sublist [m] := by
  unfold tally
  split
  · next h =>
    cases h
    split <;> simp
  · exact List.nil_sublist _

/-- A call as a routine; noted is what it posts and what it counts. -/
def routine : Routine Call CallResult Caller Note where
  resume c wake caller w := do
    let (p, w) ← c.resume wake w
    return (p, caller, w)
  notes wait c wake _ w := (wait.posted wake).map .sent ++ (c.tally wake w).map .counted

section

variable (wait : Wait) (c : Call) (wake : Wake) (caller : Caller) (w : World)

@[simp] lemma letters_notes : Note.letters (routine.notes wait c wake caller w) = wait.posted wake := by
  simp [routine, Note.letters, List.filterMap_map, List.filterMap_none]

@[simp] lemma answers_notes : Note.answers (routine.notes wait c wake caller w) = c.tally wake w := by
  simp [routine, Note.answers, List.filterMap_map, List.filterMap_none]

end

/-! ### Where a call stands -/

/-- A message of the call with the given number, with the mailbox that it goes to. -/
def letter (id : UInt32) (x : Address × Command) : Address × Message :=
  (x.1, { command := x.2, replyTo := some .autoParser, callId := id })

end Call

/-- Whether a message is an error reply. -/
def Message.refuses (m : Message) : Bool :=
  m.command.asReply == some .error

namespace Call

/-- A call with a number has counted these messages: all of them are replies under its number. -/
structure Tallied (id : UInt32) (counted : List Message) (c : Call) : Prop where
  number : c.id = id
  received : c.received = counted.length
  failed : c.failed = counted.any Message.refuses
  own : ∀ m ∈ counted, m.callId = id ∧ m.command.asReply.isSome

/-- Where a call to post the given messages stands, by what it has posted and counted. -/
inductive Stands (id : UInt32) (letters : List (Address × Message)) :
    List (Address × Message) → List Message → Progress Call CallResult → Prop
  | posting {c : Call} {sent : List (Address × Message)} {x : Address × Message}
      {rest : List (Address × Command)} (tallied : c.Tallied id []) (all : c.expected = letters.length)
      (unposted : c.unposted = some rest) (whole : letters = sent ++ x :: rest.map (letter id)) :
      Stands id letters sent [] (.waiting (.send x.1 x.2) c)
  | collecting {c : Call} {counted : List Message} {limit : Option Alarm}
      (tallied : c.Tallied id counted) (all : c.expected = letters.length)
      (posted : c.unposted = none) (short : counted.length < letters.length) :
      Stands id letters letters counted (.waiting (.receive .autoParser limit) c)
  | complete {counted : List Message} (own : ∀ m ∈ counted, m.callId = id ∧ m.command.asReply.isSome)
      (full : counted.length = letters.length) :
      Stands id letters letters counted
        (.finished (if counted.any Message.refuses then .error .rejected else .ok ()))
  | missed {counted : List Message} (own : ∀ m ∈ counted, m.callId = id ∧ m.command.asReply.isSome)
      (received expected : Nat) :
      Stands id letters letters counted (.finished (.error (.timedOut received expected)))

section

variable {id : UInt32} {letters sent : List (Address × Message)} {counted : List Message} {c : Call}

/-- What is still to be posted makes no difference to the tally. -/
lemma Tallied.repost (h : c.Tallied id counted) (rest : Option (List (Address × Command))) :
    { c with unposted := rest }.Tallied id counted :=
  ⟨h.number, h.received, h.failed, h.own⟩

/-- A call collects replies until it has one for each of its messages. -/
lemma stands_collect (tallied : c.Tallied id counted) (all : c.expected = letters.length)
    (posted : c.unposted = none) (room : counted.length ≤ letters.length) (limit : Option Alarm) :
    Stands id letters letters counted (c.collect limit) := by
  rcases c.collect_cases limit with ⟨short, hc⟩ | ⟨full, hc⟩
  · rw [hc]
    rw [tallied.received, all] at short
    exact .collecting tallied all posted short
  · rw [hc, tallied.failed]
    rw [tallied.received, all] at full
    exact .complete tallied.own (Nat.le_antisymm room full)

/-- A call that has messages left posts the next one, and otherwise it collects replies. -/
lemma stands_post {rest : List (Address × Command)} {v w : World} {p : Progress Call CallResult}
    (tallied : c.Tallied id []) (all : c.expected = letters.length)
    (whole : letters = sent ++ rest.map (letter id)) (h : c.post rest v = .ok (p, w)) :
    Stands id letters sent [] p := by
  cases rest with
  | nil =>
    obtain ⟨-, limit, rfl⟩ := post_nil_eq_ok h
    obtain rfl : letters = sent := by simpa using whole
    have ready : { c with unposted := none }.expected = letters.length := all
    exact stands_collect (tallied.repost none) ready rfl (Nat.zero_le _) limit
  | cons x more =>
    obtain ⟨a, command⟩ := x
    cases h
    have head : letter id (a, command) = (a, c.message command) := by
      rw [letter, message, tallied.number]
    rw [List.map_cons, head] at whole
    exact .posting (tallied.repost (some more)) all rfl whole

/-- Counting a message keeps the tally. -/
lemma Tallied.count (h : c.Tallied id counted) (posted : c.unposted = none) (m : Message)
    (limit : Option Alarm) (w : World) :
    (c.count m w).1.Tallied id (counted ++ c.tally (.received m limit) w) := by
  rcases c.count_cases m w with same | ⟨number, r, reply, more⟩
  · have none : c.tally (.received m limit) w = [] := by simp [tally, posted, same]
    rw [none, same, List.append_nil]
    exact h
  · have one : c.tally (.received m limit) w = [m] := by simp [tally, posted, more]
    rw [one, more]
    refine ⟨h.number, by simp [h.received], ?_, ?_⟩
    · have refuses : m.refuses = (r == .error) := by simp [Message.refuses, reply]
      simp [h.failed, refuses]
    · intro n hn
      rcases List.mem_append.1 hn with old | new
      · exact h.own n old
      · obtain rfl := List.mem_singleton.1 new
        exact ⟨number.trans h.number, by simp [reply]⟩

/-- Whether its alarm is armed makes no difference to where a call stands. -/
lemma Stands.rearmed {wait wait' : Wait} (h : Stands id letters sent counted (.waiting wait c))
    (r : wait.Rearmed wait') : Stands id letters sent counted (.waiting wait' c) := by
  cases h with
  | posting tallied all unposted whole =>
    cases r
    exact .posting tallied all unposted whole
  | collecting tallied all posted short =>
    cases r
    exact .collecting tallied all posted short

/-- A call has posted its messages in order, and no others. -/
lemma Stands.sent_prefix {p : Progress Call CallResult} (h : Stands id letters sent counted p) :
    sent <+: letters := by
  cases h with
  | posting _ _ _ whole => exact ⟨_, whole.symm⟩
  | _ => exact List.prefix_rfl

/-- A call counts no message but replies under its number. -/
lemma Stands.own {p : Progress Call CallResult} (h : Stands id letters sent counted p) :
    ∀ m ∈ counted, m.callId = id ∧ m.command.asReply.isSome := by
  cases h with
  | posting => exact fun m hm => absurd hm List.not_mem_nil
  | collecting tallied => exact tallied.own
  | complete own => exact own
  | missed own => exact own

/-- A call that collects replies goes on to do so after a message. -/
lemma stands_received {limit : Option Alarm} (tallied : c.Tallied id counted)
    (all : c.expected = letters.length) (posted : c.unposted = none)
    (short : counted.length < letters.length) (m : Message) (w : World) :
    Stands id letters letters (counted ++ c.tally (.received m limit) w)
      ((c.count m w).1.collect limit) := by
  have one : (c.tally (.received m limit) w).length ≤ 1 := (c.tally_sublist m limit w).length_le
  have room : (counted ++ c.tally (.received m limit) w).length ≤ letters.length := by
    rw [List.length_append]
    omega
  exact stands_collect (tallied.count posted m limit w) ((c.expected_count m w).trans all)
    ((c.unposted_count m w).trans posted) room limit

/-- Going on keeps a call standing. -/
lemma stands_resume {wait : Wait} {wake : Wake} {u v w : World} {p : Progress Call CallResult}
    (h : Stands id letters sent counted (.waiting wait c)) (ended : u.Ended wait wake v)
    (resumed : c.resume wake v = .ok (p, w)) :
    Stands id letters (sent ++ wait.posted wake) (counted ++ c.tally wake v) p := by
  cases h with
  | posting tallied all unposted whole =>
    cases ended
    simp only [resume, unposted] at resumed
    rw [tally_of_unposted unposted]
    exact stands_post tallied all (by rw [whole, List.append_cons]; rfl) resumed
  | @collecting _ _ limit tallied all posted short =>
    have quiet : Wait.posted (.receive .autoParser limit) wake = [] := rfl
    rw [quiet, List.append_nil]
    simp only [resume, posted] at resumed
    cases ended with
    | received taken =>
      cases resumed
      exact stands_received tallied all posted short _ v
    | missed =>
      cases resumed
      rw [tally_rang, List.append_nil]
      exact .missed tallied.own c.received c.expected

/-- Every step of a call keeps it standing, and leaves the caller alone. -/
lemma stands_of_step {a b : Stage Call CallResult Caller} {l : List Note}
    (step : routine.Step a l b) (h : Stands id letters sent counted a.1) :
    Stands id letters (sent ++ Note.letters l) (counted ++ Note.answers l) b.1 ∧
      b.2.1 = a.2.1 := by
  cases step with
  | pending looked =>
    simp only [Note.letters, Note.answers, List.filterMap_nil, List.append_nil]
    exact ⟨h.rearmed (World.rearmed_of_poll looked).1, trivial⟩
  | woken looked worked =>
    obtain ⟨⟨p, u⟩, resumed, done⟩ := bind_eq_ok.1 worked
    cases done
    rw [letters_notes, answers_notes]
    exact ⟨stands_resume h (World.ended_of_poll looked) resumed, rfl⟩

/-- A call of lists of different lengths changes neither the caller nor the mailboxes. -/
lemma start_of_length_ne {caller caller' : Caller} {targets : List Address}
    {commands : List Command} {v w : World} {p : Progress Call CallResult}
    (uneven : targets.length ≠ commands.length)
    (h : start caller targets commands v = .ok (p, caller', w)) :
    p = .finished (.error (.lengthMismatch targets.length commands.length)) ∧ caller' = caller ∧
      w.post = v.post := by
  unfold start at h
  rw [if_pos uneven] at h
  cases h
  exact ⟨rfl, rfl, rfl⟩

/-- A call of lists of one length takes the next number, throws the old replies away and begins to
post its messages. -/
lemma start_of_length_eq {caller caller' : Caller} {targets : List Address}
    {commands : List Command} {v w : World} {p : Progress Call CallResult}
    (even : targets.length = commands.length)
    (h : start caller targets commands v = .ok (p, caller', w)) :
    caller'.lastCall = caller.nextCall ∧ World.Kept (some .autoParser) v w ∧
      Stands caller.nextCall ((targets.zip commands).map (letter caller.nextCall)) [] [] p := by
  unfold start at h
  rw [if_neg (not_not_intro even)] at h
  obtain ⟨⟨q, u⟩, posted, h⟩ := bind_eq_ok.1 h
  cases h
  have count : targets.length = ((targets.zip commands).map (letter caller.nextCall)).length := by
    simp [even]
  refine ⟨rfl, ?_, ?_⟩
  · rw [world_of_post posted]
    exact kept_sweep v
  · exact stands_post ⟨rfl, rfl, rfl, fun m hm => absurd hm List.not_mem_nil⟩ count rfl posted

/-- A call that is not finished has the given number and posts to other mailboxes than that of the
replies. -/
def UnderWay (id : UInt32) (p : Progress Call CallResult) : Prop :=
  (∃ r, p = .finished r) ∨ ∃ (xs : List (Address × Command)) (sent : List (Address × Message))
    (counted : List Message), (∀ x ∈ xs, x.1 ≠ .autoParser) ∧
      Stands id (xs.map (letter id)) sent counted p

lemma underWay_of_start {caller caller' : Caller} {targets : List Address}
    {commands : List Command} {v w : World} {p : Progress Call CallResult}
    (away : ∀ a ∈ targets, a ≠ .autoParser)
    (h : start caller targets commands v = .ok (p, caller', w)) :
    UnderWay caller'.lastCall p := by
  by_cases even : targets.length = commands.length
  · obtain ⟨number, -, stands⟩ := start_of_length_eq even h
    refine .inr ⟨targets.zip commands, [], [], fun x hx => away _ (List.of_mem_zip hx).1, ?_⟩
    rw [number]
    exact stands
  · exact .inl ⟨_, (start_of_length_ne even h).1⟩

/-- A step leaves a call under way, and what it posts has the number of the call. -/
lemma underWay_of_step {a b : Stage Call CallResult Caller} {l : List Note}
    (step : routine.Step a l b) (h : UnderWay id a.1) :
    UnderWay id b.1 ∧ b.2.1 = a.2.1 ∧
      ∀ x ∈ Note.letters l, x.1 ≠ .autoParser ∧ x.2.callId = id := by
  rcases h with ⟨r, finished⟩ | ⟨xs, sent, counted, away, stands⟩
  · cases step <;> cases finished
  · obtain ⟨stands, same⟩ := stands_of_step step stands
    refine ⟨.inr ⟨xs, _, _, away, stands⟩, same, fun x hx => ?_⟩
    have own := stands.sent_prefix.subset (List.mem_append_right _ hx)
    obtain ⟨y, hy, rfl⟩ := List.mem_map.1 own
    exact ⟨away y hy, rfl⟩

end

end Call

end MatchRobot
