import MatchRobot.Proofs.Subsystem.Answers
import MatchRobot.Proofs.Subsystem.Calm

/-!
# What every cycle keeps

A `Ledger` follows the deeds of a subsystem. It says what holds of the state between two messages and
what holds while a job is under way, given what is noted of the deeds so far. If hearing of a mode,
inspecting, handling a message and going on with a job each keep to it (`Subsystem.Steady`), then so
does every run (`Cycle.holds_of_run`), whatever the messages are.

Hearing of a mode must not lead to a job. A job that empties the mailbox is over with that, and leaves a
state that is at rest whatever is noted of the messages that it threw away.
-/

namespace MatchRobot

/-- What is noted of the deeds of a kind of subsystem, and what the notes tell of its state. -/
structure Ledger (σ : Type) [Subsystem σ] (γ : Type) where
  note : γ → Deed → γ
  /-- What holds between two messages. -/
  rest : γ → σ → Prop
  /-- What holds while a job is under way. -/
  busy : γ → Subsystem.Job σ → σ → Prop

/-- Work leads to a job or to a result, of which this holds. -/
def Progress.Leads {ι α : Type} (busy : ι → Prop) (done : α → Prop) : Progress ι α → Prop
  | waiting _ job => busy job
  | finished a => done a

lemma Progress.Leads.imp {ι α : Type} {busy busy' : ι → Prop} {done done' : α → Prop}
    {p : Progress ι α} (h : p.Leads busy done) (job : ∀ i, busy i → busy' i)
    (result : ∀ a, done a → done' a) : p.Leads busy' done' := by
  cases p with
  | waiting wait i => exact job i h
  | finished a => exact result a h

/-- What is known after a deed of something that messages tell of. -/
def Deed.latest {γ : Type} (told : Message → Option γ) (g : γ) : Deed → γ
  | took m => (told m).getD g
  | _ => g

/-- After some deeds, the last message that tells anything of it counts. -/
lemma Deed.foldl_latest {γ : Type} (told : Message → Option γ) (t : List Deed) (g : γ) :
    t.foldl (latest told) g = ((taken t).reverse.findSome? told).getD g := by
  induction t generalizing g with
  | nil => rfl
  | cons d t ih =>
    rw [List.foldl_cons, ih]
    cases d with
    | took m =>
      have taken_cons : taken (took m :: t) = m :: taken t := rfl
      rw [taken_cons, List.reverse_cons, List.findSome?_append]
      cases later : (taken t).reverse.findSome? told with
      | none => cases said : told m <;> simp [latest, said]
      | some c => rfl
    | swept | settled | posted => rfl

variable {σ γ : Type} [Subsystem σ]

/-- A kind of subsystem that keeps to a ledger in all that it does. -/
structure Subsystem.Steady (k : Ledger σ γ) (sensed : σ → σ → Prop)
    (sweeps : Subsystem.Job σ → Prop) : Prop where
  posted : ∀ {g a m}, k.note g (.posted a m) = g
  quiet : ∀ {g}, k.note g (.took .timeout) = g
  enter : ∀ {g s m mode} w, m.command = .state mode → k.rest g s →
    ∃ s' u, Subsystem.enter mode s w = .ok (.finished (), s', u) ∧ k.rest (k.note g (.took m)) s'
  check : ∀ {g s} w, k.rest g s → k.rest g (Subsystem.check s w).2.1
  refuse : ∀ {g s w} m, k.rest g s → (Subsystem.check s w).1 = true →
    k.rest (k.note (k.note g (.took m)) (.settled m .refused)) (Subsystem.check s w).2.1
  handle : ∀ {g s m w stage}, m.isMode = false → k.rest g s →
    Subsystem.handle m.command s w = .ok stage →
    stage.1.Leads (fun job => k.busy (k.note g (.took m)) job stage.2.1) fun reply =>
      k.rest (k.note (k.note g (.took m)) (.settled m (.handled reply))) stage.2.1
  resume : ∀ {g s m job wake w stage}, k.busy g job s → Subsystem.resume job wake s w = .ok stage →
    stage.1.Leads (fun job => k.busy g job stage.2.1) fun reply =>
      k.rest (k.note g (.settled m (.handled reply))) stage.2.1
  sweep : ∀ {g s job wake w stage}, sweeps job → k.busy g job s →
    Subsystem.resume job wake s w = .ok stage →
    stage.1.Leads (fun _ => False) fun _ => ∀ g, k.rest g stage.2.1
  sense : ∀ {g s s'}, k.rest g s → sensed s s' → k.rest g s'
  feel : ∀ {g s s' job}, k.busy g job s → sensed s s' → k.busy g job s'

namespace Cycle

variable {k : Ledger σ γ} {sensed : σ → σ → Prop} {fits : Subsystem.Job σ → Wait → Prop}
  {bin : Option Address} {sweeps : Subsystem.Job σ → Prop} {g : γ} {m : Message} {r r' : Runner σ}
  {v w : World}

/-- What a ledger says of a subsystem at a point of its cycle. -/
def Holds (k : Ledger σ γ) (g : γ) : Cycle (Subsystem.Job σ) → σ → Prop
  | listening, s | replying, s => k.rest g s
  | handling _ job, s => k.busy g job s
  | entering _, _ => False

lemma holds_of_calm {c : Cycle (Subsystem.Job σ)} {s : σ} (calm : Calm c) (h : k.rest g s) :
    Holds k g c s := by
  cases c with
  | listening | replying => exact h
  | entering | handling => exact calm.elim

/-! ### One cycle -/

/-- Work on a message, seen from the subsystem that runs. -/
lemma leads_handled {stage : Stage (Subsystem.Job σ) Reply σ}
    (h : stage.1.Leads (fun job => k.busy g job stage.2.1) fun reply =>
      k.rest (k.note g (.settled m (.handled reply))) stage.2.1) :
    (handled r stage).1.Leads (fun job => k.busy g job (handled r stage).2.1.subsystem) fun x =>
      k.rest (k.note g (.settled m x)) (handled r stage).2.1.subsystem := by
  obtain ⟨progress, s, u⟩ := stage
  cases progress <;> exact h

/-- A message that is no mode is refused or handled. -/
lemma leads_treat (steady : Subsystem.Steady k sensed sweeps) (news : m.isMode = false)
    (h : k.rest g r.subsystem) {stage : Stage (Subsystem.Job σ) Verdict (Runner σ)}
    (done : treat m r w = .ok stage) :
    stage.1.Leads (fun job => k.busy (k.note g (.took m)) job stage.2.1.subsystem) fun x =>
      k.rest (k.note (k.note g (.took m)) (.settled m x)) stage.2.1.subsystem := by
  unfold treat inspect at done
  simp only at done
  by_cases due : checkDue r.loops = true
  · simp only [due, if_true] at done
    split at done
    · next tripped =>
      cases done
      exact steady.refuse m h tripped
    · obtain ⟨stage', worked, done⟩ := bind_eq_ok.1 done
      cases done
      exact leads_handled (steady.handle news (steady.check w h) worked)
  · simp only [due, if_false, Bool.false_eq_true] at done
    obtain ⟨stage', worked, done⟩ := bind_eq_ok.1 done
    cases done
    exact leads_handled (steady.handle news h worked)

/-- Where a message is taken up or worked on, a verdict is answered or the job goes on. -/
lemma holds_conclude {work : Except Fault (Stage (Subsystem.Job σ) Verdict (Runner σ))}
    {p : Progress (Cycle (Subsystem.Job σ)) Empty}
    (h : ∀ stage, work = .ok stage → stage.1.Leads (fun job => k.busy g job stage.2.1.subsystem)
      fun x => k.rest (k.note g (.settled m x)) stage.2.1.subsystem)
    (done : (do let stage ← work; return conclude m stage) >>= again = .ok (p, r', w)) :
    ∃ wait c, p = .waiting wait c ∧
      Holds k (((verdictOn m work).map fun x => Deed.settled x.1 x.2).foldl k.note g) c
        r'.subsystem := by
  obtain ⟨stage, concluded, done⟩ := bind_eq_ok.1 done
  obtain ⟨⟨progress, s, u⟩, rfl, concluded⟩ := bind_eq_ok.1 concluded
  have leads := h _ rfl
  cases concluded
  cases progress with
  | waiting wait job =>
    cases done
    exact ⟨wait, _, rfl, leads⟩
  | finished x =>
    obtain ⟨rfl, wait, c, rfl, calm⟩ := calm_conclude done
    exact ⟨wait, c, rfl, holds_of_calm calm leads⟩

/-- The notes of a stretch of work. -/
lemma note_deeds (steady : Subsystem.Steady k sensed sweeps) (wait : Wait)
    (c : Cycle (Subsystem.Job σ)) (wake : Wake) : (deeds wait c wake r w).foldl k.note g =
      ((c.thrown wake r w).map .swept).foldl k.note
        (((c.judged wake r w).map fun x => Deed.settled x.1 x.2).foldl k.note
          (((wait.taken (Subsystem.address σ) wake).map .took).foldl k.note g)) := by
  simp only [deeds, List.foldl_append, List.foldl_map, steady.posted, List.foldl_fixed]

/-- A stretch of work keeps to the ledger. -/
lemma holds_runOn (modest : Subsystem.Modest σ fits bin sweeps)
    (steady : Subsystem.Steady k sensed sweeps) {wait : Wait} {wake : Wake}
    {c : Cycle (Subsystem.Job σ)} {p : Progress (Cycle (Subsystem.Job σ)) Empty}
    (fit : Fits (Subsystem.address σ) fits c wait) (ended : v.Ended wait wake w)
    (h : Holds k g c r.subsystem) {u : World} (done : c.runOn wake r w = .ok (p, r', u)) :
    ∃ wait' c', p = .waiting wait' c' ∧
      Holds k ((deeds wait c wake r w).foldl k.note g) c' r'.subsystem := by
  have nothing := (queue_of_runOn modest fit done).2
  rw [note_deeds steady]
  cases fit with
  | @listening limit =>
    rw [nothing id]
    -- A quiet cycle notes nothing, as if its message had been taken.
    have taken : (((Wait.receive (Subsystem.address σ) limit).taken (Subsystem.address σ)
        wake).map .took).foldl k.note g = k.note g (.took wake.message) := by
      cases ended with
      | received => simp [Wait.taken, Wake.message]
      | missed => exact steady.quiet.symm
    rw [taken]
    have done : take wake.message r w >>= again = .ok (p, r', u) := done
    cases mode : wake.message.isMode with
    | true =>
      obtain ⟨new, news, take_eq⟩ := take_of_isMode (r := r) (w := w) mode
      obtain ⟨s, u', entered, rests⟩ :=
        steady.enter (w.notice (.modeHeard (Subsystem.stamp σ) new)) news h
      rw [take_eq, entered] at done
      obtain ⟨rfl, -, limit', rfl⟩ := start_eq_ok done
      refine ⟨_, _, rfl, ?_⟩
      simp only [judged, mode, if_true, List.map_nil, List.foldl_nil]
      exact rests
    | false =>
      rw [take_of_isMode_eq_false mode] at done
      obtain ⟨wait', c', rfl, holds⟩ :=
        holds_conclude (fun stage => leads_treat (r := { r with loops := r.loops + 1 }) steady mode h)
          done
      refine ⟨wait', c', rfl, ?_⟩
      simpa [judged, mode] using holds
  | entering => exact h.elim
  | @handling m job _ news fit =>
    rw [Wait.taken_eq_nil fun limit => modest.reads fit]
    have pursued : ∀ stage, pursue job wake r w = .ok stage →
        ∃ s, Subsystem.resume job wake r.subsystem w = .ok s ∧ stage = handled r s := by
      intro stage pursued
      obtain ⟨s, resumed, same⟩ := bind_eq_ok.1 pursued
      cases same
      exact ⟨s, resumed, rfl⟩
    by_cases sweeping : sweeps job
    · obtain ⟨stage, concluded, done⟩ := bind_eq_ok.1 done
      obtain ⟨stage', worked, concluded⟩ := bind_eq_ok.1 concluded
      obtain ⟨⟨progress, s, u'⟩, resumed, rfl⟩ := pursued _ worked
      have swept := steady.sweep sweeping h resumed
      cases concluded
      cases progress with
      | waiting => exact swept.elim
      | finished reply =>
        obtain ⟨rfl, wait', c', rfl, calm⟩ := calm_conclude done
        exact ⟨wait', c', rfl, holds_of_calm calm (swept _)⟩
    · rw [nothing sweeping]
      refine holds_conclude (fun stage worked => ?_) done
      obtain ⟨s, resumed, rfl⟩ := pursued stage worked
      exact leads_handled (steady.resume h resumed)
  | replying =>
    rw [nothing id]
    obtain ⟨rfl, -, limit, rfl⟩ := start_eq_ok done
    exact ⟨_, _, rfl, h⟩

/-! ### Whole runs -/

/-- The ledger holds at a moment of a run. -/
def Kept (k : Ledger σ γ) (g : γ) (b : Stage (Cycle (Subsystem.Job σ)) Empty (Runner σ)) : Prop :=
  ∃ wait c, b.1 = .waiting wait c ∧ Holds k g c b.2.1.subsystem

section

variable {a b : Stage (Cycle (Subsystem.Job σ)) Empty (Runner σ)} {t l : List Deed}

lemma kept_of_step (modest : Subsystem.Modest σ fits bin sweeps)
    (steady : Subsystem.Steady k sensed sweeps) (step : (routine σ).Step a l b)
    (fit : ∀ wait c, a.1 = .waiting wait c → Fits (Subsystem.address σ) fits c wait)
    (h : Kept k g a) : Kept k (l.foldl k.note g) b := by
  obtain ⟨wait, c, at_, holds⟩ := h
  cases step with
  | pending looked =>
    cases at_
    exact ⟨_, _, rfl, holds⟩
  | woken looked worked =>
    cases at_
    exact holds_runOn modest steady (fit _ _ rfl) (World.ended_of_poll looked) holds worked

/-- What the surroundings do to the devices keeps to the ledger. -/
lemma kept_of_sensed (steady : Subsystem.Steady k sensed sweeps)
    {p : Progress (Cycle (Subsystem.Job σ)) Empty} (sense : sensed r.subsystem r'.subsystem)
    (h : Kept k g (p, r, v)) : Kept k g (p, r', w) := by
  obtain ⟨wait, c, at_, holds⟩ := h
  refine ⟨wait, c, at_, ?_⟩
  cases c with
  | listening | replying => exact steady.sense holds sense
  | handling => exact steady.feel holds sense
  | entering => exact holds.elim

/-- A run keeps to the ledger. -/
lemma kept_of_run (modest : Subsystem.Modest σ fits bin sweeps)
    (steady : Subsystem.Steady k sensed sweeps) (run : (routine σ).Run (Sensed sensed) a t b)
    (fit : ∀ wait c, a.1 = .waiting wait c → Fits (Subsystem.address σ) fits c wait)
    (h : Kept k g a) : Kept k (t.foldl k.note g) b := by
  induction run with
  | start => exact h
  | look run step ih =>
    rw [List.foldl_append]
    exact kept_of_step modest steady step (fits_of_run modest run fit) ih
  | around run change ih => exact kept_of_sensed steady change ih

/-- A subsystem that begins by listening keeps to a ledger that it agrees with then. -/
lemma kept_of_begun (modest : Subsystem.Modest σ fits bin sweeps)
    (steady : Subsystem.Steady k sensed sweeps) (begun : start r w = .ok a)
    (run : (routine σ).Run (Sensed sensed) a t b) (h : k.rest g r.subsystem) :
    Kept k (t.foldl k.note g) b := by
  obtain ⟨progress, r₀, w₀⟩ := a
  obtain ⟨rfl, rfl, limit, rfl⟩ := start_eq_ok begun
  refine kept_of_run modest steady run (fun wait c at_ => ?_) ⟨_, _, rfl, h⟩
  cases at_
  exact .listening

end

end Cycle

end MatchRobot
