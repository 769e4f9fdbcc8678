import DEFw.Agents.Times

namespace DEFw.Agents
open Transport (Uuid)

/-- Where an iteration of `defw_listener_main` stands: it serves what `select` found,
or goes over the table in `agent_hb_check` or with `send_hb_to_agents`, with the
blocks that it has not come to yet. -/
inductive Phase
  | working
  | checking (todo : List Nat)
  | sending (todo : List Nat)
  deriving DecidableEq

def Phase.isChecking : Phase → Bool
  | checking _ => true
  | _ => false

def Phase.isSending : Phase → Bool
  | sending _ => true
  | _ => false

/-- The loop of `defw_listener_main` with heartbeats enabled, in its process.
`time1` has no value of the clock before the first iteration ends, and `ended`
counts the iterations. -/
structure Loop where
  process : Process
  time1 : Int
  time2 : Nat
  sendHbNow : Bool
  phase : Phase
  ended : Nat

/-- What happens next: a thread acts, `select` fails, the loop collects the time,
or it comes to the next block of a pass over the table (`rc` is what `defw_send_hb`
returns) or to its end. -/
inductive Turn
  | act (action : Action)
  | selectFails
  | collect
  | check
  | heartbeat (rc : DefwRc)
  deriving DecidableEq

namespace Action

def accepts : Action → Bool
  | accept _ _ => true
  | _ => false

/-- A step of the listener that belongs to one of the passes, or ends an iteration. -/
def passes : Action → Bool
  | selectFails | livenessCheck _ _ | sendHb _ _ => true
  | _ => false

end Action

namespace Loop

def start (uuid : Uuid) (clock listenFd : Nat) (time1 : Int) : Loop where
  process := Process.start uuid clock listenFd
  time1 := time1
  time2 := clock
  sendHbNow := false
  phase := .working
  ended := 0

def elapsed (s : Loop) : Int := s.time2 - s.time1

/-- The end of an iteration. -/
def finish (s : Loop) : Loop :=
  { s with time1 := s.time2, phase := .working, ended := s.ended + 1 }

/-- The second gate. -/
def trySending (s : Loop) : Loop :=
  if s.elapsed ≥ hbTo ∨ s.sendHbNow then
    { s with phase := .sending s.process.world.table, sendHbNow := false }
  else s.finish

/-- The loop collects the time and comes to the first gate. -/
def collect (s : Loop) : Loop :=
  let s := { s with time2 := s.process.world.clock }
  if (s.elapsed : Int) ≥ hbTo * 100 then { s with phase := .checking s.process.world.table } else s.trySending

/-- A block of the pass that is still in the table is given to a helper. -/
def visit (s : Loop) (id : Nat) (action : Action) (phase : Phase) : Except Fault Loop :=
  if id ∈ s.process.world.table then do
    let process ← s.process.step action
    return { s with process := process, phase := phase }
  else .ok { s with phase := phase }

def step (s : Loop) : Turn → Except Fault Loop
  | .act action => do
    let process ← s.process.step action
    return { s with process := process, sendHbNow := s.sendHbNow || action.accepts }
  | .selectFails => do
    let process ← s.process.step .selectFails
    return { s with process := process, time1 := s.time2, ended := s.ended + 1 }
  | .collect => .ok s.collect
  | .check =>
    match s.phase with
    | .checking [] => .ok s.trySending
    | .checking (id :: todo) => s.visit id (.livenessCheck id s.time1.toNat) (.checking todo)
    | _ => .ok s
  | .heartbeat rc =>
    match s.phase with
    | .sending [] => .ok s.finish
    | .sending (id :: todo) => s.visit id (.sendHb id rc) (.sending todo)
    | _ => .ok s

def machine : Faulting Loop Turn Fault := ⟨step⟩

/-- When a turn can come. While the listener goes over the table it serves no
connection, and it is done with a block before it comes to the next. -/
def Allowed (s : Loop) : Turn → Prop
  | .act action => s.process.Enabled action ∧
      (if s.phase = .working then action.passes = false else action.aside = true)
  | .selectFails => s.phase = .working ∧ s.process.listener = .idle
  | .collect => s.phase = .working ∧ s.process.listener = .idle
  | .check => s.phase.isChecking = true ∧ s.process.listener = .idle
  | .heartbeat _ => s.phase.isSending = true ∧ s.process.listener = .idle

instance (s : Loop) : (turn : Turn) → Decidable (s.Allowed turn)
  | .act _ => inferInstanceAs (Decidable (_ ∧ _))
  | .selectFails => inferInstanceAs (Decidable (_ ∧ _))
  | .collect => inferInstanceAs (Decidable (_ ∧ _))
  | .check => inferInstanceAs (Decidable (_ ∧ _))
  | .heartbeat _ => inferInstanceAs (Decidable (_ ∧ _))

/-- How long the iterations after the first take, in a loop that was entered at the
time `start`: an iteration takes `HB_TO * 100` seconds, or `HB_TO` and begins before
a handshake can be over its deadline, or begins before a heartbeat can be due. -/
def Paced (start : Nat) (s : Loop) : Turn → Prop
  | .selectFails => s.ended = 0 ∨ s.time1 < start + 2 * hbTo
  | .collect => s.ended = 0 ∨ s.time1 + hbTo * 100 ≤ s.process.world.clock ∨
      (s.time1 + hbTo ≤ s.process.world.clock ∧ s.time1 < start + tcpReadTimeoutSec) ∨ s.time1 < start + 2 * hbTo
  | _ => True

instance (start : Nat) (s : Loop) : (turn : Turn) → Decidable (s.Paced start turn)
  | .selectFails => inferInstanceAs (Decidable (_ ∨ _))
  | .collect => inferInstanceAs (Decidable (_ ∨ _))
  | .act _ | .check | .heartbeat _ => isTrue trivial

end Loop

namespace Process

variable {start : Nat} {s s' : Process}

/-- The blocks of the table are fine. -/
def Keeps (s : Process) (fine : Block → Prop) : Prop :=
  ∀ id ∈ s.world.table, ∀ agent, s.world.blocks id = some agent → fine agent

/-- The blocks that a pass has come to are fine, unless it is about to give them up
as dead. -/
def Passed (s : Process) (todo : List Nat) (fine : Block → Prop) : Prop :=
  ∀ id ∈ s.world.table, id ∉ todo → s.ending .proceed ≠ some id → ∀ agent, s.world.blocks id = some agent → fine agent

variable {fine : Block → Prop} {todo : List Nat}

theorem Keeps.undisturbed (keeps : s.Keeps fine) (undisturbed : Undisturbed s s')
    (still : ∀ agent after : Block, fine agent → agent.Still after → fine after)
    (outgoing : ∀ agent : Block, agent.Outgoing → fine agent) : s'.Keeps fine := by
  intro id member after there
  rcases undisturbed id member after there with ⟨listed, agent, found, same⟩ | new
  · exact still agent after (keeps id listed agent found) same
  · exact outgoing after new

theorem Passed.undisturbed (passed : s.Passed todo fine) (undisturbed : Undisturbed s s')
    (ending : ∀ id ∈ s'.world.table, s.ending .proceed = some id → s'.ending .proceed = some id)
    (still : ∀ agent after : Block, fine agent → agent.Still after → fine after)
    (outgoing : ∀ agent : Block, agent.Outgoing → fine agent) : s'.Passed todo fine := by
  intro id member done apart after there
  rcases undisturbed id member after there with ⟨listed, agent, found, same⟩ | new
  · exact still agent after (passed id listed done (fun ends => apart (ending id member ends)) agent found) same
  · exact outgoing after new

theorem Passed.keeps (passed : s.Passed [] fine) (idle : s.listener = .idle) : s.Keeps fine := by
  refine fun id member => passed id member List.not_mem_nil fun ends => ?_
  obtain ⟨_, _, leaving⟩ := (ending_proceed s id).mp ends
  rw [idle] at leaving
  cases leaving

/-- A pass begins. -/
theorem passed_table (s : Process) (fine : Block → Prop) : s.Passed s.world.table fine :=
  fun _ member later => absurd member later

/-- A pass comes to a block that has left the table. -/
theorem Passed.skip {id : Nat} (passed : s.Passed (id :: todo) fine) (gone : id ∉ s.world.table) :
    s.Passed todo fine := by
  intro other member done
  refine passed other member fun inside => ?_
  rcases List.mem_cons.mp inside with rfl | later
  · exact gone member
  · exact done later

/-- A pass comes to a block, and is going to release it. -/
theorem Passed.visit {id : Nat} (passed : s.Passed (id :: todo) fine) (idle : s.listener = .idle)
    {touched : Block} {dead : Bool} {reason : Option String}
    (result : s' = { s with world := s.world.put id touched, listener := .leaving (.established []) id dead reason })
    (passes : dead = false → fine touched) : s'.Passed todo fine := by
  subst result
  intro other member done apart after there
  by_cases here : other = id
  · subst here
    rw [World.blocks_put_self] at there
    cases there
    refine passes ?_
    cases dead with
    | false => rfl
    | true => exact absurd rfl apart
  · have before := (World.blocks_put_of_ne here).symm.trans there
    refine passed other member (fun inside => ?_) (fun ends => ?_) after before
    · rcases List.mem_cons.mp inside with same | later
      · exact here same
      · exact done later
    · obtain ⟨_, _, leaving⟩ := (ending_proceed s other).mp ends
      rw [idle] at leaving
      cases leaving

theorem livenessCheck_ok {id t : Nat} (run : s.step (.livenessCheck id t) = .ok s') :
    ∃ agent, s.world.blocks id = some agent ∧
      s' = { s with
        world := s.world.put id agent.acquired
        listener := .leaving (.established []) id (agent.expired t).isSome (agent.expired t) } := by
  obtain ⟨agent, found, rfl⟩ := visiting_ok_iff.mp run
  exact ⟨agent, found, rfl⟩

/-- What `send_hb_to_agents` does with a block: it leaves it alone, gives it up, or
notes the time. -/
theorem sendHb_ok {id : Nat} {rc : DefwRc} (run : s.step (.sendHb id rc) = .ok s') :
    ∃ agent touched dead reason, s.world.blocks id = some agent ∧
      s' = { s with world := s.world.put id touched, listener := .leaving (.established []) id dead reason } ∧
      (agent.heartbeatMode ≠ .remote ∧ touched = agent.acquired ∨ dead = true ∧ touched = agent.acquired ∨
        touched = (agent.transmitted s.world.clock).acquired) := by
  obtain ⟨agent, deref, rest⟩ := Except.bind_ok_iff.mp run
  have found := World.deref_ok_iff.mp deref
  split_ifs at rest with other failed
  · obtain ⟨same, there, rfl⟩ := visiting_ok_iff.mp rest
    rw [found] at there
    cases there
    exact ⟨agent, _, _, _, found, rfl, .inl ⟨other, rfl⟩⟩
  · obtain ⟨same, there, rfl⟩ := visiting_ok_iff.mp rest
    rw [found] at there
    cases there
    exact ⟨agent, _, _, _, found, rfl, .inr (.inl ⟨rfl, rfl⟩)⟩
  · obtain ⟨w, edited, visited⟩ := Except.bind_ok_iff.mp rest
    obtain ⟨block, there, rfl⟩ := World.edit_ok_iff.mp edited
    rw [found] at there
    cases there
    obtain ⟨same, there, rfl⟩ := visiting_ok_iff.mp visited
    rw [World.blocks_put_self] at there
    cases there
    refine ⟨agent, (agent.transmitted s.world.clock).acquired, false, none, found, ?_, .inr (.inr rfl)⟩
    simp only [World.put_put]
    rfl

end Process

namespace Loop

theorem trySending_cases (s : Loop) : s.trySending.ended = s.ended ∨ s.elapsed < hbTo ∧ s.trySending = s.finish := by
  unfold trySending
  split
  · exact .inl rfl
  · next closed => exact .inr ⟨by omega, rfl⟩

/-- Where an iteration ends as soon as it has collected the time. -/
theorem collect_cases (s : Loop) : s.collect.ended = s.ended ∨
    s.process.world.clock - s.time1 < hbTo ∧ s.collect = finish { s with time2 := s.process.world.clock } := by
  simp only [collect]
  split
  · exact .inl rfl
  · exact trySending_cases _

/-- What holds between two turns of a loop that was entered at the time `start`. -/
structure Sound (start : Nat) (s : Loop) : Prop where
  punctual : s.process.Punctual start
  collected : s.time2 ≤ s.process.world.clock
  stored : 1 ≤ s.ended → s.time1 ≤ s.time2
  resting : s.phase = .working ∨ s.process.Resting
  checking : ∀ todo, s.phase = .checking todo → hbTo * 100 ≤ s.elapsed ∧ s.process.Passed todo (Block.Heard s.time1)
  sending : ∀ todo, s.phase = .sending todo → 1 ≤ s.ended →
    s.process.Keeps (Block.Heard s.time1) ∧ s.process.Passed todo (Block.Told s.time1)

theorem sound_start (uuid : Uuid) (clock listenFd : Nat) (time1 : Int) :
    (start uuid clock listenFd time1).Sound clock := by
  refine ⟨⟨Process.accounts_start _ uuid clock listenFd, le_refl clock, ?_, ?_, ?_⟩, le_refl clock, ?_, .inl rfl,
    ?_, ?_⟩
  · intro id agent found
    cases found
  · intro id member
    cases member
  · intro id member
    cases member
  · intro (ended : 1 ≤ 0)
    omega
  · intro todo phase
    cases phase
  · intro todo phase
    cases phase

namespace Sound

variable {start : Nat} {s s' : Loop}

theorem finish (punctual : s.process.Punctual start) (collected : s.time2 ≤ s.process.world.clock) :
    s.finish.Sound start where
  punctual := punctual
  collected := collected
  stored := fun _ => le_refl (s.time2 : Int)
  resting := .inl rfl
  checking := nofun
  sending := nofun

/-- The second gate, where every block has been heard of. -/
theorem trySending (punctual : s.process.Punctual start) (collected : s.time2 ≤ s.process.world.clock)
    (stored : 1 ≤ s.ended → s.time1 ≤ s.time2) (idle : s.process.listener = .idle)
    (heard : 1 ≤ s.ended → s.process.Keeps (Block.Heard s.time1)) : s.trySending.Sound start := by
  unfold Loop.trySending
  split
  · refine ⟨punctual, collected, stored, .inr (.inl idle), nofun, fun todo phase ended => ?_⟩
    cases phase
    exact ⟨heard ended, s.process.passed_table _⟩
  · exact finish punctual collected

/-- Blocks have been heard of at the beginning. -/
theorem heard_early {s : Process} (punctual : s.Punctual start) {t : Int} (early : t < start + tcpReadTimeoutSec) :
    s.Keeps (Block.Heard t) :=
  fun id _ agent found => (punctual.stamped id agent found).heard early

theorem told_early {s : Process} (punctual : s.Punctual start) {t : Int} (early : t < start + 2 * hbTo) :
    s.Keeps (Block.Told t) :=
  fun id _ agent found => (punctual.stamped id agent found).told early

variable (sound : s.Sound start)

include sound

theorem act {action : Action} (allowed : s.Allowed (.act action)) {process : Process}
    (run : s.process.step action = .ok process) (sendHbNow : Bool) :
    Sound start { s with process := process, sendHbNow := sendHbNow } := by
  have took := Process.step_took sound.punctual.accounts.nextBlock_not_mem run
  have punctual := sound.punctual.step allowed.1 took
  have clock : s.process.world.clock ≤ process.world.clock := took.clock_le
  have collected := sound.collected.trans clock
  by_cases working : s.phase = .working
  · exact ⟨punctual, collected, sound.stored, .inl working, fun todo phase => absurd (working.symm.trans phase) nofun,
      fun todo phase => absurd (working.symm.trans phase) nofun⟩
  · have aside : action.aside = true := by
      have := allowed.2
      rwa [if_neg working] at this
    obtain ⟨undisturbed, resting, ending⟩ :=
      sound.punctual.aside aside allowed.1 (sound.resting.resolve_left working) run
    refine ⟨punctual, collected, sound.stored, .inr resting, fun todo phase => ?_, fun todo phase ended => ?_⟩
    · obtain ⟨long, passed⟩ := sound.checking todo phase
      exact ⟨long, passed.undisturbed undisturbed ending (fun _ _ => Block.Heard.still) fun _ new => new.heard _⟩
    · obtain ⟨keeps, passed⟩ := sound.sending todo phase ended
      exact ⟨keeps.undisturbed undisturbed (fun _ _ => Block.Heard.still) (fun _ new => new.heard _),
        passed.undisturbed undisturbed ending (fun _ _ => Block.Told.still) fun _ new => new.told _⟩

theorem collect (idle : s.process.listener = .idle) (paced : s.Paced start .collect) : s.collect.Sound start := by
  have stored (ended : 1 ≤ s.ended) : s.time1 ≤ s.process.world.clock := by
    have := sound.stored ended
    have := sound.collected
    omega
  simp only [Loop.collect]
  split
  · next long =>
    refine ⟨sound.punctual, le_rfl, stored, .inr (.inl idle), fun todo phase => ?_, fun _ other => (by cases other)⟩
    cases phase
    exact ⟨long, s.process.passed_table _⟩
  · next short =>
    refine trySending sound.punctual le_rfl stored idle fun ended => heard_early sound.punctual ?_
    simp only [Loop.elapsed, hbTo] at short
    rcases paced with first | long | ⟨_, early⟩ | early
    · have : 1 ≤ s.ended := ended
      omega
    · simp only [hbTo] at long
      omega
    · exact early
    · change s.time1 < _ at early
      simp only [hbTo, tcpReadTimeoutSec] at early ⊢
      omega

theorem check (idle : s.process.listener = .idle) (run : s.step .check = .ok s') : s'.Sound start := by
  cases phase : s.phase with
  | working =>
    simp only [Loop.step, phase] at run
    cases run
    exact sound
  | sending todo =>
    simp only [Loop.step, phase] at run
    cases run
    exact sound
  | checking todo =>
    obtain ⟨long, passed⟩ := sound.checking todo phase
    cases todo with
    | nil =>
      simp only [Loop.step, phase] at run
      cases run
      exact trySending sound.punctual sound.collected sound.stored idle fun _ => passed.keeps idle
    | cons id todo =>
      simp only [Loop.step, phase, Loop.visit] at run
      split at run
      · next member =>
        obtain ⟨process, step, result⟩ := Except.bind_ok_iff.mp run
        cases result
        have bound : s.time1.toNat ≤ s.process.world.clock := by
          have := sound.collected
          simp only [Loop.elapsed, hbTo] at long
          omega
        have took := Process.step_took sound.punctual.accounts.nextBlock_not_mem step
        have enabled : s.process.Enabled (.livenessCheck id s.time1.toNat) := ⟨idle, member, bound⟩
        have punctual := sound.punctual.step enabled took
        refine ⟨punctual, sound.collected.trans took.clock_le, sound.stored, ?_, ?_, fun _ other => (by cases other)⟩
        · obtain ⟨agent, _, rfl⟩ := Process.livenessCheck_ok step
          exact .inr (.inr ⟨_, _, _, _, rfl⟩)
        · rintro _ ⟨⟩
          obtain ⟨agent, found, result⟩ := Process.livenessCheck_ok step
          refine ⟨long, passed.visit idle result fun fine => ?_⟩
          have heard := Block.heard_of_expired (sound.punctual.stamped id agent found) (by simpa using fine)
          exact (heard.earlier (Int.self_le_toNat _)).still {}
      · next gone =>
        cases run
        refine ⟨sound.punctual, sound.collected, sound.stored, .inr (.inl idle), ?_, fun _ other => (by cases other)⟩
        rintro _ ⟨⟩
        exact ⟨long, passed.skip gone⟩

theorem heartbeat (idle : s.process.listener = .idle) {rc : DefwRc} (run : s.step (.heartbeat rc) = .ok s') :
    s'.Sound start := by
  cases phase : s.phase with
  | working =>
    simp only [Loop.step, phase] at run
    cases run
    exact sound
  | checking todo =>
    simp only [Loop.step, phase] at run
    cases run
    exact sound
  | sending todo =>
    cases todo with
    | nil =>
      simp only [Loop.step, phase] at run
      cases run
      exact finish sound.punctual sound.collected
    | cons id todo =>
      simp only [Loop.step, phase, Loop.visit] at run
      split at run
      · next member =>
        obtain ⟨process, step, result⟩ := Except.bind_ok_iff.mp run
        cases result
        have took := Process.step_took sound.punctual.accounts.nextBlock_not_mem step
        have enabled : s.process.Enabled (.sendHb id rc) := ⟨idle, member⟩
        have punctual := sound.punctual.step enabled took
        obtain ⟨agent, touched, dead, reason, found, result, outcome⟩ := Process.sendHb_ok step
        refine ⟨punctual, sound.collected.trans took.clock_le, sound.stored, .inr (.inr ?_), fun _ other => (by cases other), ?_⟩
        · exact ⟨_, _, _, _, congrArg Process.listener result⟩
        · rintro _ ⟨⟩ ended
          obtain ⟨keeps, passed⟩ := sound.sending _ phase ended
          have same : agent.Heard s.time1 → touched.Heard s.time1 := by
            rcases outcome with ⟨_, rfl⟩ | ⟨_, rfl⟩ | rfl <;> exact fun heard => ⟨heard.handshake, heard.received⟩
          refine ⟨?_, passed.visit idle result fun alive => ?_⟩
          · subst result
            intro other listed after there
            by_cases here : other = id
            · subst here
              rw [World.blocks_put_self] at there
              cases there
              exact same (keeps other listed agent found)
            · exact keeps other listed after ((World.blocks_put_of_ne here).symm.trans there)
          · rcases outcome with ⟨other, rfl⟩ | ⟨isDead, _⟩ | rfl
            · exact fun remote => absurd remote other
            · rw [isDead] at alive
              cases alive
            · intro _
              have := sound.stored ended
              have := sound.collected
              change s.time1 < s.process.world.clock + 2 * hbTo
              simp only [hbTo]
              omega
      · next gone =>
        cases run
        refine ⟨sound.punctual, sound.collected, sound.stored, .inr (.inl idle), fun _ other => (by cases other), ?_⟩
        rintro _ ⟨⟩ ended
        obtain ⟨keeps, passed⟩ := sound.sending _ phase ended
        exact ⟨keeps, passed.skip gone⟩

/-- One turn. -/
theorem step {turn : Turn} (allowed : s.Allowed turn) (paced : s.Paced start turn) (run : s.step turn = .ok s') :
    s'.Sound start := by
  cases turn with
  | act action =>
    obtain ⟨process, step, result⟩ := Except.bind_ok_iff.mp run
    cases result
    exact sound.act allowed step _
  | selectFails =>
    cases run
    have enabled : s.process.Enabled .selectFails := allowed.2
    exact ⟨sound.punctual.step enabled .selectFails, sound.collected, fun _ => le_rfl, .inl allowed.1,
      fun todo phase => absurd (allowed.1.symm.trans phase) nofun,
      fun todo phase => absurd (allowed.1.symm.trans phase) nofun⟩
  | collect =>
    cases run
    exact sound.collect allowed.2 paced
  | check => exact sound.check allowed.2 run
  | heartbeat rc => exact sound.heartbeat allowed.2 run

omit sound in
theorem ended_visit {id : Nat} {action : Action} {phase : Phase} (run : s.visit id action phase = .ok s') :
    s'.ended ≠ s.ended + 1 := by
  unfold Loop.visit at run
  split at run
  · obtain ⟨process, _, result⟩ := Except.bind_ok_iff.mp run
    cases result
    exact Nat.ne_of_lt (Nat.lt_succ_self _)
  · cases run
    exact Nat.ne_of_lt (Nat.lt_succ_self _)

/-- The end of an iteration. -/
theorem ends {turn : Turn} (allowed : s.Allowed turn) (paced : s.Paced start turn) (run : s.step turn = .ok s')
    (ended : s'.ended = s.ended + 1) (later : 1 ≤ s.ended) :
    s'.process.Keeps (Block.Heard s.time1) ∧ s'.process.Keeps (Block.Told s.time1) := by
  have early {t : Int} (soon : t < start + 2 * hbTo) : t < start + tcpReadTimeoutSec := by
    simp only [hbTo, tcpReadTimeoutSec] at soon ⊢
    omega
  cases turn with
  | act action =>
    obtain ⟨process, _, result⟩ := Except.bind_ok_iff.mp run
    cases result
    exact absurd ended (Nat.ne_of_lt (Nat.lt_succ_self _))
  | selectFails =>
    cases run
    have soon : s.time1 < start + 2 * hbTo := paced.resolve_left (by omega)
    have enabled : s.process.Enabled .selectFails := allowed.2
    have punctual := sound.punctual.step enabled .selectFails
    exact ⟨heard_early punctual (early soon), told_early punctual soon⟩
  | collect =>
    cases run
    rcases s.collect_cases with same | ⟨short, result⟩
    · omega
    · -- both gates are closed, so the condition leaves only an early iteration
      have soon : s.time1 < start + 2 * hbTo := by
        simp only [hbTo] at short
        rcases paced with first | long | ⟨long, _⟩ | soon
        · omega
        · simp only [hbTo] at long
          omega
        · simp only [hbTo] at long
          omega
        · exact soon
      rw [result]
      exact ⟨heard_early sound.punctual (early soon), told_early sound.punctual soon⟩
  | check =>
    cases phase : s.phase with
    | working => simp [phase, Phase.isChecking, Loop.Allowed] at allowed
    | sending todo => simp [phase, Phase.isChecking, Loop.Allowed] at allowed
    | checking todo =>
      have long := (sound.checking todo phase).1
      cases todo with
      | nil =>
        simp only [Loop.step, phase] at run
        cases run
        simp only [hbTo] at long
        rcases s.trySending_cases with same | ⟨short, _⟩
        · omega
        · simp only [hbTo] at short
          omega
      | cons id todo => exact absurd ended (ended_visit (by simpa only [Loop.step, phase] using run))
  | heartbeat rc =>
    cases phase : s.phase with
    | working => simp [phase, Phase.isSending, Loop.Allowed] at allowed
    | checking todo => simp [phase, Phase.isSending, Loop.Allowed] at allowed
    | sending todo =>
      cases todo with
      | nil =>
        simp only [Loop.step, phase] at run
        cases run
        obtain ⟨keeps, passed⟩ := sound.sending [] phase later
        exact ⟨keeps, passed.keeps allowed.2⟩
      | cons id todo => exact absurd ended (ended_visit (by simpa only [Loop.step, phase] using run))

end Sound

/-- In a loop whose iterations last as `Paced` says, no block in the table is over its
deadline at the end of an iteration, and each is heard of and told often enough, as
seen from the end of the iteration before. -/
theorem listener_keeps_no_expired (uuid : Uuid) (clock listenFd : Nat) (time1 : Int) (turns : List Turn)
    (turn : Turn) (s s' : Loop)
    (admits : machine.Admits (fun s turn => s.Allowed turn ∧ s.Paced clock turn) (start uuid clock listenFd time1)
      (turns ++ [turn]))
    (run : machine.run (start uuid clock listenFd time1) turns = .ok s) (last : s.step turn = .ok s')
    (ended : s'.ended = s.ended + 1) (later : 1 ≤ s.ended) :
    ∀ id ∈ s'.process.world.table, ∀ agent, s'.process.world.blocks id = some agent →
      agent.Heard s.time1 ∧ agent.Told s.time1 := by
  obtain ⟨before, now⟩ := admits.append run
  have sound : s.Sound clock :=
    Faulting.run_invariant (Sound clock) (fun s turn s' sound allowed step => sound.step allowed.1 allowed.2 step)
      (sound_start uuid clock listenFd time1) before run
  obtain ⟨heard, told⟩ := sound.ends now.1.1 now.1.2 last ended later
  exact fun id member agent found => ⟨heard id member agent found, told id member agent found⟩

/-- A connection is accepted, and five minutes pass before the next iteration, which
goes over the table twice. -/
def patrol : List Turn :=
  [.act (.accept 5 ⟨0x7f000001, 40001⟩), .collect, .heartbeat .ok, .act .proceed, .heartbeat .ok, .act (.tick 300),
    .collect, .check, .act .proceed, .check, .heartbeat .ok, .act .proceed]

theorem listener_keeps_no_expired_patrol : ∃ s s', machine.run (start (Uuid.filled 1) 100 3 0) patrol = .ok s ∧
    s.step (.heartbeat .ok) = .ok s' ∧ s.time1 = 100 ∧ s'.process.world.table = [0] ∧
    ∀ id ∈ s'.process.world.table, ∀ agent, s'.process.world.blocks id = some agent →
      agent.Heard s.time1 ∧ agent.Told s.time1 := by
  obtain ⟨s', whole, shown'⟩ := Except.exists_ok_of_map
    (by decide +kernel : (machine.run (start (Uuid.filled 1) 100 3 0) (patrol ++ [.heartbeat .ok])).toOption.map
      (fun s => (s.ended, s.process.world.table)) = some (2, [0]))
  obtain ⟨s, run, shown⟩ := Except.exists_ok_of_map
    (by decide +kernel : (machine.run (start (Uuid.filled 1) 100 3 0) patrol).toOption.map
      (fun s => (s.ended, s.time1)) = some (1, 100))
  obtain ⟨middle, run', rest⟩ := Faulting.run_append.mp whole
  rw [run] at run'
  cases run'
  obtain ⟨_, last, result⟩ := Except.bind_ok_iff.mp rest
  cases result
  simp only [Prod.mk.injEq] at shown shown'
  refine ⟨s, s', run, last, shown.2, shown'.2, ?_⟩
  exact listener_keeps_no_expired (Uuid.filled 1) 100 3 0 patrol (.heartbeat .ok) s s' (by decide +kernel) run last
    (by rw [shown'.1, shown.1]) (by rw [shown.1])

/-- A peer that connects and says nothing, in eleven iterations of two seconds. -/
def silence : List Turn :=
  [.act (.accept 5 ⟨0x7f000001, 40001⟩), .collect, .heartbeat .ok, .act .proceed] ++
    (List.replicate 11 [.heartbeat .ok, .act (.tick 2), .collect, .heartbeat .ok, .act .proceed]).flatten

theorem listener_keeps_expired :
    machine.Admits Allowed (start (Uuid.filled 1) 100 3 100) (silence ++ [.heartbeat .ok]) ∧
    ∃ s s', machine.run (start (Uuid.filled 1) 100 3 100) silence = .ok s ∧ s.step (.heartbeat .ok) = .ok s' ∧
      1 ≤ s.ended ∧ s'.ended = s.ended + 1 ∧
      ∃ id ∈ s'.process.world.table, ∃ agent, s'.process.world.blocks id = some agent ∧ agent.isNew = true ∧
        agent.handshakeDeadline ≤ s.time1 := by
  refine ⟨by decide +kernel, ?_⟩
  obtain ⟨s', whole, shown'⟩ := Except.exists_ok_of_map
    (by decide +kernel : (machine.run (start (Uuid.filled 1) 100 3 100) (silence ++ [.heartbeat .ok])).toOption.map
      (fun s => (s.ended, s.process.world.table,
        (s.process.world.blocks 0).map fun agent => (agent.isNew, agent.handshakeDeadline))) =
      some (12, [0], some (true, 120)))
  obtain ⟨s, run, shown⟩ := Except.exists_ok_of_map
    (by decide +kernel : (machine.run (start (Uuid.filled 1) 100 3 100) silence).toOption.map
      (fun s => (s.ended, s.time1)) = some (11, 120))
  obtain ⟨middle, run', rest⟩ := Faulting.run_append.mp whole
  rw [run] at run'
  cases run'
  obtain ⟨_, last, result⟩ := Except.bind_ok_iff.mp rest
  cases result
  simp only [Prod.mk.injEq] at shown shown'
  obtain ⟨agent, found, fields⟩ := Option.map_eq_some_iff.mp shown'.2.2
  simp only [Prod.mk.injEq] at fields
  refine ⟨s, s', run, last, by rw [shown.1]; decide, by rw [shown.1, shown'.1], 0, ?_, agent, found, fields.1, ?_⟩
  · rw [shown'.2.1]
    exact List.mem_singleton_self 0
  · rw [fields.2, shown.2]
    decide

end Loop

end DEFw.Agents
