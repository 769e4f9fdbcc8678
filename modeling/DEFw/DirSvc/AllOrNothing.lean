import DEFw.Directory.Fencing
import DEFw.DirSvc.Model

namespace DEFw.DirSvc
open Py Peers Directory

variable {τ : Type}

/-- The record that registering one advertisement writes in a directory, if it is accepted. -/
def written (ep : Endpoint) (context : Option Metadata) (d : Directory τ) (advertisement : Advertisement) (now : τ) :
    Option (ServiceRecord τ) :=
  (directoryRecord ep advertisement context).toOption.bind (fun record =>
    (d.registerService record none now).toOption.map (fun registered => registered.2.1))

/-- The records of the advertisements before the first one that the directory refuses. -/
def accepted (ep : Endpoint) (context : Option Metadata) (d : Directory τ) :
    (Nat → τ) → List Advertisement → List (ServiceRecord τ)
  | _, [] => []
  | clock, advertisement :: rest =>
    match written ep context d advertisement (clock 0) with
    | none => []
    | some record => record :: accepted ep context d (fun i => clock (i + 1)) rest

/-- The record of a registration depends on the directory by its generation only. -/
theorem registerService_record (d : Directory τ) (record : RecordArg) (now : τ) :
    (d.registerService record none now).toOption.map (fun registered => registered.2.1) =
      (orStr record.serviceId record.name).bind (fun serviceId => (orStr record.runtimeId none).bind (fun runtimeId =>
        (orStr record.peerHandle none).bind (fun peerHandle =>
          ((nextGeneration (d.records.get? serviceId) serviceId runtimeId).toOption.map Prod.fst).bind
            (fun generation => (normalizeBindings record).toOption.map (fun bindings =>
              registeredRecord record {} serviceId runtimeId peerHandle generation bindings now))))) := by
  unfold Directory.registerService
  simp only [Option.getD_none]
  cases orStr record.serviceId record.name with
  | none => rfl
  | some serviceId =>
    cases orStr record.runtimeId none with
    | none => rfl
    | some runtimeId =>
      cases orStr record.peerHandle none with
      | none => rfl
      | some peerHandle =>
        simp only [Option.bind_some]
        cases nextGeneration (d.records.get? serviceId) serviceId runtimeId with
        | error exception => rfl
        | ok decided =>
          obtain ⟨generation, active, previous⟩ := decided
          cases normalizeBindings record <;> rfl

variable {ep : Endpoint} {context : Option Metadata} {d : Directory τ}

theorem directoryRecord_runtimeId {advertisement : Advertisement} {record : RecordArg}
    (ok : directoryRecord ep advertisement context = .ok record) : record.runtimeId = some ep.remoteUuid := by
  unfold directoryRecord at ok
  cases advertisement with
  | other => cases ok
  | metadata advertised =>
    dsimp only at ok
    split at ok
    · cases ok
    split at ok
    · cases ok
    · cases ok
      rfl

/-- Two directories that give an agent the same generations write the same records for it. -/
theorem written_congr {other : Directory τ}
    (same : ∀ serviceId, (nextGeneration (d.records.get? serviceId) serviceId ep.remoteUuid).toOption.map Prod.fst =
      (nextGeneration (other.records.get? serviceId) serviceId ep.remoteUuid).toOption.map Prod.fst)
    (advertisement : Advertisement) (now : τ) :
    written ep context d advertisement now = written ep context other advertisement now := by
  unfold written
  cases built : directoryRecord ep advertisement context with
  | error raised => rfl
  | ok record =>
    have runtime := directoryRecord_runtimeId built
    change (d.registerService record none now).toOption.map _ = (other.registerService record none now).toOption.map _
    rw [registerService_record, registerService_record, runtime]
    refine Option.bind_congr (fun serviceId _ => Option.bind_congr (fun runtimeId own => ?_))
    refine Option.bind_congr (fun _ _ => ?_)
    have mine : runtimeId = ep.remoteUuid := by
      simp [orStr, Option.filter] at own
      exact own.2.symm
    subst mine
    rw [same serviceId]

/-- An advertisement that is accepted: the record is active, of the agent's runtime, and is published
as a new service only where the service was not active. -/
structure Registers (ep : Endpoint) (context : Option Metadata) (d : Directory τ) (advertisement : Advertisement)
    (now : τ) (record : ServiceRecord τ) (arg : RecordArg) (effects : List (Effect τ)) : Prop where
  built : directoryRecord ep advertisement context = .ok arg
  stored : d.registerService arg none now = .ok (d.store record, record, effects)
  up : record.state = .up
  runtime : record.runtimeId = ep.remoteUuid
  generation : (nextGeneration (d.records.get? record.serviceId) record.serviceId ep.remoteUuid).toOption.map Prod.fst =
    some record.generation
  published : ∀ callback event, Effect.put callback event ∈ effects →
    ∀ current, d.records.get? record.serviceId = some current → current.state ≠ .up

theorem registers_of_written {advertisement : Advertisement} {now : τ} {record : ServiceRecord τ}
    (some_ : written ep context d advertisement now = some record) :
    ∃ arg effects, Registers ep context d advertisement now record arg effects := by
  unfold written at some_
  cases built : directoryRecord ep advertisement context with
  | error raised =>
    rw [built] at some_
    cases some_
  | ok arg =>
    rw [built] at some_
    cases done : d.registerService arg none now with
    | error exception =>
      rw [show Except.toOption (Except.ok arg) = some arg from rfl, Option.bind_some, done] at some_
      cases some_
    | ok result =>
      obtain ⟨stored, registered, effects⟩ := result
      rw [show Except.toOption (Except.ok arg) = some arg from rfl, Option.bind_some, done] at some_
      cases some_
      obtain ⟨_, atRuntime, up, _, rfl, active, previous, decided, emitted⟩ := registerService_ok done
      have runtime : registered.runtimeId = ep.remoteUuid := by
        rw [directoryRecord_runtimeId built] at atRuntime
        simp [orStr, Option.filter] at atRuntime
        exact atRuntime.2.symm
      refine ⟨arg, effects, built, done, up, runtime, ?_, ?_⟩
      · rw [← runtime, decided]
        rfl
      · intro callback event published current found isUp
        have inactive : active = false := by
          rcases nextGeneration_ok decided with ⟨absent, _, _⟩ | ⟨_, _, _, _, _, same⟩ | ⟨old, stored, notUp, _⟩
          · rw [absent] at found
            cases found
          · exact same
          · rw [stored] at found
            cases found
            exact absurd isUp notUp
        rw [emitted, inactive] at published
        simp [notifyLifecycle] at published

/-- Registering a record of the agent leaves the generations that the agent is given. -/
theorem nextGeneration_store {advertisement : Advertisement} {now : τ} {record : ServiceRecord τ} {arg : RecordArg}
    {effects : List (Effect τ)} (registers : Registers ep context d advertisement now record arg effects)
    (serviceId : String) :
    (nextGeneration ((d.store record).records.get? serviceId) serviceId ep.remoteUuid).toOption.map Prod.fst =
      (nextGeneration (d.records.get? serviceId) serviceId ep.remoteUuid).toOption.map Prod.fst := by
  rw [records_store]
  split
  next own =>
    subst own
    rw [registers.generation]
    simp [nextGeneration, registers.up, registers.runtime, Except.toOption]
  · rfl

/-- The directory after the records are written one after the other. -/
def storeAll (d : Directory τ) (records : List (ServiceRecord τ)) : Directory τ := records.foldl Directory.store d

theorem accepted_congr {other : Directory τ}
    (same : ∀ advertisement now, written ep context d advertisement now = written ep context other advertisement now)
    (clock : Nat → τ) (advertisements : List Advertisement) :
    accepted ep context d clock advertisements = accepted ep context other clock advertisements := by
  induction advertisements generalizing clock with
  | nil => rfl
  | cons advertisement rest ih =>
    simp only [accepted, same, ih]

/-- What the loop does: it writes the accepted records, returns them if these are all, and publishes
a service only where it was not active before. -/
structure LoopResult (d : Directory τ) (advertisements : List Advertisement) (records : List (ServiceRecord τ))
    (result : Directory τ × Outcome τ (List (ServiceRecord τ))) : Prop where
  final : result.1 = storeAll d records
  returned : records.length = advertisements.length → result.2.result = .ok records
  raised : records.length ≠ advertisements.length → ∃ raised, result.2.result = .error raised
  published : ∀ callback event, Effect.put callback event ∈ result.2.effects → ∃ record ∈ records,
    ∀ current, d.records.get? record.serviceId = some current → current.state ≠ .up

theorem registerAll_refused {clock : Nat → τ} {advertisement : Advertisement}
    (refused : written ep context d advertisement (clock 0) = none) (rest : List Advertisement) :
    ∃ raised, registerAll ep context clock d (advertisement :: rest) = (d, ⟨[], .error raised⟩) := by
  unfold written at refused
  cases built : directoryRecord ep advertisement context with
  | error raised => exact ⟨raised, by simp only [registerAll, built]⟩
  | ok arg =>
    cases done : d.registerService arg none (clock 0) with
    | error exception => exact ⟨.directory exception, by simp only [registerAll, built, done]⟩
    | ok result =>
      rw [built] at refused
      simp [Except.toOption, done] at refused

theorem registerAll_result (d : Directory τ) (clock : Nat → τ) (advertisements : List Advertisement) :
    LoopResult d advertisements (accepted ep context d clock advertisements)
      (registerAll ep context clock d advertisements) := by
  induction advertisements generalizing clock d with
  | nil => exact ⟨rfl, fun _ => rfl, fun short => absurd rfl short, fun _ _ absent => (nomatch absent)⟩
  | cons advertisement rest ih =>
    cases first : written ep context d advertisement (clock 0) with
    | none =>
      obtain ⟨raised, same⟩ := registerAll_refused first rest
      rw [same]
      simp only [accepted, first]
      exact ⟨rfl, fun all => (nomatch all), fun _ => ⟨raised, rfl⟩, fun _ _ absent => (nomatch absent)⟩
    | some record =>
      obtain ⟨arg, effects, registers⟩ := registers_of_written first
      have later := ih (d.store record) (fun i => clock (i + 1))
      have same : accepted ep context (d.store record) (fun i => clock (i + 1)) rest =
          accepted ep context d (fun i => clock (i + 1)) rest :=
        accepted_congr (written_congr (nextGeneration_store registers)) _ rest
      rw [same] at later
      simp only [accepted, first, registerAll, registers.built, registers.stored]
      refine ⟨later.final, ?_, ?_, ?_⟩
      · intro all
        rw [later.returned (by simpa using all)]
        rfl
      · intro short
        obtain ⟨raised, failed⟩ := later.raised (by simpa using short)
        rw [failed]
        exact ⟨raised, rfl⟩
      · intro callback event put
        rcases List.mem_append.mp put with now | next
        · exact ⟨record, List.mem_cons_self, registers.published callback event now⟩
        · obtain ⟨other, member, inactive⟩ := later.published callback event next
          refine ⟨other, List.mem_cons_of_mem _ member, fun current found isUp => ?_⟩
          by_cases own : other.serviceId = record.serviceId
          · exact inactive record (by rw [records_store, if_pos own]) registers.up
          · exact inactive current (by rw [records_store, if_neg own, found]) isUp

theorem accepted_up (clock : Nat → τ) (advertisements : List Advertisement) :
    ∀ record ∈ accepted ep context d clock advertisements, record.state = .up := by
  induction advertisements generalizing clock with
  | nil => exact fun _ absent => (nomatch absent)
  | cons advertisement rest ih =>
    intro record member
    unfold accepted at member
    split at member
    · cases member
    next first written =>
      rcases List.mem_cons.mp member with rfl | later
      · obtain ⟨_, _, registers⟩ := registers_of_written written
        exact registers.up
      · exact ih _ record later

theorem storeAll_absent {records : List (ServiceRecord τ)} {serviceId : String}
    (absent : ∀ record ∈ records, record.serviceId ≠ serviceId) (d : Directory τ) :
    (storeAll d records).records.get? serviceId = d.records.get? serviceId := by
  induction records generalizing d with
  | nil => rfl
  | cons record rest ih =>
    have later := ih (fun other member => absent other (List.mem_cons_of_mem _ member)) (d.store record)
    rw [records_store, if_neg (Ne.symm (absent record List.mem_cons_self))] at later
    exact later

/-- The last record written for a service is the one that stays. -/
theorem storeAll_last {before after : List (ServiceRecord τ)} {record : ServiceRecord τ}
    (last : ∀ later ∈ after, later.serviceId ≠ record.serviceId) (d : Directory τ) :
    (storeAll d (before ++ record :: after)).records.get? record.serviceId = some record := by
  have stored := storeAll_absent last ((storeAll d before).store record)
  rw [records_store, if_pos rfl] at stored
  rw [storeAll, List.foldl_append, List.foldl_cons]
  exact stored

theorem exists_last {records : List (ServiceRecord τ)} {serviceId : String}
    (present : ∃ record ∈ records, record.serviceId = serviceId) :
    ∃ before record after, records = before ++ record :: after ∧ record.serviceId = serviceId ∧
      ∀ later ∈ after, later.serviceId ≠ record.serviceId := by
  induction records with
  | nil =>
    obtain ⟨_, absent, _⟩ := present
    cases absent
  | cons first rest ih =>
    by_cases later : ∃ record ∈ rest, record.serviceId = serviceId
    · obtain ⟨before, record, after, rfl, own, last⟩ := ih later
      exact ⟨first :: before, record, after, rfl, own, last⟩
    · obtain ⟨record, member, own⟩ := present
      rcases List.mem_cons.mp member with rfl | later'
      · exact ⟨[], record, rest, rfl, own, fun other member same => later ⟨other, member, same.trans own⟩⟩
      · exact absurd ⟨record, later', own⟩ later

/-- Each service of the records is stored as the last of them has it. -/
def Rewrites (d : Directory τ) (records : List (ServiceRecord τ)) : Prop :=
  ∀ before record after, records = before ++ record :: after →
    (∀ later ∈ after, later.serviceId ≠ record.serviceId) → d.records.get? record.serviceId = some record

/-- Writing the records changes nothing exactly where the directory has them already. -/
theorem storeAll_unchanged_iff {records : List (ServiceRecord τ)} :
    (∀ serviceId, (storeAll d records).records.get? serviceId = d.records.get? serviceId) ↔ Rewrites d records := by
  constructor
  · rintro unchanged before record after rfl last
    rw [← unchanged record.serviceId]
    exact storeAll_last last d
  · intro rewrites serviceId
    by_cases present : ∃ record ∈ records, record.serviceId = serviceId
    · obtain ⟨before, record, after, rfl, rfl, last⟩ := exists_last present
      rw [storeAll_last last, rewrites before record after rfl last]
    · exact storeAll_absent (fun record member own => present ⟨record, member, own⟩) d

/-- Registering an agent is all or nothing: it returns one active record for each advertisement, of
services of their own, or it raises and has changed and announced nothing. -/
structure AllOrNothing (advertisements : Except Raised (List Advertisement)) (before : Directory τ)
    (after : Directory τ) (outcome : Outcome τ (List (ServiceRecord τ))) : Prop where
  returned : ∀ records, outcome.result = .ok records → ∃ advertised, advertisements = .ok advertised ∧
    records.length = advertised.length ∧ (records.map ServiceRecord.serviceId).Nodup ∧
    ∀ record ∈ records, after.records.get? record.serviceId = some record ∧ record.state = .up
  raised : ∀ raised, outcome.result = .error raised →
    (∀ serviceId, after.records.get? serviceId = before.records.get? serviceId) ∧
    ∀ callback event, Effect.put callback event ∈ outcome.effects → event.event ≠ .connected

/-- The directory accepts every advertisement, for services of their own; or the ones before the
first that it refuses are of active services and repeat what it has stored of them. -/
def Consistent (ep : Endpoint) (context : Option Metadata) (d : Directory τ) (clock : Nat → τ)
    (advertisements : List Advertisement) : Prop :=
  if (accepted ep context d clock advertisements).length = advertisements.length then
    ((accepted ep context d clock advertisements).map ServiceRecord.serviceId).Nodup
  else Rewrites d (accepted ep context d clock advertisements)

/-- Where services are distinct every record written is the last of its service. -/
theorem storeAll_nodup {records : List (ServiceRecord τ)} (distinct : (records.map ServiceRecord.serviceId).Nodup)
    (d : Directory τ) {record : ServiceRecord τ} (member : record ∈ records) :
    (storeAll d records).records.get? record.serviceId = some record := by
  obtain ⟨before, after, rfl⟩ := List.append_of_mem member
  refine storeAll_last (fun later inAfter same => ?_) d
  rw [List.map_append, List.map_cons] at distinct
  have rest := (List.nodup_append.mp distinct).2.1
  exact (List.nodup_cons.mp rest).1 (same ▸ List.mem_map_of_mem inAfter)

theorem registerAll_iff (d : Directory τ) (clock : Nat → τ) (advertisements : List Advertisement) :
    AllOrNothing (.ok advertisements) d (registerAll ep context clock d advertisements).1
        (registerAll ep context clock d advertisements).2 ↔
      Consistent ep context d clock advertisements := by
  have loop : LoopResult d advertisements (accepted ep context d clock advertisements)
      (registerAll ep context clock d advertisements) := registerAll_result d clock advertisements
  unfold Consistent
  split
  next all =>
    constructor
    · intro whole
      obtain ⟨_, _, _, distinct, _⟩ := whole.returned _ (loop.returned all)
      exact distinct
    · intro distinct
      refine ⟨?_, ?_⟩
      · intro records ok
        rw [loop.returned all] at ok
        cases ok
        refine ⟨advertisements, rfl, all, distinct, fun record member => ⟨?_, accepted_up clock _ record member⟩⟩
        rw [loop.final]
        exact storeAll_nodup distinct d member
      · intro raised failed
        rw [loop.returned all] at failed
        cases failed
  next short =>
    obtain ⟨raised, failed⟩ := loop.raised short
    rw [← storeAll_unchanged_iff, ← loop.final]
    constructor
    · intro whole
      exact (whole.raised raised failed).1
    · intro unchanged
      refine ⟨?_, ?_⟩
      · intro records ok
        rw [failed] at ok
        cases ok
      · intro _ _
        refine ⟨unchanged, fun callback event put _ => ?_⟩
        obtain ⟨record, member, inactive⟩ := loop.published callback event put
        obtain ⟨before, last, after, split, own, latest⟩ := exists_last ⟨record, member, rfl⟩
        have stored := storeAll_unchanged_iff.mp (loop.final ▸ unchanged) before last after split latest
        rw [own] at stored
        have written : last ∈ accepted ep context d clock advertisements := by
          rw [split]
          exact List.mem_append_right _ List.mem_cons_self
        exact inactive last stored (accepted_up clock advertisements last written)

/-- A call that raises before it comes to the directory has done nothing there. -/
theorem allOrNothing_raised (advertisements : Except Raised (List Advertisement)) (d : Directory τ) (raised : Raised) :
    AllOrNothing advertisements d d ⟨[], .error raised⟩ where
  returned _ ok := nomatch ok
  raised _ _ := ⟨fun _ => rfl, fun _ _ absent => nomatch absent⟩

/-- The agent is found and answers with these advertisements. -/
def Answers (service : DirSvc τ) (ep : Endpoint) (remote : Remote) (agent : Agent)
    (advertisements : List Advertisement) : Prop :=
  service.peers.getAgent (entries ep) none false = .ok (some agent) ∧ remote.construct = .ok () ∧
    remote.advertisements = .ok advertisements

/-- A registration comes to its loop if the agent answers, and otherwise raises before it. -/
theorem registerService_cases (service : DirSvc τ) (ep : Endpoint) (context : Option Metadata) (remote : Remote)
    (clock : Nat → τ) :
    (∃ agent advertisements, service.Answers ep remote agent advertisements ∧
      (service.registerService ep context remote clock).1.directory =
        (registerAll agent.endpoint context clock service.directory advertisements).1 ∧
      (service.registerService ep context remote clock).2 =
        (registerAll agent.endpoint context clock service.directory advertisements).2) ∨
    ((∀ agent advertisements, ¬service.Answers ep remote agent advertisements) ∧
      (service.registerService ep context remote clock).1.directory = service.directory ∧
      ∃ raised, (service.registerService ep context remote clock).2 = ⟨[], .error raised⟩) := by
  have known : baseAgentApi.call "query" remote.query = remote.query := rfl
  have again : baseAgentApi.call "query" remote.requery = remote.requery := rfl
  have pruned : service.pruneDb.peers = service.peers := rfl
  unfold registerService register Answers
  simp only [pruned, known]
  cases lookup : service.peers.getAgent (entries ep) none false with
  | error error => exact Or.inr ⟨fun _ _ answers => (nomatch answers.1), rfl, _, rfl⟩
  | ok found =>
    cases found with
    | none => exact Or.inr ⟨fun _ _ answers => (nomatch answers.1), rfl, _, rfl⟩
    | some agent =>
      simp only
      cases constructed : remote.construct with
      | error raised => exact Or.inr ⟨fun _ _ answers => (nomatch answers.2.1), rfl, _, rfl⟩
      | ok _ =>
        simp only
        cases queried : remote.query with
        | error raised =>
          have refused : remote.advertisements = .error raised := by simp only [Remote.advertisements, queried]
          rw [refused]
          exact Or.inr ⟨fun _ _ answers => (nomatch answers.2.2), rfl, _, rfl⟩
        | ok info =>
          cases info with
          | nil =>
            have requeried : remote.advertisements = remote.requery := by simp only [Remote.advertisements, queried]
            rw [requeried]
            simp only [registerDirectoryEntries, List.isEmpty_nil, if_true, again]
            cases remote.requery with
            | error raised => exact Or.inr ⟨fun _ _ answers => (nomatch answers.2.2), rfl, _, rfl⟩
            | ok advertisements => exact Or.inl ⟨agent, advertisements, ⟨rfl, trivial, rfl⟩, rfl, rfl⟩
          | cons first rest =>
            have advertised : remote.advertisements = .ok (first :: rest) := by
              simp only [Remote.advertisements, queried]
            rw [advertised]
            simp only [registerDirectoryEntries, List.isEmpty_cons, Bool.false_eq_true, if_false]
            exact Or.inl ⟨agent, first :: rest, ⟨rfl, trivial, rfl⟩, rfl, rfl⟩

/-- A directory service that knows one agent. -/
def oneAgent : DirSvc Nat where
  peers := TableCall.run ⟨none, none, .int 0⟩
    [.applyEvent ⟨{ eventType := .ready, peerHandle := some "peer-1", remoteRuntimeId := some "runtime-1" }, 1⟩]
  directory := .new 300 "directory"
  servicesDb := .empty

def agentEndpoint : Endpoint :=
  ⟨.str "10.0.0.1", .int 0, .int 8090, .int 7, .str "node", .str "host", Peers.service, "runtime-1", "peer-1"⟩

/-- An agent with two services, the second of which has no API bindings. -/
def secondMalformed : Remote where
  construct := .ok ()
  query := .ok [.metadata { serviceName := some "solver", apiBindings := some [[]] },
    .metadata { serviceName := some "broken" }]
  requery := .ok []

def halfRegistered : DirSvc Nat × Outcome Nat (List (ServiceRecord Nat)) :=
  oneAgent.registerService agentEndpoint none secondMalformed (fun i => i + 2)

end DEFw.DirSvc
