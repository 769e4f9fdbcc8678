import DEFw.Agents.Block
import DEFw.Lib.Machine

namespace DEFw.Fabric
open Agents (DefwRc)

/-- `struct ofi_mr_entry`. A region is named by the call that registered it. -/
structure MrEntry where
  handle : Nat
  key : Nat
  region : Nat
  len : Nat
  owned : Bool
  deriving DecidableEq

/-- The registrations of the endpoint. `releasing` are the entries that a release has taken out of
the list and not yet closed, `calls` counts the calls of `ofi_mr_reg_common`. -/
structure Registrations where
  up : Bool
  rmaCapable : Bool
  mrList : List MrEntry
  mrNextHandle : Nat
  mrNextKey : Nat
  calls : Nat
  releasing : List MrEntry
  deriving DecidableEq

/-- The registrations after the set-up of the endpoint. -/
def Registrations.start (rmaCapable : Bool) : Registrations := ⟨true, rmaCapable, [], 1, 1, 0, []⟩

/-- The arguments of `ofi_mr_reg_common`, and what `calloc`, `malloc` and `fi_mr_reg` do in it. -/
structure RegCall where
  buf : Bool
  len : Nat
  copy : Bool
  desc : Bool
  calloc : Bool
  malloc : Bool
  mrReg : Bool
  deriving DecidableEq

/-- A registration; the part of a release under the lock, for an acknowledgement of a peer or a
discard; and the rest of a release. -/
inductive MrAction where
  | register (call : RegCall)
  | ack (handleHi handleLo : BitVec 32)
  | discard (handle : BitVec 64)
  | finish (place : Nat)
  deriving DecidableEq

/-- What happens to a region: its registration returned a handle, or failed; a release found its
entry, or found none for its handle; `fi_close`; `free`. -/
inductive MrNote where
  | registered (entry : MrEntry)
  | rejected (region : Nat) (rc : DefwRc)
  | released (entry : MrEntry)
  | refused (handle : Nat) (rc : DefwRc)
  | closed (entry : MrEntry)
  | freed (region : Nat)
  deriving DecidableEq

namespace Registrations

/-- What makes a registration fail before it takes the lock. -/
def refusal (s : Registrations) (call : RegCall) : Option DefwRc :=
  if !call.buf || call.len = 0 || !call.desc then some .badParam
  else if !s.up || !s.rmaCapable then some .fail
  else if !call.calloc then some .oom
  else if call.copy && !call.malloc then some .oom
  else none

/-- `ofi_mr_reg_common`. The counters are 64 bits wide. -/
def mrRegCommon (s : Registrations) (call : RegCall) : Registrations × List MrNote :=
  let region := s.calls
  match s.refusal call with
  | some rc => ({ s with calls := s.calls + 1 }, [.rejected region rc])
  | none =>
    if !call.mrReg then
      ({ s with calls := s.calls + 1, mrNextKey := (s.mrNextKey + 1) % 2 ^ 64 },
        (if call.copy then [.freed region] else []) ++ [.rejected region .fail])
    else
      let entry : MrEntry := ⟨s.mrNextHandle, s.mrNextKey, region, call.len, call.copy⟩
      ({ s with
          calls := s.calls + 1
          mrNextKey := (s.mrNextKey + 1) % 2 ^ 64
          mrNextHandle := (s.mrNextHandle + 1) % 2 ^ 64
          mrList := s.mrList ++ [entry] }, [.registered entry])

/-- `defw_transport_ofi_mr_release` up to the unlocking. -/
def mrRelease (s : Registrations) (handle : Nat) : Registrations × List MrNote :=
  if handle = 0 then (s, [.refused handle .badParam])
  else
    match s.mrList.find? (fun entry => entry.handle = handle) with
    | none => (s, [.refused handle .fail])
    | some entry =>
      ({ s with mrList := s.mrList.eraseP (fun entry => entry.handle = handle), releasing := s.releasing ++ [entry] },
        [.released entry])

/-- The rest of a release. -/
def finish (s : Registrations) (place : Nat) : Registrations × List MrNote :=
  match s.releasing[place]? with
  | none => (s, [])
  | some entry =>
    ({ s with releasing := s.releasing.eraseIdx place },
      .closed entry :: if entry.owned then [.freed entry.region] else [])

end Registrations

/-- The handle that a release is for. `process_msg_rma_ack` puts it together from two words. -/
def MrAction.handle? : MrAction → Option Nat
  | .ack handleHi handleLo => some (handleHi ++ handleLo).toNat
  | .discard handle => some handle.toNat
  | _ => none

def MrAction.isRegister : MrAction → Bool
  | .register _ => true
  | _ => false

def Registrations.step (s : Registrations) : MrAction → Registrations × List MrNote
  | .register call => s.mrRegCommon call
  | .ack handleHi handleLo => s.mrRelease (handleHi ++ handleLo).toNat
  | .discard handle => s.mrRelease handle.toNat
  | .finish place => s.finish place

def registrations : Machine Registrations MrAction MrNote := ⟨Registrations.step⟩

/-- The entries that registrations have returned. -/
def registered (log : List MrNote) : List MrEntry :=
  log.filterMap (fun note => match note with | .registered entry => some entry | _ => none)

/-- The entries that releases have found. -/
def released (log : List MrNote) : List MrEntry :=
  log.filterMap (fun note => match note with | .released entry => some entry | _ => none)

/-- The entries whose region has been deregistered. -/
def closed (log : List MrNote) : List MrEntry :=
  log.filterMap (fun note => match note with | .closed entry => some entry | _ => none)

@[simp] theorem registered_append (log new : List MrNote) : registered (log ++ new) = registered log ++ registered new :=
  List.filterMap_append

@[simp] theorem released_append (log new : List MrNote) : released (log ++ new) = released log ++ released new :=
  List.filterMap_append

@[simp] theorem closed_append (log new : List MrNote) : closed (log ++ new) = closed log ++ closed new :=
  List.filterMap_append

/-- How the table, the counter and the releases under way account for what has happened. -/
structure Registrations.Accounts (s : Registrations) (log : List MrNote) : Prop where
  few : (registered log).length ≤ s.calls
  next : s.mrNextHandle = ((registered log).length + 1) % 2 ^ 64
  numbered : (registered log).map MrEntry.handle = List.range' 1 (registered log).length
  spread : (registered log).Perm (s.mrList ++ (s.releasing ++ closed log))
  taken : (released log).Perm (s.releasing ++ closed log)
  fresh : ∀ entry ∈ registered log, entry.region < s.calls
  apart : ((registered log).map MrEntry.region).Nodup
  freedBelow : ∀ region, .freed region ∈ log → region < s.calls
  frees : ∀ entry ∈ registered log,
    log.count (.freed entry.region) = if entry.owned then (closed log).count entry else 0
  once : ∀ region, log.count (.freed region) ≤ 1

namespace Registrations.Accounts

variable {s : Registrations} {log : List MrNote}

theorem start (rmaCapable : Bool) : (Registrations.start rmaCapable).Accounts [] where
  few := Nat.le_refl 0
  next := rfl
  numbered := rfl
  spread := .nil
  taken := .nil
  fresh _ member := nomatch member
  apart := .nil
  freedBelow _ member := nomatch member
  frees _ member := nomatch member
  once _ := Nat.zero_le 1

theorem handles_nodup (accounts : s.Accounts log) : ((registered log).map MrEntry.handle).Nodup := by
  rw [accounts.numbered]
  exact List.nodup_range'

theorem registered_of_listed (accounts : s.Accounts log) {entry : MrEntry} (member : entry ∈ s.mrList) :
    entry ∈ registered log :=
  accounts.spread.mem_iff.mpr (List.mem_append_left _ member)

theorem registered_of_closed (accounts : s.Accounts log) {entry : MrEntry} (member : entry ∈ closed log) :
    entry ∈ registered log :=
  accounts.spread.mem_iff.mpr (List.mem_append_right _ (List.mem_append_right _ member))

theorem registered_of_releasing (accounts : s.Accounts log) {entry : MrEntry} (member : entry ∈ s.releasing) :
    entry ∈ registered log :=
  accounts.spread.mem_iff.mpr (List.mem_append_right _ (List.mem_append_left _ member))

theorem registered_nodup (accounts : s.Accounts log) : (registered log).Nodup :=
  accounts.apart.of_map

theorem eq_of_region (accounts : s.Accounts log) {first second : MrEntry} (left : first ∈ registered log)
    (right : second ∈ registered log) (same : first.region = second.region) : first = second :=
  List.inj_on_of_nodup_map accounts.apart left right same

theorem eq_of_handle (accounts : s.Accounts log) {first second : MrEntry} (left : first ∈ registered log)
    (right : second ∈ registered log) (same : first.handle = second.handle) : first = second :=
  List.inj_on_of_nodup_map accounts.handles_nodup left right same

/-- New notes that free no region of an entry leave the count of its frees as it is. -/
theorem count_freed (accounts : s.Accounts log) {new : List MrNote} {entry : MrEntry} (member : entry ∈ registered log)
    (other : ∀ region, .freed region ∈ new → s.calls ≤ region) :
    (log ++ new).count (.freed entry.region) = log.count (.freed entry.region) := by
  rw [List.count_append, Nat.add_eq_left]
  refine List.count_eq_zero.mpr (fun freed => ?_)
  exact Nat.not_le_of_lt (accounts.fresh entry member) (other _ freed)

/-- A step that registers, releases and closes nothing. -/
theorem carry (accounts : s.Accounts log) {t : Registrations} {new : List MrNote} (unregistered : registered new = [])
    (unreleased : released new = []) (unclosed : closed new = []) (list : t.mrList = s.mrList)
    (releasing : t.releasing = s.releasing) (next : t.mrNextHandle = s.mrNextHandle) (later : s.calls ≤ t.calls)
    (freed : ∀ region, .freed region ∈ new → s.calls ≤ region ∧ region < t.calls)
    (single : ∀ region, new.count (.freed region) ≤ 1) : t.Accounts (log ++ new) := by
  constructor <;> try simp only [registered_append, released_append, closed_append, unregistered, unreleased,
    unclosed, List.append_nil, list, releasing, next]
  case few => exact accounts.few.trans later
  case next => exact accounts.next
  case numbered => exact accounts.numbered
  case spread => exact accounts.spread
  case taken => exact accounts.taken
  case fresh => exact fun entry member => (accounts.fresh entry member).trans_le later
  case apart => exact accounts.apart
  case freedBelow =>
    intro region member
    rcases List.mem_append.mp member with old | last
    · exact (accounts.freedBelow region old).trans_le later
    · exact (freed region last).2
  case frees =>
    intro entry member
    rw [accounts.count_freed member (fun region last => (freed region last).1)]
    exact accounts.frees entry member
  case once =>
    intro region
    rw [List.count_append]
    by_cases last : .freed region ∈ new
    · have unfreed : log.count (.freed region) = 0 := by
        refine List.count_eq_zero.mpr (fun old => ?_)
        exact Nat.not_le_of_lt (accounts.freedBelow region old) (freed region last).1
      rw [unfreed, Nat.zero_add]
      exact single region
    · rw [List.count_eq_zero.mpr last]
      exact accounts.once region

theorem registers (accounts : s.Accounts log) (room : s.calls + 1 < 2 ^ 64) {entry : MrEntry}
    (handle : entry.handle = s.mrNextHandle) (region : entry.region = s.calls) (key : Nat) :
    Registrations.Accounts
      { s with
        calls := s.calls + 1
        mrNextKey := key
        mrNextHandle := (s.mrNextHandle + 1) % 2 ^ 64
        mrList := s.mrList ++ [entry] }
      (log ++ [.registered entry]) := by
  have numbered : s.mrNextHandle = (registered log).length + 1 := by
    rw [accounts.next]
    exact Nat.mod_eq_of_lt (by have few := accounts.few; omega)
  have unclosed : (closed log).count entry = 0 := by
    refine List.count_eq_zero.mpr (fun member => ?_)
    exact Nat.lt_irrefl _ (region ▸ accounts.fresh entry (accounts.registered_of_closed member))
  constructor <;> try simp only [registered_append, released_append, closed_append,
    show registered [.registered entry] = [entry] from rfl, show released [.registered entry] = [] from rfl,
    show closed [.registered entry] = [] from rfl, List.append_nil, List.length_append, List.length_singleton]
  case few => exact Nat.succ_le_succ accounts.few
  case next => rw [numbered]
  case numbered =>
    rw [List.map_append, accounts.numbered, List.range'_concat, List.map_singleton, handle, numbered, Nat.one_mul,
      Nat.add_comm 1]
  case spread =>
    calc registered log ++ [entry]
      List.Perm _ (s.mrList ++ (s.releasing ++ closed log) ++ [entry]) := accounts.spread.append_right [entry]
      List.Perm _ (s.mrList ++ [entry] ++ (s.releasing ++ closed log)) := by
        rw [List.append_assoc s.mrList, List.append_assoc s.mrList]
        exact List.Perm.append_left _ List.perm_append_comm
  case taken => exact accounts.taken
  case fresh =>
    intro other member
    rcases List.mem_append.mp member with old | last
    · exact Nat.lt_succ_of_lt (accounts.fresh other old)
    · rw [List.mem_singleton.mp last, region]
      exact Nat.lt_succ_self _
  case apart =>
    rw [List.map_append, List.map_singleton, region]
    refine List.nodup_append.mpr ⟨accounts.apart, List.nodup_singleton _, ?_⟩
    intro old member last atEnd same
    obtain ⟨other, known, rfl⟩ := List.mem_map.mp member
    rw [List.mem_singleton.mp atEnd] at same
    exact Nat.ne_of_lt (accounts.fresh other known) same
  case freedBelow =>
    intro freed member
    refine Nat.lt_succ_of_lt (accounts.freedBelow freed ?_)
    simpa using member
  case frees =>
    intro other member
    rw [List.count_append, show [MrNote.registered entry].count (.freed other.region) = 0 from by simp, Nat.add_zero]
    rcases List.mem_append.mp member with old | last
    · exact accounts.frees other old
    · rw [List.mem_singleton.mp last, unclosed, ite_self, region]
      exact List.count_eq_zero.mpr (fun freed => Nat.lt_irrefl _ (accounts.freedBelow _ freed))
  case once =>
    intro freed
    rw [List.count_append, show [MrNote.registered entry].count (.freed freed) = 0 from by simp]
    exact accounts.once freed

theorem releases (accounts : s.Accounts log) {rest : List MrEntry} {entry : MrEntry}
    (out : s.mrList.Perm (entry :: rest)) :
    Registrations.Accounts { s with mrList := rest, releasing := s.releasing ++ [entry] }
      (log ++ [.released entry]) := by
  constructor <;> try simp only [registered_append, released_append, closed_append,
    show registered [.released entry] = [] from rfl, show released [.released entry] = [entry] from rfl,
    show closed [.released entry] = [] from rfl, List.append_nil]
  case few => exact accounts.few
  case next => exact accounts.next
  case numbered => exact accounts.numbered
  case spread =>
    calc registered log
      List.Perm _ (s.mrList ++ (s.releasing ++ closed log)) := accounts.spread
      List.Perm _ (entry :: rest ++ (s.releasing ++ closed log)) := out.append_right _
      List.Perm _ (rest ++ (s.releasing ++ [entry] ++ closed log)) := by
        rw [List.append_assoc s.releasing, List.cons_append, ← List.append_assoc, ← List.append_assoc]
        exact List.perm_middle.symm
  case taken =>
    calc released log ++ [entry]
      List.Perm _ (s.releasing ++ closed log ++ [entry]) := accounts.taken.append_right [entry]
      List.Perm _ (s.releasing ++ [entry] ++ closed log) := by
        rw [List.append_assoc, List.append_assoc]
        exact List.Perm.append_left _ List.perm_append_comm
  case fresh => exact accounts.fresh
  case apart => exact accounts.apart
  case freedBelow =>
    intro freed member
    exact accounts.freedBelow freed (by simpa using member)
  case frees =>
    intro other member
    rw [accounts.count_freed member (by simp)]
    exact accounts.frees other member
  case once =>
    intro freed
    rw [List.count_append, show [MrNote.released entry].count (.freed freed) = 0 from by simp]
    exact accounts.once freed

theorem closes (accounts : s.Accounts log) {rest : List MrEntry} {entry : MrEntry}
    (out : s.releasing.Perm (entry :: rest)) :
    Registrations.Accounts { s with releasing := rest }
      (log ++ .closed entry :: if entry.owned then [.freed entry.region] else []) := by
  have known : entry ∈ registered log := accounts.registered_of_releasing (out.mem_iff.mpr List.mem_cons_self)
  have unclosed : entry ∉ closed log := by
    have nodup : (s.releasing ++ closed log).Nodup :=
      (List.nodup_append.mp (accounts.spread.nodup_iff.mp accounts.registered_nodup)).2.1
    intro member
    exact (List.nodup_append.mp nodup).2.2 entry (out.mem_iff.mpr List.mem_cons_self) entry member rfl
  have unregistered : registered (.closed entry :: if entry.owned then [.freed entry.region] else []) = [] := by
    cases entry.owned <;> rfl
  have unreleased : released (.closed entry :: if entry.owned then [.freed entry.region] else []) = [] := by
    cases entry.owned <;> rfl
  have closing : closed (.closed entry :: if entry.owned then [.freed entry.region] else []) = [entry] := by
    cases entry.owned <;> rfl
  have handed : (s.releasing ++ closed log).Perm (rest ++ (closed log ++ [entry])) := by
    rw [← List.append_assoc]
    calc s.releasing ++ closed log
      List.Perm _ (entry :: (rest ++ closed log)) := out.append_right _
      List.Perm _ (rest ++ closed log ++ [entry]) := (List.perm_append_singleton _ _).symm
  constructor <;> try simp only [registered_append, released_append, closed_append, unregistered, unreleased, closing,
    List.append_nil]
  case few => exact accounts.few
  case next => exact accounts.next
  case numbered => exact accounts.numbered
  case spread => exact accounts.spread.trans (handed.append_left _)
  case taken => exact accounts.taken.trans handed
  case fresh => exact accounts.fresh
  case apart => exact accounts.apart
  case freedBelow =>
    intro freed member
    rcases List.mem_append.mp member with old | last
    · exact accounts.freedBelow freed old
    · cases owned : entry.owned <;> simp [owned] at last
      exact last ▸ accounts.fresh entry known
  case frees =>
    intro other member
    rw [List.count_append, List.count_append, accounts.frees other member]
    by_cases same : other = entry
    · subst same
      cases owned : other.owned <;> simp
    · have apart : entry.region ≠ other.region :=
        fun region => same (accounts.eq_of_region member known region.symm)
      cases entry.owned <;> simp [apart, Ne.symm same]
  case once =>
    intro region
    rw [List.count_append]
    cases owned : entry.owned with
    | false => simpa [owned] using accounts.once region
    | true =>
      by_cases same : entry.region = region
      · have unfreed := accounts.frees entry known
        rw [List.count_eq_zero.mpr unclosed, ite_self] at unfreed
        rw [← same, unfreed]
        simp
      · simpa [owned, same] using accounts.once region

end Registrations.Accounts

namespace Registrations

variable {s : Registrations} {log : List MrNote}

/-- A registration fails, and frees the copy if it made one, or adds one entry. -/
theorem mrRegCommon_cases (s : Registrations) (call : RegCall) :
    (∃ key rc, rc ≠ .ok ∧
      s.mrRegCommon call = ({ s with calls := s.calls + 1, mrNextKey := key },
        (if (s.refusal call).isNone && call.copy then [.freed s.calls] else []) ++ [.rejected s.calls rc])) ∨
    ∃ (key : Nat) (entry : MrEntry), entry.handle = s.mrNextHandle ∧ entry.region = s.calls ∧
      s.mrRegCommon call =
        ({ s with
            calls := s.calls + 1
            mrNextKey := key
            mrNextHandle := (s.mrNextHandle + 1) % 2 ^ 64
            mrList := s.mrList ++ [entry] }, [.registered entry]) := by
  unfold mrRegCommon
  cases refused : s.refusal call with
  | some rc =>
    refine .inl ⟨s.mrNextKey, rc, ?_, rfl⟩
    rintro rfl
    unfold refusal at refused
    split_ifs at refused <;> cases refused
  | none =>
    cases call.mrReg with
    | false => exact .inl ⟨_, .fail, nofun, rfl⟩
    | true => exact .inr ⟨_, _, rfl, rfl, rfl⟩

/-- A release takes the entry of its handle out, or finds none and leaves everything as it is. -/
theorem mrRelease_cases (s : Registrations) (handle : Nat) :
    (∃ entry rest, entry.handle = handle ∧ s.mrList.Perm (entry :: rest) ∧
      s.mrRelease handle = ({ s with mrList := rest, releasing := s.releasing ++ [entry] }, [.released entry])) ∨
    ((handle = 0 ∨ ∀ entry ∈ s.mrList, entry.handle ≠ handle) ∧
      ∃ rc, rc ≠ .ok ∧ s.mrRelease handle = (s, [.refused handle rc])) := by
  unfold mrRelease
  by_cases zero : handle = 0
  · rw [if_pos zero]
    exact .inr ⟨.inl zero, .badParam, nofun, rfl⟩
  · rw [if_neg zero]
    cases found : s.mrList.find? (fun entry => entry.handle = handle) with
    | none =>
      refine .inr ⟨.inr (fun entry member same => ?_), .fail, nofun, rfl⟩
      exact List.find?_eq_none.mp found entry member (decide_eq_true same)
    | some entry =>
      obtain ⟨same, before, after, list, others⟩ := List.find?_eq_some_iff_append.mp found
      refine .inl ⟨entry, _, of_decide_eq_true same, ?_, rfl⟩
      have erased : s.mrList.eraseP (fun entry => decide (entry.handle = handle)) = before ++ after := by
        rw [list, List.eraseP_append_right _ (fun other member => by simpa using others other member),
          List.eraseP_cons, same, cond_true]
      rw [erased, list]
      exact List.perm_middle

theorem finish_cases (s : Registrations) (place : Nat) :
    s.finish place = (s, []) ∨
    ∃ entry rest, s.releasing.Perm (entry :: rest) ∧
      s.finish place = ({ s with releasing := rest },
        .closed entry :: if entry.owned then [.freed entry.region] else []) := by
  unfold finish
  cases found : s.releasing[place]? with
  | none => exact .inl rfl
  | some entry =>
    obtain ⟨inside, rfl⟩ := List.getElem?_eq_some_iff.mp found
    exact .inr ⟨_, _, (List.getElem_cons_eraseIdx_perm inside).symm, rfl⟩

theorem Accounts.mrRelease (accounts : s.Accounts log) (handle : Nat) :
    (s.mrRelease handle).1.Accounts (log ++ (s.mrRelease handle).2) := by
  rcases s.mrRelease_cases handle with ⟨entry, rest, -, out, eq⟩ | ⟨-, rc, -, eq⟩ <;> rw [eq]
  · exact accounts.releases out
  · exact accounts.carry rfl rfl rfl rfl rfl rfl (Nat.le_refl _) (by simp) (by simp)

theorem Accounts.mrRegCommon (accounts : s.Accounts log) (room : s.calls + 1 < 2 ^ 64) (call : RegCall) :
    (s.mrRegCommon call).1.Accounts (log ++ (s.mrRegCommon call).2) := by
  rcases s.mrRegCommon_cases call with ⟨key, rc, -, eq⟩ | ⟨key, entry, handle, region, eq⟩ <;> rw [eq]
  · cases (s.refusal call).isNone && call.copy
    · exact accounts.carry rfl rfl rfl rfl rfl rfl (Nat.le_succ _) (by simp) (by simp)
    · exact accounts.carry rfl rfl rfl rfl rfl rfl (Nat.le_succ _) (by simp) (by simp [List.count_cons]; grind)
  · exact accounts.registers room handle region key

theorem Accounts.finish (accounts : s.Accounts log) (place : Nat) :
    (s.finish place).1.Accounts (log ++ (s.finish place).2) := by
  rcases s.finish_cases place with eq | ⟨entry, rest, out, eq⟩ <;> rw [eq]
  · rwa [List.append_nil]
  · exact accounts.closes out

theorem Accounts.step (accounts : s.Accounts log) {action : MrAction}
    (room : action.isRegister = true → s.calls + 1 < 2 ^ 64) :
    (s.step action).1.Accounts (log ++ (s.step action).2) := by
  cases action with
  | register call => exact accounts.mrRegCommon (room rfl) call
  | ack handleHi handleLo => exact accounts.mrRelease _
  | discard handle => exact accounts.mrRelease _
  | finish place => exact accounts.finish place

theorem step_calls (s : Registrations) (action : MrAction) :
    (s.step action).1.calls = s.calls + [action].countP MrAction.isRegister := by
  cases action with
  | register call =>
    rcases s.mrRegCommon_cases call with ⟨key, rc, -, eq⟩ | ⟨key, entry, -, -, eq⟩ <;> simp only [Registrations.step, eq] <;>
      rfl
  | ack handleHi handleLo =>
    rcases s.mrRelease_cases (handleHi ++ handleLo).toNat with ⟨entry, rest, -, -, eq⟩ | ⟨-, rc, -, eq⟩ <;>
      simp only [Registrations.step, eq] <;> rfl
  | discard handle =>
    rcases s.mrRelease_cases handle.toNat with ⟨entry, rest, -, -, eq⟩ | ⟨-, rc, -, eq⟩ <;>
      simp only [Registrations.step, eq] <;> rfl
  | finish place =>
    rcases s.finish_cases place with eq | ⟨entry, rest, -, eq⟩ <;> simp only [Registrations.step, eq] <;> rfl

theorem final_calls (rmaCapable : Bool) (actions : List MrAction) :
    (registrations.final (.start rmaCapable) actions).calls = actions.countP MrAction.isRegister := by
  induction actions using List.reverseRecOn with
  | nil => rfl
  | append_singleton actions action ih =>
    rw [registrations.final_concat, List.countP_append, ← ih]
    exact step_calls _ action

theorem accounts_run (rmaCapable : Bool) {actions : List MrAction}
    (few : actions.countP MrAction.isRegister < 2 ^ 64) :
    (registrations.final (.start rmaCapable) actions).Accounts (registrations.log (.start rmaCapable) actions) := by
  induction actions using List.reverseRecOn with
  | nil => exact Accounts.start rmaCapable
  | append_singleton actions action ih =>
    rw [List.countP_append] at few
    rw [registrations.final_concat, registrations.log_concat]
    refine (ih (by omega)).step (fun registers => ?_)
    rw [final_calls]
    simpa [List.countP_cons, registers] using few

/-- The handles in the list. -/
def live (s : Registrations) : List Nat :=
  s.mrList.map MrEntry.handle

theorem Accounts.live_iff (accounts : s.Accounts log) (handle : Nat) :
    handle ∈ s.live ↔
      handle ∈ (registered log).map MrEntry.handle ∧ handle ∉ (released log).map MrEntry.handle := by
  have apart := List.nodup_append.mp (accounts.spread.nodup_iff.mp accounts.registered_nodup)
  have gone {entry : MrEntry} : entry ∈ released log ↔ entry ∈ s.releasing ++ closed log := accounts.taken.mem_iff
  constructor
  · rintro member
    obtain ⟨entry, listed, rfl⟩ := List.mem_map.mp member
    have known := accounts.registered_of_listed listed
    refine ⟨List.mem_map_of_mem known, fun out => ?_⟩
    obtain ⟨other, taken, same⟩ := List.mem_map.mp out
    have registered := accounts.spread.mem_iff.mpr (List.mem_append_right s.mrList (gone.mp taken))
    rw [accounts.eq_of_handle registered known same] at taken
    exact apart.2.2 entry listed entry (gone.mp taken) rfl
  · rintro ⟨member, unreleased⟩
    obtain ⟨entry, known, rfl⟩ := List.mem_map.mp member
    refine List.mem_map_of_mem ((List.mem_append.mp (accounts.spread.mem_iff.mp known)).resolve_right (fun out => ?_))
    exact unreleased (List.mem_map_of_mem (gone.mpr out))

theorem Accounts.closed_count (accounts : s.Accounts log) (entry : MrEntry) :
    (closed log).count entry = if entry ∈ released log ∧ entry ∉ s.releasing then 1 else 0 := by
  have nodup := (List.nodup_append.mp (accounts.spread.nodup_iff.mp accounts.registered_nodup)).2.1
  have parts := List.nodup_append.mp nodup
  rw [parts.2.1.count]
  refine if_congr ?_ rfl rfl
  rw [accounts.taken.mem_iff, List.mem_append]
  constructor
  · exact fun member => ⟨.inr member, fun under => parts.2.2 entry under entry member rfl⟩
  · exact fun ⟨either, finished⟩ => either.resolve_left finished

theorem Accounts.live_pos (accounts : s.Accounts log) : 0 ∉ s.live := by
  intro member
  have known := ((accounts.live_iff 0).mp member).1
  rw [accounts.numbered, List.mem_range'_1] at known
  omega

/-- A registration made the handle live, and no release of it followed. -/
def Unreleased (rmaCapable : Bool) (actions : List MrAction) (handle : Nat) : Prop :=
  ∃ before action after, actions = before ++ action :: after ∧
    (∃ entry, .registered entry ∈ ((registrations.final (.start rmaCapable) before).step action).2 ∧
      entry.handle = handle) ∧
    ∀ later ∈ after, later.handle? ≠ some handle

theorem live_mrRelease (accounts : s.Accounts log) (asked handle : Nat) :
    handle ∈ (s.mrRelease asked).1.live ↔ handle ∈ s.live ∧ asked ≠ handle := by
  rcases s.mrRelease_cases asked with ⟨entry, rest, same, out, eq⟩ | ⟨unknown, rc, -, eq⟩ <;> rw [eq]
  · have handles : s.live.Perm (asked :: rest.map MrEntry.handle) := same ▸ out.map MrEntry.handle
    have nodup : (asked :: rest.map MrEntry.handle).Nodup := by
      have all := (accounts.spread.map MrEntry.handle).nodup_iff.mp accounts.handles_nodup
      rw [List.map_append] at all
      exact handles.nodup_iff.mp all.of_append_left
    have fresh := (List.nodup_cons.mp nodup).1
    rw [handles.mem_iff, List.mem_cons]
    constructor
    · exact fun member => ⟨.inr member, fun clash => fresh (clash ▸ member)⟩
    · exact fun ⟨either, other⟩ => either.resolve_left (Ne.symm other)
  · refine ⟨fun member => ⟨member, ?_⟩, And.left⟩
    rintro rfl
    rcases unknown with rfl | absent
    · exact accounts.live_pos member
    · obtain ⟨entry, listed, same⟩ := List.mem_map.mp member
      exact absent entry listed same

theorem unregistered_mrRelease (s : Registrations) (asked : Nat) (entry : MrEntry) :
    .registered entry ∉ (s.mrRelease asked).2 := by
  rcases s.mrRelease_cases asked with ⟨other, rest, -, -, eq⟩ | ⟨-, rc, -, eq⟩ <;> simp [eq]

/-- What is live after a step: what was, save a released handle, and a newly returned one. -/
theorem live_step (accounts : s.Accounts log) (action : MrAction) (handle : Nat) :
    handle ∈ (s.step action).1.live ↔
      (handle ∈ s.live ∧ action.handle? ≠ some handle) ∨
        ∃ entry, .registered entry ∈ (s.step action).2 ∧ entry.handle = handle := by
  cases action with
  | register call =>
    rcases s.mrRegCommon_cases call with ⟨key, rc, -, eq⟩ | ⟨key, entry, -, -, eq⟩ <;>
      simp only [step, eq, MrAction.handle?]
    · cases (s.refusal call).isNone && call.copy <;> simp [live]
    · simp [live, eq_comm]
  | ack handleHi handleLo =>
    simp only [step, MrAction.handle?, live_mrRelease accounts, unregistered_mrRelease]
    simp
  | discard asked =>
    simp only [step, MrAction.handle?, live_mrRelease accounts, unregistered_mrRelease]
    simp
  | finish place =>
    rcases s.finish_cases place with eq | ⟨entry, rest, -, eq⟩ <;> simp only [step, eq, MrAction.handle?]
    · simp
    · cases entry.owned <;> simp [live]

theorem unreleased_concat {rmaCapable : Bool} {actions : List MrAction} {action : MrAction} {handle : Nat} :
    Unreleased rmaCapable (actions ++ [action]) handle ↔
      (Unreleased rmaCapable actions handle ∧ action.handle? ≠ some handle) ∨
        ∃ entry, .registered entry ∈ ((registrations.final (.start rmaCapable) actions).step action).2 ∧
          entry.handle = handle := by
  constructor
  · rintro ⟨before, registering, after, split, returned, kept⟩
    rcases after.eq_nil_or_concat with rfl | ⟨earlier, last, rfl⟩
    · obtain ⟨rfl, same⟩ := List.append_inj' split rfl
      obtain rfl : action = registering := by simpa using same
      exact .inr returned
    · rw [List.concat_eq_append, ← List.cons_append, ← List.append_assoc] at split
      obtain ⟨rfl, same⟩ := List.append_inj' split rfl
      obtain rfl : action = last := by simpa using same
      refine .inl ⟨⟨before, registering, earlier, rfl, returned, fun later member => ?_⟩, ?_⟩
      · exact kept later (by simp [member])
      · exact kept action (by simp)
  · rintro (⟨⟨before, registering, after, rfl, returned, kept⟩, other⟩ | returned)
    · refine ⟨before, registering, after ++ [action], by simp, returned, fun later member => ?_⟩
      rcases List.mem_append.mp member with old | last
      · exact kept later old
      · rw [List.mem_singleton.mp last]
        exact other
    · exact ⟨actions, action, [], rfl, returned, fun _ member => nomatch member⟩

theorem live_iff_unreleased (rmaCapable : Bool) {actions : List MrAction}
    (few : actions.countP MrAction.isRegister < 2 ^ 64) (handle : Nat) :
    handle ∈ (registrations.final (.start rmaCapable) actions).live ↔ Unreleased rmaCapable actions handle := by
  induction actions using List.reverseRecOn with
  | nil =>
    refine ⟨fun member => (nomatch member), ?_⟩
    rintro ⟨before, action, after, split, -⟩
    simp at split
  | append_singleton actions action ih =>
    rw [List.countP_append] at few
    have earlier : actions.countP MrAction.isRegister < 2 ^ 64 := by omega
    rw [unreleased_concat, ← ih earlier, registrations.final_concat]
    exact live_step (accounts_run rmaCapable earlier) action handle

theorem step_of_handle {action : MrAction} {handle : Nat} (asked : action.handle? = some handle) (s : Registrations) :
    s.step action = s.mrRelease handle := by
  cases action <;> cases asked <;> rfl

end Registrations

open Registrations in
/-- The registration table over every sequence of registrations and releases: which handles are live,
which release succeeds, and how often a region is deregistered and freed. -/
theorem registration_table (rmaCapable : Bool) (actions : List MrAction)
    (few : actions.countP MrAction.isRegister < 2 ^ 64) :
    let start := Registrations.start rmaCapable
    let s := registrations.final start actions
    let log := registrations.log start actions
    (∀ handle, handle ∈ s.live ↔
      handle ∈ (registered log).map MrEntry.handle ∧ handle ∉ (released log).map MrEntry.handle) ∧
    ((registered log).map MrEntry.handle).Nodup ∧
    (∀ before action after handle, actions = before ++ action :: after → action.handle? = some handle →
      let now := registrations.final start before
      (Unreleased rmaCapable before handle →
        ∃ entry, entry.handle = handle ∧ (now.step action).2 = [.released entry]) ∧
      (¬ Unreleased rmaCapable before handle →
        ∃ rc, rc ≠ .ok ∧ now.step action = (now, [.refused handle rc]))) ∧
    (∀ entry ∈ registered log,
      let done := if entry ∈ released log ∧ entry ∉ s.releasing then 1 else 0
      (closed log).count entry = done ∧
      log.count (.freed entry.region) = if entry.owned then done else 0) ∧
    (∀ region, log.count (.freed region) ≤ 1) ∧
    (∀ before call after, actions = before ++ .register call :: after →
      let now := registrations.final start before
      (∃ entry, (now.step (.register call)).2 = [.registered entry]) ∨
      ((now.step (.register call)).1.mrList = now.mrList ∧
        (now.step (.register call)).1.mrNextHandle = now.mrNextHandle ∧
        (.freed now.calls ∈ (now.step (.register call)).2 ↔ now.refusal call = none ∧ call.copy = true))) := by
  intro start s log
  have accounts : s.Accounts log := accounts_run rmaCapable few
  refine ⟨accounts.live_iff, accounts.handles_nodup, ?_, ?_, accounts.once, ?_⟩
  · intro before action after handle split asked now
    have earlier : before.countP MrAction.isRegister < 2 ^ 64 := by
      rw [split, List.countP_append] at few
      omega
    rw [← live_iff_unreleased rmaCapable earlier, step_of_handle asked]
    rcases now.mrRelease_cases handle with ⟨entry, rest, same, out, eq⟩ | ⟨unknown, rc, failed, eq⟩
    · refine ⟨fun _ => ⟨entry, same, by rw [eq]⟩, fun absent => absurd ?_ absent⟩
      exact List.mem_map.mpr ⟨entry, out.mem_iff.mpr List.mem_cons_self, same⟩
    · refine ⟨fun member => ?_, fun _ => ⟨rc, failed, eq⟩⟩
      rcases unknown with rfl | absent
      · exact absurd member (accounts_run rmaCapable earlier).live_pos
      · obtain ⟨entry, listed, same⟩ := List.mem_map.mp member
        exact absurd same (absent entry listed)
  · intro entry known done
    have finished : (closed log).count entry = done := accounts.closed_count entry
    refine ⟨finished, ?_⟩
    rw [accounts.frees entry known, finished]
  · intro before call after split now
    rcases now.mrRegCommon_cases call with ⟨key, rc, -, eq⟩ | ⟨key, entry, -, -, eq⟩
    · refine .inr ?_
      simp only [Registrations.step, eq]
      refine ⟨trivial, trivial, ?_⟩
      cases now.refusal call <;> cases call.copy <;> simp
    · exact .inl ⟨entry, congrArg Prod.snd eq⟩

theorem registration_table_race :
    let call : RegCall := ⟨true, 8, true, true, true, true, true⟩
    let actions := [MrAction.register call, .ack 0 1, .discard 1, .finish 0]
    (closed (registrations.log (Registrations.start true) actions)).map MrEntry.handle = [1] ∧
      (registrations.final (Registrations.start true) actions).live = [] ∧
      ((registered (registrations.log (Registrations.start true) actions)).map MrEntry.handle).Nodup :=
  ⟨by decide +kernel, by decide +kernel, (registration_table true _ (by decide)).2.1⟩

end DEFw.Fabric
