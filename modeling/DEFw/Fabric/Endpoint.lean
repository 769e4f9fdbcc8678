import DEFw.Agents.Block
import Mathlib.Data.List.TakeWhile

namespace DEFw.Fabric
open Agents (DefwRc)

/-- What `defw_transport_ofi_init` takes and `ofi_fini` gives back. -/
inductive Resource
  | sendLock | mrLock | hints | info | fabric | domain | av | txCq | rxCq | ep | recvBufs | progressThread
  deriving DecidableEq

inductive ResourceNote
  | acquire (resource : Resource)
  | release (resource : Resource)

/-- The calls behind `fi_getinfo`. -/
inductive InitCall
  | fiFabric | fiDomain | fiAvOpen | fiCqOpenTx | fiCqOpenRx | fiEndpoint | fiEpBindAv | fiEpBindTx | fiEpBindRx
  | fiEnable | fiGetname | calloc | ofiPostRecv (i : Fin 8) | pthreadCreate

def InitCall.acquires : InitCall → List Resource
  | fiFabric => [.fabric]
  | fiDomain => [.domain]
  | fiAvOpen => [.av]
  | fiCqOpenTx => [.txCq]
  | fiCqOpenRx => [.rxCq]
  | fiEndpoint => [.ep]
  | calloc => [.recvBufs]
  | pthreadCreate => [.progressThread]
  | _ => []

def initCalls : List InitCall :=
  [.fiFabric, .fiDomain, .fiAvOpen, .fiCqOpenTx, .fiCqOpenRx, .fiEndpoint, .fiEpBindAv, .fiEpBindTx, .fiEpBindRx,
    .fiEnable, .fiGetname, .calloc] ++ (List.finRange 8).map .ofiPostRecv ++ [.pthreadCreate]

/-- Which calls succeed; `fi_getinfo` is asked for RMA first. The provider may need `FI_MR_LOCAL`. -/
structure Outcomes where
  allocinfo : Bool
  strdup : Bool
  getinfoRma : Bool
  getinfoMsg : Bool
  mrLocal : Bool
  call : InitCall → Bool

/-- What is in `g_ofi`, what was taken and given back, and whether `ofi_ops` are set. -/
structure Started where
  rc : DefwRc
  held : List Resource
  rmaCapable : Bool
  trace : List ResourceNote
  ofiOps : Bool

/-- The transport stays TCP. -/
def Started.tcp (rc : DefwRc) (trace : List ResourceNote) : Started := ⟨rc, [], false, trace, false⟩

def locks : List Resource := [.sendLock, .mrLock]

/-- What is not there is left out. -/
def ofiFini (held : List Resource) : List ResourceNote :=
  ([.progressThread, .ep, .txCq, .rxCq, .av, .domain, .fabric, .info, .recvBufs].filter (· ∈ held) ++ locks).map .release

/-- The trace up to `fi_getinfo`. -/
def asked (result : List ResourceNote) : List ResourceNote :=
  locks.map .acquire ++ [.acquire .hints] ++ result ++ [.release .hints]

/-- `goto err` at the first call that fails. -/
def reached (call : InitCall → Bool) : List Resource := .info :: (initCalls.takeWhile call).flatMap InitCall.acquires

def opened (call : InitCall → Bool) : List ResourceNote :=
  asked [.acquire .info] ++ (reached call).tail.map .acquire

def transportOfiInit (provider : Option String) (o : Outcomes) : Started :=
  if !o.allocinfo then .tcp .oom (locks.map .acquire ++ locks.map .release)
  else if provider.any (· ≠ "") && !o.strdup then .tcp .oom (asked [] ++ locks.map .release)
  else if !o.getinfoRma && !o.getinfoMsg then .tcp .fail (asked [] ++ locks.map .release)
  else if initCalls.all o.call then ⟨.ok, reached o.call, o.getinfoRma && !o.mrLocal, opened o.call, true⟩
  else .tcp .fail (opened o.call ++ ofiFini (reached o.call))

def transportStartup (transport provider : Option String) (o : Outcomes) : Started :=
  if transport = some "ofi" then transportOfiInit provider o else .tcp .ok []

def transportShutdown (s : Started) : List ResourceNote := if s.ofiOps then ofiFini s.held else []

/-- What still uses the resource. -/
def Resource.users : Resource → List Resource
  | info => [.fabric, .domain, .ep]
  | fabric => [.domain]
  | domain => [.av, .txCq, .rxCq, .ep]
  | av | txCq => [.ep]
  | rxCq | recvBufs => [.ep, .progressThread]
  | ep => [.progressThread]
  | _ => []

/-- What is held after the note: a resource is taken once, and given back once, unused. -/
def ResourceNote.check (held : List Resource) : ResourceNote → Option (List Resource)
  | acquire resource => if resource ∈ held then none else some (resource :: held)
  | release resource =>
    if resource ∈ held ∧ ∀ user ∈ resource.users, user ∉ held then some (held.erase resource) else none

def balance (trace : List ResourceNote) : Option (List Resource) := trace.foldlM ResourceNote.check []

/-- Wherever `goto err` leaves, all that was taken until then is given back in order. -/
theorem balance_prefix : ∀ n ≤ initCalls.length,
    let taken := .info :: (initCalls.take n).flatMap InitCall.acquires
    balance (asked [.acquire .info] ++ taken.tail.map .acquire ++ ofiFini taken) = some [] := by
  decide +kernel

theorem balance_opened (call : InitCall → Bool) : balance (opened call ++ ofiFini (reached call)) = some [] := by
  have front := List.prefix_iff_eq_take.mp (List.takeWhile_prefix call : initCalls.takeWhile call <+: initCalls)
  have balanced := balance_prefix _ (List.takeWhile_prefix call).length_le
  simp only [← front] at balanced
  exact balanced

/-- Whichever calls fail: the fabric becomes the transport if and only if none does that is needed,
and offers RMA only then; if it does not, startup has given back all that it has taken, and with
shutdown it always has. Each resource is taken once, and given back once, when nothing uses it. -/
theorem ofi_endpoint_released (transport provider : Option String) (o : Outcomes) :
    let s := transportStartup transport provider o
    (s.ofiOps = true ↔ transport = some "ofi" ∧ o.allocinfo = true ∧ (provider.any (· ≠ "") = true → o.strdup = true) ∧
      (o.getinfoRma = true ∨ o.getinfoMsg = true) ∧ ∀ call ∈ initCalls, o.call call = true) ∧
    (s.rmaCapable = true ↔ s.ofiOps = true ∧ o.getinfoRma = true ∧ o.mrLocal = false) ∧
    (s.ofiOps = false → balance s.trace = some []) ∧ balance (s.trace ++ transportShutdown s) = some [] := by
  have early : balance (asked [] ++ locks.map .release) = some [] := by decide
  have first : balance (locks.map .acquire ++ locks.map .release) = some [] := by decide
  have nothing : balance [] = some [] := rfl
  unfold transportStartup transportOfiInit transportShutdown Started.tcp
  repeat' split
  all_goals grind [balance_opened]

end DEFw.Fabric
