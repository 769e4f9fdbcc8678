import DEFw.Lib.Faulting
import DEFw.Registry.Dispatch

namespace DEFw.Registry
open Py

/-- `yaml.dump` can represent the value, given which of the objects without a
constructor of their own it can represent. -/
def Serialises (dumps : Nat → Bool) (value : Value) : Prop := value.All fun node => ∀ id, node = .other id → dumps id = true

def ExceptionEntry.Serialises (dumps : Nat → Bool) : ExceptionEntry → Prop
  | object _ msg arg => Registry.Serialises dumps msg ∧ Registry.Serialises dumps arg
  | text _ => True

def Response.Serialises (dumps : Nat → Bool) (response : Response) : Prop :=
  Registry.Serialises dumps response.rc ∧ ∀ entry ∈ response.exception, entry.Serialises dumps

theorem serialises_str (dumps : Nat → Bool) (s : String) : Serialises dumps (.str s) := by
  simp [Serialises, Value.All, Value.nodes]

theorem serialises_none (dumps : Nat → Bool) : Serialises dumps .none := by
  simp [Serialises, Value.All, Value.nodes]

theorem serialises_emptyResult (dumps : Nat → Bool) : Serialises dumps emptyResult := by
  simp [Serialises, emptyResult, Value.All, Value.nodes, Value.nodesEntries]

section Request

variable (host : Host) (callee : Callee) (rpc : Rpc) (t : Tables)

/-- The constructor of the class is called. -/
def Constructs : Prop :=
  host.isOwnDirsvc rpc = false ∧
  match callee.instanceMode with
  | .singleton => t.globalSingletonDb.get? (Tables.getSingletonKey rpc.module rpc.className) = none
  | .perConnection => t.globalClassDb.get? rpc.classId = none

/-- The code that a request calls ends in this way. -/
inductive Calls : Except Raised Value → Prop
  | function (called : Except Raised Value) (type : rpc.type = .functionCall) (found : callee.function = some (some called)) :
      Calls called
  | constructor (made : ClassName) (type : rpc.type = .instantiateClass) (constructs : Constructs host callee rpc t)
      (found : callee.construct = some (.ok made)) : Calls (.ok emptyResult)
  | constructorRaises (raised : Raised) (type : rpc.type = .instantiateClass) (constructs : Constructs host callee rpc t)
      (found : callee.construct = some (.error raised)) : Calls (.error raised)
  | method (called : Except Raised Value) (instance_ : Instance) (type : rpc.type = .methodCall)
      (known : t.globalClassDb.get? rpc.classId = some instance_) (same : instance_.className = rpc.className)
      (found : callee.method = some called) : Calls called

/-- A request that ends before it calls anything: the function, the class or the method
does not exist, the class id is unknown, or it is the id of an object of another class. -/
inductive Refused : Prop
  | noFunction (type : rpc.type = .functionCall) (absent : callee.function = none)
  | noClass (type : rpc.type = .instantiateClass) (foreign : host.isOwnDirsvc rpc = false) (absent : callee.construct = none)
      (needed : callee.instanceMode = .singleton ∨ t.globalClassDb.get? rpc.classId = none)
  | unknownId (type : rpc.type = .methodCall ∨ rpc.type = .destroyClass ∧ host.isOwnDirsvc rpc = false)
      (absent : t.globalClassDb.get? rpc.classId = none)
  | mismatch (instance_ : Instance) (type : rpc.type = .methodCall)
      (known : t.globalClassDb.get? rpc.classId = some instance_) (other : instance_.className ≠ rpc.className)
  | noMethod (instance_ : Instance) (type : rpc.type = .methodCall)
      (known : t.globalClassDb.get? rpc.classId = some instance_) (same : instance_.className = rpc.className)
      (absent : callee.method = none)

/-- The dispatch of a request fails. -/
inductive DispatchFails : Prop
  | unexpected (text : String) (type : rpc.type = .unexpected text)
  | noModule (raised : Raised) (failed : callee.importModule = .error raised)
  | refused (refused : Refused host callee rpc t)
  | raised (raised : Raised) (called : Calls host callee rpc t (.error raised))

/-- What the called code leaves can be sent to the caller. -/
def Deliverable (dumps : Nat → Bool) : Except Raised Value → Prop
  | .ok value => Serialises dumps value
  | .error (.defwError _ truthy msg arg) => truthy = true ∧ Serialises dumps msg ∧ Serialises dumps arg
  | .error (.exception _) => True
  | .error (.baseException _) => False

/-- The request is of a known type, its module can be imported, and what it calls ends
with a result or an `Exception` that can be sent. -/
structure Answerable (dumps : Nat → Bool) : Prop where
  expected : ∀ text, rpc.type ≠ .unexpected text
  imported : callee.importModule = .ok ()
  deliverable : ∀ outcome, Calls host callee rpc t outcome → Deliverable dumps outcome

/-- How a dispatch ends. -/
inductive Ends : Except Raised Value → Prop
  | plain (kept : ¬Refused host callee rpc t) (silent : ∀ outcome, ¬Calls host callee rpc t outcome) : Ends (.ok emptyResult)
  | called (outcome : Except Raised Value) (calls : Calls host callee rpc t outcome)
      (only : ∀ other, Calls host callee rpc t other → other = outcome) (kept : ¬Refused host callee rpc t) : Ends outcome
  | refused (raised : Raised) (refused : Refused host callee rpc t) (silent : ∀ outcome, ¬Calls host callee rpc t outcome)
      (deliverable : ∀ dumps, Deliverable dumps (.error raised)) : Ends (.error raised)

end Request

variable {host : Host} {callee : Callee} {rpc : Rpc} {t : Tables}

theorem deliverable_attributeError (owner name : String) (dumps : Nat → Bool) :
    Deliverable dumps (.error (attributeError owner name)) := trivial

theorem deliverable_noClassId (classId : String) (dumps : Nat → Bool) : Deliverable dumps (.error (noClassId classId)) :=
  ⟨rfl, serialises_str dumps _, serialises_none dumps⟩

theorem deliverable_classMismatch (requested actual : String) (dumps : Nat → Bool) :
    Deliverable dumps (.error (classMismatch requested actual)) :=
  ⟨rfl, serialises_str dumps _, serialises_none dumps⟩

section Types

variable {outcome : Except Raised Value}

theorem calls_functionCall_iff (type : rpc.type = .functionCall) :
    Calls host callee rpc t outcome ↔ callee.function = some (some outcome) := by
  constructor
  · intro calls
    cases calls <;> simp_all
  · exact fun found => .function outcome type found

theorem refused_functionCall_iff (type : rpc.type = .functionCall) : Refused host callee rpc t ↔ callee.function = none := by
  constructor
  · intro refused
    cases refused <;> simp_all
  · exact fun absent => .noFunction type absent

theorem calls_methodCall_iff (type : rpc.type = .methodCall) : Calls host callee rpc t outcome ↔
    ∃ instance_, t.globalClassDb.get? rpc.classId = some instance_ ∧ instance_.className = rpc.className ∧
      callee.method = some outcome := by
  constructor
  · intro calls
    cases calls <;> simp_all
  · rintro ⟨instance_, known, same, found⟩
    exact .method outcome instance_ type known same found

theorem refused_methodCall_iff (type : rpc.type = .methodCall) : Refused host callee rpc t ↔
    ∀ instance_, t.globalClassDb.get? rpc.classId = some instance_ →
      instance_.className ≠ rpc.className ∨ callee.method = none := by
  constructor
  · intro refused instance_ known
    cases refused <;> simp_all
  · intro refused
    cases known : t.globalClassDb.get? rpc.classId with
    | none => exact .unknownId (.inl type) known
    | some instance_ =>
      by_cases same : instance_.className = rpc.className
      · exact .noMethod instance_ type known same ((refused instance_ known).resolve_left (absurd same))
      · exact .mismatch instance_ type known same

theorem calls_instantiateClass_iff (type : rpc.type = .instantiateClass) : Calls host callee rpc t outcome ↔
    Constructs host callee rpc t ∧ callee.construct.map (fun made => made.map (fun _ => emptyResult)) = some outcome := by
  constructor
  · intro calls
    cases calls <;> simp_all [Except.map]
  · rintro ⟨constructs, result⟩
    obtain ⟨made, found, rfl⟩ := Option.map_eq_some_iff.mp result
    cases made with
    | ok made => exact .constructor made type constructs found
    | error raised => exact .constructorRaises raised type constructs found

theorem refused_instantiateClass_iff (type : rpc.type = .instantiateClass) : Refused host callee rpc t ↔
    host.isOwnDirsvc rpc = false ∧ callee.construct = none ∧
      (callee.instanceMode = .singleton ∨ t.globalClassDb.get? rpc.classId = none) := by
  constructor
  · intro refused
    cases refused <;> simp_all
  · rintro ⟨foreign, absent, needed⟩
    exact .noClass type foreign absent needed

theorem not_calls_destroyClass (type : rpc.type = .destroyClass) : ¬Calls host callee rpc t outcome := by
  intro calls
  cases calls <;> simp_all

theorem refused_destroyClass_iff (type : rpc.type = .destroyClass) : Refused host callee rpc t ↔
    host.isOwnDirsvc rpc = false ∧ t.globalClassDb.get? rpc.classId = none := by
  constructor
  · intro refused
    cases refused <;> simp_all
  · rintro ⟨foreign, absent⟩
    exact .unknownId (.inr ⟨type, foreign⟩) absent

end Types

theorem ends_callFunction (type : rpc.type = .functionCall) : Ends host callee rpc t (callFunction callee rpc) := by
  unfold callFunction
  cases found : callee.function with
  | none =>
    refine .refused _ (.noFunction type found) (fun outcome => ?_) (deliverable_attributeError _ _)
    simp [calls_functionCall_iff type, found]
  | some callable =>
    have kept : ¬Refused host callee rpc t := by simp [refused_functionCall_iff type, found]
    cases callable with
    | none => exact .plain kept (by simp [calls_functionCall_iff type, found])
    | some called => exact .called called (.function called type found) (by simp [calls_functionCall_iff type, found]) kept

theorem ends_callMethod (type : rpc.type = .methodCall) : Ends host callee rpc t (callMethod callee rpc t) := by
  unfold callMethod Tables.getClassFromDb
  cases known : t.globalClassDb.get? rpc.classId with
  | none =>
    refine .refused _ (.unknownId (.inl type) known) (fun outcome => ?_) (deliverable_noClassId _)
    simp [calls_methodCall_iff type, known]
  | some instance_ =>
    by_cases same : instance_.className = rpc.className
    · cases found : callee.method with
      | none =>
        simp only [bind, Except.bind, same, ne_eq, not_true_eq_false, if_false]
        refine .refused _ (.noMethod instance_ type known same found) (fun outcome => ?_) (deliverable_attributeError _ _)
        simp [calls_methodCall_iff type, found]
      | some called =>
        simp only [bind, Except.bind, same, ne_eq, not_true_eq_false, if_false]
        refine .called called (.method called instance_ type known same found) (fun other => ?_) ?_
        · simp [calls_methodCall_iff type, known, same, found, eq_comm]
        · simp [refused_methodCall_iff type, known, same, found]
    · simp only [bind, Except.bind, ne_eq, same, not_false_eq_true, if_true]
      refine .refused _ (.mismatch instance_ type known same) (fun outcome => ?_) (deliverable_classMismatch _ _)
      simp [calls_methodCall_iff type, known, same]

theorem ends_destroyClass (type : rpc.type = .destroyClass) :
    Ends host callee rpc t (settled t (destroyClass host rpc t)).1 := by
  unfold destroyClass
  by_cases own : host.isOwnDirsvc rpc = true
  · rw [if_pos own]
    exact .plain (by simp [refused_destroyClass_iff type, own]) fun _ => not_calls_destroyClass type
  · rw [if_neg own, Bool.not_eq_true] at *
    unfold Tables.getClassFromDb
    cases known : t.globalClassDb.get? rpc.classId with
    | none =>
      exact .refused _ (.unknownId (.inr ⟨type, own⟩) known) (fun _ => not_calls_destroyClass type) (deliverable_noClassId _)
    | some instance_ => exact .plain (by simp [refused_destroyClass_iff type, known]) fun _ => not_calls_destroyClass type

theorem ends_instantiatePerConnection (type : rpc.type = .instantiateClass) (foreign : host.isOwnDirsvc rpc = false)
    (mode : callee.instanceMode = .perConnection) :
    Ends host callee rpc t (settled t (instantiatePerConnection callee rpc t)).1 := by
  unfold instantiatePerConnection Tables.getClassFromDb
  cases known : t.globalClassDb.get? rpc.classId with
  | some instance_ =>
    refine .plain ?_ fun outcome => ?_
    · simp [refused_instantiateClass_iff type, mode, known]
    · simp [calls_instantiateClass_iff type, Constructs, mode, known]
  | none =>
    have constructs : Constructs host callee rpc t := by simp [Constructs, mode, foreign, known]
    unfold Callee.instantiate
    cases found : callee.construct with
    | none =>
      refine .refused _ (.noClass type foreign found (.inr known)) (fun outcome => ?_) (deliverable_attributeError _ _)
      simp [calls_instantiateClass_iff type, found]
    | some made =>
      have kept : ¬Refused host callee rpc t := by simp [refused_instantiateClass_iff type, found]
      have only (outcome : Except Raised Value) (calls : Calls host callee rpc t outcome) :
          outcome = made.map (fun _ => emptyResult) := by
        simpa [calls_instantiateClass_iff type, found, constructs, eq_comm] using calls
      cases made with
      | error raised => exact .called _ (.constructorRaises raised type constructs found) only kept
      | ok made =>
        have fresh : ((t.create made).2.globalClassDb.get? rpc.classId).isSome = false := by
          simp [Tables.create, known]
        simp only [bind, Except.bind, Tables.addToClassDb, fresh, Bool.false_eq_true, if_false]
        exact .called _ (.constructor made type constructs found) only kept

/-- A class id that has no entry can be bound. -/
theorem bound_unless_entry (t : Tables) (classId moduleName className : String) (instance_ : Instance) :
    ∃ t', (if t.hasClassEntry classId then .ok t else t.bindSingletonAlias classId moduleName className instance_) = .ok t' := by
  unfold Tables.hasClassEntry Tables.bindSingletonAlias
  split <;> exact ⟨_, rfl⟩

theorem ends_instantiateSingleton (type : rpc.type = .instantiateClass) (foreign : host.isOwnDirsvc rpc = false)
    (mode : callee.instanceMode = .singleton) :
    Ends host callee rpc t (settled t (instantiateSingleton callee rpc t)).1 := by
  unfold instantiateSingleton
  cases found : callee.construct with
  | none =>
    refine .refused _ (.noClass type foreign found (.inl mode)) (fun outcome => ?_) (deliverable_attributeError _ _)
    simp [calls_instantiateClass_iff type, found]
  | some made =>
    have kept : ¬Refused host callee rpc t := by simp [refused_instantiateClass_iff type, found]
    simp only [Option.isNone_some, Bool.false_eq_true, if_false, bind, Except.bind, Callee.instantiate, found,
      Tables.getOrCreateSingletonInstance, pure, Except.pure]
    cases known : t.globalSingletonDb.get? (Tables.getSingletonKey rpc.module rpc.className) with
    | some instance_ =>
      obtain ⟨bound, result⟩ := bound_unless_entry t rpc.classId rpc.module rpc.className instance_
      simp only [result]
      refine .plain kept fun outcome => ?_
      simp [calls_instantiateClass_iff type, Constructs, mode, known]
    | none =>
      have constructs : Constructs host callee rpc t := by simp [Constructs, mode, foreign, known]
      have only (outcome : Except Raised Value) (calls : Calls host callee rpc t outcome) :
          outcome = made.map (fun _ => emptyResult) := by
        simpa [calls_instantiateClass_iff type, found, constructs, eq_comm] using calls
      cases made with
      | error raised => exact .called _ (.constructorRaises raised type constructs found) only kept
      | ok made =>
        obtain ⟨bound, result⟩ := bound_unless_entry { (t.create made).2 with
          globalSingletonDb := (t.create made).2.globalSingletonDb.set
            (Tables.getSingletonKey rpc.module rpc.className) (t.create made).1 } rpc.classId rpc.module rpc.className
            (t.create made).1
        simp only [result]
        exact .called _ (.constructor made type constructs found) only kept

theorem ends_instantiateClass (type : rpc.type = .instantiateClass) :
    Ends host callee rpc t (settled t (instantiateClass host callee rpc t)).1 := by
  unfold instantiateClass
  by_cases own : host.isOwnDirsvc rpc = true
  · have result : ∃ t', (if t.hasClassEntry rpc.classId then .ok t else t.addToClassDb host.dirsvc rpc.classId) = .ok t' := by
      unfold Tables.hasClassEntry Tables.addToClassDb
      split <;> exact ⟨_, rfl⟩
    obtain ⟨added, result⟩ := result
    rw [if_pos own, result]
    refine .plain ?_ fun outcome => ?_
    · simp [refused_instantiateClass_iff type, own]
    · simp [calls_instantiateClass_iff type, Constructs, own]
  · rw [if_neg own]
    rw [Bool.not_eq_true] at own
    cases mode : callee.instanceMode with
    | singleton => exact ends_instantiateSingleton type own mode
    | perConnection => exact ends_instantiatePerConnection type own mode

/-- Every dispatch of a request of a known type. -/
theorem ends_dispatch (expected : ∀ text, rpc.type ≠ .unexpected text) :
    Ends host callee rpc t (dispatch host callee rpc t).1 := by
  unfold dispatch
  cases type : rpc.type with
  | functionCall => exact ends_callFunction type
  | methodCall => exact ends_callMethod type
  | instantiateClass => exact ends_instantiateClass type
  | destroyClass => exact ends_destroyClass type
  | unexpected text => exact absurd type (expected text)

/-- Which response a request gets whose module can be imported. -/
theorem handleRpcReq_of_imported (mine : rpc.dst = host.runtimeId) (expected : ∀ text, rpc.type ≠ .unexpected text)
    (imported : callee.importModule = .ok ()) : (handleRpcReq host callee rpc t).1 =
      match (dispatch host callee rpc t).1 with
      | .ok rc => .responded (rpc.respond rc none)
      | .error raised => if raised.escapes then .raised raised else .responded (rpc.respond emptyResult raised.entry) := by
  unfold handleRpcReq
  rw [if_neg (not_not_intro mine), imported]
  split
  · exact absurd ‹_› (expected _)
  · obtain ⟨outcome, after⟩ := dispatch host callee rpc t
    cases outcome with
    | ok rc => rfl
    | error raised => exact apply_ite Prod.fst _ _ _

/-- The request gets one response, under its own uuid, that can be sent, and the
response has an exception exactly if the dispatch failed. -/
def Answered (dumps : Nat → Bool) (host : Host) (callee : Callee) (rpc : Rpc) (t : Tables) : Prop :=
  ∃ response, (handleRpcReq host callee rpc t).1 = .responded response ∧ response.reqUuid = rpc.reqUuid ∧
    response.Serialises dumps ∧ (response.exception.isSome ↔ DispatchFails host callee rpc t)

section Dispatched

variable {dumps : Nat → Bool} (expected : ∀ text, rpc.type ≠ .unexpected text) (imported : callee.importModule = .ok ())

include expected imported in
theorem dispatchFails_iff : DispatchFails host callee rpc t ↔
    Refused host callee rpc t ∨ ∃ raised, Calls host callee rpc t (.error raised) := by
  constructor
  · intro fails
    cases fails with
    | unexpected text type => exact absurd type (expected text)
    | noModule raised failed => simp [imported] at failed
    | refused refused => exact .inl refused
    | raised raised called => exact .inr ⟨raised, called⟩
  · rintro (refused | ⟨raised, called⟩)
    · exact .refused refused
    · exact .raised raised called

/-- Whether what is raised can be sent is whether it is caught, sent at all and
representable. -/
theorem deliverable_error_iff (raised : Raised) : Deliverable dumps (.error raised) ↔
    raised.escapes = false ∧ raised.entry.isSome ∧ ∀ entry ∈ raised.entry, entry.Serialises dumps := by
  cases raised with
  | defwError className truthy msg arg => cases truthy <;> simp [Deliverable, Raised.escapes, Raised.entry, ExceptionEntry.Serialises]
  | exception text => simp [Deliverable, Raised.escapes, Raised.entry, ExceptionEntry.Serialises]
  | baseException text => simp [Deliverable, Raised.escapes]

include expected imported in
/-- A dispatch that ends with a result answers if the result can be sent. -/
theorem answered_of_result (mine : rpc.dst = host.runtimeId) {rc : Value} (ended : (dispatch host callee rpc t).1 = .ok rc)
    (fine : ¬DispatchFails host callee rpc t) : Answered dumps host callee rpc t ↔ Serialises dumps rc := by
  simp [Answered, handleRpcReq_of_imported mine expected imported, ended, Rpc.respond, Response.Serialises, fine]

include expected imported in
/-- A dispatch that raises answers if what it raises can be sent. -/
theorem answered_of_raised (mine : rpc.dst = host.runtimeId) {raised : Raised}
    (ended : (dispatch host callee rpc t).1 = .error raised) (fails : DispatchFails host callee rpc t) :
    Answered dumps host callee rpc t ↔ Deliverable dumps (.error raised) := by
  rw [deliverable_error_iff]
  cases escapes : raised.escapes with
  | true => simp [Answered, handleRpcReq_of_imported mine expected imported, ended, escapes]
  | false =>
    simp [Answered, handleRpcReq_of_imported mine expected imported, ended, escapes, Rpc.respond, Response.Serialises,
      fails, serialises_emptyResult, and_comm]

end Dispatched

/-- A request for this process is answered exactly if it is of a known type, its module
can be imported, and the code that it calls ends with a result or an `Exception` that can
be sent. -/
theorem request_answered_iff (dumps : Nat → Bool) (host : Host) (callee : Callee) (rpc : Rpc) (t : Tables)
    (mine : rpc.dst = host.runtimeId) :
    Answered dumps host callee rpc t ↔ Answerable host callee rpc t dumps := by
  by_cases known : ∃ text, rpc.type = .unexpected text
  · obtain ⟨text, type⟩ := known
    have answered : ¬Answered dumps host callee rpc t := by simp [Answered, handleRpcReq, mine, type]
    exact ⟨fun h => absurd h answered, fun answerable => absurd type (answerable.expected text)⟩
  have expected : ∀ text, rpc.type ≠ .unexpected text := not_exists.mp known
  cases imported : callee.importModule with
  | error raised =>
    have answered : ¬Answered dumps host callee rpc t := by
      rintro ⟨response, responded, -⟩
      unfold handleRpcReq at responded
      rw [if_neg (not_not_intro mine), imported] at responded
      split at responded <;> simp at responded
    refine ⟨fun h => absurd h answered, fun answerable => ?_⟩
    have := answerable.imported
    simp [imported] at this
  | ok _ =>
    have answerable : Answerable host callee rpc t dumps ↔
        ∀ outcome, Calls host callee rpc t outcome → Deliverable dumps outcome :=
      ⟨Answerable.deliverable, fun deliverable => ⟨expected, imported, deliverable⟩⟩
    have fails : DispatchFails host callee rpc t ↔ _ := dispatchFails_iff expected imported
    rw [answerable]
    have ends : Ends host callee rpc t (dispatch host callee rpc t).1 := ends_dispatch expected
    generalize ended : (dispatch host callee rpc t).1 = outcome at ends
    cases ends with
    | plain kept silent =>
      have fine : ¬DispatchFails host callee rpc t := by simp [fails, kept, silent]
      rw [answered_of_result expected imported mine ended fine]
      simp [serialises_emptyResult, silent]
    | called outcome calls only kept =>
      have sole : (∀ other, Calls host callee rpc t other → Deliverable dumps other) ↔ Deliverable dumps outcome :=
        ⟨fun all => all outcome calls, fun deliverable other called => only other called ▸ deliverable⟩
      rw [sole]
      cases outcome with
      | ok rc =>
        have fine : ¬DispatchFails host callee rpc t := by
          rw [fails]
          rintro (refused | ⟨raised, called⟩)
          · exact kept refused
          · exact absurd (only _ called) (by simp)
        exact answered_of_result expected imported mine ended fine
      | error raised => exact answered_of_raised expected imported mine ended (.raised raised calls)
    | refused raised refused silent deliverable =>
      rw [answered_of_raised expected imported mine ended (.refused refused)]
      simp [deliverable, silent]

/-- A server that runs the module `svc_echo`. -/
def echoHost : Host := ⟨"server", false, ⟨0, "defw_dirsvc", "DEFwDirSvc"⟩⟩

/-- A module with one function that ends in the given way. -/
def echoModule (called : Except Raised Value) : Callee := ⟨.ok (), .singleton, some (some called), none, none⟩

def echoRequest (type : RpcType) : Rpc := ⟨"client", "server", "svc_echo", type, "Echo", "echo", "class-1", "request-1"⟩

theorem request_answered_echo : (echoRequest .functionCall).dst = echoHost.runtimeId ∧
    Answered (fun _ => false) echoHost (echoModule (.ok (.str "hello"))) (echoRequest .functionCall) .empty := by
  refine ⟨rfl, (request_answered_iff _ _ _ _ _ rfl).mpr ⟨?_, rfl, fun outcome calls => ?_⟩⟩
  · simp [echoRequest]
  · cases calls with
    | function called type found =>
      cases found
      exact serialises_str _ _
    | constructor made type => cases type
    | constructorRaises raised type => cases type
    | method called instance_ type => cases type

/-- No response is sent to a request of an unknown type or for a module that cannot be
imported, nor if the function ends the interpreter or returns an object that `yaml.dump`
refuses. The response to a function that raises a `DEFwError` that is false has no
exception. -/
theorem request_unanswered :
    (∀ dumps, ¬Answered dumps echoHost (echoModule (.ok .none)) (echoRequest (.unexpected "ping")) .empty) ∧
    (∀ dumps, ¬Answered dumps echoHost
      ⟨.error (.exception "ModuleNotFoundError: No module named 'svc_echo'"), .singleton, none, none, none⟩
      (echoRequest .functionCall) .empty) ∧
    (∀ dumps, ¬Answered dumps echoHost (echoModule (.error (.baseException "SystemExit"))) (echoRequest .functionCall) .empty) ∧
    ¬Answered (fun _ => false) echoHost (echoModule (.ok (.other 0))) (echoRequest .functionCall) .empty ∧
    ∀ dumps, ¬Answered dumps echoHost (echoModule (.error (.defwError "Quiet" false .none .none)))
      (echoRequest .functionCall) .empty := by
  have fails : DispatchFails echoHost (echoModule (.error (.defwError "Quiet" false .none .none)))
      (echoRequest .functionCall) .empty := .raised _ (.function _ rfl rfl)
  refine ⟨?_, ?_, ?_, ?_, ?_⟩
  · simp [Answered, handleRpcReq, echoRequest, echoHost]
  · simp [Answered, handleRpcReq, echoRequest, echoHost]
  · simp [Answered, handleRpcReq, echoRequest, echoHost, echoModule, dispatch, callFunction, Raised.escapes]
  · simp [Answered, handleRpcReq, echoRequest, echoHost, echoModule, dispatch, callFunction, Rpc.respond,
      Response.Serialises, Serialises, Value.All, Value.nodes]
  · intro dumps
    simp only [Answered, fails]
    simp [handleRpcReq, echoRequest, echoHost, echoModule, dispatch, callFunction, Raised.escapes, Raised.entry,
      Rpc.respond]

end DEFw.Registry
