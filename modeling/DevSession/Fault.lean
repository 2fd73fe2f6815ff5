/-!
# Faults

Why a request is refused. A fault has a kind, which programs look at, and a message, which people
read. Running out of numbers for a counter is a fault of its own, outside the kinds.

* `Fault` (`ConductorError`): the reasons for which a request fails.
* `Fault.message`: the text of a fault.
* `Counter`: counting up without wrapping round.
-/

namespace DevSession

/-- What a request can name. -/
inductive Entity where
  | session
  | plan
  | critic
  | review
  | task
  deriving Repr, DecidableEq

/-- The name of an entity in messages. -/
def Entity.name : Entity → String
  | .session => "Session"
  | .plan => "Plan"
  | .critic => "Critic"
  | .review => "QA review"
  | .task => "Task"

/-- Why a request is refused. -/
inductive Fault where
  /-- What was named does not exist. -/
  | notFound (entity : Entity) (id : String)
  | conflict (reason : String)
  | invalidTransition (reason : String)
  /-- A task waits for others that are not done. -/
  | blocked (task : String) (blockers : String)
  | cycle (reason : String)
  | exhausted (reason : String)
  | alreadyReported (entity : Entity) (id : String)
  | inconsistentScore (reason : String)
  | invalidArgument (reason : String)
  /-- The settings file cannot be used. -/
  | settings (reason : String)
  | storage (reason : String)
  /-- A counter has no next number. -/
  | overflow
  deriving Repr, DecidableEq

namespace Fault

/-- The stable name of a fault's kind. -/
def kind : Fault → String
  | notFound _ _ => "not_found"
  | conflict _ => "conflict"
  | invalidTransition _ => "invalid_transition"
  | blocked _ _ => "dependency_not_satisfied"
  | cycle _ => "cycle"
  | exhausted _ => "resource_exhausted"
  | alreadyReported _ _ => "already_reported"
  | inconsistentScore _ => "inconsistent_score"
  | invalidArgument _ => "invalid_argument"
  | settings _ => "config"
  | storage _ => "storage"
  | overflow => "overflow"

/-- The text of a fault. -/
def message : Fault → String
  | notFound entity id => entity.name ++ " not found: " ++ id
  | conflict reason => "Conflict: " ++ reason
  | invalidTransition reason => "Invalid transition: " ++ reason
  | blocked task blockers =>
    "Dependency not satisfied: task " ++ task ++ " is blocked by " ++ blockers
  | cycle reason => "Dependency cycle: " ++ reason
  | exhausted reason => "Resource exhausted: " ++ reason
  | alreadyReported entity id => entity.name ++ " " ++ id ++ " already reported"
  | inconsistentScore reason => "Inconsistent score: " ++ reason
  | invalidArgument reason => "Invalid argument: " ++ reason
  | settings reason => "Configuration error: " ++ reason
  | storage reason => "Storage error: " ++ reason
  | overflow => "attempt to add with overflow"

end Fault

/-! ## Counters -/

namespace Counter

/-- The sum of two counts, if it has a number. -/
def add32 (a b : UInt32) : Except Fault UInt32 :=
  if a.toNat + b.toNat < UInt32.size then .ok (a + b) else .error .overflow

/-- The number after `n`, if there is one. -/
def next32 (n : UInt32) : Except Fault UInt32 :=
  add32 n 1

/-- The number after `n`, if there is one. -/
def next64 (n : UInt64) : Except Fault UInt64 :=
  if n.toNat + 1 < UInt64.size then .ok (n + 1) else .error .overflow

end Counter

end DevSession
