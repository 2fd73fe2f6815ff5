import DevSession.Mutation

/-!
# Commands

What can be asked for on a command line. The words of a command are kept as they were given where
the workspace decides what they mean.

* `Command`: a command with its arguments.
* `Invocation`: a command with what holds for every command.
-/

namespace DevSession

/-- A command with its arguments. -/
inductive Command where
  | init (force : Bool)
  | sessionStart (request : String) (concurrency : Option UInt64) (noTdd noQa : Bool)
      (threshold : Option UInt8)
  | sessionStatus
  | sessionEnd (status : String) (summary : Option String)
  | sessionList (count : Nat)
  | sessionTimeline
  | planLog (overview : String) (components files : List String)
  | planShow (history : Bool)
  | criticSpawn (kind name : String)
  | criticReport (id findings : String) (issues : IssueCounts) (timedOut : Bool)
  | criticSynthesize (narrative : String)
  | criticList
  | taskCreate (name description : String) (dependsOn : List String)
  | taskStart (id : String)
  | taskPhase (id phase : String)
  | taskReopen (id reason : String)
  | taskDepend (id on : String)
  | taskGraph
  | qaSpawn (name : String) (override : Bool)
  | qaReport (id : String) (score : UInt8) (passed : Bool) (notes : String)
  | qaList
  | eventLog (message level : String)
  | eventList (count : Option Nat) (minLevel : Option String)
  deriving DecidableEq

/-- A command with what holds for every command. -/
structure Invocation where
  /-- Answers are for programs, not for people. -/
  json : Bool
  /-- The session that is meant; otherwise the one that started last. -/
  session : Option String
  /-- Where the workspace is. -/
  root : String
  command : Command
  deriving DecidableEq

end DevSession
