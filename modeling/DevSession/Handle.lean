import DevSession.Mutation
import DevSession.Store

/-!
# Handles

A handle (`Engine`) is one writer's view of a store. Before it does anything it catches up with what
other writers have stored; then it checks the request, stores one commit, and only then takes that
commit into its own view. Whatever goes wrong before leaves the store as it was.

* `Handle`: a view of a store.
* `Handle.openOn`: a view of everything a store holds.
* `Handle.run`: a mutation; its `Outcome` says what the caller is told, what is stored, what the
  handle sees, and which events it passes on.
-/

namespace DevSession

/-- One writer's view of a store: an `Engine`, with the part of its options that mutations use. -/
structure Handle where
  workspace : Workspace := {}
  /-- The scores that reviews can give. -/
  range : ScoreRange := {}

/-- What comes of a mutation. -/
structure Outcome where
  result : Except Fault Answer
  store : Store
  handle : Handle
  /-- The events that the handle passes on to those who listen. -/
  sent : List Event

namespace Handle

/-- A handle that sees everything a store holds, if it can be held and read, and the store after it:
`Engine::open`. -/
def openOn (store : Store) (range : ScoreRange) : Except Fault Handle × Store :=
  match store.lock with
  | (.error f, store) => (.error f, store)
  | (.ok (), held) => (held.load.map fun commits => ⟨.replay commits, range⟩, held)

/-- The check, the commit and the answer of a mutation, once the handle has caught up; the commit is
stored and taken in as `Engine::persist` does it. -/
def settle (h : Handle) (store : Store) (m : Mutation) (draw : Draw) (caught : List Event) :
    Outcome :=
  match m.propose h.workspace h.range draw with
  | .error f => ⟨.error f, store, h, caught⟩
  | .ok (c, answer) =>
    match store.commit c with
    | (.error f, store) => ⟨.error f, store, h, caught⟩
    | (.ok (), stored) =>
      let folded := h.workspace.fold c
      ⟨.ok answer, stored, { h with workspace := folded.1 }, caught ++ folded.2⟩

/-- The handle with commits of other writers taken in, and the events that they add. -/
def catchUp (h : Handle) (newer : List Commit) : Handle × List Event :=
  let folded := h.workspace.foldAll newer
  ({ h with workspace := folded.1 }, folded.2)

/-- A mutation: refuse what needs no look at the store, hold the store and catch up
(`Engine::write`), and settle. -/
def run (h : Handle) (store : Store) (m : Mutation) (draw : Draw) : Outcome :=
  match m.precheck h.range with
  | .error f => ⟨.error f, store, h, []⟩
  | .ok () =>
    match store.lock with
    | (.error f, store) => ⟨.error f, store, h, []⟩
    | (.ok (), held) =>
      match held.loadSince h.workspace.seen with
      | .error f => ⟨.error f, held, h, []⟩
      | .ok newer =>
        let caught := h.catchUp newer
        caught.1.settle held m draw caught.2

end Handle

end DevSession
