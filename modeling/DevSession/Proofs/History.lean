import DevSession.Proofs.Shared
import DevSession.Proofs.TaskGraph.Commits
import Mathlib.Data.List.Permutation

/-!
# What handles store

When only handles write to a store, each stored commit was proposed by a mutation in the light of
the commits before it. A `History` is a list of such mutations with all that they drew and came to.
Every property that one proposal keeps therefore holds after every run from an empty store; the
first of them is the safety of the task graphs.

* `Accepted`, `History`: mutations that were done, each in the light of those before it.
* `Recorded.step`, `Recorded.run_checked`, `Recorded.run_done`: what handles store is the history of
  what they have done.
* `History.sound`: the task graphs of a history are sound.
* `tasks_safe`: no run brings a task ahead of what it depends on.
-/

namespace DevSession

/-- A mutation that was done: who could send it, what it drew, what it stored, and its answer. -/
structure Accepted where
  mutation : Mutation
  range : ScoreRange
  draw : Draw
  commit : Commit
  answer : Answer

/-- A mutation with its answer. -/
def Accepted.said (e : Accepted) : Mutation × Answer :=
  (e.mutation, e.answer)

/-- Mutations that were done one after another, each in the light of all before it. -/
inductive History : List Accepted → Prop
  | nil : History []
  | concat {before : List Accepted} {e : Accepted} (hbefore : History before)
      (hpropose : e.mutation.propose (.replay (before.map Accepted.commit)) e.range e.draw
        = .ok (e.commit, e.answer)) : History (before ++ [e])

namespace History

variable {es : List Accepted}

/-- A first part of a history is a history. -/
theorem take (h : History es) (n : Nat) : History (es.take n) := by
  induction h with
  | nil => rw [List.take_nil]; exact .nil
  | @concat before e hbefore hpropose ih =>
      rcases Nat.lt_or_ge before.length n with hn | hn
      · rw [List.take_of_length_le (by simp; omega)]
        exact .concat hbefore hpropose
      · rw [List.take_append_of_le_length hn]
        exact ih

/-- **The task graphs of a history are sound.** -/
theorem sound (h : History es) :
    ∀ s ∈ (Workspace.replay (es.map Accepted.commit)).sessions, s.tasks.Sound := by
  induction h with
  | nil => intro s hs; exact absurd hs List.not_mem_nil
  | @concat before e hbefore hpropose ih =>
      rw [List.map_append, List.map_singleton, Workspace.replay_concat]
      exact (Proposed.of_propose hpropose).sound_apply ih

end History

namespace Shared

variable {sh : Shared}

/-- Whether an action is the work of another writer. -/
def Action.isForeign : Action → Bool
  | .write _ => true
  | _ => false

/-- The store holds a history, and every handle follows it. -/
structure Recorded (sh : Shared) (es : List Accepted) : Prop where
  coherent : sh.Coherent
  history : History es
  stored : sh.store.stored = .ok (es.map Accepted.commit)

/-- A mutation that is done was proposed in the light of the history, and adds to it. -/
theorem Recorded.call_ok {es : List Accepted} (hr : sh.Recorded es) {index : Nat} {h : Handle}
    (hi : sh.handles[index]? = some h) {m : Mutation} {draw : Draw} {a : Answer}
    (ha : (h.run sh.store m draw).result = .ok a) :
    ∃ c, m.propose (.replay (es.map Accepted.commit)) h.range draw = .ok (c, a) ∧
      (sh.step (.call index m draw)).Recorded (es ++ [⟨m, h.range, draw, c, a⟩]) := by
  have hco := coherent_step hr.coherent (.call index m draw)
  have hran := hr.coherent.ran hi m draw
  obtain ⟨cs, c, hread, hpropose, hafter, -, -⟩ := hran.taken_of_ok hr.coherent.whole ha
  have hcs : es.map Accepted.commit = cs := Except.ok.inj (hr.stored.symm.trans hread)
  subst hcs
  refine ⟨c, hpropose, hco, .concat hr.history hpropose, ?_⟩
  rw [step_call_of_some hi, List.map_append]
  exact hafter

/-- A mutation that is refused leaves the history as it is. -/
theorem Recorded.call_error {es : List Accepted} (hr : sh.Recorded es) {index : Nat} {h : Handle}
    (hi : sh.handles[index]? = some h) {m : Mutation} {draw : Draw} {f : Fault}
    (hf : (h.run sh.store m draw).result = .error f) :
    (sh.step (.call index m draw)).Recorded es := by
  have hco := coherent_step hr.coherent (.call index m draw)
  have hsame := (hr.coherent.ran hi m draw).stored_of_error hf
  refine ⟨hco, hr.history, ?_⟩
  rw [step_call_of_some hi]
  exact hsame.trans hr.stored

/-- **An action adds the mutation to the history that is done by it**, if there is one. It was sent
through a handle and passed its checks. -/
theorem Recorded.step {es : List Accepted} (hr : sh.Recorded es) {action : Action}
    (hown : action.isForeign = false) :
    (sh.done? action = none ∧ (sh.step action).Recorded es) ∨
      ∃ e : Accepted, sh.done? action = some e.said ∧ (sh.step action).Recorded (es ++ [e]) ∧
        ∃ h ∈ sh.handles, e.range = h.range ∧ e.mutation.precheck h.range = .ok () := by
  have hco := coherent_step hr.coherent action
  cases action with
  | join range =>
      refine .inl ⟨rfl, hco, hr.history, ?_⟩
      show (Handle.openOn sh.store range).2.stored = _
      rw [Handle.openOn_snd, Store.stored_lock]
      exact hr.stored
  | call index m draw =>
      cases hi : sh.handles[index]? with
      | none =>
          rw [step_call_of_none hi]
          exact .inl ⟨done?_call_of_none hi, hr⟩
      | some h =>
          cases hres : (h.run sh.store m draw).result with
          | error f => exact .inl ⟨done?_call_of_error hi hres, hr.call_error hi hres⟩
          | ok a =>
              obtain ⟨c, -, hafter⟩ := hr.call_ok hi hres
              exact .inr ⟨⟨m, h.range, draw, c, a⟩, done?_call_of_ok hi hres, hafter, h,
                List.mem_of_getElem? hi, rfl, Handle.precheck_of_ok hres⟩
  | write c => cases hown
  | outage outage =>
      exact .inl ⟨rfl, hco, hr.history,
        (Store.stored_setOutage sh.store outage).trans hr.stored⟩

/-- **What handles store is the history of what is done through them.** Every mutation in it passed
its checks, under a range that a handle was opened with. -/
theorem Recorded.run_checked {P : ScoreRange → Prop} {es : List Accepted} (hr : sh.Recorded es)
    {actions : List Action} (hown : ∀ action ∈ actions, action.isForeign = false)
    (hopen : ∀ h ∈ sh.handles, P h.range) (hjoin : ∀ range, .join range ∈ actions → P range) :
    ∃ ds, (sh.run actions).Recorded (es ++ ds) ∧ ds.map Accepted.said = sh.done actions ∧
      ∀ e ∈ ds, P e.range ∧ e.mutation.precheck e.range = .ok () := by
  induction actions generalizing sh es with
  | nil => exact ⟨[], (List.append_nil es).symm ▸ hr, rfl, fun _ he => absurd he List.not_mem_nil⟩
  | cons action rest ih =>
      have hrest := fun a ha => hown a (List.mem_cons_of_mem action ha)
      have hranges : ∀ h ∈ (sh.step action).handles, P h.range :=
        fun h hh => by
          rcases hr.coherent.attuned.range_step action hh with ⟨g, hg, heq⟩ | rfl
          · rw [heq]
            exact hopen g hg
          · exact hjoin _ List.mem_cons_self
      have hlater := fun range hrange => hjoin range (List.mem_cons_of_mem action hrange)
      rcases hr.step (hown action List.mem_cons_self) with
        ⟨hnone, hr⟩ | ⟨e, hsome, hr, h, hh, hrange, hchecked⟩
      · obtain ⟨ds, hds, hsaid, hall⟩ := ih hr hrest hranges hlater
        refine ⟨ds, hds, ?_, hall⟩
        rw [done, hnone, hsaid]
        rfl
      · obtain ⟨ds, hds, hsaid, hall⟩ := ih hr hrest hranges hlater
        refine ⟨e :: ds, by rwa [List.append_assoc] at hds, ?_, ?_⟩
        · rw [done, hsome, List.map_cons, hsaid]
          rfl
        · rw [List.forall_mem_cons]
          exact ⟨⟨hrange ▸ hopen h hh, hrange ▸ hchecked⟩, hall⟩

theorem Recorded.run_done {es : List Accepted} (hr : sh.Recorded es) {actions : List Action}
    (hown : ∀ action ∈ actions, action.isForeign = false) :
    ∃ ds, (sh.run actions).Recorded (es ++ ds) ∧ ds.map Accepted.said = sh.done actions := by
  obtain ⟨ds, hds, hsaid, -⟩ := hr.run_checked (P := fun _ => True) hown (fun _ _ => trivial)
    fun _ _ => trivial
  exact ⟨ds, hds, hsaid⟩

/-- What handles store is a history. -/
theorem Recorded.run {es : List Accepted} (hr : sh.Recorded es) {actions : List Action}
    (hown : ∀ action ∈ actions, action.isForeign = false) :
    ∃ ds, (sh.run actions).Recorded (es ++ ds) := by
  obtain ⟨ds, hds, -⟩ := hr.run_done hown
  exact ⟨ds, hds⟩

/-- **A run of handles on an empty store.** Any number of handles are opened and sent any mutations,
there may be outages, and nobody else stores commits. A store that is a journal has no unfinished
line at the start. -/
structure OwnRun (store : Store) (actions : List Action) : Prop where
  whole : store.Whole
  empty : store.stored = .ok []
  own : ∀ action ∈ actions, action.isForeign = false

/-- A store without commits holds the empty history. -/
theorem OwnRun.starts {store : Store} {actions : List Action} (hrun : OwnRun store actions) :
    Recorded ⟨store, []⟩ [] :=
  ⟨coherent_new hrun.whole, .nil, hrun.empty⟩

theorem ownRun_empty {actions : List Action}
    (hown : ∀ action ∈ actions, action.isForeign = false) : OwnRun .empty actions :=
  ⟨trivial, rfl, hown⟩

theorem OwnRun.recorded {store : Store} {actions : List Action} (hrun : OwnRun store actions) :
    ∃ es, (run ⟨store, []⟩ actions).Recorded es :=
  hrun.starts.run hrun.own

/-- What a handle shows is a first part of the history. -/
theorem Recorded.workspace_eq {es : List Accepted} (hr : sh.Recorded es) {h : Handle}
    (hh : h ∈ sh.handles) :
    h.workspace = .replay ((es.take h.workspace.seen).map Accepted.commit) := by
  rw [List.map_take]
  exact (hr.coherent.follows_of_mem hh _ hr.stored).workspace_eq

theorem Recorded.exists_workspace_eq {es : List Accepted} (hr : sh.Recorded es) {h : Handle}
    (hh : h ∈ sh.handles) : ∃ n, h.workspace = .replay ((es.map Accepted.commit).take n) :=
  ⟨_, (hr.coherent.follows_of_mem hh _ hr.stored).workspace_eq⟩

/-- A handle that has seen as many commits as there are shows all of them. -/
theorem Recorded.workspace_eq_of_le {es : List Accepted} (hr : sh.Recorded es) {h : Handle}
    (hh : h ∈ sh.handles) (hseen : es.length ≤ h.workspace.seen) :
    h.workspace = .replay (es.map Accepted.commit) := by
  have heq := hr.workspace_eq hh
  rwa [List.take_of_length_le hseen] at heq

/-- **No run brings a task ahead of what it depends on.** Take any run of handles on an empty store.
In every session that a handle shows, and in every session that is stored, dependencies exist and
are listed once, no task reaches itself, the status says how far the phase is, and everything that a
started task reaches is done. -/
theorem tasks_safe (store : Store) (actions : List Action) (hrun : OwnRun store actions) :
    (∀ h ∈ (run ⟨store, []⟩ actions).handles, ∀ s ∈ h.workspace.sessions, s.tasks.Safe) ∧
      ∃ cs, (run ⟨store, []⟩ actions).store.stored = .ok cs ∧
        ∀ s ∈ (Workspace.replay cs).sessions, s.tasks.Safe := by
  obtain ⟨es, hr⟩ := hrun.recorded
  refine ⟨fun h hh s hs => ?_, _, hr.stored, fun s hs => (hr.history.sound s hs).safe⟩
  rw [hr.workspace_eq hh] at hs
  exact ((hr.history.take _).sound s hs).safe

/-- A run that opens two handles on an empty store goes on with both of them. -/
theorem run_join_join (rest : List Action) :
    run ⟨.empty, []⟩ (.join {} :: .join {} :: rest) = run ⟨.empty, [{}, {}]⟩ rest :=
  rfl

theorem done_join_join (rest : List Action) :
    done ⟨.empty, []⟩ (.join {} :: .join {} :: rest) = done ⟨.empty, [{}, {}]⟩ rest :=
  rfl

/-- Two handles take turns in a session that lets phases be skipped. The second task needs the first
one, and cannot be started before that one is done. -/
def turns : List Action :=
  [.call 0 (.start "change" { tddEnforced := false }) ⟨fun _ => default, "a"⟩,
    .call 1 (.createTask ⟨"20000101-000000-a"⟩ "parser" "" []) ⟨fun _ => default, ""⟩,
    .call 0 (.createTask ⟨"20000101-000000-a"⟩ "printer" "" [⟨1⟩]) ⟨fun _ => default, ""⟩,
    .call 1 (.startTask ⟨"20000101-000000-a"⟩ ⟨2⟩) ⟨fun _ => default, ""⟩,
    .call 1 (.setPhase ⟨"20000101-000000-a"⟩ ⟨1⟩ .done) ⟨fun _ => default, ""⟩,
    .call 0 (.startTask ⟨"20000101-000000-a"⟩ ⟨2⟩) ⟨fun _ => default, ""⟩]

theorem done_turns : done ⟨.empty, [{}, {}]⟩ turns =
    [(.start "change" { tddEnforced := false }, .session ⟨"20000101-000000-a"⟩),
      (.createTask ⟨"20000101-000000-a"⟩ "parser" "" [], .task ⟨1⟩),
      (.createTask ⟨"20000101-000000-a"⟩ "printer" "" [⟨1⟩], .task ⟨2⟩),
      (.setPhase ⟨"20000101-000000-a"⟩ ⟨1⟩ .done, .nothing),
      (.startTask ⟨"20000101-000000-a"⟩ ⟨2⟩, .nothing)] := by
  cbv

theorem tasks_safe_turns :
    OwnRun .empty (.join {} :: .join {} :: turns) ∧
      ∃ h ∈ (run ⟨.empty, []⟩ (.join {} :: .join {} :: turns)).handles,
        ∃ s ∈ h.workspace.sessions,
          s.tasks.tasks.entries.map Task.status = [.done, .inProgress] ∧ s.tasks.Safe := by
  have hrun : OwnRun .empty (.join {} :: .join {} :: turns) := ownRun_empty (by decide)
  have hstatus : (run ⟨.empty, [{}, {}]⟩ turns).handles[0]?.bind (fun h =>
      h.workspace.sessions[0]?.map fun s => s.tasks.tasks.entries.map Task.status)
        = some [.done, .inProgress] := by cbv
  rw [← run_join_join] at hstatus
  obtain ⟨h, hh, hs⟩ := Option.bind_eq_some_iff.1 hstatus
  obtain ⟨s, hs, hstatus⟩ := Option.map_eq_some_iff.1 hs
  have hh := List.mem_of_getElem? hh
  have hs := List.mem_of_getElem? hs
  exact ⟨hrun, h, hh, s, hs, hstatus, (tasks_safe .empty _ hrun).1 h hh s hs⟩

end Shared

end DevSession
