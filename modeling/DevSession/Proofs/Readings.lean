import DevSession.Proofs.Life

/-!
# Readings of the clock

A mutation reads the clock for what it changes, then for its commit, and then for each event of the
commit. This file says which readings stand in a commit, and which ones a run has taken into what it
has stored, one after another.

* `Commit.times`, `Mutation.readings`: the times in a commit, and the readings taken for it.
* `Draft.Dated`: a draft holds the readings that were taken since it was started, in order.
* `Mutation.times_eq`: the times in a commit are the last of the readings taken for it.
* `Shared.readings`, `Recorded.run_readings`: the readings of a run are those of its history.
* `Shared.drawn`, `Recorded.run_drawn`: so are the clocks that each mutation that is done was sent
  with.
-/

namespace DevSession

/-! ## The readings of a mutation -/

/-- The times in a commit: when it was made, and when each of its events was. -/
def Commit.times (c : Commit) : List Instant :=
  c.committedAt :: c.events.map Event.timestamp

namespace Mutation

/-- How often a mutation reads the clock before its commit is started: once, for what it changes. A
note changes nothing. -/
def reads : Mutation → Nat
  | logEvent _ _ _ => 0
  | _ => 1

/-- The readings of the clock that a mutation takes for its commit, in order. -/
def readings (m : Mutation) (draw : Draw) (c : Commit) : List Instant :=
  (List.range (m.reads + c.times.length)).map draw.clock

/-- The first reading is always taken, at the latest for the commit. -/
theorem clock_mem_readings (m : Mutation) (draw : Draw) (c : Commit) :
    draw.clock 0 ∈ m.readings draw c := by
  apply List.mem_map_of_mem
  rw [List.mem_range, Commit.times, List.length_cons]
  omega

end Mutation

/-! ## Drafts -/

namespace Draft

/-- The draft holds the readings from the given one on, in order, and these are all that were
taken. -/
structure Dated (clock : Clock) (n : Nat) (d : Draft) : Prop where
  times_eq : d.commit.times = (List.range' n d.commit.times.length).map clock
  readings_eq : d.readings = n + d.commit.times.length

variable {d d' : Draft} {clock : Clock} {n : Nat}

theorem dated_start {log : EventLog} {session : Session}
    (h : Draft.start log session clock n = .ok d) : d.Dated clock n := by
  obtain ⟨seq, -, rfl⟩ := start_eq_ok_iff.1 h
  exact ⟨rfl, rfl⟩

theorem Dated.event {level : EventLevel} {source : EventSource} {message : String}
    {marker : Option EventMarker} (hd : d.Dated clock n)
    (h : d.event clock level source message marker = .ok d') : d'.Dated clock n := by
  have htimes : d'.commit.times = d.commit.times ++ [clock d.readings] ∧
      d'.readings = d.readings + 1 := by
    obtain ⟨next, -, rfl⟩ := event_eq_ok_iff.1 h
    simp [Commit.times, Commit.events, Record.event?]
  obtain ⟨htimes, hreadings⟩ := htimes
  constructor
  · rw [htimes, List.length_append, List.length_singleton, List.range'_concat, List.map_append,
      ← hd.times_eq, Nat.one_mul, hd.readings_eq, List.map_singleton]
  · rw [htimes, hreadings, hd.readings_eq, List.length_append, List.length_singleton,
      Nat.add_assoc]

theorem Dated.record {r : Record} (hd : d.Dated clock n) (hr : r.event? = none) :
    (d.record r).Dated clock n := by
  have htimes : (d.record r).commit.times = d.commit.times := by
    simp [Draft.record, Commit.times, Commit.events, hr]
  constructor
  · rw [htimes]
    exact hd.times_eq
  · rw [htimes]
    exact hd.readings_eq

/-- The clock is read once for each worker that is abandoned. -/
theorem Dated.abandon {α : Type} {status : SessionStatus} {source : α → EventSource}
    {name : α → String} {record : α → Record} (hrecord : ∀ a, (record a).event? = none)
    {workers : List α} (hd : d.Dated clock n) (h : workers.foldlM (fun d a =>
      SessionState.abandonOne clock status d (source a) (name a) (record a)) d = .ok d') :
    d'.Dated clock n := by
  induction workers generalizing d with
  | nil =>
      cases h
      exact hd
  | cons a rest ih =>
      rw [List.foldlM_cons] at h
      obtain ⟨d₁, hone, hrest⟩ := bind_eq_ok.1 h
      obtain ⟨d₂, hevent, hd₁⟩ := bind_eq_ok.1 hone
      cases pure_eq_ok.1 hd₁
      exact ih ((hd.event hevent).record (hrecord a)) hrest

end Draft

/-- The commit that ends a session is started with the second reading. -/
theorem SessionState.times_of_finish {s : SessionState} {status : SessionStatus}
    {summary : Option String} {clock : Clock} {c : Commit} {answer : Answer}
    (h : s.finish status summary clock = .ok (c, answer)) :
    c.times = (List.range' 1 c.times.length).map clock := by
  unfold finish at h
  obtain ⟨_, -, h⟩ := bind_eq_ok.1 h
  obtain ⟨d₀, hstart, h⟩ := bind_eq_ok.1 h
  obtain ⟨d₁, hcritics, h⟩ := bind_eq_ok.1 h
  obtain ⟨d₂, hreviews, h⟩ := bind_eq_ok.1 h
  obtain ⟨d₃, hend, h⟩ := bind_eq_ok.1 h
  cases h
  have hcritics := (Draft.dated_start hstart).abandon (fun _ => rfl) hcritics
  have hreviews := hcritics.abandon (fun _ => rfl) hreviews
  exact (hreviews.event hend).times_eq

/-! ## Commits -/

namespace Mutation

variable {ws : Workspace} {range : ScoreRange} {draw : Draw} {m : Mutation} {c : Commit}
  {answer : Answer}

/-- **The times in a commit are the readings behind the one for what changes**, in order. -/
theorem times_eq (h : m.propose ws range draw = .ok (c, answer)) :
    c.times = (List.range' m.reads c.times.length).map draw.clock := by
  have hp : Proposed ws range draw m c answer := Proposed.of_propose h
  cases hp with
  | start _ _ hc =>
      rw [hc]
      rfl
  | finish _ hfinish => exact SessionState.times_of_finish hfinish
  | note _ _ _ _ hc =>
      rw [hc]
      rfl
  | change _ _ _ hmakes _ _ hc =>
      have hreads : m.reads = 1 := by cases hmakes <;> rfl
      rw [hc, Commit.times, Commit.events_pair hmakes.event?_eq_none, hreads]
      rfl

theorem readings_eq (h : m.propose ws range draw = .ok (c, answer)) :
    m.readings draw c = (List.range m.reads).map draw.clock ++ c.times := by
  rw [readings, List.range_eq_range', List.range_eq_range', ← List.range'_append_1,
    List.map_append, Nat.zero_add, ← times_eq h]

end Mutation

/-- The readings that were taken for a mutation that was done. -/
def Accepted.readings (e : Accepted) : List Instant :=
  e.mutation.readings e.draw e.commit

/-- The mutation that was done, with what it drew. -/
def Accepted.drawn (e : Accepted) : Mutation × Draw :=
  (e.mutation, e.draw)

/-- The times in the commits of a history are readings that were taken for them, in order. -/
theorem History.times_sublist {es : List Accepted} (h : History es) :
    ∀ e ∈ es, e.commit.times.Sublist e.readings := by
  induction h with
  | nil =>
      intro e he
      cases he
  | @concat before e hbefore hpropose ih =>
      rw [List.forall_mem_append]
      refine ⟨ih, ?_⟩
      intro a ha
      rw [List.mem_singleton.1 ha, Accepted.readings, Mutation.readings_eq hpropose]
      exact List.sublist_append_right _ _

/-! ## Runs -/

namespace Shared

variable {sh : Shared} {es : List Accepted}

/-- The commits that an action adds to the store. -/
def added (sh : Shared) (action : Action) : List Commit :=
  match sh.store.stored, (sh.step action).store.stored with
  | .ok before, .ok after => after.drop before.length
  | _, _ => []

/-- The readings of the clock that an action takes for what it adds to the store, in order. -/
def taken (sh : Shared) : Action → List Instant
  | .call index m draw => (sh.added (.call index m draw)).flatMap (m.readings draw)
  | _ => []

/-- The readings of the clock that go into what several actions store, in order. -/
def readings (sh : Shared) : List Action → List Instant
  | [] => []
  | action :: rest => sh.taken action ++ (sh.step action).readings rest

/-- The mutation that an action sends, with what it draws, if it is done. -/
def drawn? (sh : Shared) : Action → Option (Mutation × Draw)
  | .call index m draw => (sh.done? (.call index m draw)).map fun _ => (m, draw)
  | _ => none

/-- The mutations that are done by several actions, each with what it draws, in order. -/
def drawn (sh : Shared) : List Action → List (Mutation × Draw)
  | [] => []
  | action :: rest => (sh.drawn? action).toList ++ (sh.step action).drawn rest

theorem added_of_recorded {ds : List Accepted} {action : Action} (hr : sh.Recorded es)
    (hafter : (sh.step action).Recorded (es ++ ds)) : sh.added action = ds.map Accepted.commit := by
  rw [added, hr.stored, hafter.stored, List.map_append]
  exact List.drop_left

/-- **An action takes the readings of the mutation that is done by it**, if there is one, and sends
it with its clock. -/
theorem Recorded.step_drawn (hr : sh.Recorded es) {action : Action}
    (hown : action.isForeign = false) :
    ∃ ds, (sh.step action).Recorded (es ++ ds) ∧ ds.map Accepted.said = (sh.done? action).toList ∧
      ds.flatMap Accepted.readings = sh.taken action ∧
      ds.map Accepted.drawn = (sh.drawn? action).toList := by
  cases action with
  | call index m draw =>
      cases hi : sh.handles[index]? with
      | none =>
          have hafter : (sh.step (.call index m draw)).Recorded (es ++ []) := by
            rw [step_call_of_none hi, List.append_nil]
            exact hr
          refine ⟨[], hafter, ?_, ?_, ?_⟩
          · rw [done?_call_of_none hi]
            rfl
          · rw [taken, added_of_recorded hr hafter]
            rfl
          · rw [drawn?, done?_call_of_none hi]
            rfl
      | some h =>
          cases hres : (h.run sh.store m draw).result with
          | error f =>
              have hafter : (sh.step (.call index m draw)).Recorded (es ++ []) := by
                rw [List.append_nil]
                exact hr.call_error hi hres
              refine ⟨[], hafter, ?_, ?_, ?_⟩
              · rw [done?_call_of_error hi hres]
                rfl
              · rw [taken, added_of_recorded hr hafter]
                rfl
              · rw [drawn?, done?_call_of_error hi hres]
                rfl
          | ok a =>
              obtain ⟨c, -, hafter⟩ := hr.call_ok hi hres
              refine ⟨_, hafter, ?_, ?_, ?_⟩
              · rw [done?_call_of_ok hi hres]
                rfl
              · rw [taken, added_of_recorded hr hafter]
                rfl
              · rw [drawn?, done?_call_of_ok hi hres]
                rfl
  | join range =>
      rcases hr.step hown with ⟨-, hafter⟩ | ⟨e, hdone, -⟩
      · exact ⟨[], by rwa [List.append_nil], rfl, rfl, rfl⟩
      · cases hdone
  | write c => cases hown
  | outage outage =>
      rcases hr.step hown with ⟨-, hafter⟩ | ⟨e, hdone, -⟩
      · exact ⟨[], by rwa [List.append_nil], rfl, rfl, rfl⟩
      · cases hdone

/-- **The readings of a run, and the clocks that mutations are sent with, are those of what is done
in it.** -/
theorem Recorded.run_drawn (hr : sh.Recorded es) {actions : List Action}
    (hown : ∀ action ∈ actions, action.isForeign = false) :
    ∃ ds, (sh.run actions).Recorded (es ++ ds) ∧ ds.map Accepted.said = sh.done actions ∧
      ds.flatMap Accepted.readings = sh.readings actions ∧
      ds.map Accepted.drawn = sh.drawn actions := by
  induction actions generalizing sh es with
  | nil =>
      refine ⟨[], ?_, rfl, rfl, rfl⟩
      rw [List.append_nil]
      exact hr
  | cons action rest ih =>
      rw [List.forall_mem_cons] at hown
      obtain ⟨ds, hstep, hsaid, htaken, hdrawn⟩ := hr.step_drawn hown.1
      obtain ⟨ds', hrun, hsaid', htaken', hdrawn'⟩ := ih hstep hown.2
      refine ⟨ds ++ ds', ?_, ?_, ?_, ?_⟩
      · rw [← List.append_assoc]
        exact hrun
      · rw [List.map_append, hsaid, hsaid', done]
      · rw [List.flatMap_append, htaken, htaken', readings]
      · rw [List.map_append, hdrawn, hdrawn', drawn]

theorem Recorded.run_readings (hr : sh.Recorded es) {actions : List Action}
    (hown : ∀ action ∈ actions, action.isForeign = false) :
    ∃ ds, (sh.run actions).Recorded (es ++ ds) ∧ ds.map Accepted.said = sh.done actions ∧
      ds.flatMap Accepted.readings = sh.readings actions := by
  obtain ⟨ds, hrun, hsaid, hreadings, -⟩ := hr.run_drawn hown
  exact ⟨ds, hrun, hsaid, hreadings⟩

end Shared

end DevSession
