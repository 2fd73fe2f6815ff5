import DevSession.Proofs.Shared

/-!
# Delivery of events

A handle passes events on in two ways: those of other writers when it catches up, also for a
mutation that is then rejected, and its own behind them when its commit is taken. Together the two
pass on every event of every commit that was stored since the handle was opened, once and in order.

* `Handle.Delivered`: a handle has passed on what it has seen since the start, and nothing else.
* `Shared.passedOn`: the events that a handle passes on in a run.
* `events_delivered_once`: they are those of the commits from the start to what it has seen.
-/

namespace DevSession

namespace Handle

variable {h : Handle} {s t : Store} {start : Nat} {sent : List Event}

/-! ## What a handle has passed on -/

/-- The handle keeps up with the store, and has passed on the events of the commits behind the first
`start` up to those it has seen, and no others. -/
structure Delivered (h : Handle) (s : Store) (start : Nat) (sent : List Event) : Prop
    extends h.Tracks s where
  start_le : start ≤ h.workspace.seen
  sent_eq : ∀ cs, s.stored = .ok cs →
    sent = ((cs.take h.workspace.seen).drop start).flatMap Commit.events

/-- A handle that was just opened has passed on nothing. -/
theorem delivered_open {range : ScoreRange} {cs : List Commit} (hs : s.stored = .ok cs) :
    Delivered ⟨.replay cs, range⟩ s cs.length [] := by
  refine ⟨tracks_open hs, ?_, ?_⟩
  · exact Nat.le_of_eq (Workspace.seen_replay cs).symm
  · intro ds hds
    rw [hs] at hds
    cases hds
    simp

/-- What others do to the store leaves it true: they only put commits behind what the handle has
seen. -/
theorem Delivered.evolve (hd : h.Delivered s start sent) (ht : s.Evolves t) :
    h.Delivered t start sent := by
  refine ⟨hd.toTracks.evolve ht, hd.start_le, ?_⟩
  intro ds hds
  obtain ⟨cs, hcs, more, rfl⟩ := ht.goes_on hd.settled hds
  rw [hd.sent_eq cs hcs, List.take_append_of_le_length (hd.follows cs hcs).seen_le]

/-- What has been passed on and what was missed are together the events of all commits behind the
first `start`. -/
theorem Delivered.append_missed (hd : h.Delivered s start sent) {cs : List Commit}
    (hs : s.stored = .ok cs) : sent ++ h.missed cs = (cs.drop start).flatMap Commit.events := by
  have hsplit : cs.drop start
      = (cs.take h.workspace.seen).drop start ++ cs.drop h.workspace.seen := by
    have hle : start ≤ (cs.take h.workspace.seen).length := by
      have := (hd.follows cs hs).seen_le
      have := hd.start_le
      simp only [List.length_take]
      omega
    rw [← List.drop_append_of_le_length hle, List.take_append_drop]
  rw [hd.sent_eq cs hs, missed, hsplit, List.flatMap_append]

/-- A handle that shows everything stored has passed on all of it. -/
theorem delivered_all {range : ScoreRange} {cs : List Commit} (hsettled : s.Settled)
    (hreads : ∀ ds, s.stored = .ok ds → ds = cs) (hle : start ≤ cs.length)
    (hsent : sent = (cs.drop start).flatMap Commit.events) :
    Delivered ⟨.replay cs, range⟩ s start sent := by
  refine ⟨tracks_of_reads hsettled hreads, ?_, ?_⟩
  · rw [Workspace.seen_replay]
    exact hle
  · intro ds hds
    obtain rfl := hreads ds hds
    rw [Workspace.seen_replay, List.take_length, hsent]

/-- **A mutation of the handle itself keeps it true**, whichever way it goes. -/
theorem Delivered.run (hd : h.Delivered s start sent) (m : Mutation) (draw : Draw) :
    (h.run s m draw).handle.Delivered (h.run s m draw).store start
      (sent ++ (h.run s m draw).sent) := by
  have hevolves := h.evolves_run s m draw
  have hr : h.Ran s m draw (h.run s m draw) := ran_run m draw hd.follows
  generalize h.run s m draw = o at hevolves hr
  have hsettled := hevolves.settled hd.settled
  cases hres : o.result with
  | error f =>
      rcases hr.handle_of_error hres with ⟨hsame, hnone⟩ | ⟨cs, hread, hhandle, hsent⟩
      · -- the handle has not moved
        rw [hsame, hnone, List.append_nil]
        exact hd.evolve hevolves
      · have hle := Nat.le_trans hd.start_le (hd.follows cs hread).seen_le
        rw [hhandle, hsent]
        refine delivered_all hsettled (fun ds hds => ?_) hle (hd.append_missed hread)
        rw [hr.stored_of_error hres, hread] at hds
        exact (Except.ok.inj hds).symm
  | ok a =>
      obtain ⟨cs, c, hread, -, hcommit, hhandle, hsent⟩ := hr.committed_of_ok hres
      have hle := Nat.le_trans hd.start_le (hd.follows cs hread).seen_le
      rw [hhandle, hsent]
      refine delivered_all hsettled (fun ds hds => Store.stored_of_taken hread hcommit hds) ?_ ?_
      · rw [List.length_append]
        omega
      · -- first what was missed, and behind it the events of the new commit
        rw [← List.append_assoc, hd.append_missed hread, List.drop_append_of_le_length hle,
          List.flatMap_append]
        simp

end Handle

/-! ## Runs -/

namespace Shared

/-- The events that the handle at a place passes on when something is done. -/
def passOn (sh : Shared) (place : Nat) : Action → List Event
  | .call index m draw =>
    if index = place then
      match sh.handles[index]? with
      | some h => (h.run sh.store m draw).sent
      | none => []
    else []
  | _ => []

/-- The events that the handle at a place passes on in the course of several actions, in order. -/
def passedOn (sh : Shared) (place : Nat) : List Action → List Event
  | [] => []
  | action :: rest => sh.passOn place action ++ (sh.step action).passedOn place rest

variable {sh : Shared} {place start : Nat} {h : Handle} {sent : List Event}

/-- **Every action keeps it true of every handle.** -/
theorem delivered_step (hplace : sh.handles[place]? = some h)
    (hd : h.Delivered sh.store start sent) (action : Action) :
    ∃ h', (sh.step action).handles[place]? = some h' ∧
      h'.Delivered (sh.step action).store start (sent ++ sh.passOn place action) := by
  have hevolves := sh.evolves_step action
  have hlt : place < sh.handles.length := (List.getElem?_eq_some_iff.1 hplace).1
  cases action with
  | join range =>
      simp only [passOn, List.append_nil]
      refine ⟨h, ?_, hd.evolve hevolves⟩
      rw [step, List.getElem?_append_left hlt]
      exact hplace
  | write c =>
      simp only [passOn, List.append_nil]
      exact ⟨h, hplace, hd.evolve hevolves⟩
  | outage outage =>
      simp only [passOn, List.append_nil]
      exact ⟨h, hplace, hd.evolve hevolves⟩
  | call index m draw =>
      by_cases hindex : index = place
      · subst hindex
        rw [step_call_of_some hplace]
        simp only [passOn, hplace, if_true]
        exact ⟨_, List.getElem?_set_self hlt, hd.run m draw⟩
      · simp only [passOn, if_neg hindex, List.append_nil]
        refine ⟨h, ?_, hd.evolve hevolves⟩
        cases hi : sh.handles[index]? with
        | none => rwa [step_call_of_none hi]
        | some g =>
            rw [step_call_of_some hi, List.getElem?_set_ne hindex]
            exact hplace

theorem delivered_run (hplace : sh.handles[place]? = some h)
    (hd : h.Delivered sh.store start sent) (actions : List Action) :
    ∃ h', (sh.run actions).handles[place]? = some h' ∧
      h'.Delivered (sh.run actions).store start (sent ++ sh.passedOn place actions) := by
  induction actions generalizing sh h sent with
  | nil =>
      rw [passedOn, List.append_nil]
      exact ⟨h, hplace, hd⟩
  | cons action rest ih =>
      obtain ⟨h', hplace', hd'⟩ := delivered_step hplace hd action
      rw [passedOn, ← List.append_assoc]
      exact ih hplace' hd'

/-- **Events are delivered once and in order.** Whatever a store and its handles are, open one more
handle, and let all of them and other writers go on as they like. What the new handle has passed on
by then are the events of the stored commits, one after the other, from those that were there when
it was opened to the last one it has seen. Only a journal with an unfinished line can become
unreadable on the way. -/
theorem events_delivered_once (sh : Shared) (range : ScoreRange) (opened : Handle)
    (hopen : (Handle.openOn sh.store range).1 = .ok opened) (actions : List Action) :
    ∃ before h, sh.store.stored = .ok before ∧
      (sh.run (.join range :: actions)).handles[sh.handles.length]? = some h ∧
      (∀ after, (sh.run (.join range :: actions)).store.stored = .ok after →
        before <+: after ∧ before.length ≤ h.workspace.seen ∧ h.workspace.seen ≤ after.length ∧
        sh.passedOn sh.handles.length (.join range :: actions)
          = ((after.take h.workspace.seen).drop before.length).flatMap Commit.events) ∧
      (sh.store.Whole → ∃ after, (sh.run (.join range :: actions)).store.stored = .ok after) := by
  obtain ⟨-, before, hbefore, rfl⟩ := Handle.openOn_eq_ok.1 hopen
  have hplace : (sh.step (.join range)).handles[sh.handles.length]?
      = some ⟨.replay before, range⟩ := by
    rw [step_join_of_ok hopen]
    simp
  have hread : (sh.step (.join range)).store.stored = .ok before := by
    rw [step_join_of_ok hopen, Store.stored_lock, hbefore]
  obtain ⟨h, hh, hd⟩ := delivered_run hplace (Handle.delivered_open hread) actions
  have hevolves := sh.evolves_run (.join range :: actions)
  refine ⟨before, h, hbefore, hh, ?_, ?_⟩
  · intro after hafter
    obtain ⟨cs, hcs, hfirst⟩ := hevolves.goes_on (Store.settled_of_stored hbefore) hafter
    rw [hbefore] at hcs
    cases hcs
    exact ⟨hfirst, hd.start_le, (hd.follows after hafter).seen_le, hd.sent_eq after hafter⟩
  · intro hw
    exact hevolves.read_of_whole hw hbefore

/-- What happens after a handle was opened: another writer stores a commit, a mutation of the handle
is rejected, a second handle is opened and stores a note, and the first one stores a note. -/
def lateListener : List Action :=
  [.write (Workspace.oddCommit "s" "s" "change"),
    .call 0 (.logEvent ⟨"nobody"⟩ .info "lost") ⟨fun _ => default, ""⟩, .join {},
    .call 1 (.logEvent ⟨"s"⟩ .info "note") ⟨fun _ => default, ""⟩,
    .call 0 (.logEvent ⟨"s"⟩ .info "reply") ⟨fun _ => default, ""⟩]

/-- A handle that is opened behind one commit passes on the events of the three behind it: the first
for a mutation that is rejected, the others with its own. -/
theorem events_delivered_once_lateListener :
    ∃ (sh : Shared) (opened h : Handle) (after : List Commit),
      sh.store = .memory [Workspace.oddCommit "s" "s" "change"] true ∧ sh.handles.length = 0 ∧
      (Handle.openOn sh.store {}).1 = .ok opened ∧
      (sh.run (.join {} :: lateListener)).handles[0]? = some h ∧
      (sh.run (.join {} :: lateListener)).store.stored = .ok after ∧
      sh.passedOn 0 (.join {} :: lateListener)
        = ((after.take h.workspace.seen).drop 1).flatMap Commit.events ∧
      (sh.passedOn 0 (.join {} :: lateListener)).map (fun e => e.seq.toNat) = [7, 8, 9] := by
  have hopen : (Handle.openOn (.memory [Workspace.oddCommit "s" "s" "change"] true) {}).1
      = .ok ⟨.replay [Workspace.oddCommit "s" "s" "change"], {}⟩ := rfl
  obtain ⟨before, h, hbefore, hh, hsent, hread⟩ :=
    events_delivered_once ⟨.memory [Workspace.oddCommit "s" "s" "change"] true, []⟩ {} _ hopen
      lateListener
  obtain ⟨after, hafter⟩ := hread trivial
  obtain ⟨-, -, -, heq⟩ := hsent after hafter
  cases hbefore
  exact ⟨_, _, h, after, rfl, rfl, hopen, hh, hafter, heq, by decide +kernel⟩

end Shared

end DevSession
