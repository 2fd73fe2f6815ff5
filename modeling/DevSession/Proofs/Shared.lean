import DevSession.Proofs.Tracking

/-!
# Sharing a store

A store is shared by handles, which come one after another, and by other writers, who store commits
of their own. Whatever they do, in whatever order, every handle shows the replay of a first part of
what is stored, and the handle whose mutation was done last shows all of it.

* `Shared`, `Shared.Action`, `Shared.run`: a store with its handles, and what can be done with them.
* `Shared.replies`, `Shared.done`: the answers in a run, and the mutations that were done in it.
* `Shared.Attuned`: every handle keeps up with the store; `attuned_step`, `attuned_run`.
* `Shared.Coherent`: besides, the lines of the store have their ends, so that it can be read at all
  times; `coherent_step`, `coherent_run`.
* `handles_replay_stored`: what the handles show after any run.
-/

namespace DevSession

/-- A store and the handles that were opened on it. -/
structure Shared where
  store : Store
  handles : List Handle := []

/-- What can be done with a store that is shared. -/
inductive Shared.Action where
  /-- A handle is opened. -/
  | join (range : ScoreRange)
  /-- A mutation is sent through the handle that was opened at this place in the order. -/
  | call (index : Nat) (m : Mutation) (draw : Draw)
  /-- Another writer stores a commit. -/
  | write (c : Commit)
  /-- An outage of the store begins, with so many bytes of a line that still reach a journal, or it
  is over. -/
  | outage (outage : Option Nat)

namespace Shared

variable {sh : Shared}

/-- The store and its handles after an action. A handle that cannot be opened is not there. -/
def step (sh : Shared) : Action → Shared
  | .join range =>
    ⟨(Handle.openOn sh.store range).2,
      sh.handles ++ (Handle.openOn sh.store range).1.toOption.toList⟩
  | .call index m draw =>
    match sh.handles[index]? with
    | some h => ⟨(h.run sh.store m draw).store,
        sh.handles.set index (h.run sh.store m draw).handle⟩
    | none => sh
  | .write c => ⟨(sh.store.commit c).2, sh.handles⟩
  | .outage outage => ⟨sh.store.setOutage outage, sh.handles⟩

/-- The store and its handles after several actions. -/
def run (sh : Shared) (actions : List Action) : Shared :=
  actions.foldl step sh

/-- The answer that an action gets. -/
def reply? (sh : Shared) : Action → Option (Except Fault Answer)
  | .call index m draw => sh.handles[index]?.map fun h => (h.run sh.store m draw).result
  | _ => none

/-- The answers to the mutations among several actions, in order. -/
def replies (sh : Shared) : List Action → List (Except Fault Answer)
  | [] => []
  | action :: rest => (sh.reply? action).toList ++ (sh.step action).replies rest

/-- The mutation that an action sends, with its answer, if it is done. -/
def done? (sh : Shared) : Action → Option (Mutation × Answer)
  | .call index m draw => do
    let reply ← sh.reply? (.call index m draw)
    return (m, ← reply.toOption)
  | _ => none

/-- The mutations that are done by several actions, with their answers, in order. -/
def done (sh : Shared) : List Action → List (Mutation × Answer)
  | [] => []
  | action :: rest => (sh.done? action).toList ++ (sh.step action).done rest

/-! ## Steps -/

theorem step_join_of_ok {range : ScoreRange} {h : Handle}
    (ho : (Handle.openOn sh.store range).1 = .ok h) :
    sh.step (.join range) = ⟨sh.store.lock.2, sh.handles ++ [h]⟩ := by
  rw [step, Handle.openOn_snd, ho]
  rfl

theorem step_join_of_error {range : ScoreRange} {f : Fault}
    (ho : (Handle.openOn sh.store range).1 = .error f) :
    sh.step (.join range) = ⟨sh.store.lock.2, sh.handles⟩ := by
  rw [step, Handle.openOn_snd, ho]
  exact congrArg _ (List.append_nil _)

theorem step_call_of_some {index : Nat} {m : Mutation} {draw : Draw} {h : Handle}
    (hi : sh.handles[index]? = some h) :
    sh.step (.call index m draw) = ⟨(h.run sh.store m draw).store,
      sh.handles.set index (h.run sh.store m draw).handle⟩ := by
  simp only [step, hi]

theorem step_call_of_none {index : Nat} {m : Mutation} {draw : Draw}
    (hi : sh.handles[index]? = none) : sh.step (.call index m draw) = sh := by
  simp only [step, hi]

theorem reply?_call_of_some {index : Nat} {m : Mutation} {draw : Draw} {h : Handle}
    (hi : sh.handles[index]? = some h) :
    sh.reply? (.call index m draw) = some (h.run sh.store m draw).result := by
  rw [reply?, hi]
  rfl

theorem done?_eq_some_iff {index : Nat} {m : Mutation} {draw : Draw} {a : Answer} :
    sh.done? (.call index m draw) = some (m, a)
      ↔ sh.reply? (.call index m draw) = some (.ok a) := by
  rw [done?]
  cases sh.reply? (.call index m draw) with
  | none => simp
  | some reply => cases reply <;> simp [Except.toOption]

theorem done?_call_of_ok {index : Nat} {m : Mutation} {draw : Draw} {h : Handle} {a : Answer}
    (hi : sh.handles[index]? = some h) (ha : (h.run sh.store m draw).result = .ok a) :
    sh.done? (.call index m draw) = some (m, a) := by
  simp [done?, reply?, hi, ha, Except.toOption]

theorem done?_call_of_error {index : Nat} {m : Mutation} {draw : Draw} {h : Handle} {f : Fault}
    (hi : sh.handles[index]? = some h) (hf : (h.run sh.store m draw).result = .error f) :
    sh.done? (.call index m draw) = none := by
  simp [done?, reply?, hi, hf, Except.toOption]

theorem done?_call_of_none {index : Nat} {m : Mutation} {draw : Draw}
    (hi : sh.handles[index]? = none) : sh.done? (.call index m draw) = none := by
  simp [done?, reply?, hi]

theorem run_append (sh : Shared) (a b : List Action) : sh.run (a ++ b) = (sh.run a).run b :=
  List.foldl_append

/-- What is done by actions in two parts. -/
theorem done_append (sh : Shared) (a b : List Action) :
    sh.done (a ++ b) = sh.done a ++ (sh.run a).done b := by
  induction a generalizing sh with
  | nil => rfl
  | cons action rest ih =>
      rw [List.cons_append, done, ih, done, List.append_assoc]
      rfl

/-! ## What becomes of the store -/

theorem evolves_step (sh : Shared) (action : Action) : sh.store.Evolves (sh.step action).store := by
  cases action with
  | join range =>
      rw [step, Handle.openOn_snd]
      exact .lock .refl
  | call index m draw =>
      cases hi : sh.handles[index]? with
      | none =>
          rw [step_call_of_none hi]
          exact .refl
      | some h =>
          rw [step_call_of_some hi]
          exact h.evolves_run sh.store m draw
  | write c => exact .commit .refl c
  | outage outage => exact .outage .refl outage

theorem evolves_run (sh : Shared) (actions : List Action) :
    sh.store.Evolves (sh.run actions).store := by
  induction actions generalizing sh with
  | nil => exact .refl
  | cons action rest ih => exact (sh.evolves_step action).trans (ih (sh.step action))

/-! ## Handles keep up with the store -/

/-- Every handle keeps up with the store. -/
def Attuned (sh : Shared) : Prop :=
  ∀ h ∈ sh.handles, h.Tracks sh.store

/-- How a mutation goes that is sent through one of the handles. -/
theorem Attuned.ran (ha : sh.Attuned) {index : Nat} {h : Handle}
    (hi : sh.handles[index]? = some h) (m : Mutation) (draw : Draw) :
    h.Ran sh.store m draw (h.run sh.store m draw) :=
  (ha h (List.mem_of_getElem? hi)).ran m draw

theorem attuned_new (store : Store) : Attuned ⟨store, []⟩ :=
  fun _ hh => absurd hh List.not_mem_nil

/-- **Every action leaves the handles in line with the store.** -/
theorem attuned_step (ha : sh.Attuned) (action : Action) : (sh.step action).Attuned := by
  have hevolves := sh.evolves_step action
  cases action with
  | join range =>
      cases ho : (Handle.openOn sh.store range).1 with
      | error f =>
          rw [step_join_of_error ho] at hevolves ⊢
          exact fun h hh => (ha h hh).evolve hevolves
      | ok new =>
          rw [step_join_of_ok ho] at hevolves ⊢
          intro h hh
          rcases List.mem_append.1 hh with hh | hh
          · exact (ha h hh).evolve hevolves
          · obtain ⟨-, cs, hcs, rfl⟩ := Handle.openOn_eq_ok.1 ho
            rw [List.mem_singleton.1 hh]
            exact Handle.tracks_open ((Store.stored_lock _).trans hcs)
  | call index m draw =>
      cases hi : sh.handles[index]? with
      | none =>
          rw [step_call_of_none hi]
          exact ha
      | some h =>
          rw [step_call_of_some hi] at hevolves ⊢
          intro g hg
          rcases List.mem_or_eq_of_mem_set hg with hg | rfl
          · exact (ha g hg).evolve hevolves
          · exact (ha h (List.mem_of_getElem? hi)).run m draw
  | write c => exact fun h hh => (ha h hh).evolve hevolves
  | outage outage => exact fun h hh => (ha h hh).evolve hevolves

theorem attuned_run (ha : sh.Attuned) (actions : List Action) : (sh.run actions).Attuned := by
  induction actions generalizing sh with
  | nil => exact ha
  | cons action rest ih => exact ih (attuned_step ha action)

/-- The range of a handle is that of one before the action, or it was opened with it just now. -/
theorem Attuned.range_step (ha : sh.Attuned) (action : Action) {h : Handle}
    (hh : h ∈ (sh.step action).handles) :
    (∃ g ∈ sh.handles, h.range = g.range) ∨ action = .join h.range := by
  cases action with
  | join range =>
      cases ho : (Handle.openOn sh.store range).1 with
      | error f =>
          rw [step_join_of_error ho] at hh
          exact .inl ⟨h, hh, rfl⟩
      | ok new =>
          rw [step_join_of_ok ho] at hh
          rcases List.mem_append.1 hh with hh | hh
          · exact .inl ⟨h, hh, rfl⟩
          · obtain ⟨-, cs, -, rfl⟩ := Handle.openOn_eq_ok.1 ho
            rw [List.mem_singleton.1 hh]
            exact .inr rfl
  | call index m draw =>
      cases hi : sh.handles[index]? with
      | none =>
          rw [step_call_of_none hi] at hh
          exact .inl ⟨h, hh, rfl⟩
      | some g =>
          rw [step_call_of_some hi] at hh
          rcases List.mem_or_eq_of_mem_set hh with hh | rfl
          · exact .inl ⟨h, hh, rfl⟩
          · exact .inl ⟨g, List.mem_of_getElem? hi, (ha.ran hi m draw).range_eq⟩
  | write _ | outage _ => exact .inl ⟨h, hh, rfl⟩

/-- What holds of the ranges that handles are opened with holds of the ranges of all handles. -/
theorem Attuned.range_run {P : ScoreRange → Prop} (ha : sh.Attuned) {actions : List Action}
    (hopen : ∀ h ∈ sh.handles, P h.range) (hjoin : ∀ range, .join range ∈ actions → P range) :
    ∀ h ∈ (sh.run actions).handles, P h.range := by
  induction actions generalizing sh with
  | nil => exact hopen
  | cons action rest ih =>
      refine ih (attuned_step ha action) (fun h hh => ?_) fun range hrange =>
        hjoin range (List.mem_cons_of_mem _ hrange)
      rcases ha.range_step action hh with ⟨g, hg, heq⟩ | rfl
      · rw [heq]
        exact hopen g hg
      · exact hjoin _ List.mem_cons_self

/-- No action takes back what a handle has seen. -/
theorem Attuned.seen_step (ha : sh.Attuned) (action : Action) {index : Nat} {h : Handle}
    (hi : sh.handles[index]? = some h) :
    ∃ h', (sh.step action).handles[index]? = some h' ∧ h.workspace.seen ≤ h'.workspace.seen := by
  have hlt : index < sh.handles.length := (List.getElem?_eq_some_iff.1 hi).1
  cases action with
  | join range =>
      refine ⟨h, ?_, Nat.le_refl _⟩
      show (sh.handles ++ _)[index]? = some h
      rw [List.getElem?_append_left hlt, hi]
  | call place m draw =>
      cases hp : sh.handles[place]? with
      | none =>
          rw [step_call_of_none hp]
          exact ⟨h, hi, Nat.le_refl _⟩
      | some g =>
          rw [step_call_of_some hp]
          by_cases hplace : place = index
          · subst hplace
            obtain rfl : h = g := Option.some.inj (hi.symm.trans hp)
            refine ⟨_, List.getElem?_set_self hlt, ?_⟩
            exact (ha.ran hi m draw).seen_le (ha h (List.mem_of_getElem? hi)).follows
          · exact ⟨h, (List.getElem?_set_ne hplace).trans hi, Nat.le_refl _⟩
  | write c => exact ⟨h, hi, Nat.le_refl _⟩
  | outage outage => exact ⟨h, hi, Nat.le_refl _⟩

/-- A handle stays, and shows no less than before. -/
theorem Attuned.seen_run (ha : sh.Attuned) (actions : List Action) {index : Nat} {h : Handle}
    (hi : sh.handles[index]? = some h) :
    ∃ h', (sh.run actions).handles[index]? = some h' ∧
      h.workspace.seen ≤ h'.workspace.seen := by
  induction actions generalizing sh h with
  | nil => exact ⟨h, hi, Nat.le_refl _⟩
  | cons action rest ih =>
      obtain ⟨g, hg, hle⟩ := ha.seen_step action hi
      obtain ⟨h', hh', hle'⟩ := ih (attuned_step ha action) hg
      exact ⟨h', hh', Nat.le_trans hle hle'⟩

/-! ## Stores whose lines have their ends -/

/-- Every handle keeps up with the store, the lines of the store have their ends, and it can be
read once there is a handle. -/
structure Coherent (sh : Shared) : Prop where
  attuned : sh.Attuned
  whole : sh.store.Whole
  readable : ∀ h ∈ sh.handles, ∃ cs, sh.store.stored = .ok cs

theorem Coherent.follows_of_mem (hc : sh.Coherent) {h : Handle} (hh : h ∈ sh.handles)
    (cs : List Commit) (hcs : sh.store.stored = .ok cs) : h.Follows cs :=
  (hc.attuned h hh).follows cs hcs

/-- How a mutation goes that is sent through one of the handles. -/
theorem Coherent.ran (hc : sh.Coherent) {index : Nat} {h : Handle}
    (hi : sh.handles[index]? = some h) (m : Mutation) (draw : Draw) :
    h.Ran sh.store m draw (h.run sh.store m draw) :=
  hc.attuned.ran hi m draw

theorem coherent_new {store : Store} (hw : store.Whole) : Coherent ⟨store, []⟩ :=
  ⟨attuned_new store, hw, fun _ hh => absurd hh List.not_mem_nil⟩

/-- A handle is there because one was there before, or because one was opened just now. -/
theorem mem_handles_step {action : Action} {h : Handle} (hh : h ∈ (sh.step action).handles) :
    (∃ g, g ∈ sh.handles) ∨ ∃ cs, (sh.step action).store.stored = .ok cs := by
  cases action with
  | join range =>
      cases ho : (Handle.openOn sh.store range).1 with
      | error f =>
          rw [step_join_of_error ho] at hh
          exact .inl ⟨h, hh⟩
      | ok new =>
          obtain ⟨-, cs, hcs, -⟩ := Handle.openOn_eq_ok.1 ho
          rw [step_join_of_ok ho]
          exact .inr ⟨cs, (Store.stored_lock _).trans hcs⟩
  | call index m draw =>
      cases hi : sh.handles[index]? with
      | none =>
          rw [step_call_of_none hi] at hh
          exact .inl ⟨h, hh⟩
      | some g => exact .inl ⟨g, List.mem_of_getElem? hi⟩
  | write _ | outage _ => exact .inl ⟨h, hh⟩

theorem coherent_step (hc : sh.Coherent) (action : Action) : (sh.step action).Coherent := by
  have hevolves := sh.evolves_step action
  refine ⟨attuned_step hc.attuned action, hevolves.whole hc.whole, fun h hh => ?_⟩
  rcases mem_handles_step hh with ⟨g, hg⟩ | hread
  · obtain ⟨cs, hcs⟩ := hc.readable g hg
    exact hevolves.read_of_whole hc.whole hcs
  · exact hread

theorem coherent_run (hc : sh.Coherent) (actions : List Action) : (sh.run actions).Coherent := by
  induction actions generalizing sh with
  | nil => exact hc
  | cons action rest ih => exact ih (coherent_step hc action)

/-- **Every handle shows the replay of a first part of what is stored**, and after a mutation by it
was done it shows all of it, so that a handle that is opened then is the same. The run is any mix of
handles opened, mutations, commits of other writers, and outages of the store, and this holds
whenever the store can be read. A store whose lines have their ends at the start can be read as soon
as there is a handle. -/
theorem handles_replay_stored (store : Store) (actions : List Action) (sh : Shared)
    (hsh : run ⟨store, []⟩ actions = sh) :
    (∀ h ∈ sh.handles,
      (∀ cs, sh.store.stored = .ok cs → h.workspace.seen ≤ cs.length ∧
        h.workspace = (cs.take h.workspace.seen).foldl Workspace.apply {}) ∧
      (store.Whole → ∃ cs, sh.store.stored = .ok cs)) ∧
    ∀ index h m draw answer, sh.handles[index]? = some h →
      (h.run sh.store m draw).result = .ok answer →
      ∃ h', (sh.step (.call index m draw)).handles[index]? = some h' ∧
        (∀ cs, (sh.step (.call index m draw)).store.stored = .ok cs →
          h'.workspace.seen = cs.length ∧
          (Handle.openOn (sh.step (.call index m draw)).store h'.range).1 = .ok h') ∧
        (store.Whole → ∃ cs, (sh.step (.call index m draw)).store.stored = .ok cs) := by
  have ha : sh.Attuned := hsh ▸ attuned_run (attuned_new store) actions
  have hc : store.Whole → sh.Coherent := fun hw => hsh ▸ coherent_run (coherent_new hw) actions
  refine ⟨fun h hh => ⟨fun cs hcs => ?_, fun hw => (hc hw).readable h hh⟩,
    fun index h m draw answer hi hok => ?_⟩
  · have hf := (ha h hh).follows cs hcs
    exact ⟨hf.seen_le, hf.workspace_eq⟩
  · have hr := ha.ran hi m draw
    obtain ⟨before, c, -, -, hhandle, honly, -⟩ := hr.reads_of_ok hok
    have hlock := (h.evolves_run sh.store m draw).lock_fst (hr.lock_of_ok hok)
    have hlt : index < sh.handles.length := (List.getElem?_eq_some_iff.1 hi).1
    have hplace : (sh.step (.call index m draw)).handles[index]?
        = some (h.run sh.store m draw).handle := by
      rw [step_call_of_some hi]
      exact List.getElem?_set_self hlt
    refine ⟨_, hplace, fun cs hcs => ?_, fun hw =>
      (coherent_step (hc hw) _).readable _ (List.mem_of_getElem? hplace)⟩
    rw [step_call_of_some hi] at hcs ⊢
    obtain rfl := honly cs hcs
    rw [hhandle]
    exact ⟨Workspace.seen_replay _, Handle.openOn_eq_ok.2 ⟨hlock, _, hcs, rfl⟩⟩

/-- A handle is opened on an empty store, and another writer stores a commit that no mutation
proposes. The handle still shows the empty store; it is sent a note, and shows everything. -/
theorem handles_replay_stored_of_stale :
    ∃ sh, run ⟨.empty, []⟩ [.join {}, .write (Workspace.oddCommit "s" "s" "change")] = sh ∧
      (∃ h ∈ sh.handles, ∃ cs, sh.store.stored = .ok cs ∧ h.workspace.seen ≤ cs.length ∧
        h.workspace = (cs.take h.workspace.seen).foldl Workspace.apply {}) ∧
      ∃ h cs, (sh.step (.call 0 (.logEvent ⟨"s"⟩ .info "note") ⟨fun _ => default, ""⟩)).handles[0]?
          = some h ∧
        (sh.step (.call 0 (.logEvent ⟨"s"⟩ .info "note") ⟨fun _ => default, ""⟩)).store.stored
          = .ok cs ∧ h.workspace.seen = cs.length ∧
        (Handle.openOn (sh.step (.call 0 (.logEvent ⟨"s"⟩ .info "note")
          ⟨fun _ => default, ""⟩)).store h.range).1 = .ok h := by
  obtain ⟨hall, hcall⟩ := handles_replay_stored .empty
    [.join {}, .write (Workspace.oddCommit "s" "s" "change")] _ rfl
  obtain ⟨hshows, hread⟩ := hall {} (List.mem_singleton_self _)
  obtain ⟨cs, hcs⟩ := hread trivial
  refine ⟨_, rfl, ⟨{}, List.mem_singleton_self _, cs, hcs, hshows cs hcs⟩, ?_⟩
  have hok : (Handle.run {} (.memory [Workspace.oddCommit "s" "s" "change"] true)
      (.logEvent ⟨"s"⟩ .info "note") ⟨fun _ => default, ""⟩).result = .ok (.seq 8) :=
    toOption_eq_some.1 (by decide +kernel)
  obtain ⟨h, hh, hafter, hread⟩ := hcall 0 {} _ _ _ rfl hok
  obtain ⟨cs, hcs⟩ := hread trivial
  exact ⟨h, cs, hh, hcs, hafter cs hcs⟩

end Shared

end DevSession
