import DevSession.Proofs.Shared

/-!
# One handle or many

It makes no difference through which handle a mutation is sent. Spread a list of mutations over any
number of handles, each opened at any time before it is used: every mutation gets the answer it
would get from one handle that was there from the start, and the store ends up the same. A handle
can be opened at any time on a store whose lines have their ends.

* `Shared.Scheduled`: runs in which handles are opened before they are used.
* `Shared.Opens`: runs in which handles can be opened; `opens_of_whole`.
* `Shared.alone`: the same run on one handle.
* `Shared.Twin`: the two runs side by side; `Twin.join`, `Twin.call` and `Twin.outage` keep them so.
* `replies_eq_alone`: same answers, same store.
-/

namespace DevSession.Shared

/-- Actions that only use handles opened before, all with the same range of scores. No other writer
is at work. -/
def Scheduled (range : ScoreRange) : Nat → List Action → Prop
  | _, [] => True
  | opened, .join r :: rest => r = range ∧ Scheduled range (opened + 1) rest
  | opened, .call index _ _ :: rest => index < opened ∧ Scheduled range opened rest
  | _, .write _ :: _ => False
  | opened, .outage _ :: rest => Scheduled range opened rest

/-- Each handle that is to be opened in the course of the actions can be opened. -/
def Opens (sh : Shared) : List Action → Prop
  | [] => True
  | action :: rest =>
    (∀ range, action = .join range → ∃ h, (Handle.openOn sh.store range).1 = .ok h) ∧
      (sh.step action).Opens rest

/-- The action when there is only one handle, which is there from the start. -/
def Action.alone? : Action → Option Action
  | .join _ => none
  | .call _ m draw => some (.call 0 m draw)
  | action => some action

/-- The actions when there is only one handle, which is there from the start. -/
def alone (actions : List Action) : List Action :=
  actions.filterMap Action.alone?

/-- Two shared stores that answer alike: all handles keep up with their store and have the same
range, and both stores are held alike. -/
structure Twin (range : ScoreRange) (sh single : Shared) : Prop where
  attuned : sh.Attuned
  attuned_single : single.Attuned
  range_eq : ∀ h ∈ sh.handles, h.range = range
  range_eq_single : ∃ g, single.handles = [g] ∧ g.range = range
  lock_eq : sh.store.lock = single.store.lock

variable {range : ScoreRange} {sh single : Shared}

theorem Twin.stored_eq (ht : Twin range sh single) : sh.store.stored = single.store.stored := by
  rw [Store.stored, Store.stored, ht.lock_eq]

/-! ## Opening handles -/

/-- **A handle can be opened at any time on a store whose lines have their ends**, if one can be
opened at the start. -/
theorem opens_of_whole {cs : List Commit} (hw : sh.store.Whole) (hheld : sh.store.lock.1 = .ok ())
    (hread : sh.store.stored = .ok cs) (actions : List Action) : sh.Opens actions := by
  induction actions generalizing sh cs with
  | nil => trivial
  | cons action rest ih =>
      have hevolves := sh.evolves_step action
      obtain ⟨ds, hds⟩ := hevolves.read_of_whole hw hread
      refine ⟨fun range _ => ⟨_, Handle.openOn_eq_ok.2 ⟨hheld, cs, hread, rfl⟩⟩, ?_⟩
      exact ih (hevolves.whole hw) (hevolves.lock_fst hheld) hds

/-! ## Steps side by side -/

/-- A handle can be opened when it can be, and the other side need not know. -/
theorem Twin.join (ht : Twin range sh single) {h : Handle}
    (hopen : (Handle.openOn sh.store range).1 = .ok h) :
    Twin range (sh.step (.join range)) single ∧
      (sh.step (.join range)).handles.length = sh.handles.length + 1 := by
  have ha := attuned_step ht.attuned (.join range)
  obtain ⟨-, cs, -, rfl⟩ := Handle.openOn_eq_ok.1 hopen
  rw [step_join_of_ok hopen] at ha ⊢
  refine ⟨⟨ha, ht.attuned_single, fun h hh => ?_, ht.range_eq_single, ?_⟩, ?_⟩
  · rcases List.mem_append.1 hh with hh | hh
    · exact ht.range_eq h hh
    · rw [List.mem_singleton.1 hh]
  · rw [Store.lock_lock]
    exact ht.lock_eq
  · rw [List.length_append, List.length_singleton]

/-- A mutation gets the same answer through any handle on the one side and through the one handle
on the other. -/
theorem Twin.call (ht : Twin range sh single) {index : Nat} (hi : index < sh.handles.length)
    (m : Mutation) (draw : Draw) :
    sh.reply? (.call index m draw) = single.reply? (.call 0 m draw) ∧
      Twin range (sh.step (.call index m draw)) (single.step (.call 0 m draw)) ∧
      (sh.step (.call index m draw)).handles.length = sh.handles.length := by
  obtain ⟨g, hg, hgr⟩ := ht.range_eq_single
  have hget : sh.handles[index]? = some sh.handles[index] := List.getElem?_eq_getElem hi
  have hgetg : single.handles[0]? = some g := by rw [hg]; rfl
  have hhr := ht.range_eq _ (List.mem_of_getElem? hget)
  generalize sh.handles[index] = h at hget hhr
  have hr := ht.attuned.ran hget m draw
  have hrg := ht.attuned_single.ran hgetg m draw
  -- both mutations are served by stores that are held alike
  have hserve := Store.serve_eq hr
  have hserveg := Store.serve_eq hrg
  rw [hhr] at hserve
  rw [hgr] at hserveg
  obtain ⟨hresult, hlock⟩ := Store.serve_of_lock_eq ht.lock_eq range m draw
  rw [hserve, hserveg] at hresult hlock
  have ha := attuned_step ht.attuned (.call index m draw)
  have hag := attuned_step ht.attuned_single (.call 0 m draw)
  rw [step_call_of_some hget] at ha ⊢
  rw [step_call_of_some hgetg] at hag ⊢
  refine ⟨?_, ⟨ha, hag, fun k hk => ?_, ⟨_, ?_, hrg.range_eq.trans hgr⟩, hlock⟩,
    List.length_set⟩
  · simp only [reply?, hget, hgetg, Option.map_some]
    exact congrArg some hresult
  · rcases List.mem_or_eq_of_mem_set hk with hk | rfl
    · exact ht.range_eq k hk
    · exact hr.range_eq.trans hhr
  · rw [hg]
    rfl

theorem Twin.outage (ht : Twin range sh single) (outage : Option Nat) :
    Twin range (sh.step (.outage outage)) (single.step (.outage outage)) := by
  have ha := attuned_step ht.attuned (.outage outage)
  have hag := attuned_step ht.attuned_single (.outage outage)
  refine ⟨ha, hag, ht.range_eq, ht.range_eq_single, ?_⟩
  show (sh.store.setOutage outage).lock = (single.store.setOutage outage).lock
  rw [Store.lock_setOutage, Store.lock_setOutage, ht.lock_eq]

/-! ## Runs side by side -/

theorem Twin.run (ht : Twin range sh single) {actions : List Action}
    (hs : Scheduled range sh.handles.length actions) (ho : sh.Opens actions) :
    sh.replies actions = single.replies (alone actions) ∧
      Twin range (sh.run actions) (single.run (alone actions)) := by
  induction actions generalizing sh single with
  | nil => exact ⟨rfl, ht⟩
  | cons action rest ih =>
      obtain ⟨hopen, ho⟩ := ho
      cases action with
      | join r =>
          obtain ⟨rfl, hs⟩ := hs
          obtain ⟨h, hh⟩ := hopen r rfl
          obtain ⟨ht', hlength⟩ := ht.join hh
          rw [← hlength] at hs
          exact ih ht' hs ho
      | call index m draw =>
          obtain ⟨hi, hs⟩ := hs
          obtain ⟨hreply, ht', hlength⟩ := ht.call hi m draw
          rw [← hlength] at hs
          obtain ⟨hreplies, hrun⟩ := ih ht' hs ho
          refine ⟨?_, hrun⟩
          show (sh.reply? _).toList ++ _ = (single.reply? _).toList ++ _
          rw [hreply, hreplies]
          rfl
      | write c => exact hs.elim
      | outage outage => exact ih (ht.outage outage) hs ho

/-- **It makes no difference through which handle a mutation is sent.** Take a store that a handle
can be opened on, and any list of mutations, with the outages of the store between them. Spread the
mutations over any number of handles with the same range of scores, each opened before its first
one. All get the answers, and the store ends up with the commits, as if one handle had been opened
at the start and had been sent all of them. For that the handles have to open; they do if the lines
of the store have their ends at the start. -/
theorem replies_eq_alone {store opened : Store} {range : ScoreRange} {g : Handle}
    {actions : List Action} (hopen : Handle.openOn store range = (.ok g, opened))
    (hs : Scheduled range 0 actions) :
    (Opens ⟨store, []⟩ actions →
      replies ⟨store, []⟩ actions = replies ⟨opened, [g]⟩ (alone actions) ∧
      (run ⟨store, []⟩ actions).store.stored
        = (run ⟨opened, [g]⟩ (alone actions)).store.stored) ∧
    (store.Whole → Opens ⟨store, []⟩ actions) := by
  have hok : (Handle.openOn store range).1 = .ok g := by rw [hopen]
  have hopened : opened = store.lock.2 := by rw [← Handle.openOn_snd store range, hopen]
  obtain ⟨hheld, cs, hcs, rfl⟩ := Handle.openOn_eq_ok.1 hok
  refine ⟨fun ho => ?_, fun hw => opens_of_whole hw hheld hcs actions⟩
  have hjoin := attuned_step (attuned_new store) (.join range)
  rw [step_join_of_ok hok] at hjoin
  subst hopened
  have ht : Twin range ⟨store, []⟩ ⟨store.lock.2, [⟨.replay cs, range⟩]⟩ :=
    ⟨attuned_new store, hjoin, fun h hh => absurd hh List.not_mem_nil, ⟨_, rfl, rfl⟩,
      (Store.lock_lock store).symm⟩
  obtain ⟨hreplies, hrun⟩ := ht.run hs ho
  exact ⟨hreplies, hrun.stored_eq⟩

/-- Two handles share an empty store. The second one is opened late, and there is an outage before
the last mutation. -/
def relay : List Action :=
  [.join {}, .call 0 (.start "change" {}) ⟨fun _ => default, "a"⟩, .join {},
    .call 1 (.logEvent ⟨"20000101-000000-a"⟩ .info "note") ⟨fun _ => default, ""⟩, .outage (some 0),
    .call 0 (.createTask ⟨"20000101-000000-a"⟩ "parser" "" []) ⟨fun _ => default, ""⟩]

theorem replies_eq_alone_relay :
    Scheduled {} 0 relay ∧
      (replies ⟨.empty, [{}]⟩ (alone relay)).map (fun r => r.toOption.isSome)
        = [true, true, false] ∧
      replies ⟨.empty, []⟩ relay = replies ⟨.empty, [{}]⟩ (alone relay) ∧
      (run ⟨.empty, []⟩ relay).store.stored
        = (run ⟨.empty, [{}]⟩ (alone relay)).store.stored := by
  have hs : Scheduled {} 0 relay := by simp [Scheduled, relay]
  have hopen : Handle.openOn .empty {} = (.ok {}, .empty) := rfl
  obtain ⟨hsame, hopens⟩ := replies_eq_alone hopen hs
  exact ⟨hs, by decide +kernel, hsame (hopens trivial)⟩

end DevSession.Shared
