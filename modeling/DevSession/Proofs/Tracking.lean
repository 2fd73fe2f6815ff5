import DevSession.Proofs.Handle
import DevSession.Proofs.TornJournal

/-!
# Handles that keep up with a store

Writers hold a store, give it commits, and do so through outages. Whatever they do, a store that was
read once only gets longer: what can be read of it later goes on from what could be read before. So
a handle that has seen a first part of it has seen a first part ever after. Only a journal whose
last line has no end can become unreadable, with the next commit that it takes.

* `Store.Settled`, `Store.Evolves`: stores that were read, and what writers make of them.
* `Evolves.finds`: what stays true of a journal; `Evolves.whole` and `Evolves.settled` follow.
* `Evolves.goes_on`, `Evolves.read_of_whole`: a store gets longer, and can be read at all times if
  its lines have their ends.
* `Handle.Tracks`: a handle that has seen a first part of what can be read; `Tracks.evolve` and
  `Tracks.run` keep it so.
* `Handle.run_all_or_nothing`: a mutation is taken whole, or it leaves nothing behind.
-/

namespace DevSession

/-! ## A journal that gets longer -/

/-- What is read of a journal behind which a commit was written was there before it, and the commit
is the last of it. -/
theorem Journal.loadL_append_eq_ok {content : List Char} {c : Commit} {ds : List Commit}
    (hcontent : Ended content ∨ ∃ cs, loadL content = .ok cs)
    (h : loadL (content ++ encodeL c) = .ok ds) :
    ∃ cs, loadL content = .ok cs ∧ ds = cs ++ [c] := by
  by_cases hend : Ended content
  · unfold loadL at h
    rw [linesL_append_of_ended hend, linesL_encodeL, decodeLines_append, decodeLines_lineL] at h
    obtain ⟨cs, hcs, h⟩ := bind_eq_ok.1 h
    exact ⟨cs, hcs, (Except.ok.inj h).symm⟩
  · -- behind an unfinished line the commit spoils that line
    obtain ⟨cs, hcs⟩ := hcontent.resolve_left hend
    obtain ⟨message, hrefused⟩ := loadL_append_of_not_ended hend hcs c
    rw [hrefused] at h
    cases h

namespace Store

variable {s t : Store} {c : Commit} {cs ds : List Commit}

/-- A journal is settled if it is a text that can be read, or whose lines have their ends. A store
that was read once is settled, and stays so. -/
def Settled : Store → Prop
  | memory _ _ => True
  | journal path disk =>
    ∀ b, (disk.hold path (lockPath path)).disk.bytes path = .ok b →
      ∃ text : String, b = text.toUTF8 ∧
        (Journal.Ended text.toList ∨ ∃ cs, Journal.loadL text.toList = .ok cs)

theorem settled_of_stored (h : s.stored = .ok cs) : s.Settled := by
  cases s with
  | memory commits writable => trivial
  | journal path disk =>
      intro b hb
      rw [stored_journal, hb] at h
      have hload : Journal.loadBytes b = .ok cs := h
      cases ht : String.fromUTF8? b with
      | none =>
          rw [Journal.loadBytes, ht] at hload
          cases hload
      | some text =>
          obtain rfl := Journal.eq_toUTF8_of_fromUTF8? ht
          rw [Journal.loadBytes_toUTF8] at hload
          exact ⟨text, rfl, Or.inr ⟨cs, hload⟩⟩

theorem settled_iff_finds : s.Settled ↔ s.Finds fun b => ∃ text : String, b = text.toUTF8 ∧
    (Journal.Ended text.toList ∨ ∃ cs, Journal.loadL text.toList = .ok cs) := by
  cases s <;> exact Iff.rfl

/-- **What is stored after a commit was stored before it, and the commit is the last of it.** -/
theorem stored_of_commit (hs : s.Settled) (h : (s.commit c).1 = .ok ())
    (hds : (s.commit c).2.stored = .ok ds) : ∃ cs, s.stored = .ok cs ∧ ds = cs ++ [c] := by
  cases s with
  | memory commits writable =>
      cases writable with
      | false => cases h
      | true =>
          cases hds
          exact ⟨commits, rfl, rfl⟩
  | journal path disk =>
      obtain ⟨hdone, -, heq⟩ := commit_of_ok h
      obtain ⟨b, hbefore, hafter⟩ := Disk.bytes_hold_of_done (lockPath path) hdone
      rw [heq, stored_journal, hafter] at hds
      obtain ⟨text, rfl, htext⟩ := hs b hbefore
      have hload : Journal.loadBytes (text ++ Journal.encode c).toUTF8 = .ok ds := hds
      rw [Journal.loadBytes_toUTF8, Journal.load, String.toList_append, Journal.encode,
        String.toList_ofList] at hload
      obtain ⟨cs, hcs, rfl⟩ := Journal.loadL_append_eq_ok htext hload
      refine ⟨cs, ?_, rfl⟩
      rw [stored_journal, hbefore]
      show Journal.loadBytes text.toUTF8 = .ok cs
      rw [Journal.loadBytes_toUTF8]
      exact hcs

/-- **A commit that was taken is found again exactly if the lines of the store had their ends.** -/
theorem stored_commit_iff_whole (hs : s.stored = .ok cs) (h : (s.commit c).1 = .ok ()) :
    (s.commit c).2.stored = .ok (cs ++ [c]) ↔ s.Whole := by
  refine ⟨fun hfound => ?_, fun hw => stored_commit hw hs h⟩
  cases s with
  | memory commits writable => trivial
  | journal path disk =>
      obtain ⟨hdone, -, heq⟩ := commit_of_ok h
      obtain ⟨front, hbefore, hafter⟩ := Disk.bytes_hold_of_done (lockPath path) hdone
      intro b hb
      cases hbefore.symm.trans hb
      rw [stored_journal, hb] at hs
      rw [heq, stored_journal, hafter] at hfound
      apply Classical.byContradiction
      intro hw
      obtain ⟨message, hrefused⟩ := Journal.loadBytes_append_of_not_whole hw hs c
      cases hrefused.symm.trans hfound

/-- Nothing else can be read behind a commit than what was stored and that commit. -/
theorem stored_of_taken (hs : s.stored = .ok cs) (hcommit : s.lock.2.commit c = (.ok (), t))
    (hds : t.stored = .ok ds) : ds = cs ++ [c] := by
  have hheld : s.lock.2.stored = .ok cs := (stored_lock s).trans hs
  have htaken : (s.lock.2.commit c).1 = .ok () := by rw [hcommit]
  have hafter : (s.lock.2.commit c).2.stored = .ok ds := by rwa [hcommit]
  obtain ⟨front, hfront, rfl⟩ := stored_of_commit (settled_of_stored hheld) htaken hafter
  cases hheld.symm.trans hfront
  rfl

/-! ## What writers make of a store -/

/-- What a store can become: writers hold it, give it commits, which it takes or not, and there are
outages. -/
inductive Evolves (s : Store) : Store → Prop
  | refl : Evolves s s
  | lock {t : Store} (h : Evolves s t) : Evolves s t.lock.2
  | commit {t : Store} (h : Evolves s t) (c : Commit) : Evolves s (t.commit c).2
  | outage {t : Store} (h : Evolves s t) (outage : Option Nat) : Evolves s (t.setOutage outage)

theorem Evolves.trans {u : Store} (hs : s.Evolves t) (ht : t.Evolves u) : s.Evolves u := by
  induction ht with
  | refl => exact hs
  | lock _ ih => exact .lock ih
  | commit _ c ih => exact .commit ih c
  | outage _ outage ih => exact .outage ih outage

/-- A kind of journal that goes on with every line behind the end stays so, whatever writers do. -/
theorem Evolves.finds {P : ByteArray → Prop}
    (hP : ∀ b (c : Commit), P b → P (b ++ (Journal.encode c).toUTF8)) (h : s.Evolves t)
    (hs : s.Finds P) : t.Finds P := by
  induction h with
  | refl => exact hs
  | lock _ ih => exact finds_lock_iff.2 ih
  | commit _ c ih => exact finds_commit hP ih c
  | outage _ outage ih => exact finds_setOutage ih outage

/-- Lines keep their ends. -/
theorem Evolves.whole (h : s.Evolves t) (hw : s.Whole) : t.Whole := by
  rw [whole_iff_finds] at hw ⊢
  exact h.finds (fun front c _ => Journal.whole_append_encode front c) hw

/-- A settled store stays settled: behind a commit that it has taken the text ends with a line. -/
theorem Evolves.settled (h : s.Evolves t) (hs : s.Settled) : t.Settled := by
  rw [settled_iff_finds] at hs ⊢
  refine h.finds ?_ hs
  rintro _ c ⟨text, rfl, -⟩
  refine ⟨text ++ Journal.encode c, rfl, Or.inl ?_⟩
  rw [String.toList_append, Journal.encode, String.toList_ofList]
  exact Journal.ended_append_encodeL _ c

/-- **What can be read of a settled store goes on from what could be read before.** -/
theorem Evolves.goes_on (h : s.Evolves t) (hs : s.Settled) (hds : t.stored = .ok ds) :
    ∃ cs, s.stored = .ok cs ∧ cs <+: ds := by
  induction h generalizing ds with
  | refl => exact ⟨ds, hds, List.prefix_refl ds⟩
  | lock _ ih =>
      rw [stored_lock] at hds
      exact ih hds
  | @commit t hevolves c ih =>
      cases hr : (t.commit c).1 with
      | error f =>
          rw [stored_commit_of_error hr] at hds
          exact ih hds
      | ok u =>
          obtain ⟨front, hfront, rfl⟩ := stored_of_commit (hevolves.settled hs) hr hds
          obtain ⟨cs, hcs, hfirst⟩ := ih hfront
          exact ⟨cs, hcs, hfirst.trans (List.prefix_append front [c])⟩
  | outage _ outage ih =>
      rw [stored_setOutage] at hds
      exact ih hds

/-- A store that can be held once can be held at any later time. -/
theorem Evolves.lock_fst (h : s.Evolves t) (hs : s.lock.1 = .ok ()) : t.lock.1 = .ok () := by
  induction h with
  | refl => exact hs
  | lock _ ih => rwa [lock_lock]
  | commit _ c ih => exact lock_commit_fst ih c
  | outage _ outage ih => rwa [lock_setOutage]

/-- **A store whose lines have their ends can be read at any later time** if it can be read once. -/
theorem Evolves.read_of_whole (h : s.Evolves t) (hw : s.Whole) (hs : s.stored = .ok cs) :
    ∃ ds, t.stored = .ok ds := by
  induction h with
  | refl => exact ⟨cs, hs⟩
  | lock _ ih =>
      rw [stored_lock]
      exact ih
  | @commit t hevolves c ih =>
      obtain ⟨ds, hds⟩ := ih
      cases hr : (t.commit c).1 with
      | error f => exact ⟨ds, (stored_commit_of_error hr).trans hds⟩
      | ok u => exact ⟨ds ++ [c], stored_commit (hevolves.whole hw) hds hr⟩
  | outage _ outage ih =>
      rw [stored_setOutage]
      exact ih

end Store

namespace Handle

variable {h : Handle} {s t : Store} {cs : List Commit} {m : Mutation} {draw : Draw}

/-- A mutation does to the store what any writer can do, whatever the handle shows. -/
theorem evolves_run (h : Handle) (s : Store) (m : Mutation) (draw : Draw) :
    s.Evolves (h.run s m draw).store := by
  unfold run
  cases m.precheck h.range with
  | error f => exact .refl
  | ok u =>
      rw [show s.lock = (s.lock.1, s.lock.2) from rfl]
      cases s.lock.1 with
      | error f => exact .lock .refl
      | ok u =>
          dsimp only
          cases s.lock.2.loadSince h.workspace.seen with
          | error f => exact .lock .refl
          | ok newer =>
              dsimp only
              generalize (h.catchUp newer).1 = g
              unfold settle
              cases m.propose g.workspace g.range draw with
              | error f => exact .lock .refl
              | ok p =>
                  obtain ⟨c, a⟩ := p
                  dsimp only
                  rw [show s.lock.2.commit c
                    = ((s.lock.2.commit c).1, (s.lock.2.commit c).2) from rfl]
                  cases (s.lock.2.commit c).1 <;> exact .commit (.lock .refl) c

/-- **What becomes of the store when a mutation is done.** It has taken one commit, the handle shows
that commit behind all that was stored, and nothing else can be read of the store than what the
handle shows; that much can be read exactly if the lines of the store had their ends. -/
theorem Ran.reads_of_ok {o : Outcome} (hr : h.Ran s m draw o) {a : Answer} (ha : o.result = .ok a) :
    ∃ cs c, s.stored = .ok cs ∧ s.lock.2.commit c = (.ok (), o.store) ∧
      o.handle = ⟨.replay (cs ++ [c]), h.range⟩ ∧
      (∀ ds, o.store.stored = .ok ds → ds = cs ++ [c]) ∧
      (o.store.stored = .ok (cs ++ [c]) ↔ s.Whole) := by
  obtain ⟨cs, c, hread, -, hcommit, hhandle, -⟩ := hr.committed_of_ok ha
  refine ⟨cs, c, hread, hcommit, hhandle, fun ds hds => Store.stored_of_taken hread hcommit hds, ?_⟩
  have hheld : s.lock.2.stored = .ok cs := (Store.stored_lock s).trans hread
  have hiff := Store.stored_commit_iff_whole (c := c) hheld (by rw [hcommit])
  rw [hcommit] at hiff
  rw [hiff, Store.whole_lock_iff]

/-! ## Keeping up -/

/-- The store was read, and the handle has seen a first part of all that can be read of it. -/
structure Tracks (h : Handle) (s : Store) : Prop where
  settled : s.Settled
  follows : ∀ cs, s.stored = .ok cs → h.Follows cs

/-- How a mutation can go that is sent through a handle which keeps up. -/
theorem Tracks.ran (ht : h.Tracks s) (m : Mutation) (draw : Draw) :
    h.Ran s m draw (h.run s m draw) :=
  ran_run m draw ht.follows

/-- A handle that shows all that can be read keeps up. -/
theorem tracks_of_reads {range : ScoreRange} (hs : s.Settled)
    (hreads : ∀ ds, s.stored = .ok ds → ds = cs) : Tracks ⟨.replay cs, range⟩ s := by
  refine ⟨hs, fun ds hds => ?_⟩
  obtain rfl := hreads ds hds
  exact follows_replay ds range

theorem tracks_open {range : ScoreRange} (hs : s.stored = .ok cs) : Tracks ⟨.replay cs, range⟩ s :=
  tracks_of_reads (Store.settled_of_stored hs) fun _ hds => Except.ok.inj (hds.symm.trans hs)

/-- **Whatever is done to the store, the handle keeps up**: commits only come behind what it has
seen. -/
theorem Tracks.evolve (ht : h.Tracks s) (he : s.Evolves t) : h.Tracks t := by
  refine ⟨he.settled ht.settled, fun ds hds => ?_⟩
  obtain ⟨cs, hcs, more, rfl⟩ := he.goes_on ht.settled hds
  exact (ht.follows cs hcs).append more

/-- **A handle keeps up through its own mutations**, whichever way they go. -/
theorem Tracks.run (ht : h.Tracks s) (m : Mutation) (draw : Draw) :
    (h.run s m draw).handle.Tracks (h.run s m draw).store := by
  have hevolves := h.evolves_run s m draw
  have hr := ht.ran m draw
  generalize h.run s m draw = o at hevolves hr
  have hsettled := hevolves.settled ht.settled
  cases hres : o.result with
  | error f =>
      rcases hr.handle_of_error hres with ⟨hsame, -⟩ | ⟨cs, hread, hhandle, -⟩
      · rw [hsame]
        exact ht.evolve hevolves
      · rw [hhandle]
        refine tracks_of_reads hsettled fun ds hds => ?_
        rw [hr.stored_of_error hres, hread] at hds
        exact (Except.ok.inj hds).symm
  | ok a =>
      obtain ⟨cs, c, -, -, hhandle, honly, -⟩ := hr.reads_of_ok hres
      rw [hhandle]
      exact tracks_of_reads hsettled honly

/-! ## All or nothing -/

/-- **A mutation is taken whole, or it leaves nothing behind.** Take any store and a handle that
shows a first part of what is stored. If the mutation is not done, for whatever reason, the stored
commits are as they were, and the handle has not moved and passed on no event, or it shows
everything stored and has passed on the events of what it had missed. If it is done, the store has
taken one commit, the handle shows it behind all that was stored, and nothing else can be read of
the store than that; and that much can be read exactly if the lines of the store had their ends. -/
theorem run_all_or_nothing (h : Handle) (s : Store) (m : Mutation) (draw : Draw)
    (hshows : ∀ cs, s.stored = .ok cs → ∃ n, h.workspace = .replay (cs.take n)) :
    (∀ f, (h.run s m draw).result = .error f →
      (h.run s m draw).store.stored = s.stored ∧
        (((h.run s m draw).handle = h ∧ (h.run s m draw).sent = []) ∨
          ∃ cs, s.stored = .ok cs ∧ (h.run s m draw).handle = ⟨.replay cs, h.range⟩ ∧
            (h.run s m draw).sent = (cs.drop h.workspace.seen).flatMap Commit.events)) ∧
    (∀ a, (h.run s m draw).result = .ok a →
      ∃ cs c, s.stored = .ok cs ∧ s.lock.2.commit c = (.ok (), (h.run s m draw).store) ∧
        (h.run s m draw).handle = ⟨.replay (cs ++ [c]), h.range⟩ ∧
        (∀ ds, (h.run s m draw).store.stored = .ok ds → ds = cs ++ [c]) ∧
        ((h.run s m draw).store.stored = .ok (cs ++ [c]) ↔ s.Whole)) := by
  have hr : h.Ran s m draw (h.run s m draw) := ran_run m draw fun cs hcs => by
    obtain ⟨n, hn⟩ := hshows cs hcs
    exact follows_of_prefix hn
  exact ⟨fun f hf => ⟨hr.stored_of_error hf, hr.handle_of_error hf⟩, fun a ha => hr.reads_of_ok ha⟩

open Workspace (oddCommit)

/-- A store that is closed for writing refuses a note. The handle, which had seen nothing, has
caught up with a commit that no mutation proposes, and has passed on its event. -/
theorem run_all_or_nothing_of_closed :
    ∃ o f c, c = oddCommit "s" "s" "change" ∧
      run {} (.memory [c] false) (.logEvent ⟨"s"⟩ .info "note") ⟨fun _ => default, ""⟩ = o ∧
      o.result = .error f ∧ o.store.stored = .ok [c] ∧
      o.handle = ⟨.replay [c], {}⟩ ∧ o.sent = c.events := by
  have hshows : ∀ cs, (Store.memory [oddCommit "s" "s" "change"] false).stored = .ok cs →
      ∃ n, ({} : Handle).workspace = .replay (cs.take n) := fun cs _ => ⟨0, rfl⟩
  have hfault : (run {} (.memory [oddCommit "s" "s" "change"] false)
      (.logEvent ⟨"s"⟩ .info "note") ⟨fun _ => default, ""⟩).result
        = .error (.storage "memory store is not writable") := rfl
  have hsent : (run {} (.memory [oddCommit "s" "s" "change"] false)
      (.logEvent ⟨"s"⟩ .info "note") ⟨fun _ => default, ""⟩).sent.isEmpty = false := by
    decide +kernel
  obtain ⟨hstored, ⟨-, hnone⟩ | ⟨cs, hcs, hhandle, hevents⟩⟩ :=
    (run_all_or_nothing {} _ _ _ hshows).1 _ hfault
  · rw [hnone] at hsent
    cases hsent
  · obtain rfl : [oddCommit "s" "s" "change"] = cs := Except.ok.inj hcs
    exact ⟨_, _, _, rfl, rfl, hfault, hstored, hhandle, hevents.trans (List.append_nil _)⟩

/-- A journal with one commit, whose line has no end, takes a note, and the handle that sent it is
told so. Then nothing can be read of the journal any more. -/
theorem run_behind_unfinished_line :
    ∃ (store : Store) (c : Commit) (o : Outcome), store.stored = .ok [c] ∧
      run {} store (.logEvent ⟨"s"⟩ .info "note") ⟨fun _ => default, ""⟩ = o ∧
      o.result = .ok (.seq 8) ∧ ∀ ds, o.store.stored ≠ .ok ds := by
  have hanswer : ((Mutation.logEvent ⟨"s"⟩ .info "note").propose
      (.replay [oddCommit "s" "s" "change"]) {} ⟨fun _ => default, ""⟩).map Prod.snd
        = .ok (.seq 8) :=
    toOption_eq_some.1 (by decide +kernel)
  -- nothing of the line is computed: it is read as its commit, and it has no end
  obtain ⟨c, hc⟩ : ∃ c, c = oddCommit "s" "s" "change" := ⟨_, rfl⟩
  rw [← hc] at hanswer
  generalize hb : (String.ofList (Journal.lineL c)).toUTF8 = b
  have hstored : (Store.journal "/journal" (Store.journalDisk b)).stored = .ok [c] := by
    rw [Store.stored_journalDisk, ← hb, Journal.loadBytes_lineL]
  have hr := ran_run (h := {}) (.logEvent ⟨"s"⟩ .info "note") ⟨fun _ => default, ""⟩
    fun cs (_ : (Store.journal "/journal" (Store.journalDisk b)).stored = .ok cs) =>
      follows_of_prefix (n := 0) rfl
  have hresult :=
    (hr.result_of_usable (Store.usable_journalDisk b) hstored rfl).trans hanswer
  refine ⟨_, c, _, hstored, rfl, hresult, fun ds hds => ?_⟩
  obtain ⟨cs, note, -, -, -, honly, hiff⟩ := hr.reads_of_ok hresult
  have hwhole := hiff.1 (honly ds hds ▸ hds)
  exact Journal.not_whole_lineL c (hb ▸ hwhole b rfl)

end Handle

end DevSession
