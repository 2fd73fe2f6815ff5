import DevSession.Handle
import DevSession.Proofs.Fault
import DevSession.Proofs.Replay
import DevSession.Proofs.Store

/-!
# Laws of handles

A handle that has seen the first commits of a store (`Handle.Follows`) takes in the rest before it
looks at a mutation, so what it answers and what it stores is what any other handle would. The six
ways a mutation can go are spelled out once, in `Handle.Ran`; the rest is read off them.

* `Handle.Ran`, `ran_run`: how a mutation can go.
* `Store.serve`, `Store.serve_eq`: a mutation as the store sees it, whoever sends it.
-/

namespace DevSession

/-! ## Following a store -/

namespace Handle

variable {h : Handle} {s : Store} {cs : List Commit} {m : Mutation} {draw : Draw} {o : Outcome}

/-- What the handle shows is the replay of the commits it has seen, and these are the first ones. -/
structure Follows (h : Handle) (cs : List Commit) : Prop where
  seen_le : h.workspace.seen ≤ cs.length
  workspace_eq : h.workspace = .replay (cs.take h.workspace.seen)

theorem follows_of_prefix {n : Nat} (heq : h.workspace = .replay (cs.take n)) : h.Follows cs := by
  have hseen : h.workspace.seen = (cs.take n).length := by rw [heq, Workspace.seen_replay]
  refine ⟨?_, ?_⟩
  · rw [hseen, List.length_take]
    exact Nat.min_le_right n cs.length
  · rw [hseen, List.length_take, heq]
    congr 1
    rcases Nat.le_total n cs.length with hn | hn
    · rw [Nat.min_eq_left hn]
    · rw [Nat.min_eq_right hn, List.take_of_length_le hn, List.take_length]

theorem follows_replay (cs : List Commit) (range : ScoreRange) :
    (⟨.replay cs, range⟩ : Handle).Follows cs :=
  follows_of_prefix (n := cs.length) (by rw [List.take_length])

theorem Follows.append (hf : h.Follows cs) (ds : List Commit) : h.Follows (cs ++ ds) := by
  refine ⟨?_, ?_⟩
  · rw [List.length_append]
    exact Nat.le_add_right_of_le hf.seen_le
  · rw [List.take_append_of_le_length hf.seen_le]
    exact hf.workspace_eq

/-- The events that a handle passes on when it takes in the commits it has not seen. -/
def missed (h : Handle) (cs : List Commit) : List Event :=
  (cs.drop h.workspace.seen).flatMap Commit.events

/-- **A handle that takes in the commits it has not seen shows all of them, and passes on their
events.** -/
theorem Follows.catchUp_eq (hf : h.Follows cs) :
    h.catchUp (cs.drop h.workspace.seen) = (⟨.replay cs, h.range⟩, h.missed cs) := by
  have hall := Workspace.applyAll_drop_replay_take cs h.workspace.seen
  rw [← hf.workspace_eq] at hall
  rw [catchUp, Workspace.foldAll_eq, hall]
  rfl

/-! ## Opening -/

theorem openOn_snd (s : Store) (range : ScoreRange) : (openOn s range).2 = s.lock.2 := by
  rw [openOn, show s.lock = (s.lock.1, s.lock.2) from rfl]
  cases s.lock.1 <;> rfl

/-- A handle opens exactly on a store that can be held and read, and shows everything stored. -/
theorem openOn_eq_ok {range : ScoreRange} : (openOn s range).1 = .ok h ↔
    s.lock.1 = .ok () ∧ ∃ cs, s.stored = .ok cs ∧ h = ⟨.replay cs, range⟩ := by
  rw [openOn, show s.lock = (s.lock.1, s.lock.2) from rfl]
  cases s.lock.1 with
  | error f => simp
  | ok u =>
      show s.stored.map _ = .ok h ↔ _
      rw [map_eq_ok]
      simp [eq_comm]

/-! ## How a mutation can go -/

/-- The ways in which a mutation can go for a handle that follows the store: it is refused before
the store is looked at, the store cannot be held, or cannot be read, the mutation is rejected, the
commit is not taken, or it is. -/
inductive Ran (h : Handle) (s : Store) (m : Mutation) (draw : Draw) : Outcome → Prop
  | refused {f : Fault} (hpre : m.precheck h.range = .error f) : Ran h s m draw ⟨.error f, s, h, []⟩
  | unheld {f : Fault} (hpre : m.precheck h.range = .ok ()) (hlock : s.lock.1 = .error f) :
      Ran h s m draw ⟨.error f, s.lock.2, h, []⟩
  | unread {f : Fault} (hpre : m.precheck h.range = .ok ()) (hlock : s.lock.1 = .ok ())
      (hread : s.stored = .error f) : Ran h s m draw ⟨.error f, s.lock.2, h, []⟩
  | rejected {cs : List Commit} {f : Fault} (hpre : m.precheck h.range = .ok ())
      (hlock : s.lock.1 = .ok ()) (hread : s.stored = .ok cs)
      (hpropose : m.propose (.replay cs) h.range draw = .error f) :
      Ran h s m draw ⟨.error f, s.lock.2, ⟨.replay cs, h.range⟩, h.missed cs⟩
  | unwritten {cs : List Commit} {c : Commit} {a : Answer} {f : Fault}
      (hpre : m.precheck h.range = .ok ()) (hlock : s.lock.1 = .ok ()) (hread : s.stored = .ok cs)
      (hpropose : m.propose (.replay cs) h.range draw = .ok (c, a))
      (hcommit : (s.lock.2.commit c).1 = .error f) :
      Ran h s m draw ⟨.error f, (s.lock.2.commit c).2, ⟨.replay cs, h.range⟩, h.missed cs⟩
  | taken {cs : List Commit} {c : Commit} {a : Answer} (hpre : m.precheck h.range = .ok ())
      (hlock : s.lock.1 = .ok ()) (hread : s.stored = .ok cs)
      (hpropose : m.propose (.replay cs) h.range draw = .ok (c, a))
      (hcommit : (s.lock.2.commit c).1 = .ok ()) :
      Ran h s m draw ⟨.ok a, (s.lock.2.commit c).2, ⟨.replay (cs ++ [c]), h.range⟩,
        h.missed cs ++ c.events⟩

/-- **Every mutation by a handle that follows the store goes one of these ways.** -/
theorem ran_run (m : Mutation) (draw : Draw) (hf : ∀ cs, s.stored = .ok cs → h.Follows cs) :
    h.Ran s m draw (h.run s m draw) := by
  unfold run
  cases hpre : m.precheck h.range with
  | error f => exact .refused hpre
  | ok u =>
      rw [show s.lock = (s.lock.1, s.lock.2) from rfl]
      cases hlock : s.lock.1 with
      | error f => exact .unheld hpre hlock
      | ok u =>
          dsimp only
          rw [show s.lock.2.loadSince h.workspace.seen
            = s.stored.map (·.drop h.workspace.seen) from rfl]
          cases hread : s.stored with
          | error f => exact .unread hpre hlock hread
          | ok cs =>
              show Ran h s m draw ((h.catchUp _).1.settle _ m draw (h.catchUp _).2)
              rw [(hf cs hread).catchUp_eq, settle]
              cases hpropose : m.propose (.replay cs) h.range draw with
              | error f => exact .rejected hpre hlock hread hpropose
              | ok p =>
                  obtain ⟨c, a⟩ := p
                  dsimp only
                  rw [show s.lock.2.commit c
                    = ((s.lock.2.commit c).1, (s.lock.2.commit c).2) from rfl]
                  cases hcommit : (s.lock.2.commit c).1 with
                  | error f => exact .unwritten hpre hlock hread hpropose hcommit
                  | ok u =>
                      dsimp only
                      rw [Workspace.fold_eq, ← Workspace.replay_concat]
                      exact .taken hpre hlock hread hpropose hcommit

/-! ## What a mutation leaves behind -/

/-- What is done was not refused at first sight. -/
theorem precheck_of_ok {a : Answer} (ha : (h.run s m draw).result = .ok a) :
    m.precheck h.range = .ok () := by
  unfold run at ha
  cases hpre : m.precheck h.range with
  | ok u => rfl
  | error f =>
      rw [hpre] at ha
      cases ha

/-- A store to which a mutation was not done answers as before. -/
theorem Ran.alike_of_error (hr : h.Ran s m draw o) {f : Fault} (he : o.result = .error f) :
    o.store.Alike s := by
  cases hr with
  | refused _ => exact .refl s
  | unheld | unread | rejected => exact Store.alike_lock s
  | unwritten _ hlock _ _ hcommit =>
      have hheld : s.lock.2.lock.1 = .ok () := by rw [Store.lock_lock, hlock]
      exact (Store.alike_commit_of_error hheld hcommit).trans (Store.alike_lock s)
  | taken => cases he

/-- A mutation that is not done leaves the stored commits as they were. -/
theorem Ran.stored_of_error (hr : h.Ran s m draw o) {f : Fault} (he : o.result = .error f) :
    o.store.stored = s.stored :=
  (hr.alike_of_error he).stored_eq

/-- A mutation that is done has given one commit to the store, which took it, and the handle shows
that commit behind all that was stored. -/
theorem Ran.committed_of_ok (hr : h.Ran s m draw o) {a : Answer} (ha : o.result = .ok a) :
    ∃ cs c, s.stored = .ok cs ∧ m.propose (.replay cs) h.range draw = .ok (c, a) ∧
      s.lock.2.commit c = (.ok (), o.store) ∧ o.handle = ⟨.replay (cs ++ [c]), h.range⟩ ∧
      o.sent = h.missed cs ++ c.events := by
  cases hr with
  | @taken cs c a' hpre hlock hread hpropose hcommit =>
      cases ha
      exact ⟨cs, c, hread, hpropose, Prod.ext hcommit rfl, rfl, rfl⟩
  | _ => cases ha

/-- A mutation that is done puts one commit behind the others, and the handle shows them all. -/
theorem Ran.taken_of_ok (hw : s.Whole) (hr : h.Ran s m draw o) {a : Answer}
    (ha : o.result = .ok a) :
    ∃ cs c, s.stored = .ok cs ∧ m.propose (.replay cs) h.range draw = .ok (c, a) ∧
      o.store.stored = .ok (cs ++ [c]) ∧ o.handle = ⟨.replay (cs ++ [c]), h.range⟩ ∧
      o.sent = h.missed cs ++ c.events := by
  obtain ⟨cs, c, hread, hpropose, hcommit, hhandle, hsent⟩ := hr.committed_of_ok ha
  have hheld : s.lock.2.stored = .ok cs := (Store.stored_lock s).trans hread
  have hafter := Store.stored_commit (c := c) (Store.whole_lock hw) hheld (by rw [hcommit])
  rw [hcommit] at hafter
  exact ⟨cs, c, hread, hpropose, hafter, hhandle, hsent⟩

/-- A handle whose mutation is not done has not moved, or has taken in all that is stored. -/
theorem Ran.handle_of_error (hr : h.Ran s m draw o) {f : Fault} (he : o.result = .error f) :
    (o.handle = h ∧ o.sent = []) ∨
      ∃ cs, s.stored = .ok cs ∧ o.handle = ⟨.replay cs, h.range⟩ ∧ o.sent = h.missed cs := by
  cases hr with
  | refused hpre => exact .inl ⟨rfl, rfl⟩
  | unheld hpre hlock => exact .inl ⟨rfl, rfl⟩
  | unread hpre hlock hread => exact .inl ⟨rfl, rfl⟩
  | rejected hpre hlock hread hpropose => exact .inr ⟨_, hread, rfl, rfl⟩
  | unwritten hpre hlock hread hpropose hcommit => exact .inr ⟨_, hread, rfl, rfl⟩
  | taken hpre hlock hread hpropose hcommit => cases he

theorem Ran.lock_of_ok (hr : h.Ran s m draw o) {a : Answer} (ha : o.result = .ok a) :
    s.lock.1 = .ok () := by
  cases hr with
  | taken hpre hlock hread hpropose hcommit => exact hlock
  | _ => cases ha

theorem Ran.range_eq (hr : h.Ran s m draw o) : o.handle.range = h.range := by
  cases hr <;> rfl

/-- A handle has seen no less after a mutation. -/
theorem Ran.seen_le (hr : h.Ran s m draw o) (hf : ∀ cs, s.stored = .ok cs → h.Follows cs) :
    h.workspace.seen ≤ o.handle.workspace.seen := by
  cases hr with
  | refused | unheld | unread => exact Nat.le_refl _
  | rejected _ _ hread _ =>
      rw [Workspace.seen_replay]
      exact (hf _ hread).seen_le
  | unwritten _ _ hread _ _ =>
      rw [Workspace.seen_replay]
      exact (hf _ hread).seen_le
  | taken _ _ hread _ _ =>
      rw [Workspace.seen_replay, List.length_append]
      exact Nat.le_add_right_of_le (hf _ hread).seen_le

/-! ## Stores that can be used -/

/-- **A usable store answers what the mutation comes to** in the light of all that is stored. -/
theorem Ran.result_of_usable (hr : h.Ran s m draw o) (hu : s.Usable) (hcs : s.stored = .ok cs)
    (hpre : m.precheck h.range = .ok ()) :
    o.result = (m.propose (.replay cs) h.range draw).map Prod.snd := by
  cases hr with
  | refused hrefused => cases hpre.symm.trans hrefused
  | unheld _ hlock => cases hu.held.symm.trans hlock
  | unread _ _ hread => cases hcs.symm.trans hread
  | rejected _ _ hread hpropose =>
      cases hcs.symm.trans hread
      rw [hpropose]
      rfl
  | unwritten _ _ _ _ hcommit => cases (hu.taken _).symm.trans hcommit
  | taken _ _ hread hpropose _ =>
      cases hcs.symm.trans hread
      rw [hpropose]
      rfl

theorem Ran.usable (hr : h.Ran s m draw o) (hu : s.Usable) : o.store.Usable := by
  cases hr with
  | refused _ => exact hu
  | unheld _ _ => exact hu.lock
  | unread _ _ _ => exact hu.lock
  | rejected _ _ _ _ => exact hu.lock
  | unwritten _ _ _ _ _ => exact hu.commit _
  | taken _ _ _ _ _ => exact hu.commit _

end Handle

/-! ## A mutation as the store sees it -/

namespace Store

/-- What a mutation comes to: it is looked at in the light of all that is stored. No handle is in
sight here. -/
def serve (s : Store) (range : ScoreRange) (m : Mutation) (draw : Draw) :
    Except Fault Answer × Store :=
  match m.precheck range with
  | .error f => (.error f, s)
  | .ok () =>
    match s.lock.1, s.stored with
    | .error f, _ => (.error f, s.lock.2)
    | .ok (), .error f => (.error f, s.lock.2)
    | .ok (), .ok cs =>
      match m.propose (.replay cs) range draw with
      | .error f => (.error f, s.lock.2)
      | .ok (c, answer) => ((s.lock.2.commit c).1.map fun _ => answer, (s.lock.2.commit c).2)

/-- **The answer to a mutation, and what becomes of the store, depend on the store alone**, and not
on what the handle had seen of it. -/
theorem serve_eq {h : Handle} {s : Store} {m : Mutation} {draw : Draw} {o : Outcome}
    (hr : h.Ran s m draw o) : s.serve h.range m draw = (o.result, o.store) := by
  unfold serve
  cases hr with
  | refused hpre => rw [hpre]
  | unheld hpre hlock => rw [hpre, hlock]
  | unread hpre hlock hread => rw [hpre, hlock, hread]
  | rejected hpre hlock hread hpropose => rw [hpre, hlock, hread]; dsimp only; rw [hpropose]
  | unwritten hpre hlock hread hpropose hcommit =>
      rw [hpre, hlock, hread]
      dsimp only
      rw [hpropose]
      dsimp only
      rw [hcommit]
      rfl
  | taken hpre hlock hread hpropose hcommit =>
      rw [hpre, hlock, hread]
      dsimp only
      rw [hpropose]
      dsimp only
      rw [hcommit]
      rfl

theorem Alike.serve_fst_eq {s t : Store} (h : s.Alike t) (range : ScoreRange) (m : Mutation)
    (draw : Draw) : (s.serve range m draw).1 = (t.serve range m draw).1 := by
  unfold serve
  cases m.precheck range with
  | error f => rfl
  | ok u =>
      rw [h.lock_eq, h.stored_eq]
      cases t.lock.1 with
      | error f => rfl
      | ok u =>
          cases t.stored with
          | error f => rfl
          | ok cs =>
              dsimp only
              cases m.propose (.replay cs) range draw with
              | error f => rfl
              | ok p =>
                  obtain ⟨c, answer⟩ := p
                  dsimp only
                  rw [h.commit_eq]

/-- Two stores that are held alike give the same answer to a mutation, and are held alike
afterwards. -/
theorem serve_of_lock_eq {s t : Store} (h : s.lock = t.lock) (range : ScoreRange) (m : Mutation)
    (draw : Draw) : (s.serve range m draw).1 = (t.serve range m draw).1 ∧
      (s.serve range m draw).2.lock = (t.serve range m draw).2.lock := by
  have hstored : s.stored = t.stored := by rw [stored, stored, h]
  unfold serve
  cases m.precheck range with
  | error f => exact ⟨rfl, h⟩
  | ok u =>
      rw [h, hstored]
      exact ⟨rfl, rfl⟩

end Store

end DevSession
