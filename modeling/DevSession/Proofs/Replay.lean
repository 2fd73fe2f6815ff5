import DevSession.Workspace

/-!
# Laws of replay

A workspace is the fold of its commits. This file says what the fold does with a list that is cut in
two, how far a replayed workspace has seen, and what one commit does to the sessions: it changes the
session it belongs to, or adds it, and leaves all others alone. The events that the fold gives back
are those of the commits.

* `SessionState.fold_eq`, `Workspace.fold_eq`, `Workspace.foldAll_eq`: the fold in two parts, what
  there is afterwards and the events.
* `replay_append`, `seen_replay`: replaying in two parts, and counting.
* `applyAll_drop_replay_take`: a workspace that has seen a prefix catches up with the rest.
* `mem_apply`: the sessions after a commit.
* `tasks_apply`: the task graph after a commit.
-/

namespace DevSession

/-! ## The events of a commit -/

namespace SessionState

theorem foldl_foldRecord (rs : List Record) (s : SessionState) (added : List Event) :
    rs.foldl foldRecord (s, added)
      = (rs.foldl applyRecord s, added ++ rs.filterMap Record.event?) := by
  induction rs generalizing s added with
  | nil => rw [List.filterMap_nil, List.append_nil]; rfl
  | cons r rest ih =>
      rw [List.foldl_cons, foldRecord, ih, List.foldl_cons, List.append_assoc]
      cases hr : r.event? with
      | none => rw [List.filterMap_cons_none hr]; rfl
      | some e => rw [List.filterMap_cons_some hr]; rfl

/-- **A commit that is folded in gives back its events**, and each of its records is taken in. -/
theorem fold_eq (s : SessionState) (c : Commit) :
    s.fold c = (c.records.foldl applyRecord { s with session := c.session }, c.events) :=
  foldl_foldRecord c.records _ []

theorem apply_eq_foldl (s : SessionState) (c : Commit) :
    s.apply c = c.records.foldl applyRecord { s with session := c.session } := by
  rw [apply, fold_eq]

theorem fold_eq_apply (s : SessionState) (c : Commit) : s.fold c = (s.apply c, c.events) := by
  rw [apply, fold_eq]

end SessionState

namespace Workspace

/-- Sessions after a commit: the session it belongs to changes, and one that is new comes last. -/
def applyL (c : Commit) : List SessionState → List SessionState
  | [] => [(SessionState.new c.session).apply c]
  | s :: rest => if s.id = c.session.id then s.apply c :: rest else s :: applyL c rest

theorem foldL_eq (c : Commit) (l : List SessionState) : foldL c l = (applyL c l, c.events) := by
  induction l with
  | nil => rw [foldL, SessionState.fold_eq_apply, applyL]
  | cons s rest ih =>
      rw [foldL, applyL, SessionState.fold_eq_apply, ih]
      split <;> rfl

theorem apply_eq_applyL (ws : Workspace) (c : Commit) :
    ws.apply c = ⟨applyL c ws.sessions, ws.seen + 1⟩ := by
  rw [apply, fold, foldL_eq]

/-- **A commit that is folded into a workspace gives back its events**, whichever session it belongs
to. -/
theorem fold_eq (ws : Workspace) (c : Commit) : ws.fold c = (ws.apply c, c.events) := by
  rw [apply, fold, foldL_eq]

/-- **Commits that are folded in one after the other give back their events in order.** -/
theorem foldAll_eq (ws : Workspace) (cs : List Commit) :
    ws.foldAll cs = (ws.applyAll cs, cs.flatMap Commit.events) := by
  have hfrom : ∀ added, cs.foldl (fun acc c => ((acc.1.fold c).1, acc.2 ++ (acc.1.fold c).2))
      (ws, added) = (ws.applyAll cs, added ++ cs.flatMap Commit.events) := by
    induction cs generalizing ws with
    | nil => exact fun added => by rw [List.flatMap_nil, List.append_nil]; rfl
    | cons c rest ih =>
        intro added
        rw [List.foldl_cons, fold_eq, ih, List.flatMap_cons, List.append_assoc]
        rfl
  exact hfrom []

/-! ## The fold -/

theorem applyAll_append (ws : Workspace) (cs ds : List Commit) :
    ws.applyAll (cs ++ ds) = (ws.applyAll cs).applyAll ds :=
  List.foldl_append

theorem replay_append (cs ds : List Commit) : replay (cs ++ ds) = (replay cs).applyAll ds :=
  applyAll_append _ cs ds

theorem replay_concat (cs : List Commit) (c : Commit) :
    replay (cs ++ [c]) = (replay cs).apply c :=
  replay_append cs [c]

@[simp]
theorem seen_apply (ws : Workspace) (c : Commit) : (ws.apply c).seen = ws.seen + 1 :=
  rfl

theorem seen_applyAll (ws : Workspace) (cs : List Commit) :
    (ws.applyAll cs).seen = ws.seen + cs.length := by
  induction cs generalizing ws with
  | nil => rfl
  | cons c rest ih =>
      show ((ws.apply c).applyAll rest).seen = _
      rw [ih, seen_apply, List.length_cons]
      omega

/-- A replayed workspace has seen as many commits as were replayed. -/
@[simp]
theorem seen_replay (cs : List Commit) : (replay cs).seen = cs.length := by
  rw [replay, seen_applyAll]
  exact Nat.zero_add _

/-- A workspace that is the replay of a prefix becomes the replay of the whole list when the commits
behind the prefix are applied. -/
theorem applyAll_drop_replay_take (cs : List Commit) (n : Nat) :
    (replay (cs.take n)).applyAll (cs.drop n) = replay cs := by
  rw [← replay_append, List.take_append_drop]

/-! ## One commit -/

/-- A session after a commit is a session from before that the commit does not belong to, or the one
it belongs to with the commit applied, or a new one. -/
theorem mem_applyL {c : Commit} {l : List SessionState} {s : SessionState}
    (h : s ∈ applyL c l) :
    s ∈ l ∨ (∃ t, (l.find? fun t => t.id = c.session.id) = some t ∧ s = t.apply c) ∨
      (l.find? fun t => t.id = c.session.id) = none ∧ s = (SessionState.new c.session).apply c := by
  induction l with
  | nil => exact Or.inr (Or.inr ⟨rfl, List.mem_singleton.1 h⟩)
  | cons t rest ih =>
      unfold applyL at h
      split at h
      · rename_i hid
        rcases List.mem_cons.1 h with rfl | h
        · exact Or.inr (Or.inl ⟨t, by simp [hid], rfl⟩)
        · exact Or.inl (List.mem_cons_of_mem _ h)
      · rename_i hid
        rcases List.mem_cons.1 h with rfl | h
        · exact Or.inl List.mem_cons_self
        · rw [List.find?_cons_of_neg (by simpa using hid)]
          rcases ih h with h | h
          · exact Or.inl (List.mem_cons_of_mem _ h)
          · exact Or.inr h

theorem mem_apply {ws : Workspace} {c : Commit} {s : SessionState}
    (h : s ∈ (ws.apply c).sessions) :
    s ∈ ws.sessions ∨ (∃ t, ws.find? c.session.id = some t ∧ s = t.apply c) ∨
      ws.find? c.session.id = none ∧ s = (SessionState.new c.session).apply c := by
  rw [apply_eq_applyL] at h
  exact mem_applyL h

/-- A commit that no mutation proposes: it starts its session over, and its only event is numbered 7
and may tell of another session. -/
def oddCommit (name about request : String) : Commit :=
  ⟨.start ⟨name⟩ request {} default, [.event ⟨7, ⟨about⟩, default, .info, request, .caller, none⟩],
    default⟩

end Workspace

/-! ## The task graph after a commit -/

/-- The task in a record. -/
def Record.task? : Record → Option Task
  | task t => some t
  | _ => none

namespace SessionState

/-- **A part of the state that only one kind of record changes** is, after a commit, the fold over
the records of that kind. -/
theorem part_apply {β γ : Type} (part : SessionState → β) (kind? : Record → Option γ)
    (put : β → γ → β)
    (hrecord : ∀ s r, part (applyRecord s r) = (kind? r).elim (part s) (put (part s)))
    (hsession : ∀ s session, part { s with session } = part s) (s : SessionState) (c : Commit) :
    part (s.apply c) = (c.records.filterMap kind?).foldl put (part s) := by
  have hfold : ∀ (rs : List Record) (s : SessionState),
      part (rs.foldl applyRecord s) = (rs.filterMap kind?).foldl put (part s) := by
    intro rs
    induction rs with
    | nil => exact fun s => rfl
    | cons r rest ih =>
        intro s
        rw [List.foldl_cons, ih, hrecord]
        cases hr : kind? r with
        | none => rw [List.filterMap_cons_none hr]; rfl
        | some x => rw [List.filterMap_cons_some hr]; rfl
  rw [apply_eq_foldl, hfold, hsession]

/-- A commit puts its tasks into the graph, one after the other, and changes nothing else there. -/
theorem tasks_apply (s : SessionState) (c : Commit) :
    (s.apply c).tasks = (c.records.filterMap Record.task?).foldl TaskGraph.put s.tasks :=
  part_apply SessionState.tasks Record.task? TaskGraph.put (fun s r => by cases r <;> rfl)
    (fun _ _ => rfl) s c

end SessionState

end DevSession
