import DevSession.Proofs.Commit
import DevSession.Proofs.Replay
import Mathlib.Data.List.Basic
import Mathlib.Data.List.Induction

/-!
# Sessions in isolation

A commit belongs to one session, and a replay looks that session up by the name in the commit, which
may be any commit at all. This file says that the sessions of a replay do not disturb one another.

* `ids_replay`: the sessions are those that the commits mention, in the order of first mention.
* `find?_replay`: the state of a session is the fold of its own commits.
* `replay_isolates_sessions`: hence commits of other sessions can be put anywhere in between.
-/

namespace DevSession

/-! ## The commits of one session -/

namespace SessionState

/-- The state that the commits of one session lead to, from the first of them on. -/
def ofCommits? : List Commit → Option SessionState
  | [] => none
  | c :: rest => some ((c :: rest).foldl apply (new c.session))

theorem ofCommits?_concat_of_none {cs : List Commit} (c : Commit) (h : ofCommits? cs = none) :
    ofCommits? (cs ++ [c]) = some ((new c.session).apply c) := by
  cases cs with
  | nil => rfl
  | cons first rest => cases h

theorem ofCommits?_concat_of_some {cs : List Commit} {s : SessionState} (c : Commit)
    (h : ofCommits? cs = some s) : ofCommits? (cs ++ [c]) = some (s.apply c) := by
  cases cs with
  | nil => cases h
  | cons first rest =>
      obtain rfl := Option.some.inj h
      show some ((first :: (rest ++ [c])).foldl apply (new first.session)) = _
      rw [← List.cons_append, List.foldl_append]
      rfl

end SessionState

namespace Workspace

/-! ## The names of the sessions -/

/-- A commit mentions one name, which is there afterwards, and stands last if it is new. -/
theorem ids_apply (ws : Workspace) (c : Commit) :
    (ws.apply c).sessions.map SessionState.id
      = if c.session.id ∈ ws.sessions.map SessionState.id then ws.sessions.map SessionState.id
        else ws.sessions.map SessionState.id ++ [c.session.id] := by
  cases hs : ws.find? c.session.id with
  | none =>
      rw [if_neg (find?_eq_none_iff.1 hs), sessions_apply_of_none hs, List.map_append,
        List.map_singleton, SessionState.id_apply]
  | some s =>
      obtain ⟨front, back, hbefore, -, hid, hafter⟩ := sessions_apply_of_some hs
      rw [if_pos (by simp [hbefore, hid]), hafter, hbefore]
      simp [hid]

/-- **The sessions of a replay** are those that the commits mention, in the order of first
mention. -/
theorem ids_replay (cs : List Commit) :
    (∀ id, id ∈ (replay cs).sessions.map SessionState.id ↔ id ∈ cs.map fun c => c.session.id) ∧
      ((replay cs).sessions.map SessionState.id).Pairwise fun a b =>
        (cs.map fun c => c.session.id).idxOf a < (cs.map fun c => c.session.id).idxOf b := by
  induction cs using List.reverseRecOn with
  | nil => exact ⟨fun _ => Iff.rfl, .nil⟩
  | append_singleton cs c ih =>
      obtain ⟨hmem, horder⟩ := ih
      -- one more mention leaves the first mention of every name where it was
      have hkept : ∀ a ∈ (replay cs).sessions.map SessionState.id,
          ((cs ++ [c]).map fun c => c.session.id).idxOf a
            = (cs.map fun c => c.session.id).idxOf a := by
        intro a ha
        rw [List.map_append, List.idxOf_append_of_mem ((hmem a).1 ha)]
      have horder' : ((replay cs).sessions.map SessionState.id).Pairwise fun a b =>
          ((cs ++ [c]).map fun c => c.session.id).idxOf a
            < ((cs ++ [c]).map fun c => c.session.id).idxOf b := by
        apply horder.imp_of_mem
        intro a b ha hb hlt
        rw [hkept a ha, hkept b hb]
        exact hlt
      rw [replay_concat, ids_apply]
      by_cases hc : c.session.id ∈ (replay cs).sessions.map SessionState.id
      · rw [if_pos hc]
        refine ⟨?_, horder'⟩
        intro id
        have hknown := (hmem _).1 hc
        simp only [hmem, List.map_append, List.mem_append, List.map_singleton, List.mem_singleton]
        constructor
        · exact Or.inl
        · rintro (hid | rfl)
          · exact hid
          · exact hknown
      · rw [if_neg hc]
        constructor
        · intro id
          simp only [hmem, List.map_append, List.mem_append, List.map_singleton]
        · -- the new name is mentioned behind all others
          refine List.pairwise_append.2 ⟨horder', List.pairwise_singleton _ _, ?_⟩
          intro a ha b hb
          obtain rfl := List.mem_singleton.1 hb
          rw [hkept a ha, List.map_append, List.idxOf_append_of_notMem fun h => hc ((hmem _).2 h)]
          have := List.idxOf_lt_length_of_mem ((hmem a).1 ha)
          omega

theorem nodup_ids_replay (cs : List Commit) :
    ((replay cs).sessions.map SessionState.id).Nodup := by
  apply (ids_replay cs).2.imp
  intro a b hlt hab
  rw [hab] at hlt
  exact Nat.lt_irrefl _ hlt

/-- A session of a replay is found under its name. -/
theorem find?_replay_of_mem {cs : List Commit} {s : SessionState} (hs : s ∈ (replay cs).sessions) :
    (replay cs).find? s.id = some s := by
  obtain ⟨front, back, hsplit⟩ := List.append_of_mem hs
  have hnodup := nodup_ids_replay cs
  rw [hsplit, List.map_append, List.nodup_append] at hnodup
  refine List.find?_eq_some_iff_append.2 ⟨by simp, front, back, hsplit, fun t ht => ?_⟩
  simpa using hnodup.2.2 t.id (List.mem_map_of_mem ht) s.id (by simp)

/-! ## The state of one session -/

/-- **The state of a session is the fold of its own commits.** -/
theorem find?_replay (cs : List Commit) (id : SessionId) :
    (replay cs).find? id = SessionState.ofCommits? (cs.filter fun c => c.session.id = id) := by
  induction cs using List.reverseRecOn with
  | nil => rfl
  | append_singleton cs c ih =>
      rw [replay_concat, List.filter_append]
      by_cases hc : c.session.id = id
      · subst hc
        rw [List.filter_cons_of_pos (by simp), List.filter_nil]
        cases hs : (replay cs).find? c.session.id with
        | none =>
            rw [find?_apply_of_none hs, SessionState.ofCommits?_concat_of_none c (ih ▸ hs)]
        | some s =>
            rw [find?_apply_of_some hs, SessionState.ofCommits?_concat_of_some c (ih ▸ hs)]
      · rw [find?_apply_of_ne hc, ih, List.filter_cons_of_neg (by simpa using hc), List.filter_nil,
          List.append_nil]

/-- **Replay keeps sessions apart.** Whatever the commits are, no name comes twice, the sessions
stand in the order of first mention, and each is the fold of its own commits. So two lists in which
a session has the same commits agree on it, however the others are interleaved. -/
theorem replay_isolates_sessions (cs : List Commit) :
    ((replay cs).sessions.map SessionState.id).Nodup ∧
    (∀ id, id ∈ (replay cs).sessions.map SessionState.id ↔ id ∈ cs.map fun c => c.session.id) ∧
    ((replay cs).sessions.map SessionState.id).Pairwise (fun a b =>
      (cs.map fun c => c.session.id).idxOf a < (cs.map fun c => c.session.id).idxOf b) ∧
    (∀ s ∈ (replay cs).sessions, ∃ c rest,
      (cs.filter fun c => c.session.id = s.id) = c :: rest ∧
        s = (c :: rest).foldl SessionState.apply (.new c.session)) ∧
    ∀ ds id, (cs.filter fun c => c.session.id = id) = (ds.filter fun c => c.session.id = id) →
      (replay cs).find? id = (replay ds).find? id := by
  obtain ⟨hmem, horder⟩ := ids_replay cs
  refine ⟨nodup_ids_replay cs, hmem, horder, ?_, ?_⟩
  · intro s hs
    have hfind := find?_replay_of_mem hs
    rw [find?_replay] at hfind
    generalize hcs : (cs.filter fun c => c.session.id = s.id) = own at hfind
    cases own with
    | nil => cases hfind
    | cons c rest => exact ⟨c, rest, rfl, (Option.some.inj hfind).symm⟩
  · intro ds id heq
    rw [find?_replay, find?_replay, heq]

/-- The same two commits of session `a`, with one of session `b` between them or before them. The
order of the sessions changes with it, and the state of `a` does not. -/
theorem replay_isolates_sessions_of_interleaved :
    ∃ cs ds,
      cs = [oddCommit "a" "other" "x", oddCommit "b" "other" "y", oddCommit "a" "other" "z"] ∧
      ds = [oddCommit "b" "other" "w", oddCommit "a" "other" "x", oddCommit "a" "other" "z"] ∧
      (replay cs).sessions.map SessionState.id = [⟨"a"⟩, ⟨"b"⟩] ∧
      (replay ds).sessions.map SessionState.id = [⟨"b"⟩, ⟨"a"⟩] ∧
      (cs.filter fun c => c.session.id = ⟨"a"⟩) = (ds.filter fun c => c.session.id = ⟨"a"⟩) ∧
      (replay cs).find? ⟨"a"⟩ = (replay ds).find? ⟨"a"⟩ := by
  have hown : ([oddCommit "a" "other" "x", oddCommit "b" "other" "y",
      oddCommit "a" "other" "z"].filter
      fun c => c.session.id = ⟨"a"⟩)
        = [oddCommit "b" "other" "w", oddCommit "a" "other" "x", oddCommit "a" "other" "z"].filter
          fun c => c.session.id = ⟨"a"⟩ := by decide +kernel
  exact ⟨_, _, rfl, rfl, by decide +kernel, by decide +kernel, hown,
    (replay_isolates_sessions _).2.2.2.2 _ _ hown⟩

end Workspace

end DevSession
