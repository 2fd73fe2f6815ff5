import DevSession.Proofs.Admission
import DevSession.Proofs.Retention

/-!
# Numbers are given in turn

A session numbers the versions of its plan, its critics, its tasks and its reviews. Each number is
the last one and one more, as the session shows it, and nothing but the four mutations that ask for
a number takes one. So the numbers of a session run from one to the count of these mutations, and
the caller is told the number that is stored.

* `Numbering`, `SessionState.numbers`: what is numbered, and the numbers that were given.
* `SessionState.Counts`, `Takes.counts`: what a mutation does to the numbers of a session.
* `Life.numbering_eq`: the numbers of a session are those from one on, one for each request.
* `Chronicle.countP_numbers?`: the requests for a number are among the mutations of the session.
* `Chronicle.number_last`: the caller is told the number that is stored.
-/

namespace DevSession

/-! ## What is numbered -/

/-- What a session numbers: the versions of its plan, its critics, its tasks, and its reviews. -/
inductive Numbering where
  | plans
  | critics
  | tasks
  | reviews
  deriving DecidableEq

/-- The number after the last one that was given. -/
def Numbering.after (given : List Nat) : Nat :=
  given.getLast?.getD 0 + 1

theorem Numbering.after_range' (n : Nat) : after (List.range' 1 n) = n + 1 := by
  cases n with
  | zero => rfl
  | succ n =>
      rw [after, List.range'_1_concat, List.getLast?_append]
      simp
      omega

/-- The numbers of the entries of a roster, in order. -/
def Roster.numbers {α : Type} {s : Series} [Numbered α s] (r : Roster α) : List Nat :=
  r.entries.map fun a => (Numbered.id a).num.toNat

/-- The numbers that a session has given, in order. -/
def SessionState.numbers (s : SessionState) : Numbering → List Nat
  | .plans => s.plans.versions.map fun p => p.version.toNat
  | .critics => s.panel.critics.numbers
  | .tasks => s.tasks.tasks.numbers
  | .reviews => s.gate.reviews.numbers

/-- The session of which a mutation takes a number, and the numbering. -/
def Mutation.numbers? : Mutation → Option (SessionId × Numbering)
  | logPlan id _ _ _ => some (id, .plans)
  | spawnCritic id _ _ => some (id, .critics)
  | createTask id _ _ _ => some (id, .tasks)
  | spawnReview id _ _ => some (id, .reviews)
  | _ => none

/-- The number that the caller is told, and the numbering. -/
def Answer.number? : Answer → Option (Numbering × Nat)
  | version n => some (.plans, n.toNat)
  | critic id => some (.critics, id.num.toNat)
  | task id => some (.tasks, id.num.toNat)
  | review id => some (.reviews, id.num.toNat)
  | _ => none

/-- The number of an entity, and the numbering. -/
def Record.number? : Record → Option (Numbering × Nat)
  | plan p => some (.plans, p.version.toNat)
  | critic c => some (.critics, c.id.num.toNat)
  | task t => some (.tasks, t.id.num.toNat)
  | review r => some (.reviews, r.id.num.toNat)
  | _ => none

theorem Mutation.named_of_numbers? {m : Mutation} {id : SessionId} {k : Numbering}
    (h : m.numbers? = some (id, k)) : m.named? = some id := by
  cases m <;> cases h <;> rfl

/-! ## The next number -/

namespace Roster

variable {α : Type} {s : Series} [Numbered α s] {r : Roster α} {a b : α}

theorem toNat_nextId {id : Id s} (h : r.nextId = .ok id) :
    id.num.toNat = Numbering.after r.numbers := by
  unfold nextId at h
  rw [Numbering.after, numbers, List.getLast?_map]
  cases hlast : r.entries.getLast? with
  | none =>
      rw [hlast] at h
      cases h
      rfl
  | some last =>
      rw [hlast] at h
      obtain ⟨n, hn, rfl⟩ := map_eq_ok.1 h
      exact Counter.toNat_next32 hn

/-- An entry with the next number adds that number. -/
theorem numbers_put_of_nextId (h : r.nextId = .ok (Numbered.id a)) :
    (r.put a).numbers = r.numbers ++ [(Numbered.id a).num.toNat] := by
  rw [numbers, entries_put_of_nextId h, List.map_append]
  rfl

/-- An entry that takes the place of one with its number adds none. -/
theorem numbers_put_of_find? (h : r.find? (Numbered.id a) = some b) :
    (r.put a).numbers = r.numbers := by
  obtain ⟨front, back, hbefore, hafter⟩ := entries_put_of_find? h
  have hid : Numbered.id b = Numbered.id a := (find?_eq_some_iff.1 h).2
  simp only [numbers, hbefore, hafter, List.map_append, List.map_cons, hid]

end Roster

theorem PlanHistory.toNat_nextVersion {history : PlanHistory} {n : UInt32}
    (h : history.nextVersion = .ok n) :
    n.toNat = Numbering.after (history.versions.map fun p => p.version.toNat) := by
  unfold nextVersion current? at h
  rw [Numbering.after, List.getLast?_map]
  cases hlast : history.versions.getLast? with
  | none =>
      rw [hlast] at h
      cases h
      rfl
  | some last =>
      rw [hlast] at h
      exact Counter.toNat_next32 h

/-- A new version of the plan has the next number. -/
theorem PlanHistory.draft_eq_ok {history : PlanHistory} {overview : String}
    {components : List String} {fileChanges : List FileChange} {now : Instant} {plan : Plan}
    (h : history.draft overview components fileChanges now = .ok plan) :
    history.nextVersion = .ok plan.version ∧ plan.createdAt = now := by
  unfold draft at h
  split at h
  · cases h
  · obtain ⟨n, hn, h⟩ := bind_eq_ok.1 h
    cases h
    exact ⟨hn, rfl⟩

/-! ## What a mutation does to the numbers -/

namespace SessionState

variable {s : SessionState} {range : ScoreRange} {clock : Clock} {now : Instant} {m : Mutation}
  {change : Change} {c : Commit} {answer : Answer}

/-- The numbers depend on the entities only. -/
theorem numbers_apply (s : SessionState) (c : Commit) (k : Numbering) :
    (s.apply c).numbers k = (c.entities.foldl applyRecord s).numbers k := by
  rw [apply_eq]
  cases k <;> rfl

theorem numbers_applyRecord_plan (plan : Plan) (k : Numbering) :
    (s.applyRecord (.plan plan)).numbers k
      = if k = .plans then s.numbers .plans ++ [plan.version.toNat] else s.numbers k := by
  cases k with
  | plans => exact List.map_append
  | critics | tasks | reviews => rfl

theorem numbers_applyRecord_critic (critic : Critic) (k : Numbering) :
    (s.applyRecord (.critic critic)).numbers k
      = if k = .critics then (s.panel.critics.put critic).numbers else s.numbers k := by
  cases k <;> rfl

theorem numbers_applyRecord_task (task : Task) (k : Numbering) :
    (s.applyRecord (.task task)).numbers k
      = if k = .tasks then (s.tasks.tasks.put task).numbers else s.numbers k := by
  cases k <;> rfl

theorem numbers_applyRecord_review (review : Review) (k : Numbering) :
    (s.applyRecord (.review review)).numbers k
      = if k = .reviews then (s.gate.reviews.put review).numbers else s.numbers k := by
  cases k <;> rfl

/-- The end of a session gives no number. -/
theorem numbers_apply_of_finish
    (h : c.entities = s.panel.abandon.map .critic ++ s.gate.abandon.map .review)
    (k : Numbering) : (s.apply c).numbers k = s.numbers k := by
  cases k with
  | plans =>
      have hnone : c.entities.filterMap Record.plan? = [] := by simp [h, Record.plan?]
      simp only [numbers, plans_apply, hnone, List.append_nil]
  | critics =>
      simp only [numbers, Roster.numbers, critics_apply_of_finish h, List.map_map]
      apply List.map_congr_left
      intro critic _
      simp only [Function.comp_apply]
      split <;> rfl
  | tasks => simp only [numbers, tasks_apply_of_finish h]
  | reviews =>
      simp only [numbers, Roster.numbers, reviews_apply_of_finish h, List.map_map]
      apply List.map_congr_left
      intro review _
      simp only [Function.comp_apply]
      split <;> rfl

/-- What a mutation does to the numbers of a session. -/
inductive Counts (s : SessionState) (m : Mutation) (c : Commit) (answer : Answer) : Prop
  /-- No number is given. -/
  | keep (hnone : m.numbers? = none) (hafter : ∀ k, (s.apply c).numbers k = s.numbers k)
  /-- The next number is given to the one entity of the commit, and the caller is told. -/
  | give {k : Numbering} {r : Record} (hm : m.numbers? = some (s.id, k))
      (hentities : c.entities = [r])
      (hrecord : r.number? = some (k, Numbering.after (s.numbers k)))
      (hanswer : answer.number? = some (k, Numbering.after (s.numbers k)))
      (hafter : ∀ j, (s.apply c).numbers j
        = if j = k then s.numbers k ++ [Numbering.after (s.numbers k)] else s.numbers j)

/-- A commit whose entity takes the place of one with its number gives none. -/
theorem Counts.of_known {r : Record} (hnone : m.numbers? = none) (hentities : c.entities = [r])
    (hr : ∀ k, (s.applyRecord r).numbers k = s.numbers k) : s.Counts m c answer := by
  apply Counts.keep hnone
  intro k
  rw [numbers_apply, hentities]
  exact hr k

/-- A commit whose entity has the next number gives that number. -/
theorem Counts.of_next {k : Numbering} {r : Record} {n : Nat}
    (hn : n = Numbering.after (s.numbers k)) (hm : m.numbers? = some (s.id, k))
    (hentities : c.entities = [r]) (hrecord : r.number? = some (k, n))
    (hanswer : answer.number? = some (k, n))
    (hr : ∀ j, (s.applyRecord r).numbers j
      = if j = k then s.numbers k ++ [n] else s.numbers j) : s.Counts m c answer := by
  subst hn
  apply Counts.give hm hentities hrecord hanswer
  intro j
  rw [numbers_apply, hentities]
  exact hr j

/-- A task that changes keeps its number. -/
theorem Counts.of_task {id : TaskId} {t t' : Task} (hnone : m.numbers? = none)
    (hentities : c.entities = [.task t']) (hfind : s.tasks.find? id = some t)
    (hid : t'.id = t.id) : s.Counts m c answer := by
  have hfind' : s.tasks.tasks.find? (Numbered.id t') = some t := by
    rw [show Numbered.id t' = t.id from hid, TaskGraph.id_of_find? hfind]
    exact hfind
  apply Counts.of_known hnone hentities
  intro k
  rw [numbers_applyRecord_task, Roster.numbers_put_of_find? hfind']
  cases k <;> rfl

/-- **A mutation that asks for a number gets the next one, and no other gets any.** -/
theorem Takes.counts (h : s.Takes range clock m c answer) : s.Counts m c answer := by
  cases h with
  | finish _ _ _ hentities _ => exact .keep rfl (numbers_apply_of_finish hentities)
  | note _ _ hentities _ =>
      apply Counts.keep rfl
      intro k
      rw [numbers_apply, hentities]
      rfl
  | change hid _ hmakes _ hentities _ =>
      cases hmakes with
      | logPlan h =>
          cases hid
          have hn := PlanHistory.toNat_nextVersion (PlanHistory.draft_eq_ok h).1
          exact .of_next (k := .plans) hn rfl hentities rfl rfl (numbers_applyRecord_plan _)
      | spawnCritic h =>
          cases hid
          obtain ⟨hnext, -⟩ := Panel.spawn_eq_ok h
          apply Counts.of_next (k := .critics) (Roster.toNat_nextId hnext) rfl hentities rfl rfl
          intro j
          rw [numbers_applyRecord_critic, Roster.numbers_put_of_nextId hnext]
          rfl
      | createTask h =>
          cases hid
          obtain ⟨-, -, id, hnext, -, rfl⟩ := TaskGraph.create_eq_ok_iff.1 h
          apply Counts.of_next (k := .tasks) (Roster.toNat_nextId hnext) rfl hentities rfl rfl
          intro j
          rw [numbers_applyRecord_task, Roster.numbers_put_of_nextId hnext]
          rfl
      | spawnReview h =>
          cases hid
          obtain ⟨hnext, -⟩ := ReviewGate.spawn_eq_ok h
          apply Counts.of_next (k := .reviews) (Roster.toNat_nextId hnext) rfl hentities rfl rfl
          intro j
          rw [numbers_applyRecord_review, Roster.numbers_put_of_nextId hnext]
          rfl
      | logSynthesis h =>
          apply Counts.of_known rfl hentities
          intro k
          cases k <;> rfl
      | reportCritic h =>
          obtain ⟨before, hfind, -, rfl⟩ := Panel.report_eq_ok h
          obtain ⟨-, rfl⟩ := Roster.find?_eq_some_iff.1 hfind
          apply Counts.of_known rfl hentities
          intro k
          rw [numbers_applyRecord_critic, Roster.numbers_put_of_find? (by exact hfind)]
          cases k <;> rfl
      | reportReview h =>
          obtain ⟨before, hfind, -, rfl⟩ := ReviewGate.report_eq_ok h
          obtain ⟨-, rfl⟩ := Roster.find?_eq_some_iff.1 hfind
          apply Counts.of_known rfl hentities
          intro k
          rw [numbers_applyRecord_review, Roster.numbers_put_of_find? (by exact hfind)]
          cases k <;> rfl
      | addDependency h =>
          obtain ⟨t, hfind, -, -, -, -, rfl⟩ := TaskGraph.addDependency_eq_ok_iff.1 h
          exact .of_task rfl hentities hfind rfl
      | startTask h =>
          obtain ⟨t, hfind, -, -, rfl⟩ := TaskGraph.start_eq_ok_iff.1 h
          exact .of_task rfl hentities hfind rfl
      | setPhase h =>
          obtain ⟨t, move, hfind, -, -, rfl⟩ := TaskGraph.setPhase_eq_ok_iff.1 h
          exact .of_task rfl hentities hfind rfl
      | reopenTask h =>
          obtain ⟨t, hfind, -, -, -, hreopen⟩ := TaskGraph.reopen_eq_ok_iff.1 h
          obtain ⟨count, -, rfl⟩ := TaskGraph.reopen_task_eq hreopen
          exact .of_task rfl hentities hfind rfl

end SessionState

/-! ## The numbers of a session -/

/-- **The numbers of a session run from one to the count of the mutations that asked for one.** -/
theorem Life.numbering_eq {es : List Accepted} {s : SessionState} (h : Life es s)
    (k : Numbering) :
    s.numbers k = List.range' 1 (es.countP fun e => e.mutation.numbers? = some (s.id, k)) := by
  induction h with
  | @start e hstarts =>
      obtain ⟨request, config, hmutation, -⟩ := hstarts.mutation_eq
      rw [SessionState.numbers_apply, hstarts.entities_eq]
      cases k <;> simp [hmutation, Mutation.numbers?] <;> rfl
  | @take es e s hlife htaken ih =>
      rw [SessionState.id_apply, SessionState.Takes.id_eq htaken, List.countP_append,
        List.countP_singleton]
      cases SessionState.Takes.counts htaken with
      | keep hnone hafter =>
          rw [hafter, ih, hnone]
          simp
      | @give k' r hm hentities hrecord hanswer hafter =>
          rw [hafter, hm]
          by_cases hk : k = k'
          · -- the number after those from one on is the count and one more
            subst hk
            rw [if_pos rfl, ih, Numbering.after_range', if_pos (by simp), List.range'_1_concat,
              Nat.add_comm 1]
          · have hne : (s.id, k') ≠ (s.id, k) := by
              intro heq
              exact hk (Prod.mk.inj heq).2.symm
            rw [if_neg hk, ih, if_neg (by simpa using hne), Nat.add_zero]

/-- The mutations that ask for a number of a session are among those of the session. -/
theorem Chronicle.countP_numbers? {es : List Accepted} (h : Chronicle es) (id : SessionId)
    (k : Numbering) :
    es.countP (fun e => e.mutation.numbers? = some (id, k))
      = (Accepted.ofSession id es).countP fun e => e.mutation.numbers? = some (id, k) := by
  apply h.countP_ofSession (p := fun m => m.numbers? = some (id, k))
  intro m hm
  exact Mutation.named_of_numbers? (of_decide_eq_true hm)

/-- The last mutation of a chronicle, if it asks for a number, stores one entity under the next
number, and its caller is told. -/
theorem Chronicle.number_last {es : List Accepted} {e : Accepted} (h : Chronicle (es ++ [e]))
    {id : SessionId} {k : Numbering} (hm : e.mutation.numbers? = some (id, k)) :
    ∃ r number s, e.commit.entities = [r] ∧ r.number? = some (k, number) ∧
      e.answer.number? = some (k, number) ∧ (Accepted.replay (es ++ [e])).find? id = some s ∧
      (s.numbers k).getLast? = some number := by
  rcases h.last with ⟨hstarts, -⟩ | ⟨s, hs, htaken⟩
  · obtain ⟨request, config, hmutation, -⟩ := hstarts.mutation_eq
    rw [hmutation] at hm
    cases hm
  · cases SessionState.Takes.counts htaken with
    | keep hnone _ => cases hnone.symm.trans hm
    | give hm' hentities hrecord hanswer hafter =>
        cases hm'.symm.trans hm
        refine ⟨_, _, s.apply e.commit, hentities, hrecord, hanswer, ?_, ?_⟩
        · rw [Accepted.replay_concat, ← SessionState.Takes.id_eq htaken]
          exact Workspace.find?_apply_of_some hs
        · rw [hafter, if_pos rfl, List.getLast?_concat]

end DevSession
