import DevSession.Proofs.AuditLog
import DevSession.Proofs.Tasks

/-!
# What is recorded stays

The entities of a session are its plans, critics, syntheses, tasks and reviews. A mutation adds one
of them or changes one, the one that it names; the end of a session changes the workers that have
not reported. This is said of all entities at once, as one list (`SessionState.entities`), in which
everything but one entry stays where it is.

What a mutation changes, it changes by adding to it: versions of the plan and syntheses only come
behind others, and a task keeps its name and what has happened to it. So nothing that was recorded
at some time is lost at any later time, whoever writes in between.

* `Record.ChangeOne`, `Mutation.Alters`, `Takes.alters`: which entities a mutation changes.
* `Task.Extends`, `SessionState.Retains`, `Takes.retains`: what stays of a task and of a session.
* `Shared.retains_and_alters`: both, for any two times of a run and for each mutation in it.
-/

namespace DevSession

open Text

/-! ## Entities -/

/-- The plan in a record. -/
def Record.plan? : Record → Option Plan
  | plan p => some p
  | _ => none

/-- The synthesis in a record. -/
def Record.synthesis? : Record → Option Synthesis
  | synthesis y => some y
  | _ => none

/-- The entity after the end of its session: a worker that has not reported is abandoned. -/
def Record.leave : Record → Record
  | critic c => critic (if c.isOutstanding then c.abandon else c)
  | review r => review (if r.isOutstanding then r.abandon else r)
  | r => r

/-- The entities of a session. -/
def SessionState.entities (s : SessionState) : List Record :=
  s.plans.versions.map .plan ++ (s.panel.critics.entries.map .critic
    ++ (s.panel.syntheses.map .synthesis ++ (s.tasks.tasks.entries.map .task
      ++ s.gate.reviews.entries.map .review)))

/-- One entity is added or changed, the one that is named, and the others stay where they are. -/
inductive Record.ChangeOne (source : EventSource) : List Record → List Record → Prop
  | add {front back : List Record} {r : Record} (hr : r.source? = some source) :
      ChangeOne source (front ++ back) (front ++ r :: back)
  | change {front back : List Record} {r r' : Record} (hr : r.source? = some source)
      (hr' : r'.source? = some source) :
      ChangeOne source (front ++ r :: back) (front ++ r' :: back)

/-- The entity that a mutation names, either itself or by its answer. -/
def Mutation.subject? : Mutation → Answer → Option EventSource
  | logPlan _ _ _ _, .version n => some (.plan n)
  | spawnCritic _ _ _, .critic id => some (.critic id)
  | reportCritic _ id _, _ => some (.critic id)
  | logSynthesis _ _, _ => some .synthesis
  | createTask _ _ _ _, .task id => some (.task id)
  | addDependency _ id _, _ => some (.task id)
  | startTask _ id, _ => some (.task id)
  | setPhase _ id _, _ => some (.task id)
  | reopenTask _ id _, _ => some (.task id)
  | spawnReview _ _ _, .review id => some (.review id)
  | reportReview _ id _ _ _, _ => some (.review id)
  | _, _ => none

/-- What a mutation does to the entities of the session that takes it: the end of the session
abandons workers, a note changes none, and every other mutation changes the one that it names. -/
inductive Mutation.Alters : Mutation → Answer → List Record → List Record → Prop
  | finish {id : SessionId} {status : SessionStatus} {summary : Option String}
      {before : List Record} :
      Alters (.finish id status summary) .nothing before (before.map Record.leave)
  | note {id : SessionId} {level : EventLevel} {message : String} {seq : UInt64}
      {before : List Record} : Alters (.logEvent id level message) (.seq seq) before before
  | one {m : Mutation} {answer : Answer} {source : EventSource} {before after : List Record}
      (hsubject : m.subject? answer = some source)
      (hone : Record.ChangeOne source before after) : Alters m answer before after

/-- What a mutation that is done does to all sessions: a new one without entities comes last, or the
one that is named changes, and the others stay as they are. -/
inductive Workspace.Alters (ws : Workspace) (m : Mutation) (answer : Answer)
    (ws' : Workspace) : Prop
  | start {t : SessionState} (hstart : m.named? = none) (hanswer : answer = .session t.id)
      (hafter : ws'.sessions = ws.sessions ++ [t]) (hnone : t.entities = [])
  | take {front back : List SessionState} {s t : SessionState} (hnamed : m.named? = some s.id)
      (hid : t.id = s.id) (hbefore : ws.sessions = front ++ s :: back)
      (hafter : ws'.sessions = front ++ t :: back)
      (halters : m.Alters answer s.entities t.entities)

/-! ## Which entities a mutation changes -/

namespace Record.ChangeOne

variable {source : EventSource} {before after : List Record}

theorem append_left (h : ChangeOne source before after) (front : List Record) :
    ChangeOne source (front ++ before) (front ++ after) := by
  cases h with
  | @add front' back r hr =>
      rw [← List.append_assoc, ← List.append_assoc]
      exact .add hr
  | @change front' back r r' hr hr' =>
      rw [← List.append_assoc, ← List.append_assoc]
      exact .change hr hr'

theorem append_right (h : ChangeOne source before after) (back : List Record) :
    ChangeOne source (before ++ back) (after ++ back) := by
  cases h with
  | @add front back' r hr =>
      rw [List.append_assoc, List.append_assoc]
      exact .add hr
  | @change front back' r r' hr hr' =>
      rw [List.append_assoc, List.append_assoc]
      exact .change hr hr'

/-- An entity that comes last. -/
theorem concat {α : Type} {f : α → Record} {a : α} (ha : (f a).source? = some source)
    (l : List α) : ChangeOne source (l.map f) ((l ++ [a]).map f) := by
  have hadd : ChangeOne source (l.map f ++ []) (l.map f ++ [f a]) := .add ha
  rwa [List.append_nil, ← List.map_singleton, ← List.map_append] at hadd

/-- An entry of a roster that is new, or takes the place of one with its number. -/
theorem put {α : Type} {series : Series} [Numbered α series] {f : α → Record} {roster : Roster α}
    {a : α} (ha : (f a).source? = some source)
    (h : roster.nextId = .ok (Numbered.id a) ∨
      ∃ b, roster.find? (Numbered.id a) = some b ∧ (f b).source? = some source) :
    ChangeOne source (roster.entries.map f) ((roster.put a).entries.map f) := by
  rcases h with hnext | ⟨b, hfind, hb⟩
  · rw [Roster.entries_put_of_nextId hnext]
    exact concat ha _
  · obtain ⟨front, back, hbefore, hafter⟩ := Roster.entries_put_of_find? hfind
    rw [hbefore, hafter, List.map_append, List.map_append]
    exact .change hb ha

end Record.ChangeOne

namespace SessionState

variable {s : SessionState} {range : ScoreRange} {clock : Clock} {now : Instant} {m : Mutation}
  {change : Change} {c : Commit} {answer : Answer}

/-- A critic that is new, or takes the place of one with its number. -/
theorem changeOne_critic {id : CriticId} {critic : Critic} (hid : critic.id = id)
    (h : s.panel.critics.nextId = .ok id ∨ ∃ before, s.panel.critics.find? id = some before) :
    Record.ChangeOne (.critic id) s.entities (s.applyRecord (.critic critic)).entities := by
  subst hid
  have hput : Record.ChangeOne (.critic critic.id) (s.panel.critics.entries.map .critic)
      ((s.panel.critics.put critic).entries.map .critic) := by
    refine .put rfl (h.imp_right fun ⟨before, hfind⟩ => ⟨before, hfind, ?_⟩)
    rw [Record.source?, ← (Roster.find?_eq_some_iff.1 hfind).2]
    rfl
  exact (hput.append_right _).append_left _

/-- A task that is new, or takes the place of one with its number. -/
theorem changeOne_task {id : TaskId} {task : Task} (hid : task.id = id)
    (h : s.tasks.tasks.nextId = .ok id ∨ ∃ before, s.tasks.find? id = some before) :
    Record.ChangeOne (.task id) s.entities (s.applyRecord (.task task)).entities := by
  subst hid
  have hput : Record.ChangeOne (.task task.id) (s.tasks.tasks.entries.map .task)
      ((s.tasks.tasks.put task).entries.map .task) := by
    refine .put rfl (h.imp_right fun ⟨before, hfind⟩ => ⟨before, hfind, ?_⟩)
    rw [Record.source?, ← TaskGraph.id_of_find? hfind]
  exact (((hput.append_right _).append_left _).append_left _).append_left _

/-- A review that is new, or takes the place of one with its number. -/
theorem changeOne_review {id : ReviewId} {review : Review} (hid : review.id = id)
    (h : s.gate.reviews.nextId = .ok id ∨ ∃ before, s.gate.reviews.find? id = some before) :
    Record.ChangeOne (.review id) s.entities (s.applyRecord (.review review)).entities := by
  subst hid
  have hput : Record.ChangeOne (.review review.id) (s.gate.reviews.entries.map .review)
      ((s.gate.reviews.put review).entries.map .review) := by
    refine .put rfl (h.imp_right fun ⟨before, hfind⟩ => ⟨before, hfind, ?_⟩)
    rw [Record.source?, ← (Roster.find?_eq_some_iff.1 hfind).2]
    rfl
  exact (((hput.append_left _).append_left _).append_left _).append_left _

/-- **A change is made to the entity that the mutation names.** -/
theorem Makes.changeOne (h : s.Makes range now m change) :
    m.subject? change.answer = some change.source ∧
      Record.ChangeOne change.source s.entities (s.applyRecord change.record).entities := by
  cases h with
  | @logPlan _ _ _ _ plan h =>
      have hadd : Record.ChangeOne (.plan plan.version) (s.plans.versions.map .plan)
          ((s.plans.versions ++ [plan]).map .plan) := .concat rfl _
      exact ⟨rfl, hadd.append_right _⟩
  | @logSynthesis _ _ synthesis h =>
      have hadd : Record.ChangeOne .synthesis (s.panel.syntheses.map .synthesis)
          ((s.panel.syntheses ++ [synthesis]).map .synthesis) := .concat rfl _
      exact ⟨rfl, ((hadd.append_right _).append_left _).append_left _⟩
  | spawnCritic h => exact ⟨rfl, changeOne_critic rfl (.inl (Panel.spawn_eq_ok h).1)⟩
  | reportCritic h =>
      obtain ⟨before, hfind, -, rfl⟩ := Panel.report_eq_ok h
      exact ⟨rfl, changeOne_critic (Roster.find?_eq_some_iff.1 hfind).2 (.inr ⟨before, hfind⟩)⟩
  | spawnReview h => exact ⟨rfl, changeOne_review rfl (.inl (ReviewGate.spawn_eq_ok h).1)⟩
  | reportReview h =>
      obtain ⟨before, hfind, -, rfl⟩ := ReviewGate.report_eq_ok h
      exact ⟨rfl, changeOne_review (Roster.find?_eq_some_iff.1 hfind).2 (.inr ⟨before, hfind⟩)⟩
  | createTask h =>
      obtain ⟨-, -, id, hnext, -, rfl⟩ := TaskGraph.create_eq_ok_iff.1 h
      exact ⟨rfl, changeOne_task rfl (.inl hnext)⟩
  | addDependency h =>
      obtain ⟨t, hfind, -, -, -, -, rfl⟩ := TaskGraph.addDependency_eq_ok_iff.1 h
      exact ⟨rfl, changeOne_task (TaskGraph.find?_eq_some_iff.1 hfind).2 (.inr ⟨t, hfind⟩)⟩
  | startTask h =>
      obtain ⟨t, hfind, -, -, rfl⟩ := TaskGraph.start_eq_ok_iff.1 h
      exact ⟨rfl, changeOne_task (TaskGraph.find?_eq_some_iff.1 hfind).2 (.inr ⟨t, hfind⟩)⟩
  | setPhase h =>
      obtain ⟨t, move, hfind, -, -, rfl⟩ := TaskGraph.setPhase_eq_ok_iff.1 h
      exact ⟨rfl, changeOne_task (TaskGraph.find?_eq_some_iff.1 hfind).2 (.inr ⟨t, hfind⟩)⟩
  | reopenTask h =>
      obtain ⟨t, hfind, -, -, -, hreopen⟩ := TaskGraph.reopen_eq_ok_iff.1 h
      obtain ⟨count, -, rfl⟩ := TaskGraph.reopen_task_eq hreopen
      exact ⟨rfl, changeOne_task (TaskGraph.find?_eq_some_iff.1 hfind).2 (.inr ⟨t, hfind⟩)⟩

theorem foldl_concat {α : Type} (l as : List α) : as.foldl (fun l a => l ++ [a]) l = l ++ as := by
  rw [List.foldl_append_eq_append, ← List.flatMap_def, List.flatMap_singleton']

/-- A commit puts its plans behind the others. -/
theorem plans_apply (s : SessionState) (c : Commit) :
    (s.apply c).plans.versions = s.plans.versions ++ c.entities.filterMap Record.plan? := by
  rw [Commit.filterMap_entities (fun _ => rfl), ← foldl_concat]
  exact part_apply (fun s => s.plans.versions) Record.plan? (fun l p => l ++ [p])
    (fun s r => by cases r <;> rfl) (fun _ _ => rfl) s c

/-- A commit puts its syntheses behind the others. -/
theorem syntheses_apply (s : SessionState) (c : Commit) :
    (s.apply c).panel.syntheses
      = s.panel.syntheses ++ c.entities.filterMap Record.synthesis? := by
  rw [Commit.filterMap_entities (fun _ => rfl), ← foldl_concat]
  exact part_apply (fun s => s.panel.syntheses) Record.synthesis? (fun l y => l ++ [y])
    (fun s r => by cases r <;> rfl) (fun _ _ => rfl) s c

/-- The end of a session abandons the workers that have not reported, and changes nothing else. -/
theorem entities_apply_of_finish
    (h : c.entities = s.panel.abandon.map .critic ++ s.gate.abandon.map .review) :
    (s.apply c).entities = s.entities.map Record.leave := by
  have hplans : c.entities.filterMap Record.plan? = [] := by simp [h, Record.plan?]
  have hsyntheses : c.entities.filterMap Record.synthesis? = [] := by simp [h, Record.synthesis?]
  rw [entities, plans_apply, syntheses_apply, hplans, hsyntheses, critics_apply_of_finish h,
    reviews_apply_of_finish h, tasks_apply_of_finish h]
  simp [entities, Record.leave, Function.comp_def]

/-- **A mutation changes the entities that it names, and no others.** -/
theorem Takes.alters (h : s.Takes range clock m c answer) :
    m.Alters answer s.entities (s.apply c).entities := by
  cases h with
  | finish _ _ _ hentities _ =>
      rw [entities_apply_of_finish hentities]
      exact .finish
  | note _ _ hentities _ =>
      rw [apply_eq, hentities]
      exact .note
  | change _ _ hmakes _ hentities _ =>
      obtain ⟨hsubject, hone⟩ := hmakes.changeOne
      rw [apply_eq, hentities]
      exact .one hsubject hone

end SessionState

/-! ## What stays of a task -/

/-- What stays of a task: what it was created with, the phases it has entered and how often it was
reopened, its dependencies, to which more may come until it starts, and that it has started. -/
structure Task.Extends (t t' : Task) : Prop where
  id_eq : t'.id = t.id
  name_eq : t'.name = t.name
  description_eq : t'.description = t.description
  createdAt_eq : t'.createdAt = t.createdAt
  dependsOn_prefix : t.dependsOn <+: t'.dependsOn
  dependsOn_eq : t.status ≠ .pending → t'.dependsOn = t.dependsOn
  history_prefix : t.history <+: t'.history
  reopenCount_le : t.reopenCount ≤ t'.reopenCount
  started : t.status ≠ .pending → t'.status ≠ .pending

theorem Task.Extends.refl (t : Task) : t.Extends t :=
  ⟨rfl, rfl, rfl, rfl, List.prefix_refl _, fun _ => rfl, List.prefix_refl _,
    UInt32.le_refl _, fun h => h⟩

theorem Task.Extends.trans {t u v : Task} (h : t.Extends u) (h' : u.Extends v) : t.Extends v where
  id_eq := h'.id_eq.trans h.id_eq
  name_eq := h'.name_eq.trans h.name_eq
  description_eq := h'.description_eq.trans h.description_eq
  createdAt_eq := h'.createdAt_eq.trans h.createdAt_eq
  dependsOn_prefix := h.dependsOn_prefix.trans h'.dependsOn_prefix
  dependsOn_eq hstarted := (h'.dependsOn_eq (h.started hstarted)).trans (h.dependsOn_eq hstarted)
  history_prefix := h.history_prefix.trans h'.history_prefix
  reopenCount_le := UInt32.le_trans h.reopenCount_le h'.reopenCount_le
  started hstarted := h'.started (h.started hstarted)

/-- A move leads to a phase that is not the first. -/
theorem TaskPhase.ne_notStarted_of_move {current requested : TaskPhase} {enforced : Bool}
    {move : PhaseMove} (h : current.move requested enforced = .ok move) :
    requested ≠ .notStarted := by
  rintro rfl
  unfold TaskPhase.move at h
  split at h
  · cases h
  · rw [if_pos rfl] at h
    cases h

/-- **Whatever happens to a task adds to it**, if its status is that of its phase. -/
theorem Task.Changes.extends {enforced : Bool} {now : Instant} {t t' : Task}
    (h : t.Changes enforced now t') (hstatus : t.status = t.phase.status) : t.Extends t' := by
  cases h with
  | depend hphase =>
      have hpending : t.status = .pending := by rw [hstatus, hphase]; rfl
      exact ⟨rfl, rfl, rfl, rfl, List.prefix_append _ _, fun h => absurd hpending h,
        List.prefix_refl _, UInt32.le_refl _, fun h => h⟩
  | @enter phase _ hmove =>
      have hstarted : phase.status ≠ .pending := fun h =>
        TaskPhase.ne_notStarted_of_move hmove (TaskPhase.status_eq_pending_iff.1 h)
      exact ⟨rfl, rfl, rfl, rfl, List.prefix_refl _, fun _ => rfl, List.prefix_append _ _,
        UInt32.le_refl _, fun _ => hstarted⟩
  | @reopen count hphase hcount =>
      have hle : t.reopenCount ≤ count := by
        rw [UInt32.le_iff_toNat_le, Counter.toNat_next32 hcount]
        exact Nat.le_succ _
      have hstarted : TaskPhase.red.status ≠ .pending := by decide
      exact ⟨rfl, rfl, rfl, rfl, List.prefix_refl _, fun _ => rfl, List.prefix_append _ _, hle,
        fun _ => hstarted⟩

/-! ## What stays of a session -/

/-- What stays of a session: its name, its tasks, and the plans and syntheses, behind which more may
come. -/
structure SessionState.Retains (s t : SessionState) : Prop where
  id_eq : t.id = s.id
  tasks : ∀ a ∈ s.tasks.tasks.entries, ∃ b ∈ t.tasks.tasks.entries, a.Extends b
  plans : s.plans.versions <+: t.plans.versions
  syntheses : s.panel.syntheses <+: t.panel.syntheses

/-- What stays of all sessions. -/
def Workspace.Retains (ws ws' : Workspace) : Prop :=
  ∀ s ∈ ws.sessions, ∃ t ∈ ws'.sessions, s.Retains t

namespace SessionState

variable {s t u : SessionState} {range : ScoreRange} {clock : Clock} {m : Mutation} {c : Commit}
  {answer : Answer}

theorem Retains.refl (s : SessionState) : s.Retains s :=
  ⟨rfl, fun a ha => ⟨a, ha, .refl a⟩, List.prefix_refl _, List.prefix_refl _⟩

theorem Retains.trans (h : s.Retains t) (h' : t.Retains u) : s.Retains u where
  id_eq := h'.id_eq.trans h.id_eq
  tasks a ha := by
    obtain ⟨b, hb, hab⟩ := h.tasks a ha
    obtain ⟨d, hd, hbd⟩ := h'.tasks b hb
    exact ⟨d, hd, hab.trans hbd⟩
  plans := h.plans.trans h'.plans
  syntheses := h.syntheses.trans h'.syntheses

/-- No mutation loses a task. -/
theorem Works.extends {now : Instant} (h : s.Works now c) (hs : s.tasks.Sound) :
    ∀ a ∈ s.tasks.tasks.entries, ∃ b ∈ (s.apply c).tasks.tasks.entries, a.Extends b := by
  intro a ha
  cases h with
  | rest hafter => exact ⟨a, hafter ▸ ha, .refl a⟩
  | @create id name description dependsOn hnext hafter =>
      have hne : a.id ≠ id := Roster.find?_eq_none_iff.1 (Roster.find?_nextId hnext) a ha
      rw [hafter]
      exact ⟨a, TaskGraph.mem_put.2 (.inr ⟨ha, hne⟩), .refl a⟩
  | @change id t t' hfind hchanges hafter =>
      obtain ⟨ht, -⟩ := TaskGraph.find?_eq_some_iff.1 hfind
      have hextends := hchanges.extends (hs.status t ht)
      rw [hafter]
      by_cases hid : a.id = t.id
      · -- the task that changes is the only one with its number
        obtain rfl : a = t := Roster.eq_of_sorted s.tasks.tasks.sorted ha ht hid
        exact ⟨t', TaskGraph.mem_put.2 (.inl rfl), hextends⟩
      · exact ⟨a, TaskGraph.mem_put.2 (.inr ⟨ha, hextends.id_eq ▸ hid⟩), .refl a⟩

/-- **No mutation loses anything that was recorded in a session.** -/
theorem Takes.retains (h : s.Takes range clock m c answer) (hs : s.tasks.Sound) :
    s.Retains (s.apply c) where
  id_eq := by rw [id_apply, h.id_eq]
  tasks := (h.works hs).extends hs
  plans := by
    rw [plans_apply]
    exact List.prefix_append _ _
  syntheses := by
    rw [syntheses_apply]
    exact List.prefix_append _ _

end SessionState

/-! ## Any two times -/

namespace Chronicle

variable {es : List Accepted}

/-- **What is recorded at some time is there at every later time.** -/
theorem retains (h : Chronicle es) (n : Nat) :
    (Accepted.replay (es.take n)).Retains (Accepted.replay es) := by
  intro s hs
  obtain ⟨t, ht, hretains⟩ := h.grows SessionState.Retains.refl
    (fun hR hlife htaken => hR.trans (SessionState.Takes.retains htaken hlife.sound_tasks))
    (Workspace.find?_replay_of_mem hs)
  exact ⟨t, List.mem_of_find?_eq_some ht, hretains⟩

/-- **Each mutation that is done changes the session that it names, or starts one.** -/
theorem alters {e : Accepted} (h : Chronicle (es ++ [e])) :
    (Accepted.replay es).Alters e.mutation e.answer (Accepted.replay (es ++ [e])) := by
  rw [Accepted.replay_concat]
  rcases h.last with ⟨hstarts, hnew⟩ | ⟨s, hs, htaken⟩
  · obtain ⟨request, config, hmutation, -⟩ := hstarts.mutation_eq
    refine .start (by rw [hmutation]; rfl) ?_ (Workspace.sessions_apply_of_none hnew) ?_
    · rw [hstarts.answer_eq, SessionState.id_apply]
    · rw [SessionState.apply_eq, hstarts.entities_eq]
      rfl
  · obtain ⟨front, back, hbefore, -, hid, hafter⟩ := Workspace.sessions_apply_of_some hs
    exact .take htaken.named_eq (by rw [SessionState.id_apply, hid]) hbefore hafter htaken.alters

end Chronicle

namespace Shared

variable {store : Store} {first mid rest : List Action}

/-- **What handles store up to two times of a run is a chronicle and a first part of it.** -/
theorem NamedRun.chronicle_split (hrun : NamedRun store (first ++ mid ++ rest)) :
    ∃ es ds, (run ⟨store, []⟩ first).Recorded es ∧
      (run ⟨store, []⟩ (first ++ mid)).Recorded (es ++ ds) ∧
      ds.map Accepted.said = (run ⟨store, []⟩ first).done mid ∧
      ∀ n, Chronicle ((es ++ ds).take n) := by
  obtain ⟨es, hr, hsaid⟩ := hrun.starts.run_done
    (fun a ha => hrun.own a (by simp [ha]) : ∀ action ∈ first, action.isForeign = false)
  rw [List.nil_append] at hr
  obtain ⟨ds, hr', hsaid'⟩ := hr.run_done
    (fun a ha => hrun.own a (by simp [ha]) : ∀ action ∈ mid, action.isForeign = false)
  rw [← run_append] at hr'
  have hall : (es ++ ds).map Accepted.said = done ⟨store, []⟩ (first ++ mid) := by
    rw [List.map_append, hsaid, hsaid', done_append]
  refine ⟨es, ds, hr, hr', hsaid', chronicle_of_done hr'.history hall (hrun.names.sublist ?_)⟩
  rw [started, started, done_append _ (first ++ mid), List.filterMap_append]
  exact List.sublist_append_left _ _

/-- What a handle shows is there for a handle that has seen more, at the same or a later time. -/
theorem Recorded.retains {sh sh' : Shared} {es ds : List Accepted} {h h' : Handle}
    (hr : sh.Recorded es) (hr' : sh'.Recorded (es ++ ds))
    (hchronicle : ∀ n, Chronicle ((es ++ ds).take n)) (hh : h ∈ sh.handles)
    (hh' : h' ∈ sh'.handles) (hle : h.workspace.seen ≤ h'.workspace.seen) :
    h.workspace.Retains h'.workspace := by
  have hseen : h.workspace.seen ≤ es.length := by
    simpa using (hr.coherent.follows_of_mem hh _ hr.stored).seen_le
  have htake : ((es ++ ds).take h'.workspace.seen).take h.workspace.seen
      = es.take h.workspace.seen := by
    rw [List.take_take, Nat.min_eq_left hle, List.take_append_of_le_length hseen]
  have hretains := (hchronicle h'.workspace.seen).retains h.workspace.seen
  rw [htake] at hretains
  rw [hr.workspace_eq hh, hr'.workspace_eq hh']
  exact hretains

/-- **Nothing that is recorded is lost.** Take any run of handles on an empty store in which each
session gets a new name. Take any two times of the run. Every session that is stored at the first is
stored at the second, with all its tasks, each of which has kept what it was created with, its
dependencies, its phases and its count, and with all its plans and syntheses; and the same holds of
what a handle shows. Each mutation that is done stores one commit, which starts a session without
entities or changes, in the session that the mutation names, the entity that it names; the end of a
session changes the workers that have not reported, and a note changes no entity. -/
theorem retains_and_alters (store : Store) (actions : List Action) (hrun : NamedRun store actions) :
    (∀ first mid rest, first ++ mid ++ rest = actions →
      (∃ cs ds, (run ⟨store, []⟩ first).store.stored = .ok cs ∧
        (run ⟨store, []⟩ (first ++ mid)).store.stored = .ok (cs ++ ds) ∧
        (Workspace.replay cs).Retains (.replay (cs ++ ds))) ∧
      ∀ (index : Nat) h, (run ⟨store, []⟩ first).handles[index]? = some h →
        ∃ h', (run ⟨store, []⟩ (first ++ mid)).handles[index]? = some h' ∧
          h.workspace.Retains h'.workspace) ∧
    ∀ first action rest m answer, first ++ [action] ++ rest = actions →
      (run ⟨store, []⟩ first).done? action = some (m, answer) →
        ∃ cs c, (run ⟨store, []⟩ first).store.stored = .ok cs ∧
          (run ⟨store, []⟩ (first ++ [action])).store.stored = .ok (cs ++ [c]) ∧
          (Workspace.replay cs).Alters m answer (.replay (cs ++ [c])) := by
  refine ⟨fun first mid rest hactions => ?_, fun first action rest m answer hactions hdone => ?_⟩
  · subst hactions
    obtain ⟨es, ds, hr, hr', -, hchronicle⟩ := hrun.chronicle_split
    have htake : (es ++ ds).take es.length = es := List.take_left
    have hall := hchronicle (es ++ ds).length
    rw [List.take_length] at hall
    refine ⟨⟨_, ds.map Accepted.commit, hr.stored, ?_, ?_⟩, fun index h hi => ?_⟩
    · rw [hr'.stored, List.map_append]
    · have hretains := hall.retains es.length
      rwa [htake, Accepted.replay, Accepted.replay, List.map_append] at hretains
    · obtain ⟨h', hi', hle⟩ := hr.coherent.attuned.seen_run mid hi
      rw [← run_append] at hi'
      exact ⟨h', hi', hr.retains hr' hchronicle (List.mem_of_getElem? hi)
        (List.mem_of_getElem? hi') hle⟩
  · subst hactions
    obtain ⟨es, ds, hr, hr', hsaid, hchronicle⟩ := hrun.chronicle_split
    rw [done, hdone] at hsaid
    obtain ⟨e, rfl, he⟩ := List.map_eq_singleton_iff.1 hsaid
    have hall := hchronicle (es ++ [e]).length
    rw [List.take_length] at hall
    have halters := hall.alters
    cases he
    refine ⟨_, e.commit, hr.stored, ?_, ?_⟩
    · rw [hr'.stored, List.map_append, List.map_singleton]
    · rwa [Accepted.replay, Accepted.replay, List.map_append, List.map_singleton] at halters

/-- Two handles take turns at two tasks, of which one depends on the other. What the first handle
has shown when both were created is there at the end, and the start of the second task changes only
that task. -/
theorem retains_and_alters_turns :
    NamedRun .empty ([.join {}, .join {}] ++ turns) ∧
      (∃ h h', (run ⟨.empty, []⟩ ([.join {}, .join {}] ++ turns.take 3)).handles[0]? = some h ∧
        (run ⟨.empty, []⟩ ([.join {}, .join {}] ++ turns)).handles[0]? = some h' ∧
        (h.workspace.sessions[0]?.map fun s => s.tasks.tasks.entries.map Task.dependsOn)
          = some [[], [⟨1⟩]] ∧
        h.workspace.Retains h'.workspace) ∧
      ∃ cs c, (run ⟨.empty, []⟩ ([.join {}, .join {}] ++ turns.take 5)).store.stored = .ok cs ∧
        (run ⟨.empty, []⟩ ([.join {}, .join {}] ++ turns)).store.stored = .ok (cs ++ [c]) ∧
        (Workspace.replay cs).Alters (.startTask ⟨"20000101-000000-a"⟩ ⟨2⟩) .nothing
          (.replay (cs ++ [c])) := by
  have hdone : done ⟨.empty, []⟩ ([.join {}, .join {}] ++ turns) = done ⟨.empty, [{}, {}]⟩ turns :=
    done_join_join turns
  have hrun : NamedRun .empty ([.join {}, .join {}] ++ turns) := by
    refine namedRun_empty (by decide) ?_
    rw [started, hdone, done_turns]
    decide
  obtain ⟨hlater, hchange⟩ := retains_and_alters .empty _ hrun
  have hjoin : ∀ n, run ⟨.empty, []⟩ ([.join {}, .join {}] ++ turns.take n)
      = run ⟨.empty, [{}, {}]⟩ (turns.take n) := fun n => run_join_join _
  refine ⟨hrun, ?_, ?_⟩
  · have hshown : (run ⟨.empty, [{}, {}]⟩ (turns.take 3)).handles[0]?.bind (fun h =>
        h.workspace.sessions[0]?.map fun s => s.tasks.tasks.entries.map Task.dependsOn)
        = some [[], [⟨1⟩]] := by cbv
    obtain ⟨h, hh, hshown⟩ := Option.bind_eq_some_iff.1 hshown
    rw [← hjoin] at hh
    obtain ⟨h', hh', hretains⟩ := (hlater ([.join {}, .join {}] ++ turns.take 3) (turns.drop 3) []
      rfl).2 0 h hh
    exact ⟨h, h', hh, hh', hshown, hretains⟩
  · have hstart : (run ⟨.empty, [{}, {}]⟩ (turns.take 5)).done?
        (.call 0 (.startTask ⟨"20000101-000000-a"⟩ ⟨2⟩) ⟨fun _ => default, ""⟩)
        = some (.startTask ⟨"20000101-000000-a"⟩ ⟨2⟩, .nothing) := by cbv
    rw [← hjoin] at hstart
    exact hchange ([.join {}, .join {}] ++ turns.take 5) _ [] _ _ rfl hstart

end Shared

end DevSession
