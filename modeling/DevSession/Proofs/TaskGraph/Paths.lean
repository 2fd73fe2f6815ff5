import DevSession.Proofs.Roster
import DevSession.TaskGraph
import Mathlib.Logic.Relation

/-!
# Paths in the task graph

The dependencies of a task graph are edges, and `TaskGraph.reaches` walks along them. This file ties
the walk to the relation: the walk finds a task exactly when a path leads to it, whatever the graph
looks like, and edges that lead from one task to others that do not reach it close no cycle.

* `Edge`: a task depends on another directly.
* `reaches_iff`: the walk finds exactly what a path of edges leads to.
* `Acyclic`: no task depends on itself, however indirectly.
* `acyclic_of_new_edges`: what the check before a new dependency is worth.
-/

namespace DevSession.TaskGraph

open Relation

/-! ## Edges -/

/-- The task `a` exists and depends on `b` directly; `b` need not exist. -/
def Edge (g : TaskGraph) (a b : TaskId) : Prop :=
  ∃ t, g.find? a = some t ∧ b ∈ t.dependsOn

/-- No task depends on itself through one or more edges. -/
def Acyclic (g : TaskGraph) : Prop :=
  ∀ id, ¬ TransGen g.Edge id id

theorem find?_eq_some_iff {g : TaskGraph} {id : TaskId} {t : Task} :
    g.find? id = some t ↔ t ∈ g.tasks.entries ∧ t.id = id :=
  Roster.find?_eq_some_iff

theorem find?_of_mem {g : TaskGraph} {t : Task} (h : t ∈ g.tasks.entries) :
    g.find? t.id = some t :=
  Roster.find?_of_mem h

theorem find?_put (g : TaskGraph) (t : Task) (id : TaskId) :
    (g.put t).find? id = if t.id = id then some t else g.find? id :=
  Roster.find?_put g.tasks t id

theorem mem_put {g : TaskGraph} {t u : Task} :
    u ∈ (g.put t).tasks.entries ↔ u = t ∨ u ∈ g.tasks.entries ∧ u.id ≠ t.id :=
  Roster.mem_put

theorem get_eq_ok_iff {g : TaskGraph} {id : TaskId} {t : Task} :
    g.get id = .ok t ↔ g.find? id = some t := by
  unfold get
  cases g.find? id <;> simp

theorem edge_of_mem {g : TaskGraph} {t : Task} (ht : t ∈ g.tasks.entries) {d : TaskId}
    (hd : d ∈ t.dependsOn) : g.Edge t.id d :=
  ⟨t, find?_of_mem ht, hd⟩

/-- After a task was put, its edges are those it lists, and all others are as before. -/
theorem edge_put {g : TaskGraph} {t : Task} {a b : TaskId} :
    (g.put t).Edge a b ↔ if t.id = a then b ∈ t.dependsOn else g.Edge a b := by
  unfold Edge
  rw [find?_put]
  by_cases h : t.id = a
  · simp [h]
  · simp [h]

/-! ## The walk -/

/-- What the walk finds, a path leads to. -/
theorem exists_path_of_reachesFrom {g : TaskGraph} {goal : TaskId} {visited stack : List TaskId}
    (h : g.reachesFrom goal visited stack = true) :
    ∃ id ∈ stack, ReflTransGen g.Edge id goal := by
  fun_induction reachesFrom g goal visited stack with
  | case1 visited => cases h
  | case2 visited rest => exact ⟨goal, List.mem_cons_self, .refl⟩
  | case3 visited id rest _ _ ih =>
      obtain ⟨a, ha, hp⟩ := ih h
      exact ⟨a, List.mem_cons_of_mem _ ha, hp⟩
  | case4 visited id rest _ _ _ ih =>
      obtain ⟨a, ha, hp⟩ := ih h
      exact ⟨a, List.mem_cons_of_mem _ ha, hp⟩
  | case5 visited id rest _ _ t ht ih =>
      obtain ⟨a, ha, hp⟩ := ih h
      rcases List.mem_append.1 ha with ha | ha
      · exact ⟨id, List.mem_cons_self, .head ⟨t, ht, List.mem_reverse.1 ha⟩ hp⟩
      · exact ⟨a, List.mem_cons_of_mem _ ha, hp⟩

/-- A set of tasks without the goal that no edge leads out of. -/
def Shut (g : TaskGraph) (goal : TaskId) (S : TaskId → Prop) : Prop :=
  ∀ a, S a → a ≠ goal ∧ ∀ b, g.Edge a b → S b

theorem Shut.not_path {g : TaskGraph} {goal : TaskId} {S : TaskId → Prop} (hS : g.Shut goal S)
    {a : TaskId} (ha : S a) : ¬ ReflTransGen g.Edge a goal := by
  have hstay : ∀ b, ReflTransGen g.Edge a b → S b := by
    intro b hp
    induction hp with
    | refl => exact ha
    | tail _ hedge ih => exact (hS _ ih).2 _ hedge
  intro hp
  exact (hS goal (hstay goal hp)).1 rfl

/-- To visit an id keeps the invariant of the walk, if its edges lead to the new stack. -/
theorem invariant_visit {g : TaskGraph} {goal id : TaskId} {visited rest stack : List TaskId}
    (hne : id ≠ goal)
    (hinv : ∀ a ∈ visited, a ≠ goal ∧ ∀ b, g.Edge a b → b ∈ visited ∨ b ∈ id :: rest)
    (hedges : ∀ b, g.Edge id b → b ∈ stack) (hrest : ∀ b ∈ rest, b ∈ stack) :
    ∀ a ∈ id :: visited, a ≠ goal ∧ ∀ b, g.Edge a b → b ∈ id :: visited ∨ b ∈ stack := by
  intro a ha
  rcases List.mem_cons.1 ha with rfl | ha
  · exact ⟨hne, fun b hb => .inr (hedges b hb)⟩
  · refine ⟨(hinv a ha).1, fun b hb => ?_⟩
    rcases (hinv a ha).2 b hb with hb | hb
    · exact .inl (List.mem_cons_of_mem _ hb)
    · rcases List.mem_cons.1 hb with rfl | hb
      · exact .inl List.mem_cons_self
      · exact .inr (hrest b hb)

/-- When the walk ends without the goal, everything it has seen lies in a set that no edge leads out
of. The invariant of the walk is that the edges of visited ids lead to visited ids or to ids still
on the stack. -/
theorem exists_shut_of_not_reachesFrom {g : TaskGraph} {goal : TaskId}
    {visited stack : List TaskId} (h : g.reachesFrom goal visited stack = false)
    (hinv : ∀ a ∈ visited, a ≠ goal ∧ ∀ b, g.Edge a b → b ∈ visited ∨ b ∈ stack) :
    ∃ S, g.Shut goal S ∧ (∀ a ∈ visited, S a) ∧ ∀ a ∈ stack, S a := by
  fun_induction reachesFrom g goal visited stack with
  | case1 visited =>
      refine ⟨(· ∈ visited), fun a ha => ⟨(hinv a ha).1, fun b hb => ?_⟩, fun a ha => ha,
        fun a ha => absurd ha List.not_mem_nil⟩
      exact ((hinv a ha).2 b hb).resolve_right List.not_mem_nil
  | case2 visited rest => cases h
  | case3 visited id rest _ hv ih =>
      have hid : id ∈ visited := by simpa using hv
      obtain ⟨S, hS, hvis, hrest⟩ := ih h fun a ha => ⟨(hinv a ha).1, fun b hb => by
        rcases (hinv a ha).2 b hb with hb | hb
        · exact .inl hb
        · rcases List.mem_cons.1 hb with rfl | hb
          · exact .inl hid
          · exact .inr hb⟩
      exact ⟨S, hS, hvis, List.forall_mem_cons.2 ⟨hvis id hid, hrest⟩⟩
  | case4 visited id rest hne _ hn ih =>
      have hedges : ∀ b, g.Edge id b → b ∈ rest := by
        rintro b ⟨u, hu, -⟩
        rw [hn] at hu
        cases hu
      obtain ⟨S, hS, hvis, hrest⟩ := ih h (invariant_visit hne hinv hedges fun b hb => hb)
      rw [List.forall_mem_cons] at hvis
      exact ⟨S, hS, hvis.2, List.forall_mem_cons.2 ⟨hvis.1, hrest⟩⟩
  | case5 visited id rest hne hv t ht ih =>
      have hedges : ∀ b, g.Edge id b → b ∈ t.dependsOn.reverse ++ rest := by
        rintro b ⟨u, hu, hb⟩
        rw [ht] at hu
        cases hu
        exact List.mem_append_left _ (List.mem_reverse.2 hb)
      obtain ⟨S, hS, hvis, hrest⟩ := ih h
        (invariant_visit hne hinv hedges fun b hb => List.mem_append_right _ hb)
      rw [List.forall_mem_cons] at hvis
      exact ⟨S, hS, hvis.2, List.forall_mem_cons.2
        ⟨hvis.1, fun a ha => hrest a (List.mem_append_right _ ha)⟩⟩

/-- **The walk is exact.** It finds a task exactly when a path of zero or more edges leads to it. -/
theorem reaches_iff {g : TaskGraph} {source goal : TaskId} :
    g.reaches source goal = true ↔ ReflTransGen g.Edge source goal := by
  constructor
  · intro h
    obtain ⟨a, ha, hp⟩ := exists_path_of_reachesFrom h
    rwa [List.mem_singleton.1 ha] at hp
  · intro hp
    cases h : g.reaches source goal with
    | true => rfl
    | false =>
        obtain ⟨S, hS, _, hstack⟩ := exists_shut_of_not_reachesFrom h
          fun a ha => absurd ha List.not_mem_nil
        exact absurd hp (hS.not_path (hstack source List.mem_cons_self))

/-! ## New edges -/

/-- Along a path that may use new edges from `a`, either no new edge is used, or the path comes to
`a` and goes on from the end of the last new edge. -/
theorem path_of_new_edges {α : Type} {E E' : α → α → Prop} {a : α} {New : α → Prop}
    (hE : ∀ x y, E' x y → E x y ∨ x = a ∧ New y) {x y : α} (hp : TransGen E' x y) :
    TransGen E x y ∨ ReflTransGen E x a ∧ ∃ d, New d ∧ ReflTransGen E d y := by
  induction hp with
  | single hxy =>
      rcases hE _ _ hxy with h | ⟨rfl, h⟩
      · exact Or.inl (.single h)
      · exact Or.inr ⟨.refl, _, h, .refl⟩
  | tail _ hzy ih =>
      rcases ih with hp | ⟨hxa, d, hd, hdz⟩
      · rcases hE _ _ hzy with h | ⟨rfl, h⟩
        · exact Or.inl (hp.tail h)
        · exact Or.inr ⟨hp.to_reflTransGen, _, h, .refl⟩
      · rcases hE _ _ hzy with h | ⟨rfl, h⟩
        · exact Or.inr ⟨hxa, d, hd, hdz.tail h⟩
        · exact Or.inr ⟨hxa, _, h, .refl⟩

/-- New edges from one task close no cycle if none of their ends reaches that task. -/
theorem acyclic_of_new_edges {g g' : TaskGraph} (a : TaskId) (New : TaskId → Prop)
    (hg : g.Acyclic) (hE : ∀ x y, g'.Edge x y → g.Edge x y ∨ x = a ∧ New y)
    (hnew : ∀ d, New d → g.reaches d a = false) : g'.Acyclic := by
  intro id hp
  rcases path_of_new_edges hE hp with hp | ⟨hxa, d, hd, hdx⟩
  · exact hg id hp
  · have hda : g.reaches d a = true := reaches_iff.2 (hdx.trans hxa)
    rw [hnew d hd] at hda
    cases hda

end DevSession.TaskGraph
