import DevSession.Proofs.Fault
import DevSession.Roster

/-!
# Laws of rosters

A roster is a finite map from numbers to entries, and this file says so: what is found under a
number is exactly the entry with that number, putting an entry changes what is found under its own
number and nothing else, and the next number is one that no entry has.

* `find?_eq_some_iff`: looking up and membership say the same.
* `find?_put`, `mem_put`, `put_comm`: what an entry that is put changes, and that the order in which
  entries are put does not matter.
* `nextId_gt`: the next number is greater than all others.
* `entries_put_of_nextId`, `entries_put_of_find?`, `entries_foldl_put_filter`: the list of entries
  after one is added, one is replaced, or several are changed.
* `Dense`: the numbers are those from one on, without a gap.
-/

namespace DevSession.Roster

variable {α : Type} {s : Series} [Numbered α s]

/-! ## Looking up -/

theorem id_ext {a b : Id s} (h : a.num = b.num) : a = b := by
  cases a; cases b; cases h; rfl

/-- Entries of a sorted list are told apart by their numbers. -/
theorem eq_of_sorted {l : List α}
    (hl : l.Pairwise fun a b => (Numbered.id a).num < (Numbered.id b).num) {a b : α}
    (ha : a ∈ l) (hb : b ∈ l) (h : Numbered.id a = Numbered.id b) : a = b := by
  induction l with
  | nil => cases ha
  | cons c rest ih =>
      obtain ⟨hc, hrest⟩ := List.pairwise_cons.1 hl
      rcases List.mem_cons.1 ha with rfl | ha'
      · rcases List.mem_cons.1 hb with rfl | hb'
        · rfl
        · exact absurd (hc b hb') (by rw [h]; exact UInt32.lt_irrefl _)
      · rcases List.mem_cons.1 hb with rfl | hb'
        · exact absurd (hc a ha') (by rw [h]; exact UInt32.lt_irrefl _)
        · exact ih hrest ha' hb'

/-- What is found under a number is the entry that has it. -/
theorem find?_eq_some_iff {r : Roster α} {id : Id s} {a : α} :
    r.find? id = some a ↔ a ∈ r.entries ∧ Numbered.id a = id := by
  constructor
  · intro h
    exact ⟨List.mem_of_find?_eq_some h, by simpa using List.find?_some h⟩
  · rintro ⟨ha, rfl⟩
    cases hf : r.find? (Numbered.id a) with
    | none => exact absurd (List.find?_eq_none.1 hf a ha) (by simp)
    | some b =>
        have hb : Numbered.id b = Numbered.id a := by simpa using List.find?_some hf
        rw [eq_of_sorted r.sorted (List.mem_of_find?_eq_some hf) ha hb]

theorem find?_of_mem {r : Roster α} {a : α} (h : a ∈ r.entries) :
    r.find? (Numbered.id a) = some a :=
  find?_eq_some_iff.2 ⟨h, rfl⟩

theorem find?_eq_none_iff {r : Roster α} {id : Id s} :
    r.find? id = none ↔ ∀ a ∈ r.entries, Numbered.id a ≠ id := by
  rw [find?, List.find?_eq_none]
  simp

/-! ## Putting an entry -/

theorem self_mem_putL (a : α) (l : List α) : a ∈ putL a l := by
  induction l with
  | nil => simp [putL]
  | cons b rest ih =>
      unfold putL
      split
      · exact List.mem_cons_self
      · split
        · exact List.mem_cons_self
        · exact List.mem_cons_of_mem _ ih

theorem mem_putL_of_ne {a b : α} {l : List α} (hb : b ∈ l)
    (hne : Numbered.id b ≠ Numbered.id a) : b ∈ putL a l := by
  induction l with
  | nil => cases hb
  | cons c rest ih =>
      unfold putL
      split
      · exact List.mem_cons_of_mem _ hb
      · split
        · rename_i heq
          rcases List.mem_cons.1 hb with rfl | hb
          · exact absurd (id_ext heq.symm) hne
          · exact List.mem_cons_of_mem _ hb
        · rcases List.mem_cons.1 hb with rfl | hb
          · exact List.mem_cons_self
          · exact List.mem_cons_of_mem _ (ih hb)

/-- The entries after an entry was put: that entry, and those with other numbers. -/
theorem mem_put {r : Roster α} {a b : α} :
    b ∈ (r.put a).entries ↔ b = a ∨ b ∈ r.entries ∧ Numbered.id b ≠ Numbered.id a := by
  constructor
  · intro h
    by_cases hid : Numbered.id b = Numbered.id a
    · exact Or.inl (eq_of_sorted (r.put a).sorted h (self_mem_putL a _) hid)
    · rcases mem_putL h with rfl | h
      · exact Or.inl rfl
      · exact Or.inr ⟨h, hid⟩
  · rintro (rfl | ⟨h, hid⟩)
    · exact self_mem_putL _ _
    · exact mem_putL_of_ne h hid

/-- Putting an entry changes what is found under its number, and nothing else. -/
theorem find?_put (r : Roster α) (a : α) (id : Id s) :
    (r.put a).find? id = if Numbered.id a = id then some a else r.find? id := by
  by_cases h : Numbered.id a = id
  · rw [if_pos h]
    exact find?_eq_some_iff.2 ⟨mem_put.2 (Or.inl rfl), h⟩
  · rw [if_neg h]
    cases hf : r.find? id with
    | none =>
        refine find?_eq_none_iff.2 fun b hb => ?_
        rcases mem_put.1 hb with rfl | ⟨hb, -⟩
        · exact h
        · exact find?_eq_none_iff.1 hf b hb
    | some b =>
        obtain ⟨hb, rfl⟩ := find?_eq_some_iff.1 hf
        exact find?_of_mem (mem_put.2 (Or.inr ⟨hb, fun he => h he.symm⟩))

theorem putL_comm {a b : α} (h : Numbered.id a ≠ Numbered.id b) (l : List α) :
    putL a (putL b l) = putL b (putL a l) := by
  have hne : (Numbered.id a).num ≠ (Numbered.id b).num := fun heq => h (id_ext heq)
  -- what is left are comparisons of the two numbers with those in the list
  induction l with
  | nil => grind [putL]
  | cons c rest ih => grind [putL]

/-- Entries with different numbers may be put in either order. -/
theorem put_comm (r : Roster α) {a b : α} (h : Numbered.id a ≠ Numbered.id b) :
    (r.put a).put b = (r.put b).put a :=
  ext (putL_comm (Ne.symm h) r.entries)

/-! ## The next number -/

theorem le_getLast_of_sorted {l : List α}
    (hl : l.Pairwise fun a b => (Numbered.id a).num < (Numbered.id b).num) {a b : α}
    (ha : a ∈ l) (hb : l.getLast? = some b) :
    (Numbered.id a).num.toNat ≤ (Numbered.id b).num.toNat := by
  obtain ⟨front, rfl⟩ := List.getLast?_eq_some_iff.1 hb
  rcases List.mem_append.1 ha with ha | ha
  · have hlt := (List.pairwise_append.1 hl).2.2 a ha b (List.mem_singleton.2 rfl)
    rw [UInt32.lt_iff_toNat_lt] at hlt
    omega
  · obtain rfl := List.mem_singleton.1 ha
    exact Nat.le_refl _

/-- The next number is greater than the number of every entry. -/
theorem nextId_gt {r : Roster α} {id : Id s} (h : r.nextId = .ok id) {a : α}
    (ha : a ∈ r.entries) : (Numbered.id a).num.toNat < id.num.toNat := by
  unfold nextId at h
  cases hlast : r.entries.getLast? with
  | none =>
      rw [List.getLast?_eq_none_iff] at hlast
      rw [hlast] at ha
      cases ha
  | some b =>
      rw [hlast] at h
      cases hn : Counter.next32 (Numbered.id b).num with
      | error f => simp [Id.next, hn, Except.map] at h
      | ok n =>
          simp only [Id.next, hn, Except.map, Except.ok.injEq] at h
          have hle := le_getLast_of_sorted r.sorted ha hlast
          have hn' := Counter.toNat_next32 hn
          subst h
          simp only
          omega

/-- No entry has the next number. -/
theorem find?_nextId {r : Roster α} {id : Id s} (h : r.nextId = .ok id) : r.find? id = none := by
  refine find?_eq_none_iff.2 fun a ha he => ?_
  have := nextId_gt h ha
  rw [he] at this
  omega

/-- There is no next number only for want of one. -/
theorem nextId_eq_error {r : Roster α} {f : Fault} (h : r.nextId = .error f) : f = .overflow := by
  unfold nextId at h
  cases hlast : r.entries.getLast? with
  | none =>
      rw [hlast] at h
      cases h
  | some b =>
      rw [hlast] at h
      cases hn : Counter.next32 (Numbered.id b).num with
      | error f' =>
          simp only [Id.next, hn, Except.map, Except.error.injEq] at h
          subst h
          exact Counter.next32_eq_error hn
      | ok n => simp [Id.next, hn, Except.map] at h

/-! ## The entries as a list -/

/-- Entries are told apart by whatever tells their numbers apart. -/
theorem nodup_map {β : Type} {f : α → β} (hf : ∀ a b, f a = f b → Numbered.id a = Numbered.id b)
    (r : Roster α) : (r.entries.map f).Nodup := by
  rw [List.nodup_iff_pairwise_ne, List.pairwise_map]
  refine r.sorted.imp ?_
  intro a b hlt he
  rw [hf a b he] at hlt
  exact UInt32.lt_irrefl _ hlt

theorem putL_cons_of_lt {a b : α} (h : (Numbered.id b).num < (Numbered.id a).num) (l : List α) :
    putL a (b :: l) = b :: putL a l := by
  have hlt : ¬ (Numbered.id a).num < (Numbered.id b).num := fun h' =>
    UInt32.lt_irrefl _ (UInt32.lt_trans h h')
  have hne : (Numbered.id a).num ≠ (Numbered.id b).num := fun he => UInt32.lt_irrefl _ (he ▸ h)
  rw [putL, if_neg hlt, if_neg hne]

/-- Entries with smaller numbers stay in front. -/
theorem putL_append_of_lt {a : α} {front : List α}
    (h : ∀ b ∈ front, (Numbered.id b).num < (Numbered.id a).num) (l : List α) :
    putL a (front ++ l) = front ++ putL a l := by
  induction front with
  | nil => rfl
  | cons b rest ih =>
      obtain ⟨hb, hrest⟩ := List.forall_mem_cons.1 h
      rw [List.cons_append, putL_cons_of_lt hb, ih hrest, List.cons_append]

/-- An entry with the next number comes last. -/
theorem entries_put_of_nextId {r : Roster α} {a : α} (h : r.nextId = .ok (Numbered.id a)) :
    (r.put a).entries = r.entries ++ [a] := by
  have hlt : ∀ b ∈ r.entries, (Numbered.id b).num < (Numbered.id a).num := fun b hb =>
    UInt32.lt_iff_toNat_lt.2 (nextId_gt h hb)
  have hput := putL_append_of_lt hlt []
  rwa [List.append_nil] at hput

/-- An entry that is found stands somewhere, and one with its number takes its place. -/
theorem entries_put_of_find? {r : Roster α} {a b : α} (hb : r.find? (Numbered.id a) = some b) :
    ∃ front back, r.entries = front ++ b :: back ∧ (r.put a).entries = front ++ a :: back := by
  obtain ⟨hmem, hid⟩ := find?_eq_some_iff.1 hb
  obtain ⟨front, back, hsplit⟩ := List.append_of_mem hmem
  have hsorted := r.sorted
  rw [hsplit, List.pairwise_append] at hsorted
  have hfront : ∀ x ∈ front, (Numbered.id x).num < (Numbered.id a).num := fun x hx =>
    hid ▸ hsorted.2.2 x hx b List.mem_cons_self
  refine ⟨front, back, hsplit, ?_⟩
  show putL a r.entries = front ++ a :: back
  rw [hsplit, putL_append_of_lt hfront, putL, hid, if_neg (UInt32.lt_irrefl _), if_pos rfl]

theorem foldl_putL_cons {b : α} {as l : List α}
    (h : ∀ a ∈ as, (Numbered.id b).num < (Numbered.id a).num) :
    as.foldl (fun l a => putL a l) (b :: l) = b :: as.foldl (fun l a => putL a l) l := by
  induction as generalizing l with
  | nil => rfl
  | cons a rest ih =>
      obtain ⟨ha, hrest⟩ := List.forall_mem_cons.1 h
      rw [List.foldl_cons, List.foldl_cons, putL_cons_of_lt ha, ih hrest]

theorem foldl_putL_filter {p : α → Bool} {f : α → α}
    (hf : ∀ a, Numbered.id (f a) = Numbered.id a) {l : List α}
    (hl : l.Pairwise fun a b => (Numbered.id a).num < (Numbered.id b).num) :
    ((l.filter p).map f).foldl (fun l a => putL a l) l = l.map fun a => if p a then f a else a := by
  induction l with
  | nil => rfl
  | cons b rest ih =>
      obtain ⟨hb, hrest⟩ := List.pairwise_cons.1 hl
      -- everything behind `b` has a greater number, so it is put behind `b`
      have hgreater : ∀ a ∈ (rest.filter p).map f, (Numbered.id b).num < (Numbered.id a).num := by
        intro a ha
        obtain ⟨x, hx, rfl⟩ := List.mem_map.1 ha
        rw [hf]
        exact hb x (List.mem_filter.1 hx).1
      by_cases hp : p b
      · have hself : putL (f b) (b :: rest) = f b :: rest := by
          rw [putL, hf, if_neg (UInt32.lt_irrefl _), if_pos rfl]
        rw [List.filter_cons_of_pos hp, List.map_cons, List.foldl_cons, hself,
          foldl_putL_cons (by rwa [hf]), ih hrest, List.map_cons, if_pos hp]
      · rw [List.filter_cons_of_neg hp, foldl_putL_cons hgreater, ih hrest, List.map_cons,
          if_neg hp]

theorem entries_foldl_put (as : List α) (r : Roster α) :
    (as.foldl put r).entries = as.foldl (fun l a => putL a l) r.entries := by
  induction as generalizing r with
  | nil => rfl
  | cons a rest ih => exact ih (r.put a)

/-- **Putting back some of the entries, changed, changes these and no others.** -/
theorem entries_foldl_put_filter (r : Roster α) {p : α → Bool} {f : α → α}
    (hf : ∀ a, Numbered.id (f a) = Numbered.id a) :
    (((r.entries.filter p).map f).foldl put r).entries
      = r.entries.map fun a => if p a then f a else a := by
  rw [entries_foldl_put]
  exact foldl_putL_filter hf r.sorted

/-! ## Numbers without a gap -/

/-- Of what is numbered from one on, the last has the count of all for its number. -/
theorem last_of_range' {β : Type} {f : β → Nat} {l : List β}
    (h : l.map f = List.range' 1 l.length) {b : β} (hb : l.getLast? = some b) : f b = l.length := by
  obtain ⟨front, hsplit⟩ := List.getLast?_eq_some_iff.1 hb
  rw [hsplit, List.length_append, List.length_singleton, List.range'_1_concat,
    List.map_append] at h
  have hlast := (List.append_inj' h rfl).2
  rw [List.map_singleton, List.singleton_inj, Nat.add_comm] at hlast
  rw [hlast, hsplit, List.length_append, List.length_singleton]

/-- The entries have the numbers from one on, without a gap. -/
def Dense (r : Roster α) : Prop :=
  r.entries.map (fun a => (Numbered.id a).num.toNat) = List.range' 1 r.entries.length

namespace Dense

variable {r r' : Roster α}

/-- The last entry has the count of all entries for its number. -/
theorem num_getLast (h : r.Dense) {a : α} (ha : r.entries.getLast? = some a) :
    (Numbered.id a).num.toNat = r.entries.length :=
  last_of_range' h ha

/-- As long as there are fewer entries than numbers, there is a next number. -/
theorem nextId_of_lt (h : r.Dense) (hroom : r.entries.length + 1 < UInt32.size) :
    ∃ id, r.nextId = .ok id := by
  unfold nextId
  cases hlast : r.entries.getLast? with
  | none => exact ⟨.first, rfl⟩
  | some a =>
      rw [← h.num_getLast hlast] at hroom
      obtain ⟨n, hn⟩ := Counter.next32_of_lt hroom
      exact ⟨⟨n⟩, map_eq_ok.2 ⟨n, hn, rfl⟩⟩

theorem num_nextId (h : r.Dense) {id : Id s} (hid : r.nextId = .ok id) :
    id.num.toNat = 1 + r.entries.length := by
  unfold nextId at hid
  cases hlast : r.entries.getLast? with
  | none =>
      rw [hlast] at hid
      cases hid
      rw [List.getLast?_eq_none_iff.1 hlast]
      rfl
  | some a =>
      rw [hlast] at hid
      obtain ⟨n, hn, rfl⟩ := map_eq_ok.1 hid
      rw [← h.num_getLast hlast, Nat.add_comm]
      exact Counter.toNat_next32 hn

/-- One more entry takes the next number. -/
theorem concat (h : r.Dense) {a : α} (hid : r.nextId = .ok (Numbered.id a))
    (hafter : r'.entries = r.entries ++ [a]) : r'.Dense := by
  rw [Dense, hafter, List.map_append, List.length_append, List.length_singleton,
    List.range'_1_concat, ← h.num_nextId hid, h]
  rfl

/-- Entries that change keep their numbers. -/
theorem of_ids_eq (h : r.Dense) (hids : r'.entries.map Numbered.id = r.entries.map Numbered.id) :
    r'.Dense := by
  have hlength : r'.entries.length = r.entries.length := by
    rw [← List.length_map, hids, List.length_map]
  have hnums := congrArg (List.map fun id : Id s => id.num.toNat) hids
  rw [List.map_map, List.map_map] at hnums
  rw [Dense, hlength]
  exact hnums.trans h

end Dense

end DevSession.Roster
