import DevSession.Fault
import DevSession.Id

/-!
# Rosters

The critics, tasks or reviews of a session, in order of their numbers. A roster has at most one
entry for a number, so two rosters with the same entries are equal.

* `Roster`: entries in strictly increasing order of their numbers.
* `Roster.put`: the roster with an entry added or replaced.
* `Roster.nextId`: the number after the last one.
-/

namespace DevSession

/-- Things that have a number in a series. -/
class Numbered (α : Type) (s : outParam Series) where
  /-- The number of a thing. -/
  id : α → Id s

/-- Entries in strictly increasing order of their numbers. -/
structure Roster (α : Type) {s : Series} [Numbered α s] where
  entries : List α
  sorted : entries.Pairwise fun a b => (Numbered.id a).num < (Numbered.id b).num

namespace Roster

variable {α : Type} {s : Series} [Numbered α s]

/-- The roster without entries. -/
def empty : Roster α :=
  ⟨[], .nil⟩

instance : Inhabited (Roster α) := ⟨empty⟩

@[ext]
theorem ext {r r' : Roster α} (h : r.entries = r'.entries) : r = r' := by
  cases r; cases r'; cases h; rfl

instance [DecidableEq α] : DecidableEq (Roster α) := fun r r' =>
  decidable_of_iff (r.entries = r'.entries) ⟨ext, fun h => h ▸ rfl⟩

/-- The entry with a number. -/
def find? (r : Roster α) (id : Id s) : Option α :=
  r.entries.find? fun a => Numbered.id a = id

/-! ## Adding and replacing -/

/-- Sorted entries with `a` at its place, instead of the entry that had its number. -/
def putL (a : α) : List α → List α
  | [] => [a]
  | b :: rest =>
    if (Numbered.id a).num < (Numbered.id b).num then a :: b :: rest
    else if (Numbered.id a).num = (Numbered.id b).num then a :: rest
    else b :: putL a rest

theorem mem_putL {a b : α} {l : List α} (h : b ∈ putL a l) : b = a ∨ b ∈ l := by
  induction l with
  | nil => simpa [putL] using h
  | cons c rest ih =>
    unfold putL at h
    split at h
    · simpa using h
    · split at h
      · rcases List.mem_cons.1 h with rfl | h
        · exact .inl rfl
        · exact .inr (List.mem_cons_of_mem _ h)
      · rcases List.mem_cons.1 h with rfl | h
        · exact .inr List.mem_cons_self
        · exact (ih h).imp_right (List.mem_cons_of_mem _)

theorem sorted_putL (a : α) {l : List α}
    (h : l.Pairwise fun a b => (Numbered.id a).num < (Numbered.id b).num) :
    (putL a l).Pairwise fun a b => (Numbered.id a).num < (Numbered.id b).num := by
  induction l with
  | nil => simp [putL]
  | cons b rest ih =>
    have hb := List.pairwise_cons.1 h
    unfold putL
    split
    · rename_i hab
      refine List.pairwise_cons.2 ⟨fun c hc => ?_, h⟩
      rcases List.mem_cons.1 hc with rfl | hc
      · exact hab
      · exact UInt32.lt_trans hab (hb.1 c hc)
    · split
      · rename_i hab
        exact List.pairwise_cons.2 ⟨fun c hc => hab ▸ hb.1 c hc, hb.2⟩
      · rename_i hlt hne
        refine List.pairwise_cons.2 ⟨fun c hc => ?_, ih hb.2⟩
        rcases mem_putL hc with rfl | hc
        · rw [UInt32.lt_iff_toNat_lt] at hlt ⊢
          rw [← UInt32.toNat_inj] at hne
          omega
        · exact hb.1 c hc

/-- The roster with an entry, which takes the place of the one with its number. -/
def put (r : Roster α) (a : α) : Roster α :=
  ⟨putL a r.entries, sorted_putL a r.sorted⟩

/-- The number after the last one, or the first of the series. -/
def nextId (r : Roster α) : Except Fault (Id s) :=
  match r.entries.getLast? with
  | some a => (Numbered.id a).next
  | none => .ok .first

end Roster

end DevSession
