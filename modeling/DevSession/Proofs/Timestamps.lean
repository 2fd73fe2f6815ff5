import DevSession.Proofs.TornJournal

/-!
# Commits with any timestamps

The text of a timestamp is what a clock shows. A leap second within a minute is shown as the second
after it, so it has the text of that second, and that is what is read back. All that a commit says
besides comes back as it was, and all of it if there is no such leap second in it.

* `Timestamp.settled`: the instant that the text of a timestamp is read as.
* `Timed`: entities with timestamps, which can be listed and replaced; an instance for each entity.
* `Journal.encode_retime_settled`: a commit has the line of the commit that comes back.
* `Store.load_of_written`: what a journal gives back of the commits that were written to it.
* `Store.load_of_inner_leap`: a commit that does not come back.
-/

namespace DevSession

/-! ## Timestamps as they are read back -/

namespace Timestamp

/-- The instant with the text of a timestamp: a leap second within a minute becomes the second after
it. -/
def settled (t : Timestamp) : Instant :=
  if h : t.Regular then ⟨t, h⟩
  else
    { t with
      second := t.second + 1
      nano := t.nano - 1000000000
      valid := by
        obtain ⟨hyear, hday, ⟨hhour, hminute, hsecond⟩, hnano⟩ := t.valid
        have hinner : ¬ (t.nano < 1000000000 ∨ t.second = 59) := h
        exact ⟨hyear, hday, ⟨hhour, hminute, by omega⟩, by omega⟩
      regular := by
        have hnano := t.valid.2.2.2
        show t.nano - 1000000000 < 1000000000 ∨ _
        omega }

/-- Exactly the regular timestamps are instants already. -/
theorem toTimestamp_settled_eq_iff (t : Timestamp) : t.settled.toTimestamp = t ↔ t.Regular := by
  by_cases h : t.Regular
  · simp [settled, h]
  · refine iff_of_false (fun heq => ?_) h
    have hsecond := congrArg Timestamp.second heq
    simp only [settled, dif_neg h] at hsecond
    omega

/-- **A timestamp has the text of the instant that it is read as.** -/
theorem text_settled (t : Timestamp) : t.settled.text = t.text := by
  by_cases h : t.Regular
  · simp [settled, h]
  · have hinner : ¬ (t.nano < 1000000000 ∨ t.second = 59) := h
    have hshown : t.second + 1 + (t.nano - 1000000000) / 1000000000
        = t.second + t.nano / 1000000000 := by omega
    have hrest : (t.nano - 1000000000) % 1000000000 = t.nano % 1000000000 := by omega
    simp only [settled, dif_neg h, text, textL, dateL, clockL, shownSecond, shownNano, hshown,
      hrest]

end Timestamp

/-! ## Entities with timestamps -/

/-- Entities with timestamps in them: they can be listed, and each can be replaced by another. -/
class Timed (F : Type → Type) where
  /-- The entity with each timestamp replaced. -/
  retime : {τ σ : Type} → (τ → σ) → F τ → F σ
  /-- The timestamps of an entity. -/
  times : {τ : Type} → F τ → List τ
  retime_retime : ∀ {τ σ ρ : Type} (f : τ → σ) (g : σ → ρ) (x : F τ),
    retime g (retime f x) = retime (fun t => g (f t)) x
  retime_eq_self_iff : ∀ {τ : Type} (f : τ → τ) (x : F τ),
    retime f x = x ↔ ∀ t ∈ times x, f t = t

namespace Timed

variable {τ : Type}

theorem option_map_eq_self_iff (f : τ → τ) (o : Option τ) :
    o.map f = o ↔ ∀ t ∈ o.toList, f t = t := by
  cases o <;> simp

theorem list_map_eq_self_iff {α : Type} (f : α → α) (l : List α) :
    l.map f = l ↔ ∀ a ∈ l, f a = a := by
  have hinj := @List.map_inj_left _ _ l f id
  rwa [List.map_id] at hinj

theorem map_retime_eq_self_iff {F : Type → Type} [Timed F] (f : τ → τ) (l : List (F τ)) :
    l.map (retime f) = l ↔ ∀ t ∈ l.flatMap times, f t = t := by
  rw [list_map_eq_self_iff, List.forall_mem_flatMap]
  exact forall₂_congr fun x _ => retime_eq_self_iff f x

instance : Timed (@Session) where
  retime f s := ⟨s.id, s.request, s.config, s.status, f s.startedAt, s.endedAt.map f, s.summary⟩
  times s := s.startedAt :: s.endedAt.toList
  retime_retime f g s := by simp [Function.comp_def]
  retime_eq_self_iff f s := by
    cases s
    simp [option_map_eq_self_iff]

instance : Timed (@Plan) where
  retime f p := ⟨p.version, p.overview, p.components, p.fileChanges, f p.createdAt⟩
  times p := [p.createdAt]
  retime_retime _ _ _ := rfl
  retime_eq_self_iff f p := by
    cases p
    simp

instance : Timed (@Critic) where
  retime f c :=
    ⟨c.id, c.kind, c.name, c.state, c.result, f c.spawnedAt, c.reportedAt.map f, c.late⟩
  times c := c.spawnedAt :: c.reportedAt.toList
  retime_retime f g c := by simp [Function.comp_def]
  retime_eq_self_iff f c := by
    cases c
    simp [option_map_eq_self_iff]

instance : Timed (@Synthesis) where
  retime f s := ⟨s.narrative, s.critics, f s.createdAt⟩
  times s := [s.createdAt]
  retime_retime _ _ _ := rfl
  retime_eq_self_iff f s := by
    cases s
    simp

instance : Timed (@PhaseChange) where
  retime f c := ⟨c.phase, f c.time⟩
  times c := [c.time]
  retime_retime _ _ _ := rfl
  retime_eq_self_iff f c := by
    cases c
    simp

instance : Timed (@Task) where
  retime f t := ⟨t.id, t.name, t.description, t.dependsOn, t.phase, t.status,
    t.history.map (retime f), t.reopenCount, f t.createdAt, f t.updatedAt⟩
  times t := t.history.flatMap times ++ [t.createdAt, t.updatedAt]
  retime_retime f g t := by simp [Function.comp_def, retime_retime]
  retime_eq_self_iff f t := by
    rw [List.forall_mem_append, ← map_retime_eq_self_iff]
    cases t
    simp

instance : Timed (@Review) where
  retime f r := ⟨r.id, r.name, r.state, r.result, f r.spawnedAt, r.reportedAt.map f, r.late⟩
  times r := r.spawnedAt :: r.reportedAt.toList
  retime_retime f g r := by simp [Function.comp_def]
  retime_eq_self_iff f r := by
    cases r
    simp [option_map_eq_self_iff]

instance : Timed (@Event) where
  retime f e := ⟨e.seq, e.sessionId, f e.timestamp, e.level, e.message, e.source, e.marker⟩
  times e := [e.timestamp]
  retime_retime _ _ _ := rfl
  retime_eq_self_iff f e := by
    cases e
    simp

instance : Timed (@Record) where
  retime f
    | .plan p => .plan (retime f p)
    | .critic c => .critic (retime f c)
    | .synthesis s => .synthesis (retime f s)
    | .task t => .task (retime f t)
    | .review r => .review (retime f r)
    | .event e => .event (retime f e)
  times
    | .plan p => times p
    | .critic c => times c
    | .synthesis s => times s
    | .task t => times t
    | .review r => times r
    | .event e => times e
  retime_retime f g r := by cases r <;> simp [retime_retime]
  retime_eq_self_iff f r := by cases r <;> simp [retime_eq_self_iff]

instance : Timed (@Commit) where
  retime f c := ⟨retime f c.session, c.records.map (retime f), f c.committedAt⟩
  times c := times c.session ++ c.records.flatMap times ++ [c.committedAt]
  retime_retime f g c := by simp [Function.comp_def, retime_retime]
  retime_eq_self_iff f c := by
    rw [List.forall_mem_append, List.forall_mem_append, ← map_retime_eq_self_iff,
      ← retime_eq_self_iff]
    cases c
    simp [and_assoc]

/-! ## What is written of them

What is written of an entity depends on what is written of its timestamps only. -/

section

variable {σ : Type} [JsonForm τ] [JsonForm σ] {f : τ → σ}
  (hf : ∀ t, JsonForm.write (f t) = JsonForm.write t)

include hf

theorem write_retime_session (s : Session τ) : JsonForm.write (retime f s) = JsonForm.write s := by
  obtain ⟨_, _, _, _, _, _ | _, _⟩ := s <;> simp [JsonForm.write, retime, hf]

theorem write_retime_plan (p : Plan τ) : JsonForm.write (retime f p) = JsonForm.write p := by
  simp [JsonForm.write, retime, hf]

theorem write_retime_critic (c : Critic τ) : JsonForm.write (retime f c) = JsonForm.write c := by
  obtain ⟨_, _, _, _, _, _, _ | _, _⟩ := c <;> simp [JsonForm.write, retime, hf]

theorem write_retime_synthesis (s : Synthesis τ) :
    JsonForm.write (retime f s) = JsonForm.write s := by
  simp [JsonForm.write, retime, hf]

theorem write_retime_task (t : Task τ) : JsonForm.write (retime f t) = JsonForm.write t := by
  simp [JsonForm.write, retime, hf, Function.comp_def]

theorem write_retime_review (r : Review τ) : JsonForm.write (retime f r) = JsonForm.write r := by
  obtain ⟨_, _, _, _, _, _ | _, _⟩ := r <;> simp [JsonForm.write, retime, hf]

theorem write_retime_event (e : Event τ) : JsonForm.write (retime f e) = JsonForm.write e := by
  simp [JsonForm.write, retime, hf]

theorem data_retime (r : Record τ) : (retime f r).data = r.data := by
  cases r with
  | plan p => exact write_retime_plan hf p
  | critic c => exact write_retime_critic hf c
  | synthesis s => exact write_retime_synthesis hf s
  | task t => exact write_retime_task hf t
  | review r => exact write_retime_review hf r
  | event e => exact write_retime_event hf e

theorem write_retime_record (r : Record τ) : JsonForm.write (retime f r) = JsonForm.write r := by
  have hkind : (retime f r).kind = r.kind := by cases r <;> rfl
  have hdata := data_retime hf r
  simp only [JsonForm.write, hkind, hdata]

theorem write_retime_commit (c : Commit τ) : JsonForm.write (retime f c) = JsonForm.write c := by
  have hsession := write_retime_session hf c.session
  have hrecords : JsonForm.write (c.records.map (retime f)) = JsonForm.write c.records := by
    show Json.arr ((c.records.map (retime f)).map JsonForm.write) = Json.arr _
    rw [List.map_map]
    exact congrArg Json.arr (List.map_congr_left fun r _ => write_retime_record hf r)
  have htime := hf c.committedAt
  show Json.object [("session", some (JsonForm.write (retime f c.session))),
    ("records", some (JsonForm.write (c.records.map (retime f)))),
    ("committed_at", some (JsonForm.write (f c.committedAt)))] = _
  rw [hsession, hrecords, htime]
  rfl

end

end Timed

/-! ## Journals of such commits -/

open Timed

/-- **A commit has the line of the commit that is read back from it.** -/
theorem Journal.encode_retime_settled (c : Commit Timestamp) :
    encode (retime Timestamp.settled c) = encode c := by
  have hwrite : JsonForm.write (retime Timestamp.settled c) = JsonForm.write c :=
    write_retime_commit (fun t => congrArg Json.str t.text_settled) c
  unfold encode encodeL payloadL
  rw [hwrite]

namespace Store

/-- The lines of commits, put one behind the other, are loaded as the commits with each timestamp as
its text says. -/
theorem load_join_encode {cs : List (Commit Timestamp)} {path : String} {disk : Disk}
    (hread : disk.read path = .ok (String.join (cs.map Journal.encode)).toUTF8) :
    (journal path disk).load = .ok (cs.map (retime Timestamp.settled)) := by
  have hlines : cs.map Journal.encode
      = (cs.map (retime Timestamp.settled)).map Journal.encode := by
    rw [List.map_map]
    exact List.map_congr_left fun c _ => (Journal.encode_retime_settled c).symm
  rw [load_of_read hread, hlines, Journal.loadBytes_toUTF8]
  exact Journal.load_join _

/-- **What a journal gives back of the commits that were written to it.** Every commit has a line,
which ends with the only line feed in it, whatever its texts, numbers and timestamps are. A file
that holds the lines of some commits, one behind the other, is loaded as these commits in their
order, with each timestamp as its text says; so they are the commits that were written exactly if no
leap second within a minute is among their timestamps. -/
theorem load_of_written (cs : List (Commit Timestamp)) :
    (∀ c : Commit Timestamp, (Journal.encode c).toList.count '\n' = 1 ∧
      (Journal.encode c).toList.getLast? = some '\n') ∧
    ∀ path disk, disk.read path = .ok (String.join (cs.map Journal.encode)).toUTF8 →
      ∃ loaded, (journal path disk).load = .ok loaded ∧
        loaded = cs.map (retime Timestamp.settled) ∧
        (loaded.map (retime Instant.toTimestamp) = cs ↔
          ∀ c ∈ cs, ∀ t ∈ times c, t.Regular) := by
  refine ⟨fun c => ?_, fun path disk hread => ⟨_, load_join_encode hread, rfl, ?_⟩⟩
  · rw [← Journal.encode_retime_settled]
    exact Journal.newline_encode _
  · rw [List.map_map, list_map_eq_self_iff]
    refine forall₂_congr fun c _ => ?_
    rw [Function.comp_apply, retime_retime, retime_eq_self_iff]
    exact forall₂_congr fun t _ => t.toTimestamp_settled_eq_iff

/-- A commit that is hard to write down, with a leap second at the end of a minute. -/
def ruggedStamped : Commit Timestamp :=
  retime Instant.toTimestamp ruggedCommit

/-- The same commit, made in a leap second within a minute. -/
def innerLeapStamped : Commit Timestamp :=
  { ruggedStamped with committedAt := ⟨2025, 3, 4, 5, 6, 7, 1500000000, by decide⟩ }

theorem load_of_written_rugged :
    ∃ disk : Disk, disk.read "/journal" =
        .ok (String.join ([ruggedStamped, ruggedStamped].map Journal.encode)).toUTF8 ∧
      ∃ loaded, (journal "/journal" disk).load = .ok loaded ∧
        loaded.map (retime Instant.toTimestamp) = [ruggedStamped, ruggedStamped] := by
  obtain ⟨loaded, hload, -, hsame⟩ :=
    (load_of_written [ruggedStamped, ruggedStamped]).2 _ _ (read_journalDisk _)
  exact ⟨_, read_journalDisk _, loaded, hload, hsame.2 (by decide)⟩

/-- A commit made in a leap second within a minute is not loaded as it was written: the time of the
commit that is loaded is in the second after. -/
theorem load_of_inner_leap :
    ∃ disk : Disk,
      disk.read "/journal" = .ok (String.join ([innerLeapStamped].map Journal.encode)).toUTF8 ∧
      ∃ c : Commit, (journal "/journal" disk).load = .ok [c] ∧
        c.committedAt.toTimestamp = ⟨2025, 3, 4, 5, 6, 8, 500000000, by decide⟩ ∧
        retime Instant.toTimestamp c ≠ innerLeapStamped :=
  ⟨_, read_journalDisk _, retime Timestamp.settled innerLeapStamped,
    load_join_encode (read_journalDisk _), rfl, by decide⟩

end Store

end DevSession
