import DevSession.Commit
import DevSession.Proofs.Instant
import DevSession.Proofs.Json.RoundTrip

/-!
# Lawful forms

Every entity of a session is read back from its JSON form, and its form can be written as text. The
law of each type is an instance of `LawfulForm`, so the law of a record is found field by field from
the laws of its parts.

* `LawfulForm`: what is written is read back, and lies no deeper than a known number of levels.
* `LawfulForm Commit`: the law of commits, which rests on all others.
-/

namespace DevSession

/-- A JSON form that reads back what it writes, in no more than the given number of levels. -/
class LawfulForm (α : Type) [JsonForm α] (levels : outParam Nat) : Prop where
  read?_write : ∀ (held : Bool) (a : α), JsonForm.read? held (JsonForm.write a) = some a
  fits_write : ∀ (a : α) {room : Nat}, levels ≤ room → (JsonForm.write a).Fits room

/-- A JSON form that is never `null`, so that an absent value can be told apart. -/
class PresentForm (α : Type) [JsonForm α] : Prop where
  write_ne_null : ∀ a : α, JsonForm.write a ≠ .null

namespace LawfulForm

attribute [simp] LawfulForm.read?_write

/-! ## Plain values -/

theorem fits_str (s : String) (room : Nat) : Json.Fits room (.str s) := by
  simp [Json.Fits]

theorem fits_nat (n room : Nat) : Json.Fits room (.nat n) := by
  simp [Json.Fits, Json.nat]

instance : LawfulForm Bool 0 where
  read?_write _ _ := rfl
  fits_write b _ _ := by simp [JsonForm.write, Json.Fits]

instance : LawfulForm String 0 where
  read?_write _ _ := rfl
  fits_write s room _ := fits_str s room

instance : PresentForm String := ⟨fun _ h => nomatch h⟩

theorem readNat?_nat {n bound : Nat} (h : n < bound) :
    JsonForm.readNat? bound (.nat n) = some ⟨n, h⟩ := by
  simp [JsonForm.readNat?, Json.nat, h]

instance : LawfulForm UInt8 0 where
  read?_write _ n := by
    show (JsonForm.readNat? UInt8.size (.nat n.toNat)).map _ = _
    rw [readNat?_nat n.toNat_lt_size]
    rfl
  fits_write n room _ := fits_nat n.toNat room

instance : LawfulForm UInt32 0 where
  read?_write _ n := by
    show (JsonForm.readNat? UInt32.size (.nat n.toNat)).map _ = _
    rw [readNat?_nat n.toNat_lt_size]
    rfl
  fits_write n room _ := fits_nat n.toNat room

instance : LawfulForm UInt64 0 where
  read?_write _ n := by
    show (JsonForm.readNat? UInt64.size (.nat n.toNat)).map _ = _
    rw [readNat?_nat n.toNat_lt_size]
    rfl
  fits_write n room _ := fits_nat n.toNat room

instance : LawfulForm Instant 0 where
  read?_write _ t := Instant.parse?_text t
  fits_write t room _ := fits_str t.text room

instance : PresentForm Instant := ⟨fun _ h => nomatch h⟩

instance {s : Series} : LawfulForm (Id s) 0 where
  read?_write held id := by
    show (JsonForm.read? held (JsonForm.write id.num)).map Id.mk = _
    rw [read?_write]
    rfl
  fits_write id _ h := fits_write id.num h

instance : LawfulForm SessionId 0 where
  read?_write _ _ := rfl
  fits_write id room _ := fits_str id.text room

/-! ## Lists and absent values -/

instance {α : Type} {n : Nat} [JsonForm α] [LawfulForm α n] : LawfulForm (List α) (n + 1) where
  read?_write held as := by
    show (as.map JsonForm.write).mapM (JsonForm.read? held) = some as
    induction as with
    | nil => rfl
    | cons a as ih => simp [ih]
  fits_write as room h := by
    obtain ⟨r, rfl⟩ : ∃ r, room = r + 1 := ⟨room - 1, by omega⟩
    refine Json.fits_arr.2 fun j hj => ?_
    obtain ⟨a, -, rfl⟩ := List.mem_map.1 hj
    exact fits_write a (by omega)

instance {α : Type} {n : Nat} [JsonForm α] [LawfulForm α n] [PresentForm α] :
    LawfulForm (Option α) n where
  read?_write held a := by
    cases a with
    | none => rfl
    | some a =>
        have hpresent := PresentForm.write_ne_null a
        have hread := read?_write held a
        show (match JsonForm.write a with
          | .null => some none
          | j => (JsonForm.read? held j).map some) = some (some a)
        split
        · exact absurd ‹_› hpresent
        · rw [hread, Option.map_some]
  fits_write a room h := by
    cases a with
    | none => simp [JsonForm.write, Json.Fits]
    | some a => exact fits_write a h

/-- A value that is there is read back where it may be absent. -/
@[simp]
theorem read?_write_some {α : Type} {n : Nat} [JsonForm α] [LawfulForm α n] [PresentForm α]
    (held : Bool) (a : α) :
    (JsonForm.read? held (JsonForm.write a) : Option (Option α)) = some (some a) :=
  read?_write held (some a)

/-! ## Choices -/

/-- The names of a choice tell its values apart. -/
theorem ofChoice {α : Type} [Choice α] (h : ∀ a : α, Choice.ofName? (Choice.name a) = some a) :
    @LawfulForm α Choice.form 0 :=
  @LawfulForm.mk α Choice.form 0 (fun _ a => h a) fun a room _ => fits_str (Choice.name a) room

instance : LawfulForm SessionStatus 0 := ofChoice fun a => by cases a <;> rfl

instance : LawfulForm FileChangeKind 0 := ofChoice fun a => by cases a <;> rfl

instance : LawfulForm WorkerState 0 := ofChoice fun a => by cases a <;> rfl

instance : LawfulForm TaskPhase 0 := ofChoice fun a => by cases a <;> rfl

instance : LawfulForm TaskStatus 0 := ofChoice fun a => by cases a <;> rfl

instance : LawfulForm EventLevel 0 := ofChoice fun a => by cases a <;> rfl

instance : LawfulForm EventMarker 0 := ofChoice fun a => by cases a; rfl

instance : PresentForm EventMarker := ⟨fun _ h => nomatch h⟩

instance : LawfulForm CriticKind 1 where
  read?_write held kind := by cases kind <;> rfl
  fits_write kind room h := by
    obtain ⟨r, rfl⟩ : ∃ r, room = r + 1 := ⟨room - 1, by omega⟩
    cases kind with
    | custom name => exact Json.fits_obj.2 (by simp [fits_str])
    | _ => exact fits_str _ _

/-! ## Records -/

/-- The fields of an object that are there. -/
theorem fits_object {fields : List (String × Option Json)} {room levels : Nat}
    (hroom : levels + 1 ≤ room)
    (h : ∀ field ∈ fields, ∀ j, field.2 = some j → Json.Fits (room - 1) j) :
    Json.Fits room (.object fields) := by
  obtain ⟨r, rfl⟩ : ∃ r, room = r + 1 := ⟨room - 1, by omega⟩
  refine Json.fits_obj.2 fun field hfield => ?_
  obtain ⟨⟨name, value⟩, hmem, hvalue⟩ := List.mem_filterMap.1 hfield
  obtain ⟨j, hj, rfl⟩ := Option.map_eq_some_iff.1 hvalue
  exact h _ hmem j hj

attribute [local simp] Json.object Fields.read? Fields.noRepeats Fields.need? Fields.optional?
  Fields.orElse? List.lookup_cons

instance : LawfulForm IssueCounts 1 where
  read?_write held i := by
    unfold IssueCounts.instJsonForm
    simp
  fits_write i room h := by
    refine fits_object h ?_
    simp (disch := omega) [fits_write]

instance : LawfulForm CriticResult 2 where
  read?_write held r := by
    unfold instJsonFormCriticResult
    simp
  fits_write r room h := by
    refine fits_object h ?_
    simp (disch := omega) [fits_write]

instance : PresentForm CriticResult := ⟨fun _ h => nomatch h⟩

instance : LawfulForm Critic 3 where
  read?_write held c := by
    unfold Critic.instJsonForm
    simp
  fits_write c room h := by
    refine fits_object h ?_
    simp (disch := omega) [fits_write]

instance : LawfulForm Synthesis 2 where
  read?_write held s := by
    unfold instJsonFormSynthesis
    simp
  fits_write s room h := by
    refine fits_object h ?_
    simp (disch := omega) [fits_write]

instance : LawfulForm FileChange 1 where
  read?_write held c := by
    unfold FileChange.instJsonForm
    obtain ⟨path, kind, note⟩ := c
    cases note <;> simp
  fits_write c room h := by
    refine fits_object h ?_
    simp (disch := omega) [fits_write]

instance : LawfulForm Plan 3 where
  read?_write held p := by
    unfold instJsonFormPlan
    simp
  fits_write p room h := by
    refine fits_object h ?_
    simp (disch := omega) [fits_write]

instance : LawfulForm PhaseChange 1 where
  read?_write held c := by
    unfold instJsonFormPhaseChange
    simp
  fits_write c room h := by
    refine fits_object h ?_
    simp (disch := omega) [fits_write]

instance : LawfulForm Task 3 where
  read?_write held t := by
    unfold Task.instJsonForm
    simp
  fits_write t room h := by
    refine fits_object h ?_
    simp (disch := omega) [fits_write]

instance : LawfulForm ReviewResult 1 where
  read?_write held r := by
    unfold instJsonFormReviewResult
    simp
  fits_write r room h := by
    refine fits_object h ?_
    simp (disch := omega) [fits_write]

instance : PresentForm ReviewResult := ⟨fun _ h => nomatch h⟩

instance : LawfulForm Review 2 where
  read?_write held r := by
    unfold Review.instJsonForm
    simp
  fits_write r room h := by
    refine fits_object h ?_
    simp (disch := omega) [fits_write]

instance : LawfulForm SessionConfig 1 where
  read?_write held c := by
    unfold instJsonFormSessionConfig
    simp
  fits_write c room h := by
    refine fits_object h ?_
    simp (disch := omega) [fits_write]

instance : LawfulForm Session 2 where
  read?_write held s := by
    unfold Session.instJsonForm
    simp
  fits_write s room h := by
    refine fits_object h ?_
    simp (disch := omega) [fits_write]

/-! ## Events -/

/-- Digits whose number fits in sixty-four bits are gathered whole. -/
theorem gather_eq (ds : List Char) (n : Nat) (h : Nat.ofDigitChars 10 ds n < UInt64.size) :
    Double.gather n ds = (Nat.ofDigitChars 10 ds n, []) := by
  induction ds generalizing n with
  | nil => rfl
  | cons c cs ih =>
      rw [Nat.ofDigitChars_cons] at h ⊢
      have hle : 10 * n + (c.toNat - '0'.toNat) ≤
          Nat.ofDigitChars 10 cs (10 * n + (c.toNat - '0'.toNat)) := by
        rw [Nat.ofDigitChars_eq_ofDigitChars_zero]
        exact Nat.le_trans (Nat.le_mul_of_pos_left _ (Nat.pow_pos (by decide)))
          (Nat.le_add_right _ _)
      have hstep : n * 10 + (c.toNat - 48) = 10 * n + (c.toNat - '0'.toNat) := by
        rw [Nat.mul_comm]
        rfl
      rw [Double.gather, hstep, if_pos (Nat.lt_of_le_of_lt hle h)]
      exact ih _ h

/-- A count of thirty-two bits is finite in double precision. -/
theorem isSound_nat {n : Nat} (h : n < UInt32.size) : (Json.nat n).isSound = true := by
  have hlt : n < 4294967296 := h
  have hgather : Double.gather 0 (Text.Decimal.digits n) = (n, []) := by
    rw [gather_eq, Text.Decimal.ofDigitChars_digits]
    rw [Text.Decimal.ofDigitChars_digits]
    exact Nat.lt_trans h (by decide)
  have hround : Double.round n = n := if_pos (by omega)
  have hbound : 4294967296 ≤ Double.bound := by decide +kernel
  show Double.isQuicklyFinite (Text.Decimal.digits n) [] 0 = true
  rw [Double.isQuicklyFinite, hgather]
  show Double.isFiniteProduct n 0 = true
  unfold Double.isFiniteProduct
  split
  · rfl
  · rw [if_neg (by decide), hround, show Double.round (Nat.pow 10 (0 : Int).toNat) = 1 from rfl]
    simp
    omega

@[simp]
theorem isSound_write_num (n : UInt32) : (JsonForm.write n).isSound = true :=
  isSound_nat n.toNat_lt_size

@[simp]
theorem isSound_write_id {s : Series} (id : Id s) : (JsonForm.write id).isSound = true :=
  isSound_nat id.num.toNat_lt_size

instance : LawfulForm EventSource 1 where
  read?_write held source := by
    unfold EventSource.instJsonForm
    cases source <;> simp [EventSource.read?, EventSource.entityName, EventSource.entityIn?,
      EventSource.entityNames, EventSource.ofEntity?, EventSource.detail?, EventSource.noDetail,
      Json.allFieldsSound]
  fits_write source room h := by
    refine fits_object h ?_
    cases source <;> simp (disch := omega) [fits_write, fits_str]

instance : LawfulForm Event 2 where
  read?_write held e := by
    unfold instJsonFormEvent
    obtain ⟨seq, sessionId, timestamp, level, message, source, marker⟩ := e
    cases marker <;> simp
  fits_write e room h := by
    refine fits_object h ?_
    simp (disch := omega) [fits_write]

/-! ## Commits -/

instance : LawfulForm Record 4 where
  read?_write held r := by
    show Record.read? (.obj [("record", .str r.kind), ("data", r.data)]) = some r
    cases r <;> simp [Record.read?, Record.kind, Record.data, Record.ofData?, Record.dataFirst,
      Choice.nameIn?]
  fits_write r room h := by
    obtain ⟨n, rfl⟩ : ∃ n, room = n + 1 := ⟨room - 1, by omega⟩
    refine Json.fits_obj.2 ?_
    cases r <;> simp (disch := omega) [Record.data, fits_write, fits_str]

instance : LawfulForm Commit 6 where
  read?_write held c := by
    unfold Commit.instJsonForm
    simp
  fits_write c room h := by
    refine fits_object h ?_
    simp (disch := omega) [fits_write]

end LawfulForm

end DevSession
