import DevSession.Proofs.Disk
import DevSession.Proofs.Journal
import DevSession.Store

/-!
# Laws of stores

What all writers of a store agree on is what a writer finds who holds it: `Store.stored`. To hold a
store changes nothing about that, a commit that is refused changes nothing, and a commit that is
taken goes behind the others.

The one thing a journal has to promise is that its lines have their ends (`Store.Whole`). Whatever
is done to a store keeps that promise, and a journal that does not exist yet makes it.

* `Committed`, `committed`: what can come of a commit to a journal.
* `lock_lock`, `stored_commit_of_error`: a store that was held is held as before, and one that
  refused a commit holds what it held.
* `stored_commit`: a commit that is taken goes behind the others.
* `Finds`: what is found of a journal; `finds_lock_iff`, `finds_commit` and `finds_setOutage` say
  when it stays so.
* `Usable`: a store that can be held and takes every commit; it stays so.
-/

namespace DevSession.Store

variable {s : Store} {c : Commit} {cs : List Commit}

/-- The commits that a writer finds who holds the store. To hold a journal makes the directories on
its path, so a path that goes through one of them and back leads on only then. -/
def stored (s : Store) : Except Fault (List Commit) :=
  s.lock.2.load

/-- Every line of the store has its end. -/
def Whole : Store → Prop
  | memory _ _ => True
  | journal path disk =>
    ∀ b, (disk.hold path (lockPath path)).disk.bytes path = .ok b → Journal.Whole b

/-- What a writer who holds a journal finds of it is of a kind. -/
def Finds (P : ByteArray → Prop) : Store → Prop
  | memory _ _ => True
  | journal path disk => ∀ b, (disk.hold path (lockPath path)).disk.bytes path = .ok b → P b

theorem whole_iff_finds : s.Whole ↔ s.Finds Journal.Whole := by
  cases s <;> exact Iff.rfl

/-! ## Journals -/

theorem lock_journal (path : String) (disk : Disk) :
    (journal path disk).lock = ofAttempt path (disk.hold path (lockPath path)) :=
  rfl

/-- A journal that is not there reads like one without a line. -/
theorem load_journal (path : String) (disk : Disk) :
    (journal path disk).load = (disk.bytes path).mapError diskFault >>= Journal.loadBytes := by
  rw [load, Disk.readText, Disk.bytes]
  cases hr : disk.read path with
  | ok b =>
      show _ = Journal.loadBytes b
      simp only [bind, Except.bind, Journal.loadBytes]
      cases String.fromUTF8? b with
      | some text => rfl
      | none => rfl
  | error e =>
      cases e with
      | notFound => exact Journal.loadBytes_empty.symm
      | _ => rfl

theorem stored_journal (path : String) (disk : Disk) :
    (journal path disk).stored
      = ((disk.hold path (lockPath path)).disk.bytes path).mapError diskFault
        >>= Journal.loadBytes :=
  load_journal path _

theorem ofAttempt_fst_eq_ok {path : String} {a : Disk.Attempt} :
    (ofAttempt path a).1 = .ok () ↔ a.result = .ok () := by
  unfold ofAttempt
  cases a.result with
  | ok u => exact ⟨fun _ => rfl, fun _ => rfl⟩
  | error e => exact ⟨(nomatch ·), (nomatch ·)⟩

/-! ## What can come of a commit to a journal -/

/-- A commit to a journal is refused before anything is written, or the write fails in an outage and
the journal is cut back, or the line of the commit stands behind the end of the journal. -/
inductive Committed (path : String) (disk : Disk) (c : Commit) : Except Fault Unit × Store → Prop
  | refused {e : DiskError} (h : (disk.extend path "").result = .error e) :
      Committed path disk c (.error (diskFault e), journal path (disk.extend path "").disk)
  | failed (h : (disk.extend path "").result = .ok ()) (hout : disk.outage ≠ none) :
      Committed path disk c (.error (appendFault path .deviceFailure),
        journal path (disk.extend path "").disk)
  | done (h : (disk.extend path (Journal.encode c)).result = .ok ()) (hout : disk.outage = none) :
      Committed path disk c (.ok (), journal path (disk.extend path (Journal.encode c)).disk)

/-- **Every commit to a journal goes one of these ways.** -/
theorem committed (path : String) (disk : Disk) (c : Commit) :
    Committed path disk c ((journal path disk).commit c) := by
  have hextend : (disk.makeParent path).andThen (·.append path "") = disk.extend path "" := rfl
  unfold commit
  simp only [hextend]
  rcases Disk.andThen_cases (disk.makeParent path) (·.append path "") with
    ⟨e, hr, heq⟩ | ⟨hmade, ⟨e, -, heq⟩ | ⟨opened, happ, heq⟩⟩
  · have hrefused : (disk.extend path "").result = .error e := by rw [Disk.extend, heq, hr]
    rw [hrefused]
    exact .refused hrefused
  · have hrefused : (disk.extend path "").result = .error e := by rw [Disk.extend, heq]
    rw [hrefused]
    exact .refused hrefused
  · have hopen : disk.extend path "" = ⟨.ok (), opened⟩ := heq
    have hkept := ((Disk.makesDirs_makeParent path).keeps disk).outage
    by_cases hout : disk.outage = none
    · obtain ⟨after, hafter, hwrite⟩ :=
        Disk.writeAll_of_none happ (hkept.trans hout) (Journal.encode c)
      have hdone : disk.extend path (Journal.encode c) = ⟨.ok (), after⟩ := by
        rw [Disk.extend, Disk.andThen_of_ok hmade, hafter]
      have hc : Committed path disk c (.ok (), journal path (disk.extend path _).disk) :=
        .done (by rw [hdone]) hout
      rw [hopen, hwrite]
      rwa [hdone] at hc
    · obtain ⟨part, hwrite, hcut⟩ :=
        Disk.truncate_of_outage happ (fun h => hout (hkept.symm.trans h)) (Journal.encode c)
      have hc : Committed path disk c
          (.error (appendFault path .deviceFailure), journal path (disk.extend path "").disk) :=
        .failed (by rw [hopen]) hout
      rw [hopen, hwrite]
      dsimp only
      rw [hcut]
      rwa [hopen] at hc

theorem commit_of_ok {path : String} {disk : Disk} (h : ((journal path disk).commit c).1 = .ok ()) :
    (disk.extend path (Journal.encode c)).result = .ok () ∧ disk.outage = none ∧
      ((journal path disk).commit c).2
        = journal path (disk.extend path (Journal.encode c)).disk := by
  have hc := committed path disk c
  generalize (journal path disk).commit c = r at h hc
  cases hc with
  | done hdone hout => exact ⟨hdone, hout, rfl⟩
  | _ => cases h

/-- A journal takes a commit exactly if its file can be written to and there is no outage. -/
theorem commit_eq_ok_iff {path : String} {disk : Disk} :
    ((journal path disk).commit c).1 = .ok () ↔ disk.Extendable path ∧ disk.outage = none := by
  refine ⟨fun h => ⟨Disk.result_extend_iff.1 (commit_of_ok h).1, (commit_of_ok h).2.1⟩, ?_⟩
  rintro ⟨hext, hout⟩
  have hc := committed path disk c
  generalize (journal path disk).commit c = r at hc
  cases hc with
  | refused h =>
      rw [Disk.result_extend_iff.2 hext] at h
      cases h
  | failed _ hnot => exact absurd hout hnot
  | done => rfl

theorem commit_of_error {path : String} {disk : Disk} {f : Fault}
    (h : ((journal path disk).commit c).1 = .error f) :
    ((journal path disk).commit c).2 = journal path (disk.extend path "").disk := by
  have hc := committed path disk c
  generalize (journal path disk).commit c = r at h hc
  cases hc with
  | done => cases h
  | _ => rfl

/-- Whether a journal takes a commit is a matter of its file and of outages, not of the commit. -/
theorem commit_fst_congr {path : String} {disk disk' : Disk}
    (hr : (disk.extend path "").result = (disk'.extend path "").result)
    (hout : disk.outage = disk'.outage) (c c' : Commit) :
    ((journal path disk).commit c).1 = ((journal path disk').commit c').1 := by
  have hc := committed path disk c
  have hc' := committed path disk' c'
  generalize (journal path disk).commit c = r at hc
  generalize (journal path disk').commit c' = r' at hc'
  cases hc with
  | refused h =>
      rw [h] at hr
      cases hc' with
      | refused h' => rw [Except.error.inj (hr.trans h')]
      | failed h' _ => cases hr.trans h'
      | done h' _ => cases hr.trans ((Disk.result_extend_eq _ _ _ _).trans h')
  | failed h hnot =>
      rw [h] at hr
      cases hc' with
      | refused h' => cases hr.trans h'
      | failed _ _ => rfl
      | done _ hnone => exact absurd (hout.trans hnone) hnot
  | done h hnone =>
      rw [Disk.result_extend_eq _ _ (Journal.encode c), h] at hr
      cases hc' with
      | refused h' => cases hr.trans h'
      | failed _ hnot => exact absurd (hout.symm.trans hnone) hnot
      | done _ _ => rfl

/-- Whether a store takes a commit does not depend on the commit. -/
theorem commit_fst_eq (s : Store) (c c' : Commit) : (s.commit c').1 = (s.commit c).1 := by
  cases s with
  | memory commits writable => cases writable <;> rfl
  | journal path disk => exact commit_fst_congr rfl rfl c' c

/-! ## Holding -/

/-- **To hold a store that was held before gives the same answer and the same store.** -/
theorem lock_lock (s : Store) : s.lock.2.lock = s.lock := by
  cases s with
  | memory commits writable => rfl
  | journal path disk =>
      rw [lock_journal]
      show ofAttempt path ((disk.hold path (lockPath path)).disk.hold path (lockPath path)) = _
      rw [Disk.hold_hold]

@[simp]
theorem stored_lock (s : Store) : s.lock.2.stored = s.stored := by
  rw [stored, stored, lock_lock]

theorem finds_lock_iff {P : ByteArray → Prop} : s.lock.2.Finds P ↔ s.Finds P := by
  cases s with
  | memory commits writable => exact Iff.rfl
  | journal path disk =>
      rw [lock_journal]
      show (∀ b, Disk.bytes (Disk.hold _ path (lockPath path)).disk path = .ok b → _) ↔ _
      rw [Disk.hold_hold]
      exact Iff.rfl

theorem whole_lock_iff : s.lock.2.Whole ↔ s.Whole := by
  rw [whole_iff_finds, whole_iff_finds, finds_lock_iff]

theorem whole_lock (h : s.Whole) : s.lock.2.Whole :=
  whole_lock_iff.2 h

/-! ## Committing -/

/-- **A store that refuses a commit holds what it held.** -/
theorem stored_commit_of_error {f : Fault} (h : (s.commit c).1 = .error f) :
    (s.commit c).2.stored = s.stored := by
  cases s with
  | memory commits writable =>
      cases writable with
      | true => cases h
      | false => rfl
  | journal path disk =>
      rw [commit_of_error h, stored_journal, stored_journal, Disk.bytes_hold_extend_nothing]

/-- A store that can be held can be held after a commit, whether it was taken or not. -/
theorem lock_commit_fst (h : s.lock.1 = .ok ()) (c : Commit) : (s.commit c).2.lock.1 = .ok () := by
  cases s with
  | memory commits writable => cases writable <;> rfl
  | journal path disk =>
      rw [lock_journal, ofAttempt_fst_eq_ok] at h
      cases hr : ((journal path disk).commit c).1 with
      | error f =>
          rw [commit_of_error hr, lock_journal, ofAttempt_fst_eq_ok]
          exact Disk.result_hold_extend_nothing h
      | ok u =>
          obtain ⟨hdone, -, heq⟩ := commit_of_ok hr
          rw [heq, lock_journal, ofAttempt_fst_eq_ok]
          exact Disk.result_hold_of_done hdone h

/-- **A commit that is taken goes behind the others.** -/
theorem stored_commit (hw : s.Whole) (hs : s.stored = .ok cs) (h : (s.commit c).1 = .ok ()) :
    (s.commit c).2.stored = .ok (cs ++ [c]) := by
  cases s with
  | memory commits writable =>
      cases writable with
      | false => cases h
      | true =>
          cases hs
          rfl
  | journal path disk =>
      obtain ⟨hdone, -, heq⟩ := commit_of_ok h
      obtain ⟨b, hbefore, hafter⟩ := Disk.bytes_hold_of_done (lockPath path) hdone
      rw [stored_journal, hbefore] at hs
      rw [heq, stored_journal, hafter]
      exact Journal.loadBytes_append (hw b hbefore) hs c

/-- A store that has taken or refused a commit is of the kind it was, if that goes on with every
line behind the end. -/
theorem finds_commit {P : ByteArray → Prop}
    (hP : ∀ b (c : Commit), P b → P (b ++ (Journal.encode c).toUTF8)) (h : s.Finds P) (c : Commit) :
    (s.commit c).2.Finds P := by
  cases s with
  | memory commits writable => cases writable <;> trivial
  | journal path disk =>
      cases hr : ((journal path disk).commit c).1 with
      | error f =>
          rw [commit_of_error hr]
          intro b hb
          rw [Disk.bytes_hold_extend_nothing] at hb
          exact h b hb
      | ok u =>
          obtain ⟨hdone, -, heq⟩ := commit_of_ok hr
          obtain ⟨front, hbefore, hafter⟩ := Disk.bytes_hold_of_done (lockPath path) hdone
          rw [heq]
          intro b hb
          rw [hafter] at hb
          cases hb
          exact hP front c (h front hbefore)

/-! ## Stores that can be used -/

/-- A writer can hold the store, and it takes every commit. -/
structure Usable (s : Store) : Prop where
  held : s.lock.1 = .ok ()
  taken : ∀ c, (s.lock.2.commit c).1 = .ok ()

theorem usable_empty : Store.empty.Usable :=
  ⟨rfl, fun _ => rfl⟩

theorem Usable.lock (h : s.Usable) : s.lock.2.Usable := by
  refine ⟨?_, fun c => ?_⟩
  · rw [lock_lock]
    exact h.held
  · rw [lock_lock]
    exact h.taken c

/-- **A store that takes a commit takes the next one.** -/
theorem Usable.commit (h : s.Usable) (c : Commit) : (s.lock.2.commit c).2.Usable := by
  have hheld : s.lock.2.lock.1 = .ok () := by rw [lock_lock, h.held]
  refine ⟨lock_commit_fst hheld c, fun next => ?_⟩
  cases s with
  | memory commits writable =>
      have htaken := h.taken next
      cases writable with
      | true => rfl
      | false => cases htaken
  | journal path disk =>
      have hafter : ((journal path disk).lock.2.commit c).2 = journal path _ :=
        (commit_of_ok (h.taken c)).2.2
      obtain ⟨hext, hout⟩ := commit_eq_ok_iff.1 (h.taken c)
      rw [hafter]
      refine commit_eq_ok_iff.2 ⟨(hext.extend (Journal.encode c)).hold (lockPath path), ?_⟩
      exact ((Disk.keeps_extend _ path _).trans (Disk.keeps_hold _ path _)).outage.trans hout

/-! ## Stores that answer alike -/

/-- Two stores with the same commits, which are held alike and take or refuse the next commit
alike. -/
structure Alike (s t : Store) : Prop where
  lock_eq : s.lock.1 = t.lock.1
  stored_eq : s.stored = t.stored
  commit_eq : ∀ c, (s.lock.2.commit c).1 = (t.lock.2.commit c).1
  whole_iff : s.Whole ↔ t.Whole

theorem Alike.refl (s : Store) : s.Alike s :=
  ⟨rfl, rfl, fun _ => rfl, Iff.rfl⟩

theorem Alike.trans {t u : Store} (h : s.Alike t) (h' : t.Alike u) : s.Alike u :=
  ⟨h.lock_eq.trans h'.lock_eq, h.stored_eq.trans h'.stored_eq,
    fun c => (h.commit_eq c).trans (h'.commit_eq c), h.whole_iff.trans h'.whole_iff⟩

theorem Alike.usable {t : Store} (h : s.Alike t) (hs : s.Usable) : t.Usable :=
  ⟨h.lock_eq ▸ hs.held, fun c => h.commit_eq c ▸ hs.taken c⟩

theorem alike_lock (s : Store) : s.lock.2.Alike s := by
  refine ⟨?_, stored_lock s, fun c => ?_, whole_lock_iff⟩ <;> rw [lock_lock]

/-- **A store that has refused a commit answers as before.** -/
theorem alike_commit_of_error {f : Fault} (hheld : s.lock.1 = .ok ())
    (h : (s.commit c).1 = .error f) : (s.commit c).2.Alike s := by
  refine ⟨(lock_commit_fst hheld c).trans hheld.symm, stored_commit_of_error h, ?_, ?_⟩
  · intro next
    cases s with
    | memory commits writable =>
        cases writable with
        | true => cases h
        | false => rfl
    | journal path disk =>
        rw [commit_of_error h, lock_journal, lock_journal]
        refine commit_fst_congr (Disk.result_extend_hold_extend_nothing disk path _) ?_ next next
        exact ((Disk.keeps_extend disk path "").trans (Disk.keeps_hold _ path _)).outage.trans
          (Disk.keeps_hold disk path _).outage.symm
  · cases s with
    | memory commits writable =>
        cases writable with
        | true => cases h
        | false => exact Iff.rfl
    | journal path disk =>
        rw [commit_of_error h, Whole, Whole, Disk.bytes_hold_extend_nothing]

/-! ## Outages -/

theorem lock_setOutage (s : Store) (outage : Option Nat) :
    (s.setOutage outage).lock = (s.lock.1, s.lock.2.setOutage outage) := by
  cases s with
  | memory commits writable => rfl
  | journal path disk =>
      show ofAttempt path ((disk.setOutage outage).hold path (lockPath path)) = _
      rw [Disk.hold_setOutage]
      rfl

@[simp]
theorem stored_setOutage (s : Store) (outage : Option Nat) :
    (s.setOutage outage).stored = s.stored := by
  cases s with
  | memory commits writable => rfl
  | journal path disk =>
      rw [setOutage, stored_journal, stored_journal, Disk.hold_setOutage, Disk.bytes_setOutage]

theorem finds_setOutage {P : ByteArray → Prop} (h : s.Finds P) (outage : Option Nat) :
    (s.setOutage outage).Finds P := by
  cases s with
  | memory commits writable => trivial
  | journal path disk =>
      intro b hb
      rw [Disk.hold_setOutage, Disk.bytes_setOutage] at hb
      exact h b hb

end DevSession.Store
