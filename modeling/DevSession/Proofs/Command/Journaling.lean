import DevSession.Proofs.Command.Actions
import DevSession.Proofs.DiskContents
import DevSession.Proofs.Handle

/-!
# What commands write to the journal

A command that changes the workspace writes one line behind the end of the journal, or it fails and
writes none; all other commands leave the journal alone. What stands in a command's way is always
known by its fault, and the exit code says of which kind it is.

The journal is followed by its place on the disk, so one has to know that no other file that
commands write stands there: the settings and the timelines (`Settings.JournalApart`). Without
settings there is no such place: no command but `init` gets further than that.

* `Invocation.Stopped`: what can stand in the way of a command.
* `Invocation.Ran`, `Invocation.ran_run`: how a command can go.
* `Invocation.run_of_unset`: a command whose settings cannot be read.
* `CommandLine.run_appends_one_line_at_most`: what a command line does to the journal.
-/

namespace DevSession

/-! ## Mutations of a journal -/

namespace Handle.Ran

open Invocation (diskOf)

variable {h : Handle} {path : String} {disk : Disk} {m : Mutation} {draw : Draw} {o : Outcome}

/-- A mutation that is not done leaves the bytes at every place of the disk. -/
theorem leaves_of_error (hr : h.Ran (.journal path disk) m draw o) {f : Fault}
    (he : o.result = .error f) (p : List String) : disk.Leaves (diskOf disk o.store) p := by
  have hheld := Disk.leaves_hold disk path (Store.lockPath path) p
  cases hr with
  | refused => exact .refl disk p
  | unheld | unread | rejected => exact hheld
  | unwritten _ _ _ _ hcommit =>
      -- all that stays is that the file was opened, as a held file is
      have hstore := congrArg (diskOf disk) (Store.commit_of_error hcommit)
      exact hheld.trans (hstore ▸ Disk.leaves_hold _ path path p)
  | taken => cases he

/-- A mutation that is done writes the line of its commit behind the end of the journal. -/
theorem line_of_ok (hr : h.Ran (.journal path disk) m draw o) {a : Answer}
    (ha : o.result = .ok a) :
    ∃ cs c, (Store.journal path disk).stored = .ok cs ∧
      m.propose (.replay cs) h.range draw = .ok (c, a) ∧
      o.handle.workspace = .replay (cs ++ [c]) ∧
      (diskOf disk o.store).contentAt (disk.target path)
        = disk.contentAt (disk.target path) ++ (Journal.encode c).toUTF8 := by
  have hheld := Disk.leaves_hold disk path (Store.lockPath path) (disk.target path)
  cases hr with
  | @taken cs c _ _ _ hread hpropose hcommit =>
      cases ha
      refine ⟨cs, c, hread, hpropose, rfl, ?_⟩
      have hline := Disk.contentAt_extend (d := (disk.hold path (Store.lockPath path)).disk)
        (Store.commit_of_ok hcommit).1
      rw [Disk.target_of_here hheld.here path, hheld.content] at hline
      have hstore := congrArg (diskOf disk) (Store.commit_of_ok hcommit).2.2
      exact (congrArg (·.contentAt (disk.target path)) hstore).trans hline
  | _ => cases ha

end Handle.Ran

/-! ## Other files -/

/-- The journal is not the settings file, nor the timeline of a session that is stored. -/
structure Settings.JournalApart (settings : Settings) (root : String) (disk : Disk) : Prop where
  config : disk.target (settings.journalPath root) ≠ disk.target (path root)
  timeline : ∀ cs, (Store.journal (settings.journalPath root) disk).stored = .ok cs →
    ∀ s ∈ (Workspace.replay cs).sessions, disk.target (settings.journalPath root)
      ≠ disk.target (Timeline.pathIn (Path.join root stateDir) s.id)

theorem Settings.leaves_writeDefault {disk : Disk} {root : String} {p : List String}
    (hp : p ≠ disk.target (path root)) : disk.Leaves (writeDefault disk root).2 p := by
  have hmade := Disk.leaves_makeDirs disk (Path.join root stateDir) p
  unfold writeDefault
  dsimp only
  split
  · exact hmade
  · split
    · exact hmade
    · refine hmade.trans (Disk.leaves_update ‹_› ?_)
      rwa [Disk.target_of_here hmade.here]

theorem Timeline.leaves_write {disk : Disk} {dir : String} {s : Session} {p : List String}
    (events : List Event) (hp : p ≠ disk.target (pathIn dir s.id)) :
    disk.Leaves (write disk dir s events).disk p := by
  have hmade := Disk.leaves_makeDirs disk dir p
  unfold write
  rcases Disk.andThen_cases (disk.makeDirs dir) (·.write (pathIn dir s.id) (render s events)) with
    ⟨_, -, heq⟩ | ⟨-, ⟨_, -, heq⟩ | ⟨_, hwrite, heq⟩⟩
  · rwa [heq]
  · rwa [heq]
  · rw [heq]
    refine hmade.trans (Disk.leaves_update hwrite ?_)
    rwa [Disk.target_of_here hmade.here]

/-! ## How a command can go -/

namespace Invocation

variable {i : Invocation} {settings : Settings} {disk : Disk} {draw : Draw} {cs : List Commit}

/-- The journal of a command's workspace. -/
def journal (i : Invocation) (settings : Settings) (disk : Disk) : Store :=
  .journal (settings.journalPath i.root) disk

/-- Where the journal of a command's workspace stands. -/
def journalPlace (i : Invocation) (settings : Settings) (disk : Disk) : List String :=
  disk.target (settings.journalPath i.root)

/-- The disk once the journal is held. -/
def held (i : Invocation) (settings : Settings) (disk : Disk) : Disk :=
  (disk.hold (settings.journalPath i.root) (Store.lockPath (settings.journalPath i.root))).disk

theorem leaves_held (i : Invocation) (settings : Settings) (disk : Disk) (p : List String) :
    disk.Leaves (i.held settings disk) p :=
  Disk.leaves_hold disk _ _ p

theorem stored_held (i : Invocation) (settings : Settings) (disk : Disk) :
    (i.journal settings (i.held settings disk)).stored = (i.journal settings disk).stored :=
  Store.stored_lock (i.journal settings disk)

/-- The faults that stop a command: the settings cannot be read or written, the journal cannot be
held or read, something is wrong with the command, its mutation is not done, or its timeline is not
written. -/
inductive Stopped (i : Invocation) (disk : Disk) (draw : Draw) : Fault → Prop
  | unset {f : Fault} (h : Settings.load disk i.root = .error f) : Stopped i disk draw f
  | unwritten {force : Bool} {f : Fault} (hcommand : i.command = .init force)
      (h : (Settings.writeDefault disk i.root).1 = .error f) : Stopped i disk draw f
  | unopened {settings : Settings} {f : Fault}
      (hsettings : Settings.load disk i.root = .ok settings)
      (h : (Handle.openOn (i.journal settings disk) settings.qa).1 = .error f) :
      Stopped i disk draw f
  | objected {settings : Settings} {cs : List Commit} {f : Fault}
      (hsettings : Settings.load disk i.root = .ok settings)
      (hstored : (i.journal settings disk).stored = .ok cs)
      (h : i.Objection settings (.replay cs) f) : Stopped i disk draw f
  | refused {settings : Settings} {cs : List Commit} {m : Mutation}
      {after : Answer → Workspace → Except Fault String} {f : Fault}
      (hsettings : Settings.load disk i.root = .ok settings)
      (hstored : (i.journal settings disk).stored = .ok cs)
      (haction : i.action settings (.replay cs) = .ok (.change m after))
      (h : (Handle.run ⟨.replay cs, settings.qa⟩ (i.journal settings (i.held settings disk)) m
        draw).result = .error f) : Stopped i disk draw f
  | untold {settings : Settings} {cs : List Commit} {s : Session} {events : List Event}
      {e : DiskError} (hsettings : Settings.load disk i.root = .ok settings)
      (hstored : (i.journal settings disk).stored = .ok cs)
      (haction : i.action settings (.replay cs) = .ok (.timeline s events))
      (h : (Timeline.write (i.held settings disk) (Path.join i.root stateDir) s events).result
        = .error e) :
      Stopped i disk draw (Store.diskFault e)

/-- The bytes of the journal that the settings name are as they were. -/
def LeavesJournal (i : Invocation) (disk disk' : Disk) : Prop :=
  ∀ settings, Settings.load disk i.root = .ok settings → settings.JournalApart i.root disk →
    disk.Leaves disk' (i.journalPlace settings disk)

theorem LeavesJournal.of_loaded {disk' : Disk}
    (hsettings : Settings.load disk i.root = .ok settings)
    (h : settings.JournalApart i.root disk → disk.Leaves disk' (i.journalPlace settings disk)) :
    i.LeavesJournal disk disk' := by
  intro settings' hsettings'
  obtain rfl : settings = settings' := Except.ok.inj (hsettings.symm.trans hsettings')
  exact h

/-- The ways in which a command can go: it is stopped, it shows something, or it puts the line of
one commit behind the journal. -/
inductive Ran (i : Invocation) (disk : Disk) (draw : Draw) : Effect → Prop
  | stopped {f : Fault} {failure : Failure} {disk' : Disk} (hfault : i.Stopped disk draw f)
      (hfailure : failure.ComesFrom f) (hleaves : i.LeavesJournal disk disk') :
      Ran i disk draw (.error failure, disk')
  | shown {text : String} {disk' : Disk} (hcommand : i.command.isMutating = false)
      (hleaves : i.LeavesJournal disk disk') : Ran i disk draw (.ok text, disk')
  | recorded {settings : Settings} {text : String} {disk' : Disk} {cs : List Commit} {m : Mutation}
      {after : Answer → Workspace → Except Fault String} {c : Commit} {a : Answer}
      (hcommand : i.command.isMutating = true)
      (hsettings : Settings.load disk i.root = .ok settings)
      (hstored : (i.journal settings disk).stored = .ok cs)
      (haction : i.action settings (.replay cs) = .ok (.change m after))
      (hpropose : m.propose (.replay cs) settings.qa draw = .ok (c, a))
      (hline : disk'.contentAt (i.journalPlace settings disk)
        = disk.contentAt (i.journalPlace settings disk) ++ (Journal.encode c).toUTF8) :
      Ran i disk draw (.ok text, disk')

theorem leaves_runInit {force : Bool} {p : List String}
    (hp : p ≠ disk.target (Settings.path i.root)) : disk.Leaves (i.runInit force disk).2 p := by
  have hleaves := Settings.leaves_writeDefault hp
  unfold runInit
  dsimp only
  split
  · exact .refl disk _
  · split <;> rename_i hwrite <;> rwa [hwrite] at hleaves

theorem ran_runInit {force : Bool} (draw : Draw) (hcommand : i.command = .init force) :
    i.Ran disk draw (i.runInit force disk) := by
  have hm : i.command.isMutating = false := by rw [hcommand]; rfl
  have hleaves : i.LeavesJournal disk (Settings.writeDefault disk i.root).2 :=
    fun settings _ hapart => Settings.leaves_writeDefault hapart.config
  unfold runInit
  dsimp only
  split
  · exact .shown hm fun _ _ _ => .refl disk _
  · split <;> rename_i hwrite <;> rw [hwrite] at hleaves
    · exact .stopped (.unwritten hcommand (congrArg Prod.fst hwrite)) (Failure.comesFrom_ofFault _)
        hleaves
    · exact .shown hm hleaves

/-- A mutation by a command that has opened the journal. -/
theorem ran_perform_change {m : Mutation} {after : Answer → Workspace → Except Fault String}
    (draw : Draw) (hsettings : Settings.load disk i.root = .ok settings)
    (hstored : (i.journal settings disk).stored = .ok cs)
    (haction : i.action settings (.replay cs) = .ok (.change m after)) :
    i.Ran disk draw (i.perform ⟨.replay cs, settings.qa⟩
      (i.journal settings (i.held settings disk)) (i.held settings disk) draw
      (.change m after)) := by
  obtain ⟨hm, hafter⟩ := sound_action haction
  have hheld := leaves_held i settings disk (i.journalPlace settings disk)
  have hread := (stored_held i settings disk).trans hstored
  have hr := Handle.ran_run (h := ⟨.replay cs, settings.qa⟩) m draw fun ds hds => by
    obtain rfl : cs = ds := Except.ok.inj (hread.symm.trans hds)
    exact Handle.follows_replay cs settings.qa
  unfold perform
  dsimp only
  cases hres : (Handle.run ⟨.replay cs, settings.qa⟩ (i.journal settings (i.held settings disk)) m
      draw).result with
  | error f =>
      exact .stopped (.refused hsettings hstored haction hres) (Failure.comesFrom_ofFault f)
        (.of_loaded hsettings fun _ => hheld.trans (hr.leaves_of_error hres _))
  | ok a =>
      obtain ⟨ds, c, hds, hpropose, hworkspace, hline⟩ := hr.line_of_ok hres
      obtain rfl : cs = ds := Except.ok.inj (hread.symm.trans hds)
      -- the answer is shown from the workspace after the commit, which is never refused
      obtain ⟨text, htext⟩ := hafter settings.qa draw c a hpropose
      rw [Disk.target_of_here hheld.here, ← journalPlace, hheld.content] at hline
      dsimp only
      rw [hworkspace, Workspace.replay_concat, htext]
      exact .recorded hm hsettings hstored haction hpropose hline

/-- An action of a command that has opened the journal. -/
theorem ran_perform {action : Action} (draw : Draw)
    (hsettings : Settings.load disk i.root = .ok settings)
    (hstored : (i.journal settings disk).stored = .ok cs)
    (haction : i.action settings (.replay cs) = .ok action) :
    i.Ran disk draw (i.perform ⟨.replay cs, settings.qa⟩
      (i.journal settings (i.held settings disk)) (i.held settings disk) draw action) := by
  have hheld := leaves_held i settings disk (i.journalPlace settings disk)
  cases action with
  | print text => exact .shown (sound_action haction) (.of_loaded hsettings fun _ => hheld)
  | change m after => exact ran_perform_change draw hsettings hstored haction
  | timeline s events =>
      obtain ⟨hm, t, ht, rfl⟩ := sound_action haction
      have hwritten : i.LeavesJournal disk (Timeline.write (i.held settings disk)
          (Path.join i.root stateDir) t.session events).disk := by
        refine .of_loaded hsettings fun hapart => hheld.trans (Timeline.leaves_write events ?_)
        rw [Disk.target_of_here hheld.here]
        exact hapart.timeline cs hstored t ht
      unfold perform
      dsimp only
      split
      · exact .stopped (.untold hsettings hstored haction ‹_›) (Failure.comesFrom_ofFault _)
          hwritten
      · exact .shown hm hwritten

/-- A command whose settings cannot be read changes nothing on the disk. Only `init` does without
them. -/
theorem run_of_unset {f : Fault} (draw : Draw) (hinit : ∀ force, i.command ≠ .init force)
    (hsettings : Settings.load disk i.root = .error f) :
    i.run disk draw = (.error (.ofFault f), disk) := by
  unfold run
  split
  · exact absurd ‹_› (hinit _)
  · rw [hsettings]

/-- **Every command goes one of these ways.** -/
theorem ran_run (i : Invocation) (disk : Disk) (draw : Draw) :
    i.Ran disk draw (i.run disk draw) := by
  unfold run
  split
  · exact ran_runInit draw ‹_›
  · cases hsettings : Settings.load disk i.root with
    | error f =>
        exact .stopped (.unset hsettings) (Failure.comesFrom_ofFault f) fun _ _ _ => .refl disk _
    | ok settings =>
        have hheld : i.LeavesJournal disk (i.held settings disk) :=
          .of_loaded hsettings fun _ => leaves_held i settings disk _
        dsimp only
        rw [show Handle.openOn (.journal (settings.journalPath i.root) disk) settings.qa
          = ((Handle.openOn (i.journal settings disk) settings.qa).1,
            i.journal settings (i.held settings disk)) from Prod.ext rfl (Handle.openOn_snd _ _)]
        cases hopen : (Handle.openOn (i.journal settings disk) settings.qa).1 with
        | error f =>
            exact .stopped (.unopened hsettings hopen) (Failure.comesFrom_ofFault f) hheld
        | ok h =>
            obtain ⟨-, cs, hstored, rfl⟩ := Handle.openOn_eq_ok.1 hopen
            dsimp only
            cases haction : i.action settings (.replay cs) with
            | error failure =>
                obtain ⟨f, hf, hfailure⟩ := fromFaults_action i settings _ failure haction
                exact .stopped (.objected hsettings hstored hf) hfailure hheld
            | ok action => exact ran_perform draw hsettings hstored haction

end Invocation

/-! ## Command lines -/

namespace CommandLine

variable {args : List String} {i : Invocation} {settings : Settings} {disk : Disk}

theorem exitCode_ofFailure (json : Bool) (failure : Failure) :
    (ofFailure json failure).exitCode = failure.exitCode := by
  cases json <;> rfl

/-- A command without settings leaves the bytes at every place, that of the settings apart. -/
theorem leaves_run_of_unset {f : Fault} (draw : Draw)
    (hsettings : Settings.load disk i.root = .error f) {p : List String}
    (hp : p ≠ disk.target (Settings.path i.root)) : disk.Leaves (i.run disk draw).2 p := by
  by_cases hinit : ∃ force, i.command = .init force
  · obtain ⟨force, hforce⟩ := hinit
    rw [show i.run disk draw = i.runInit force disk by rw [Invocation.run, hforce]]
    exact Invocation.leaves_runInit hp
  · rw [Invocation.run_of_unset draw (fun force h => hinit ⟨force, h⟩) hsettings]
    exact .refl disk p

/-- **A command writes one line to the journal at most.** Take a command line that is a command. If
it exits with a code other than zero, the failure it prints and the code are those of the fault that
stopped it. On a disk where its workspace has settings and the journal is a file of its own, the
bytes of the journal are then as they were; if it exits with zero and changes the workspace, the
line of one commit stands behind the journal, the commit that its mutation makes of what was stored;
and a command that does not change the workspace leaves the bytes of the journal as they were. On a
disk where the settings cannot be read, `init` may write them and changes no other file; all other
commands fail with the fault of the settings, and the disk stays as it was. -/
theorem run_appends_one_line_at_most (draw : Draw) (hargs : Arguments.parse args = .ok i) :
    ∃ result disk', run args disk draw = (result, disk') ∧
      (result.exitCode ≠ 0 → ∃ f failure, i.Stopped disk draw f ∧ failure.ComesFrom f ∧
        result = ofFailure i.json failure ∧ result.exitCode = Failure.codeOf f) ∧
      (∀ settings, Settings.load disk i.root = .ok settings → settings.JournalApart i.root disk →
        (result.exitCode ≠ 0 → disk'.contentAt (i.journalPlace settings disk)
          = disk.contentAt (i.journalPlace settings disk)) ∧
        (result.exitCode = 0 → i.command.isMutating = true →
          ∃ cs m after c a, (i.journal settings disk).stored = .ok cs ∧
            i.action settings (.replay cs) = .ok (.change m after) ∧
            m.propose (.replay cs) settings.qa draw = .ok (c, a) ∧
            disk'.contentAt (i.journalPlace settings disk)
              = disk.contentAt (i.journalPlace settings disk) ++ (Journal.encode c).toUTF8) ∧
        (i.command.isMutating = false → disk'.contentAt (i.journalPlace settings disk)
          = disk.contentAt (i.journalPlace settings disk))) ∧
      (∀ f, Settings.load disk i.root = .error f →
        (∀ p, p ≠ disk.target (Settings.path i.root) → disk'.contentAt p = disk.contentAt p) ∧
        ((∀ force, i.command ≠ .init force) →
          result = ofFailure i.json (.ofFault f) ∧ disk' = disk)) := by
  have hr := Invocation.ran_run i disk draw
  have hkeeps := fun f (hf : Settings.load disk i.root = .error f) p hp =>
    (leaves_run_of_unset draw hf (p := p) hp).content
  have hunset := fun f (hf : Settings.load disk i.root = .error f) hinit =>
    Invocation.run_of_unset draw hinit hf
  unfold run
  rw [hargs]
  dsimp only
  generalize i.run disk draw = effect at hr hkeeps hunset
  cases hr with
  | @stopped f failure disk' hfault hfailure hleaves =>
      have hcode : (ofFailure i.json failure).exitCode = Failure.codeOf f :=
        (exitCode_ofFailure _ _).trans hfailure.exitCode_eq
      refine ⟨_, _, rfl, fun _ => ⟨f, failure, hfault, hfailure, rfl, hcode⟩,
        fun settings hs hapart => ?_, fun f' hf' => ⟨hkeeps f' hf', fun hinit => ?_⟩⟩
      · have hsame := (hleaves settings hs hapart).content
        exact ⟨fun _ => hsame,
          fun hzero => absurd (hcode.symm.trans hzero) (Failure.codeOf_ne_zero f), fun _ => hsame⟩
      · cases hunset f' hf' hinit
        exact ⟨rfl, rfl⟩
  | shown hcommand hleaves =>
      refine ⟨_, _, rfl, fun hne => absurd rfl hne, fun settings hs hapart => ?_,
        fun f' hf' => ⟨hkeeps f' hf', fun hinit => ?_⟩⟩
      · refine ⟨fun hne => absurd rfl hne, fun _ hm => ?_,
          fun _ => (hleaves settings hs hapart).content⟩
        rw [hcommand] at hm
        cases hm
      · cases hunset f' hf' hinit
  | recorded hcommand hsettings hstored haction hpropose hline =>
      refine ⟨_, _, rfl, fun hne => absurd rfl hne, fun settings hs _ => ?_, fun f' hf' => ?_⟩
      · obtain rfl := Except.ok.inj (hsettings.symm.trans hs)
        refine ⟨fun hne => absurd rfl hne,
          fun _ _ => ⟨_, _, _, _, _, hstored, haction, hpropose, hline⟩, fun hm => ?_⟩
        rw [hcommand] at hm
        cases hm
      · cases hsettings.symm.trans hf'

/-- The first commit of a session. -/
def firstCommit : Commit :=
  ⟨.start ⟨"s"⟩ "change" {} default, [], default⟩

/-- A disk with a journal. -/
def journalDisk (content : ByteArray) : Disk where
  entries := [([".conductor"], .directory), ([".conductor", "journal.jsonl"], .file content)]

/-- A disk with a journal that holds one session. -/
def startedDisk : Disk :=
  journalDisk (String.join ([firstCommit].map Journal.encode)).toUTF8

theorem stored_journalDisk (content : ByteArray) :
    (Store.journal "./.conductor/journal.jsonl" (journalDisk content)).stored
      = Journal.loadBytes content := by
  rw [Store.stored_journal]
  rfl

theorem stored_startedDisk :
    (Store.journal "./.conductor/journal.jsonl" startedDisk).stored = .ok [firstCommit] := by
  rw [startedDisk, stored_journalDisk, Journal.loadBytes_toUTF8, Journal.load_join]

/-- A disk with a settings file that is not one. -/
def unsetDisk : Disk where
  entries := [([".conductor"], .directory), ([".conductor", "config.toml"], .file "x".toUTF8)]

/-- On an empty disk the start of a session writes the line of a commit. On a disk with a session
the timeline of the session is written, and the journal keeps its one line. On a disk without
readable settings the command says so, and changes nothing. -/
theorem run_appends_one_line_at_most_three_disks :
    (∃ (result : Result) (disk' : Disk) (c : Commit),
      run ["session", "start", "change"] {} ⟨fun _ => default, ""⟩ = (result, disk') ∧
      result.exitCode = 0 ∧
      disk'.contentAt [".conductor", "journal.jsonl"] = .empty ++ (Journal.encode c).toUTF8) ∧
    (∃ result disk', run ["session", "timeline"] startedDisk ⟨fun _ => default, ""⟩
        = (result, disk') ∧
      disk'.contentAt [".conductor", "journal.jsonl"]
        = startedDisk.contentAt [".conductor", "journal.jsonl"]) ∧
    ∃ f, Settings.load unsetDisk "." = .error f ∧
      run ["session", "timeline"] unsetDisk ⟨fun _ => default, ""⟩
        = (ofFailure false (.ofFault f), unsetDisk) := by
  have htimeline : Arguments.parse ["session", "timeline"]
      = .ok ⟨false, none, ".", .sessionTimeline⟩ := rfl
  refine ⟨?_, ?_, ?_⟩
  · have hargs : Arguments.parse ["session", "start", "change"]
        = .ok ⟨false, none, ".", .sessionStart "change" none false false none⟩ := rfl
    have hapart : ({} : Settings).JournalApart "." {} := by
      refine ⟨by decide +kernel, fun cs hcs s hs => ?_⟩
      cases hcs
      cases hs
    have hzero : (run ["session", "start", "change"] {} ⟨fun _ => default, ""⟩).1.exitCode = 0 := by
      decide +kernel
    obtain ⟨result, disk', hrun, -, hset, -⟩ :=
      run_appends_one_line_at_most ⟨fun _ => default, ""⟩ hargs
    rw [hrun] at hzero
    obtain ⟨_, _, _, c, _, -, -, -, hline⟩ := (hset {} rfl hapart).2.1 hzero rfl
    exact ⟨result, disk', c, hrun, hzero, hline⟩
  · have hapart : ({} : Settings).JournalApart "." startedDisk := by
      refine ⟨by decide +kernel, fun cs hcs s hs => ?_⟩
      obtain rfl : [firstCommit] = cs := Except.ok.inj (stored_startedDisk.symm.trans hcs)
      obtain rfl := List.mem_singleton.1 hs
      decide +kernel
    obtain ⟨result, disk', hrun, -, hset, -⟩ :=
      run_appends_one_line_at_most ⟨fun _ => default, ""⟩ htimeline
    exact ⟨result, disk', hrun, (hset {} rfl hapart).2.2 rfl⟩
  · have hload : (Settings.load unsetDisk ".").toOption.isSome = false := by decide +kernel
    obtain ⟨result, disk', hrun, -, -, hunset⟩ :=
      @run_appends_one_line_at_most _ _ unsetDisk ⟨fun _ => default, ""⟩ htimeline
    cases hsettings : Settings.load unsetDisk "." with
    | ok settings =>
        rw [hsettings] at hload
        cases hload
    | error f =>
        obtain ⟨rfl, rfl⟩ := (hunset f hsettings).2 nofun
        exact ⟨f, rfl, hrun⟩

end CommandLine

end DevSession
