import DevSession.Disk
import DevSession.Journal

/-!
# Stores

Where commits are kept. A store takes commits one at a time, whole or not at all, and gives them
back in order. One kind of store lasts as long as the program (`MemoryStore`); the other is a
journal on the disk (`JournalStore`). In an outage both refuse commits; a journal whose file has
taken a part of a line cuts it off again.

* `Store`: the two kinds.
* `Store.lock`, `Store.load`, `Store.commit`: what a writer does, in this order.
* `Store.setOutage`: the store in an outage, or after it.
-/

namespace DevSession

/-- Where commits are kept. -/
inductive Store where
  | memory (commits : List Commit) (writable : Bool)
  | journal (path : String) (disk : Disk)

namespace Store

/-- The fault behind a refusal of the disk. -/
def diskFault (e : DiskError) : Fault :=
  .storage e.text

/-- A store without commits. -/
def empty : Store :=
  .memory [] true

/-- Where a store keeps its commits. -/
def describe : Store → String
  | memory _ _ => "memory"
  | journal path _ => "journal at " ++ path

/-- The file that writers of a journal hold while they write. -/
def lockPath (path : String) : String :=
  path ++ ".lock"

/-- The journal after a change of its disk, and whether the change was done. -/
def ofAttempt (path : String) (a : Disk.Attempt) : Except Fault Unit × Store :=
  (a.result.mapError diskFault, journal path a.disk)

/-- The store, held for one writer. A journal has a file beside it for that. -/
def lock : Store → Except Fault Unit × Store
  | memory commits writable => (.ok (), memory commits writable)
  | journal path disk =>
    ofAttempt path ((disk.makeParent path).andThen (·.append (lockPath path) ""))

/-- Every commit, oldest first. -/
def load : Store → Except Fault (List Commit)
  | memory commits _ => .ok commits
  | journal path disk =>
    match disk.readText path with
    | .ok text => Journal.load text
    | .error .notFound => .ok []
    | .error e => .error (diskFault e)

/-- The commits after the first `seen`. -/
def loadSince (s : Store) (seen : Nat) : Except Fault (List Commit) :=
  s.load.map (·.drop seen)

/-- The fault of a line that was not written. -/
def appendFault (path : String) (e : DiskError) : Fault :=
  .storage ("failed to append to " ++ path ++ ": " ++ e.text)

/-- The store with one more commit, or as it was but for directories that were made on the way and
an empty file. If the line of the commit cannot be written to its end, the journal is cut back to
the length that it had. -/
def commit (s : Store) (c : Commit) : Except Fault Unit × Store :=
  match s with
  | memory commits writable =>
    if writable then (.ok (), memory (commits ++ [c]) writable)
    else (.error (.storage "memory store is not writable"), s)
  | journal path disk =>
    let opened := (disk.makeParent path).andThen (·.append path "")
    match opened.result with
    | .error e => (.error (diskFault e), journal path opened.disk)
    | .ok () =>
      let previous := (opened.disk.read path).toOption.getD .empty
      let written := opened.disk.writeAll path (Journal.encode c)
      match written.result with
      | .ok () => (.ok (), journal path written.disk)
      | .error e =>
        (.error (appendFault path e), journal path (written.disk.truncate path previous.size))

/-- The store in an outage, or after it. In an outage a store that lasts as long as the program
takes no commit (`MemoryStore::set_writable`), and a journal none either, though a number of bytes
of a line may reach its file. -/
def setOutage : Store → Option Nat → Store
  | memory commits _, outage => memory commits outage.isNone
  | journal path disk, outage => journal path (disk.setOutage outage)

end Store

end DevSession
