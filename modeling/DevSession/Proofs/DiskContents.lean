import DevSession.Proofs.Disk

/-!
# What a disk holds

The names in a path say where it leads, whether or not it gets there: directories on the way may be
missing, and then they are made. So a file is followed by its place rather than by its path. Making
directories, and holding a file, changes the bytes at no place; writing a file changes them where
its path leads and nowhere else.

* `target`: where the names in a path lead; `locate_eq_target`.
* `contentAt`: the bytes at a place.
* `Leaves`: a change that leaves the bytes at a place; `leaves_makeDirs`, `leaves_hold`,
  `leaves_update`.
* `contentAt_extend`: text that was written behind the end of a file.
-/

namespace DevSession.Disk

variable {d d' d'' : Disk} {place p : List String} {path text companion : String}

/-! ## Places -/

/-- Where names lead, whatever stands on the way. -/
def follow (place : List String) : List String → List String
  | [] => place
  | name :: rest =>
    if name = ".." then follow place.dropLast rest
    else if name = "." then follow place rest
    else follow (place ++ [name]) rest

/-- Where the names in a path lead, whatever stands on the way. -/
def target (d : Disk) (path : String) : List String :=
  follow (d.origin path) (Path.steps path)

theorem walk_eq_follow {names : List String} (h : d.walk place names = .ok p) :
    p = follow place names := by
  induction names generalizing place with
  | nil => exact (Except.ok.inj h).symm
  | cons name rest ih =>
      unfold walk at h
      unfold follow
      split at h
      · cases h
      · cases h
      · split at h
        · rw [if_pos ‹_›]
          exact ih h
        · rw [if_neg ‹_›]
          split at h
          · rw [if_pos ‹_›]
            exact ih h
          · rw [if_neg ‹_›]
            split at h
            · cases h
            · exact ih h

/-- A path that leads somewhere leads where its names say. -/
theorem locate_eq_target (h : d.locate path = .ok p) : p = d.target path := by
  unfold locate at h
  split at h
  · cases h
  · split at h
    · cases h
    · split at h
      · cases h
      · exact walk_eq_follow h

theorem target_of_here (h : d'.here = d.here) (path : String) :
    d'.target path = d.target path := by
  rw [target, target, origin, origin, h]

/-! ## Bytes -/

/-- The bytes at a place; there are none where no file stands. -/
def contentAt (d : Disk) (place : List String) : ByteArray :=
  match d.entry? place with
  | some (.file content) => content
  | _ => .empty

theorem contentAt_of_holds {content : ByteArray} (h : d.Holds place content) :
    d.contentAt place = content := by
  rcases h with h | ⟨h, rfl⟩ <;> rw [contentAt, h]

theorem contentAt_put_of_ne (e : Entry) (h : p ≠ place) :
    (d.put place e).contentAt p = d.contentAt p := by
  rw [contentAt, contentAt, entry?_put_of_ne d e h]

theorem contentAt_put_file (content : ByteArray) (h : place ≠ []) :
    (d.put place (.file content)).contentAt place = content := by
  rw [contentAt, entry?_put_self d _ h]

/-- A change that leaves the bytes at a place as they are, and paths where they start. -/
structure Leaves (d d' : Disk) (p : List String) : Prop where
  here : d'.here = d.here
  content : d'.contentAt p = d.contentAt p

theorem Leaves.refl (d : Disk) (p : List String) : d.Leaves d p :=
  ⟨rfl, rfl⟩

theorem Leaves.trans (h : d.Leaves d' p) (h' : d'.Leaves d'' p) : d.Leaves d'' p :=
  ⟨h'.here.trans h.here, h'.content.trans h.content⟩

/-! ## Making directories -/

/-- A directory is made where nothing stands, so no bytes are lost. -/
theorem leaves_put_directory (h : d.entry? place = none) (p : List String) :
    d.Leaves (d.put place .directory) p := by
  refine ⟨rfl, ?_⟩
  by_cases hp : p = place
  · subst hp
    have hne : p ≠ [] := ne_nil_of_not_directory (d := d) (by simp [h])
    rw [contentAt, contentAt, entry?_put_self d _ hne, h]
  · exact contentAt_put_of_ne _ hp

theorem leaves_makeUnder (d : Disk) (place names : List String) (p : List String) :
    d.Leaves (d.makeUnder place names).disk p := by
  fun_induction makeUnder d place names with
  | case1 d place => exact .refl d p
  | case2 d place rest ih => exact ih
  | case3 d place name rest => exact .refl d p
  | case4 d place name rest _ _ _ ih => exact ih
  | case5 d place name rest => exact .refl d p
  | case6 d place name rest _ _ hnone ih => exact (leaves_put_directory hnone p).trans ih

theorem leaves_makeDirs (d : Disk) (path : String) (p : List String) :
    d.Leaves (d.makeDirs path).disk p := by
  unfold makeDirs
  split
  · exact .refl d p
  · split
    · exact .refl d p
    · split
      · rw [disk_andThen_haveDir]
        exact leaves_makeUnder _ _ _ p
      · exact leaves_makeUnder _ _ _ p

theorem leaves_makeParent (d : Disk) (path : String) (p : List String) :
    d.Leaves (d.makeParent path).disk p := by
  unfold makeParent
  split
  · exact leaves_makeDirs d _ p
  · exact .refl d p

/-! ## Writing -/

/-- Changing a file leaves the bytes at all other places. -/
theorem leaves_update {change : ByteArray → ByteArray} (h : d.update path change = .ok d')
    (hp : p ≠ d.target path) : d.Leaves d' p := by
  obtain ⟨place, content, hl, -, rfl⟩ := update_eq_ok.1 h
  obtain rfl := locate_eq_target hl
  exact ⟨rfl, contentAt_put_of_ne _ hp⟩

/-- The bytes of a file that was changed. -/
theorem contentAt_update {change : ByteArray → ByteArray} (h : d.update path change = .ok d') :
    d'.contentAt (d.target path) = change (d.contentAt (d.target path)) := by
  obtain ⟨place, content, hl, hh, rfl⟩ := update_eq_ok.1 h
  obtain rfl := locate_eq_target hl
  rw [contentAt_put_file _ hh.ne_nil, contentAt_of_holds hh]

/-- Writing nothing behind the end of a file leaves the bytes at every place. -/
theorem leaves_append_nothing (h : d.append path "" = .ok d') (p : List String) :
    d.Leaves d' p := by
  by_cases hp : p = d.target path
  · subst hp
    refine ⟨(keeps_append h).here, (contentAt_update h).trans ?_⟩
    simp
  · exact leaves_update h hp

/-- **Holding a file leaves the bytes at every place**, its own among them. -/
theorem leaves_hold (d : Disk) (path companion : String) (p : List String) :
    d.Leaves (d.hold path companion).disk p := by
  have hmade := leaves_makeParent d path p
  rcases andThen_cases (d.makeParent path) (·.append companion "") with
    ⟨e, -, heq⟩ | ⟨-, ⟨e, -, heq⟩ | ⟨disk, happ, heq⟩⟩
  · rwa [hold, heq]
  · rwa [hold, heq]
  · rw [hold, heq]
    exact hmade.trans (leaves_append_nothing happ p)

/-- **Text that was written behind the end of a file stands behind what the file held.** -/
theorem contentAt_extend (h : (d.extend path text).result = .ok ()) :
    (d.extend path text).disk.contentAt (d.target path)
      = d.contentAt (d.target path) ++ text.toUTF8 := by
  have hmade := leaves_makeParent d path (d.target path)
  rcases andThen_cases (d.makeParent path) (·.append path text) with
    ⟨e, hr, heq⟩ | ⟨-, ⟨e, -, heq⟩ | ⟨disk, happ, heq⟩⟩
  · rw [extend, heq, hr] at h
    cases h
  · rw [extend, heq] at h
    cases h
  · rw [show d.extend path text = _ from heq, ← target_of_here hmade.here path,
      contentAt_update happ, target_of_here hmade.here path, hmade.content]

end DevSession.Disk
