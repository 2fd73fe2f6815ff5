import DevSession.Proofs.DiskContents

/-!
# Paths that end in a name

A path made by joining a name to a directory leads to that name under the place of the directory,
however the directory is written: with a slash behind it or without, and with dots on the way. So
two names lead to two places.

* `Path.IsName`: a text that is one name.
* `Path.steps_join`: the names in a path made by joining a name to a directory.
* `Disk.target_join`, `Disk.target_join_inj`: where such a path leads.
-/

namespace DevSession

namespace Path

/-- A text that stands for one name in a directory. -/
structure IsName (name : String) : Prop where
  slash : '/' ∉ name.toList
  ne_empty : name ≠ ""
  ne_dot : name ≠ "."
  ne_dots : name ≠ ".."

theorem splitL_ne_nil (cs : List Char) : splitL cs ≠ [] := by
  cases cs with
  | nil => exact List.cons_ne_nil [] []
  | cons c cs =>
      unfold splitL
      split
      · exact List.cons_ne_nil _ _
      · split <;> exact List.cons_ne_nil _ _

/-- The pieces on both sides of a slash are the pieces of the whole. -/
theorem splitL_append_slash (a b : List Char) :
    splitL (a ++ '/' :: b) = splitL a ++ splitL b := by
  induction a with
  | nil => rfl
  | cons c a ih =>
      rw [List.cons_append, splitL, splitL, ih]
      split
      · rfl
      · obtain ⟨piece, pieces, ha⟩ := List.exists_cons_of_ne_nil (splitL_ne_nil a)
        rw [ha]
        rfl

theorem splitL_of_not_mem {cs : List Char} (h : '/' ∉ cs) : splitL cs = [cs] := by
  induction cs with
  | nil => rfl
  | cons c cs ih =>
      rw [List.mem_cons, not_or] at h
      rw [splitL, if_neg (Ne.symm h.1), ih h.2]

variable {base name : String}

theorem IsName.isAbsolute_eq (h : IsName name) : isAbsolute name = false := by
  simp only [isAbsolute, decide_eq_false_iff_not]
  exact fun hhead => h.slash (List.mem_of_mem_head? hhead)

theorem IsName.join_eq (h : IsName name) : join base name =
    if base = "" then name
    else if base.toList.getLast? = some '/' then base ++ name else base ++ "/" ++ name := by
  by_cases hbase : base = "" <;> simp [join, h.isAbsolute_eq, hbase]

theorem IsName.isAbsolute_join (h : IsName name) :
    isAbsolute (join base name) = isAbsolute base := by
  rw [h.join_eq]
  by_cases hbase : base = ""
  · rw [if_pos hbase, h.isAbsolute_eq, hbase]
    rfl
  · obtain ⟨c, cs, hcs⟩ : ∃ c cs, base.toList = c :: cs :=
      List.exists_cons_of_ne_nil (by simpa using hbase)
    rw [if_neg hbase]
    by_cases hlast : base.toList.getLast? = some '/'
    · rw [if_pos hlast]
      simp [isAbsolute, hcs]
    · rw [if_neg hlast]
      simp [isAbsolute, hcs]

/-- The pieces of a path that ends in a name: those of the directory, and the name. -/
theorem IsName.splitL_join (h : IsName name) (base : String) : ∃ front,
    splitL (join base name).toList = front ++ [name.toList] ∧
      front.filterMap (fun piece =>
        if piece = [] ∨ piece = ['.'] then none else some (String.ofList piece)) = names base := by
  have hname := splitL_of_not_mem h.slash
  rw [h.join_eq]
  by_cases hbase : base = ""
  · refine ⟨[], ?_, ?_⟩
    · rw [if_pos hbase, hname, List.nil_append]
    · rw [hbase]
      rfl
  · rw [if_neg hbase]
    by_cases hlast : base.toList.getLast? = some '/'
    · obtain ⟨front, hfront⟩ := List.getLast?_eq_some_iff.1 hlast
      refine ⟨splitL front, ?_, ?_⟩
      · rw [if_pos hlast, String.toList_append, hfront, List.append_assoc, List.singleton_append,
          splitL_append_slash, hname]
      · rw [names, hfront, splitL_append_slash, List.filterMap_append]
        simp [splitL]
    · have hslash : "/".toList = ['/'] := rfl
      refine ⟨splitL base.toList, ?_, rfl⟩
      rw [if_neg hlast, String.toList_append, String.toList_append, hslash, List.append_assoc,
        List.singleton_append, splitL_append_slash, hname]

/-- **The names in a path made by joining a name to a directory.** -/
theorem IsName.steps_join (h : IsName name) : steps (join base name) = names base ++ [name] := by
  obtain ⟨front, hsplit, hnames⟩ := h.splitL_join base
  have hempty : name.toList ≠ [] := by simpa using h.ne_empty
  have hdot : name.toList ≠ ['.'] := fun heq => h.ne_dot (String.toList_inj.1 heq)
  have hclosed : endsOpen (join base name) = false := by
    simp [endsOpen, hsplit, hempty, hdot]
  rw [steps, hclosed, if_neg Bool.false_ne_true, names, hsplit, List.filterMap_append, hnames]
  simp [hempty, hdot]

end Path

namespace Disk

variable {d : Disk} {base name other : String}

theorem follow_concat (place names : List String) (h : Path.IsName name) :
    follow place (names ++ [name]) = follow place names ++ [name] := by
  induction names generalizing place with
  | nil => simp [follow, h.ne_dot, h.ne_dots]
  | cons step names ih =>
      rw [List.cons_append, follow, follow]
      by_cases hdots : step = ".."
      · rw [if_pos hdots, if_pos hdots, ih]
      · by_cases hdot : step = "."
        · rw [if_neg hdots, if_neg hdots, if_pos hdot, if_pos hdot, ih]
        · rw [if_neg hdots, if_neg hdots, if_neg hdot, if_neg hdot, ih]

/-- **A name joined to a directory leads to that name under the place of the directory.** -/
theorem target_join (d : Disk) (base : String) (h : Path.IsName name) :
    d.target (Path.join base name) = follow (d.origin base) (Path.names base) ++ [name] := by
  rw [target, h.steps_join, follow_concat _ _ h, origin, origin, h.isAbsolute_join]

/-- Two names lead to two places. -/
theorem target_join_inj (hname : Path.IsName name) (hother : Path.IsName other)
    (h : d.target (Path.join base name) = d.target (Path.join base other)) : name = other := by
  rw [target_join d base hname, target_join d base hother] at h
  exact List.singleton_inj.1 (List.append_cancel_left h)

end Disk

end DevSession
