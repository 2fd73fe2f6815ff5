import DevSession.Fault

/-!
# Taking requests apart

A request is a chain of steps, each of which may refuse. When the whole chain is done, every step
was done; `bind_eq_ok` and its companions take a chain apart from the front, one step at a time, and
`bind_eq_error` does so for a chain that fails. The counters are the one place where a step refuses
for want of numbers; `toNat_next32` and `toNat_next64` say what they give when they do not, and
`next32_of_lt` and `next64_of_lt` when that is.
-/

namespace DevSession

variable {α β ε : Type}

/-- A chain is done exactly when its first step is done and the rest is done after it. -/
theorem bind_eq_ok {x : Except ε α} {f : α → Except ε β} {b : β} :
    x >>= f = .ok b ↔ ∃ a, x = .ok a ∧ f a = .ok b := by
  cases x with
  | error e => simp [bind, Except.bind]
  | ok a => simp [bind, Except.bind]

/-- A chain fails exactly when its first step fails, or the rest fails after it. -/
theorem bind_eq_error {x : Except ε α} {f : α → Except ε β} {e : ε} :
    x >>= f = .error e ↔ x = .error e ∨ ∃ a, x = .ok a ∧ f a = .error e := by
  cases x with
  | error e' => simp [bind, Except.bind]
  | ok a => simp [bind, Except.bind]

theorem toOption_eq_some {x : Except ε α} {a : α} : x.toOption = some a ↔ x = .ok a := by
  cases x with
  | error e => simp [Except.toOption]
  | ok b => simp [Except.toOption]

theorem map_eq_ok {x : Except Fault α} {f : α → β} {b : β} :
    x.map f = .ok b ↔ ∃ a, x = .ok a ∧ f a = b := by
  cases x with
  | error e => simp [Except.map]
  | ok a => simp [Except.map]

theorem mapError_eq_ok {x : Except Fault α} {f : Fault → ε} {a : α} :
    x.mapError f = .ok a ↔ x = .ok a := by
  cases x with
  | error e => exact ⟨nofun, nofun⟩
  | ok a' => exact ⟨fun h => congrArg _ (Except.ok.inj h), fun h => congrArg _ (Except.ok.inj h)⟩

theorem pure_eq_ok {a b : α} : (pure a : Except Fault α) = .ok b ↔ a = b := by
  simp [pure, Except.pure]

theorem throw_ne_ok {f : Fault} {b : α} : (throw f : Except Fault α) ≠ .ok b := by
  simp [throw, throwThe, MonadExceptOf.throw]

/-! ## Counters -/

namespace Counter

theorem toNat_next32 {n m : UInt32} (h : next32 n = .ok m) : m.toNat = n.toNat + 1 := by
  unfold next32 add32 at h
  split at h
  · rename_i hlt
    cases h
    rw [UInt32.toNat_add]
    exact Nat.mod_eq_of_lt hlt
  · cases h

theorem toNat_next64 {n m : UInt64} (h : next64 n = .ok m) : m.toNat = n.toNat + 1 := by
  unfold next64 at h
  split at h
  · rename_i hlt
    cases h
    rw [UInt64.toNat_add]
    exact Nat.mod_eq_of_lt hlt
  · cases h

theorem next32_of_lt {n : UInt32} (h : n.toNat + 1 < UInt32.size) : ∃ m, next32 n = .ok m :=
  ⟨n + 1, if_pos h⟩

theorem next32_of_full {n : UInt32} (h : ¬ n.toNat + 1 < UInt32.size) :
    next32 n = .error .overflow :=
  if_neg h

theorem next32_eq_error {n : UInt32} {f : Fault} (h : next32 n = .error f) : f = .overflow := by
  by_cases hroom : n.toNat + 1 < UInt32.size
  · obtain ⟨m, hm⟩ := next32_of_lt hroom
    cases hm.symm.trans h
  · cases (next32_of_full hroom).symm.trans h
    rfl

theorem next64_of_lt {n : UInt64} (h : n.toNat + 1 < UInt64.size) : ∃ m, next64 n = .ok m :=
  ⟨n + 1, if_pos h⟩

end Counter

end DevSession
