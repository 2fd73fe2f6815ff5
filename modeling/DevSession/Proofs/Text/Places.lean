import DevSession.Proofs.Text.Decimal

/-!
# Digits by their places

A run of digits stands for a number: each digit counts as often as the power of ten of its place
says. Reading goes from left to right and multiplies by ten at every step; this file says that it
comes to the same number, and that runs of one length stand in the order of their numbers.

* `value`: the number that a run of digits stands for.
* `Writes`, `Signed`: what writes a number, without a sign and with a plus sign or none.
* `read?_eq_some_iff`, `readSigned?_eq_some_iff`, `value_padded`: reading and writing go by them.
* `lt_of_value_lt`: runs of one length compare as their numbers do.
-/

namespace DevSession.Text.Decimal

/-- The number that a run of digits stands for, each digit with the power of ten of its place. -/
def value : List Char → Nat
  | [] => 0
  | c :: rest => (c.toNat - '0'.toNat) * 10 ^ rest.length + value rest

/-- One or more digits that stand for a number. Zeros may stand in front, as many as one likes. -/
structure Writes (cs : List Char) (n : Nat) : Prop where
  nonempty : cs ≠ []
  digits : ∀ c ∈ cs, c.isDigit = true
  value_eq : value cs = n

/-- What writes a number if a plus sign may stand in front. -/
inductive Signed : List Char → Nat → Prop
  | bare {cs : List Char} {n : Nat} (h : Writes cs n) : Signed cs n
  | plus {cs : List Char} {n : Nat} (h : Writes cs n) : Signed ('+' :: cs) n

variable {cs ds : List Char} {n : Nat}

/-! ## Reading and writing -/

/-- Reading from left to right comes to the same number. -/
theorem ofDigitChars_eq_value (cs : List Char) : Nat.ofDigitChars 10 cs 0 = value cs := by
  induction cs with
  | nil => rfl
  | cons c rest ih =>
      rw [Nat.ofDigitChars_cons, Nat.ofDigitChars_eq_ofDigitChars_zero, ih, value, Nat.mul_zero,
        Nat.zero_add, Nat.mul_comm]

theorem read?_eq_some_iff : read? cs = some n ↔ Writes cs n := by
  rw [read?, Option.ite_none_right_eq_some, ofDigitChars_eq_value, Option.some.injEq,
    List.all_eq_true]
  constructor
  · rintro ⟨⟨hne, hdigits⟩, hvalue⟩
    exact ⟨hne, hdigits, hvalue⟩
  · intro h
    exact ⟨⟨h.nonempty, h.digits⟩, h.value_eq⟩

/-- A sign is no digit, so the digits of a number do not start with it. -/
theorem not_writes_plus {rest : List Char} : ¬ Writes ('+' :: rest) n := by
  intro h
  exact absurd (h.digits '+' List.mem_cons_self) (by decide)

theorem readSigned?_eq_some_iff : readSigned? cs = some n ↔ Signed cs n := by
  constructor
  · intro h
    unfold readSigned? at h
    split at h
    · exact .plus (read?_eq_some_iff.1 h)
    · exact .bare (read?_eq_some_iff.1 h)
  · rintro (h | h)
    · unfold readSigned?
      split
      · exact absurd h not_writes_plus
      · exact read?_eq_some_iff.2 h
    · exact read?_eq_some_iff.2 h

theorem value_padded (width n : Nat) : value (padded width n) = n := by
  rw [← ofDigitChars_eq_value, ofDigitChars_padded]

theorem value_append (cs ds : List Char) :
    value (cs ++ ds) = value cs * 10 ^ ds.length + value ds := by
  induction cs with
  | nil => simp [value]
  | cons c rest ih =>
      rw [List.cons_append, value, value, ih, List.length_append, Nat.pow_add, Nat.add_mul,
        Nat.mul_assoc, Nat.add_assoc]

/-! ## The order -/

/-- A digit in front counts less than one more of its power of ten. -/
theorem value_cons_lt (c : Char) (h : value cs < 10 ^ cs.length) :
    value (c :: cs) < (c.toNat - '0'.toNat + 1) * 10 ^ cs.length := by
  rw [value, Nat.succ_mul]
  exact Nat.add_lt_add_left h _

theorem value_lt (h : ∀ c ∈ cs, c.isDigit = true) : value cs < 10 ^ cs.length := by
  induction cs with
  | nil => exact Nat.one_pos
  | cons c rest ih =>
      obtain ⟨hc, hrest⟩ := List.forall_mem_cons.1 h
      have hdigit : c.toNat - '0'.toNat + 1 ≤ 10 := by
        have hle : c.toNat ≤ '9'.toNat := (Char.isDigit_iff_toNat.1 hc).2
        have hnine : '9'.toNat = '0'.toNat + 9 := rfl
        omega
      calc value (c :: rest)
          < (c.toNat - '0'.toNat + 1) * 10 ^ rest.length := value_cons_lt c (ih hrest)
        _ ≤ 10 * 10 ^ rest.length := Nat.mul_le_mul_right _ hdigit
        _ = 10 ^ (c :: rest).length := by rw [List.length_cons, Nat.pow_succ, Nat.mul_comm]

/-- A smaller first digit makes a smaller number, whatever digits follow. -/
theorem value_cons_lt_value_cons {c d : Char} (hc : c.isDigit = true) (hlt : c < d)
    (hcs : ∀ x ∈ cs, x.isDigit = true) (hlength : cs.length = ds.length) :
    value (c :: cs) < value (d :: ds) := by
  have hdigit : c.toNat - '0'.toNat + 1 ≤ d.toNat - '0'.toNat := by
    have hle : '0'.toNat ≤ c.toNat := (Char.isDigit_iff_toNat.1 hc).1
    have hnat : c.toNat < d.toNat := hlt
    omega
  calc value (c :: cs)
      < (c.toNat - '0'.toNat + 1) * 10 ^ cs.length := value_cons_lt c (value_lt hcs)
    _ ≤ (d.toNat - '0'.toNat) * 10 ^ cs.length := Nat.mul_le_mul_right _ hdigit
    _ = (d.toNat - '0'.toNat) * 10 ^ ds.length := by rw [hlength]
    _ ≤ value (d :: ds) := Nat.le_add_right _ _

/-- **Runs of digits of one length stand in the order of their numbers.** -/
theorem lt_of_value_lt (hcs : ∀ c ∈ cs, c.isDigit = true) (hds : ∀ c ∈ ds, c.isDigit = true)
    (hlength : cs.length = ds.length) (h : value cs < value ds) : cs < ds := by
  induction cs generalizing ds with
  | nil =>
      rw [List.length_eq_zero_iff.1 hlength.symm] at h
      exact absurd h (Nat.lt_irrefl _)
  | cons c cs ih =>
      cases ds with
      | nil => cases hlength
      | cons d ds =>
          obtain ⟨hc, hcs'⟩ := List.forall_mem_cons.1 hcs
          obtain ⟨hd, hds'⟩ := List.forall_mem_cons.1 hds
          replace hlength : cs.length = ds.length := Nat.succ.inj hlength
          rw [List.cons_lt_cons_iff]
          rcases Nat.lt_trichotomy c.toNat d.toNat with hlt | heq | hgt
          · exact .inl hlt
          · -- the first digits are the same, so the rest decides
            obtain rfl := Char.toNat_inj.1 heq
            rw [value, value, hlength] at h
            exact .inr ⟨rfl, ih hcs' hds' hlength (by omega)⟩
          · have hback := value_cons_lt_value_cons hd hgt hds' hlength.symm
            exact absurd h (Nat.lt_asymm hback)

end DevSession.Text.Decimal
