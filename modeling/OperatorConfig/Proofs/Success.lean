/-!
# Success

A computation that may fail gives something exactly where all that it is put together from does. What holds
of whatever it gives is found along the same way: a check on it adds a way to fail and nothing else.
-/

namespace OperatorConfig

variable {ε α β : Type}

theorem toOption_bind (read : Except ε α) (next : α → Except ε β) :
    (read.bind next).toOption = read.toOption.bind fun a => (next a).toOption := by
  cases read <;> rfl

theorem toOption_eq_some_iff {read : Except ε α} {a : α} : read.toOption = some a ↔ read = .ok a := by
  cases read <;> simp [Except.toOption]

theorem bind_eq_ok_iff {read : Except ε α} {next : α → Except ε β} {b : β} :
    read.bind next = .ok b ↔ ∃ a, read = .ok a ∧ next a = .ok b := by
  cases read <;> simp [Except.bind]

theorem map_eq_ok_iff {read : Except ε α} {f : α → β} {b : β} :
    read.map f = .ok b ↔ ∃ a, read = .ok a ∧ f a = b := by
  cases read <;> simp [Except.map]

theorem mapError_eq_ok_iff {ε' : Type} {read : Except ε α} {f : ε → ε'} {a : α} :
    read.mapError f = .ok a ↔ read = .ok a := by
  cases read with
  | error fault => constructor <;> rintro ⟨⟩
  | ok held => constructor <;> rintro ⟨⟩ <;> rfl

/-! ### What holds of a result -/

section Ensures

variable {P : α → Prop} {Q : β → Prop}

/-- What a computation gives, if it gives anything, is as `P` says. -/
def Ensures (P : α → Prop) (read : Except ε α) : Prop := ∀ a, read = .ok a → P a

theorem ensures_pure {a : α} (h : P a) : Ensures P (pure a : Except ε α) := by
  intro b hb
  cases hb
  exact h

theorem ensures_bind {read : Except ε β} {next : β → Except ε α} (hread : Ensures Q read)
    (hnext : ∀ b, Q b → Ensures P (next b)) : Ensures P (read >>= next) := by
  intro a ha
  obtain ⟨b, hb, ha⟩ := bind_eq_ok_iff.mp ha
  exact hnext b (hread b hb) a ha

theorem ensures_trivial (read : Except ε α) : Ensures (fun _ => True) read := fun _ _ => trivial

/-- A check adds a way to fail. -/
theorem ensures_check {c : Prop} [Decidable c] {fault : ε} {next : PUnit → Except ε α}
    (h : Ensures P (next ⟨⟩)) : Ensures P (if c then throw fault >>= next else next ⟨⟩) := by
  split
  · exact ensures_bind (ensures_trivial _) fun _ _ => h
  · exact h

end Ensures

end OperatorConfig
