/-!
# Measures

The total of a measure over a list, by which runs are shown to end. The lemmas say what happens to
it when one member of the list changes.
-/

namespace AtomicCommit

/-- What the members of a list measure together. -/
def total {α : Type} (g : α → Nat) : List α → Nat
  | [] => 0
  | a :: l => g a + total g l

@[simp] theorem total_nil {α : Type} (g : α → Nat) : total g [] = 0 := rfl

@[simp] theorem total_cons {α : Type} (g : α → Nat) (a : α) (l : List α) :
    total g (a :: l) = g a + total g l := rfl

@[simp] theorem total_append {α : Type} (g : α → Nat) (l m : List α) :
    total g (l ++ m) = total g l + total g m := by
  induction l with
  | nil => simp
  | cons a l ih => simp [ih, Nat.add_assoc]

theorem total_modify_le {α : Type} {g : α → Nat} {f : α → α} (h : ∀ a, g (f a) ≤ g a) :
    ∀ (l : List α) (i : Nat), total g (l.modify i f) ≤ total g l
  | [], i => by simp
  | a :: l, 0 => by simpa using h a
  | a :: l, i + 1 => by simpa using total_modify_le h l i

theorem total_modify_le_add {α : Type} {g : α → Nat} {f : α → α} {n : Nat}
    (h : ∀ a, g (f a) ≤ g a + n) :
    ∀ (l : List α) (i : Nat), total g (l.modify i f) ≤ total g l + n
  | [], i => by simp
  | a :: l, 0 => by
    have := h a
    simp
    omega
  | a :: l, i + 1 => by
    have := total_modify_le_add h l i
    simp
    omega

theorem total_modify_lt {α : Type} {g : α → Nat} {f : α → α} :
    ∀ {l : List α} {i : Nat} {a : α}, l[i]? = some a → g (f a) < g a →
      total g (l.modify i f) < total g l
  | [], i, a, h, _ => by simp at h
  | b :: l, 0, a, h, less => by
    simp at h
    subst h
    simpa using less
  | b :: l, i + 1, a, h, less => by
    have := total_modify_lt (l := l) (i := i) (by simpa using h) less
    simpa using this

theorem total_modify {α : Type} {g : α → Nat} {f : α → α} :
    ∀ {l : List α} {i : Nat} {a : α}, l[i]? = some a →
      total g (l.modify i f) + g a = total g l + g (f a)
  | [], i, a, h => by simp at h
  | b :: l, 0, a, h => by
    simp at h
    subst h
    simp
    omega
  | b :: l, i + 1, a, h => by
    have := total_modify (g := g) (f := f) (l := l) (i := i) (by simpa using h)
    simp
    omega

theorem total_modify_of_eq {α : Type} {g : α → Nat} {f : α → α} (h : ∀ a, g (f a) = g a) :
    ∀ (l : List α) (i : Nat), total g (l.modify i f) = total g l
  | [], i => by simp
  | a :: l, 0 => by simp [h]
  | a :: l, i + 1 => by simpa using total_modify_of_eq h l i

end AtomicCommit
