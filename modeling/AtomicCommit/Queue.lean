/-!
# Queues

First in, first out. The members that came last are kept in reverse, so that both ends and the
length are at hand. `toList` is what a queue stands for; `toList_push`, `pop?_eq_none_iff` and
`toList_pop` say what becomes of it.
-/

namespace AtomicCommit

/-- Members in the order in which they came. -/
structure Queue (α : Type) where
  front : List α
  /-- The members behind those in front, latest first. -/
  back : List α
  size : Nat
  size_eq : size = front.length + back.length
  deriving DecidableEq, Repr

namespace Queue

variable {α : Type}

def empty : Queue α :=
  ⟨[], [], 0, rfl⟩

def toList (q : Queue α) : List α :=
  q.front ++ q.back.reverse

def push (q : Queue α) (a : α) : Queue α :=
  ⟨q.front, a :: q.back, q.size + 1, by simp [q.size_eq, Nat.add_assoc]⟩

/-- Take the first member out. -/
def pop? (q : Queue α) : Option (α × Queue α) :=
  match q with
  | ⟨a :: front, back, size, h⟩ => some (a, ⟨front, back, size - 1, by simp [h]⟩)
  | ⟨[], back, size, h⟩ =>
    match turned : back.reverse with
    | [] => none
    | a :: front =>
      some (a, ⟨front, [], size - 1, by
        have := congrArg List.length turned
        simp at this h ⊢
        omega⟩)

@[simp] theorem toList_empty : (empty : Queue α).toList = [] := rfl

@[simp] theorem length_toList (q : Queue α) : q.toList.length = q.size := by
  simp [toList, q.size_eq]

@[simp] theorem toList_push (q : Queue α) (a : α) : (q.push a).toList = q.toList ++ [a] := by
  simp [push, toList]

theorem pop?_eq_none_iff (q : Queue α) : q.pop? = none ↔ q.toList = [] := by
  unfold pop?
  split
  · simp [toList]
  · split <;> simp_all [toList]

/-- The member that is taken out stood in front of the rest. -/
theorem toList_pop {q rest : Queue α} {a : α} (h : q.pop? = some (a, rest)) :
    q.toList = a :: rest.toList := by
  unfold pop? at h
  split at h
  · simp only [Option.some.injEq, Prod.mk.injEq] at h
    obtain ⟨rfl, rfl⟩ := h
    rfl
  · split at h
    · simp at h
    · rename_i turned
      simp only [Option.some.injEq, Prod.mk.injEq] at h
      obtain ⟨rfl, rfl⟩ := h
      simp [toList, turned]

end Queue

end AtomicCommit
