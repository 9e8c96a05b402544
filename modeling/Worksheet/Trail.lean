import Worksheet.Address

namespace Worksheet

/-- The addresses that a walk has come to. The one most recently offered stands first in
    `latest`; `seen` holds each of them once. -/
structure Trail where
  latest : List Address
  seen : List Address
deriving DecidableEq

namespace Trail

def start (address : Address) : Trail := ⟨[address], [address]⟩

def path (trail : Trail) : List Address := trail.latest.reverse

def enter (trail : Trail) (address : Address) : Bool × Trail :=
  if address ∈ trail.seen then (false, ⟨address :: trail.latest, trail.seen⟩)
  else (true, ⟨address :: trail.latest, address :: trail.seen⟩)

theorem enter_eq_false_iff {trail longer : Trail} {address : Address} :
    trail.enter address = (false, longer) ↔
      address ∈ trail.seen ∧ longer = ⟨address :: trail.latest, trail.seen⟩ := by
  unfold enter
  split <;> simp_all [eq_comm]

theorem enter_eq_true_iff {trail longer : Trail} {address : Address} :
    trail.enter address = (true, longer) ↔
      address ∉ trail.seen ∧ longer = ⟨address :: trail.latest, address :: trail.seen⟩ := by
  unfold enter
  split <;> simp_all [eq_comm]

def enterAll (trail : Trail) : List Address → List Bool × Trail
  | [] => ([], trail)
  | address :: rest =>
    let (fresh, next) := trail.enter address
    let (others, last) := next.enterAll rest
    (fresh :: others, last)

def unseen (trail : Trail) : Nat :=
  (List.finRange (rows * cols)).countP fun slot => Address.ofSlot slot ∉ trail.seen

theorem countP_lt_of_mem {α : Type} {p q : α → Bool} {items : List α} {item : α}
    (member : item ∈ items) (weaker : ∀ x, p x = true → q x = true) (kept : q item = true)
    (dropped : p item = false) : items.countP p < items.countP q := by
  induction items with
  | nil => cases member
  | cons head tail ih =>
    have least : tail.countP p ≤ tail.countP q := List.countP_mono_left fun x _ => weaker x
    simp only [List.countP_cons]
    rcases List.mem_cons.mp member with same | member
    · subst same
      simp only [kept, dropped, if_true, Bool.false_eq_true, if_false]
      omega
    · have less := ih member
      by_cases first : p head = true
      · simp only [first, weaker head first, if_true]
        omega
      · simp only [Bool.not_eq_true] at first
        simp only [first, Bool.false_eq_true, if_false]
        omega

theorem unseen_enter {trail : Trail} {slot : Slot}
    (fresh : (trail.enter (Address.ofSlot slot)).1 = true) :
    (trail.enter (Address.ofSlot slot)).2.unseen < trail.unseen := by
  simp only [enter] at fresh ⊢
  split at fresh
  · cases fresh
  · rename_i absent
    simp only [absent, if_false]
    refine countP_lt_of_mem (List.mem_finRange slot) ?_ ?_ ?_
    · intro other outside
      simp only [decide_eq_true_eq, List.mem_cons, not_or] at outside ⊢
      exact outside.2
    · simpa using absent
    · simp

end Trail

end Worksheet
