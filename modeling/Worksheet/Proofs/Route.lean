import Mathlib.Data.List.Nodup
import Worksheet.Walk

namespace Worksheet

/-- Addresses that formulas lead to one after the other, none of them twice. A text stands at the
    first of them, whatever the grid has there, and the texts of the grid stand at the others;
    `last` is the text at the end. -/
inductive Route (contents : Contents) (text : String) (address : Address) :
    List Address → String → Prop where
  | start : Route contents text address [address] text
  | follow {path : List Address} {last next : String} {target : Address}
      (route : Route contents text address path last)
      (names : Address.ofFormula last = .ok target) (fresh : target ∉ path)
      (found : contents.get? target = some next) :
      Route contents text address (path ++ [target]) next

structure LongestRoute (contents : Contents) (text : String) (address : Address)
    (path : List Address) (last : String) : Prop where
  route : Route contents text address path last
  longest : ∀ other final, Route contents text address other final → other.length ≤ path.length

structure CompleteRoute (contents : Contents) (text : String) (address : Address)
    (path : List Address) (last : String) : Prop where
  route : Route contents text address path last
  ended : ∀ target, Address.ofFormula last = .ok target → target ∈ path

def Route.outcome (policy : Policy) (path : List Address) (last : String) :
    Except Fault Binary64 :=
  match Content.ofText last with
  | .empty => if path.length = 1 ∨ policy = .zero then .ok .zero else .error (.badValue "")
  | .literal _ => Literal.read last
  | .formula _ => .error (.badFormula last)

variable {contents : Contents} {text last final : String} {address target : Address}
  {path other : List Address}

namespace Route

theorem address_mem (route : Route contents text address path last) : address ∈ path := by
  induction route with
  | start => exact List.mem_singleton_self address
  | follow _ _ _ _ ih => exact List.mem_append_left _ ih

theorem length_pos (route : Route contents text address path last) : 0 < path.length :=
  List.length_pos_of_mem route.address_mem

theorem nodup (route : Route contents text address path last) : path.Nodup := by
  induction route with
  | start => exact List.nodup_singleton address
  | follow _ _ fresh _ ih =>
    refine List.nodup_append.mpr ⟨ih, List.nodup_singleton _, ?_⟩
    intro earlier member later single same
    rw [List.mem_singleton] at single
    subst single
    exact fresh (same ▸ member)

theorem unique_of_length (left : Route contents text address path last)
    (right : Route contents text address other final) (same : path.length = other.length) :
    path = other ∧ last = final := by
  -- The shorter routes agree by induction, so both go on from the same formula.
  induction left generalizing other final with
  | start =>
    cases right with
    | start => exact ⟨rfl, rfl⟩
    | follow route _ _ _ =>
      have positive := route.length_pos
      simp only [List.length_append, List.length_singleton] at same
      omega
  | follow shorter names _ found ih =>
    cases right with
    | start =>
      have positive := shorter.length_pos
      simp only [List.length_append, List.length_singleton] at same
      omega
    | follow route names' _ found' =>
      simp only [List.length_append, List.length_singleton, Nat.add_right_cancel_iff] at same
      obtain ⟨samePath, sameLast⟩ := ih route same
      subst samePath sameLast
      rw [names, Except.ok.injEq] at names'
      subst names'
      rw [found, Option.some.injEq] at found'
      exact ⟨rfl, found'⟩

end Route

namespace CompleteRoute

theorem length_le (complete : CompleteRoute contents text address path last)
    (route : Route contents text address other final) : other.length ≤ path.length := by
  induction route with
  | start => exact complete.route.length_pos
  | follow shorter names fresh _ ih =>
    rw [List.length_append, List.length_singleton]
    rcases Nat.lt_or_eq_of_le ih with less | same
    · exact less
    · obtain ⟨samePath, sameLast⟩ := shorter.unique_of_length complete.route same
      subst samePath sameLast
      exact absurd (complete.ended _ names) fresh

theorem unique (left : CompleteRoute contents text address path last)
    (right : CompleteRoute contents text address other final) : path = other ∧ last = final :=
  left.route.unique_of_length right.route
    (Nat.le_antisymm (right.length_le left.route) (left.length_le right.route))

end CompleteRoute

theorem longestRoute_iff : LongestRoute contents text address path last ↔
    CompleteRoute contents text address path last := by
  constructor
  · intro ⟨route, longest⟩
    refine ⟨route, ?_⟩
    intro target names
    by_contra fresh
    obtain ⟨slot, same⟩ := Address.exists_slot_of_ofFormula names
    subst same
    have longer := route.follow names fresh (contents.get?_ofSlot slot)
    have bound := longest _ _ longer
    rw [List.length_append, List.length_singleton] at bound
    omega
  · intro complete
    exact ⟨complete.route, fun _ _ route => complete.length_le route⟩

end Worksheet
