import Mathlib.Data.List.Nodup
import Worksheet.Trail

namespace Worksheet.Trail

variable {trail : Trail} {path : List Address}

/-- A trail along a path. The addresses on the path are those that it has seen, which it lists
    once however often the path comes to them. -/
structure Follows (trail : Trail) (path : List Address) : Prop where
  whole : trail.path = path
  seen : ∀ address, address ∈ trail.seen ↔ address ∈ path
  once : trail.seen.Nodup

theorem enter_empty (address : Address) : enter ⟨[], []⟩ address = (true, start address) := rfl

theorem follows_start (address : Address) : (start address).Follows [address] where
  whole := rfl
  seen _ := Iff.rfl
  once := List.nodup_singleton address

theorem Follows.enter_iff (follows : trail.Follows path) (address : Address) :
    (trail.enter address).1 = true ↔ address ∉ path := by
  rw [← follows.seen, enter]
  split <;> simp_all

theorem Follows.enter (follows : trail.Follows path) (address : Address) :
    (trail.enter address).2.Follows (path ++ [address]) := by
  have longer : (address :: trail.latest).reverse = path ++ [address] := by
    rw [List.reverse_cons, ← follows.whole, Trail.path]
  unfold Trail.enter
  split
  · rename_i known
    refine ⟨longer, fun other => ?_, follows.once⟩
    rw [follows.seen, List.mem_append, List.mem_singleton]
    constructor
    · exact .inl
    · rintro (member | rfl)
      · exact member
      · exact (follows.seen _).mp known
  · rename_i new
    refine ⟨longer, fun other => ?_, List.nodup_cons.mpr ⟨new, follows.once⟩⟩
    rw [List.mem_cons, follows.seen, List.mem_append, List.mem_singleton, or_comm]

theorem enterAll_cons (trail : Trail) (address : Address) (rest : List Address) :
    trail.enterAll (address :: rest) = ((trail.enter address).1 ::
      ((trail.enter address).2.enterAll rest).1, ((trail.enter address).2.enterAll rest).2) := rfl

theorem length_enterAll (trail : Trail) (offered : List Address) :
    (trail.enterAll offered).1.length = offered.length := by
  induction offered generalizing trail with
  | nil => rfl
  | cons address rest ih => rw [enterAll_cons, List.length_cons, ih, List.length_cons]

theorem Follows.enterAll (follows : trail.Follows path) (offered : List Address) :
    (trail.enterAll offered).2.Follows (path ++ offered) := by
  induction offered generalizing trail path with
  | nil =>
    rw [List.append_nil]
    exact follows
  | cons address rest ih =>
    rw [enterAll_cons, List.append_cons]
    exact ih (follows.enter address)

theorem getElem?_enterAll (trail : Trail) (offered : List Address) (k : Nat) :
    (trail.enterAll offered).1[k]? =
      offered[k]?.map fun address => ((trail.enterAll (offered.take k)).2.enter address).1 := by
  induction offered generalizing trail k with
  | nil => rfl
  | cons address rest ih =>
    rw [enterAll_cons]
    cases k with
    | zero => rfl
    | succ k =>
      rw [List.getElem?_cons_succ, ih, List.getElem?_cons_succ, List.take_succ_cons, enterAll_cons]

theorem Follows.answer_iff (follows : trail.Follows path) {offered : List Address} {k : Nat}
    {address : Address} (offer : offered[k]? = some address) :
    (trail.enterAll offered).1[k]? = some true ↔ address ∉ path ++ offered.take k := by
  rw [getElem?_enterAll, offer, Option.map_some, Option.some.injEq]
  exact (follows.enterAll (offered.take k)).enter_iff address

theorem Follows.answers_iff (follows : trail.Follows path) (distinct : path.Nodup)
    (offered : List Address) :
    (∀ answer ∈ (trail.enterAll offered).1, answer = true) ↔ (path ++ offered).Nodup := by
  induction offered generalizing trail path with
  | nil =>
    rw [List.append_nil]
    exact iff_of_true (fun _ => nofun) distinct
  | cons address rest ih =>
    rw [enterAll_cons, List.forall_mem_cons, follows.enter_iff, List.append_cons]
    have longer : (path ++ [address]).Nodup ↔ address ∉ path := by
      rw [← List.concat_eq_append, List.nodup_concat, and_iff_left distinct]
    by_cases known : address ∈ path
    · exact iff_of_false (fun all => all.1 known)
        fun nodup => longer.mp nodup.of_append_left known
    · rw [ih (follows.enter address) (longer.mpr known), and_iff_right known]

theorem not_mem_take_iff {address : Address} {offered : List Address} {k : Nat} :
    address ∉ offered.take k ↔ ∀ earlier : Nat, earlier < k → offered[earlier]? ≠ some address := by
  simp only [List.mem_iff_getElem?, not_exists, List.getElem?_take]
  refine forall_congr' fun earlier => ?_
  by_cases before : earlier < k
  · rw [if_pos before, forall_prop_of_true before]
  · rw [if_neg before]
    exact iff_of_true nofun fun within => absurd within before

/-- What a trail answers to addresses that are offered to it one by one, and what it has come to
    with the last of them. -/
structure InStep (first : Address) (offered : List Address) (answers : List Bool)
    (reached : Trail) : Prop where
  begun : enter ⟨[], []⟩ first = (true, start first)
  whole : reached.path = first :: offered
  seen : ∀ address, address ∈ reached.seen ↔ address ∈ reached.path
  once : reached.seen.Nodup
  answered : answers.length = offered.length
  step : ∀ k, answers[k]? = offered[k]?.map fun address =>
    (((start first).enterAll (offered.take k)).2.enter address).1
  fresh : ∀ k address, offered[k]? = some address → (answers[k]? = some true ↔
    address ≠ first ∧ ∀ earlier : Nat, earlier < k → offered[earlier]? ≠ some address)
  unrepeated : (∀ answer ∈ answers, answer = true) ↔ reached.path.Nodup

theorem enterAll_in_step (first : Address) (offered : List Address) :
    InStep first offered ((start first).enterAll offered).1
      ((start first).enterAll offered).2 where
  begun := enter_empty first
  whole := ((follows_start first).enterAll offered).whole
  seen address := by
    have reached := (follows_start first).enterAll offered
    rw [reached.seen, reached.whole]
  once := ((follows_start first).enterAll offered).once
  answered := length_enterAll (start first) offered
  step := getElem?_enterAll (start first) offered
  fresh k address offer := by
    rw [(follows_start first).answer_iff offer, List.singleton_append, List.mem_cons, not_or,
      not_mem_take_iff]
  unrepeated := by
    rw [((follows_start first).enterAll offered).whole]
    exact (follows_start first).answers_iff (List.nodup_singleton first) offered

end Worksheet.Trail
