import Worksheet.Sheet.Uncached

namespace Worksheet

namespace Contents

theorem putAll_nil (contents : Contents) : contents.putAll [] = .ok contents := rfl

theorem putAll_inside {address : Address} {slot : Slot} (place : address.slot? = some slot)
    (contents : Contents) (text : String) (rest : List (Address × String)) :
    contents.putAll ((address, text) :: rest) = (contents.write slot text).putAll rest := by
  simp only [putAll, List.foldlM_cons, put?, place, Option.map_some]
  rfl

theorem putAll_outside {address : Address} (place : address.slot? = none)
    (contents : Contents) (text : String) (rest : List (Address × String)) :
    contents.putAll ((address, text) :: rest) = .error address := by
  simp only [putAll, List.foldlM_cons, put?, place, Option.map_none]
  rfl

def overlaid (contents : Contents) (entries : List (Address × String)) : Contents :=
  ⟨Vector.ofFn fun slot =>
    (entries.reverse.lookup (Address.ofSlot slot)).getD (contents.read slot)⟩

theorem read_overlaid (contents : Contents) (entries : List (Address × String)) (slot : Slot) :
    (contents.overlaid entries).read slot =
      (entries.reverse.lookup (Address.ofSlot slot)).getD (contents.read slot) :=
  Slots.read_ofFn _ slot

theorem read_listed (entries : List (Address × String)) (slot : Slot) :
    (listed entries).read slot = (entries.reverse.lookup (Address.ofSlot slot)).getD "" :=
  Slots.read_ofFn (fun slot => (entries.reverse.lookup (Address.ofSlot slot)).getD "") slot

theorem lookup_reverse_of_last {before after : List (Address × String)} {address : Address}
    (last : ∀ entry ∈ after, entry.1 ≠ address) (text : String) :
    (before ++ (address, text) :: after).reverse.lookup address = some text := by
  rw [List.lookup_eq_some_iff]
  refine ⟨after.reverse, before.reverse, by simp, ?_⟩
  intro entry member
  exact bne_iff_ne.mpr (last entry (List.mem_reverse.mp member)).symm

theorem overlaid_cons {address : Address} {slot : Slot} (place : address.slot? = some slot)
    (contents : Contents) (text : String) (rest : List (Address × String)) :
    contents.overlaid ((address, text) :: rest) = (contents.write slot text).overlaid rest := by
  have same := Address.slot?_eq_some_iff.mp place
  subst same
  apply ext_of
  intro other
  rw [read_overlaid, read_overlaid, List.reverse_cons, List.lookup_append, read_write]
  cases rest.reverse.lookup (Address.ofSlot other) with
  | some later => rfl
  | none =>
    rw [Option.none_or, Option.getD_none]
    by_cases same : slot = other
    · subst same
      rw [List.lookup_cons_self, if_pos rfl]
      rfl
    · have different : Address.ofSlot other ≠ Address.ofSlot slot :=
        fun equal => same (Address.ofSlot_injective equal.symm)
      rw [List.lookup_cons, beq_false_of_ne different, if_neg same]
      rfl

theorem overlaid_nil (contents : Contents) : contents.overlaid [] = contents :=
  ext_of fun slot => read_overlaid contents [] slot

theorem overlaid_append (contents : Contents) (first second : List (Address × String)) :
    contents.overlaid (first ++ second) = (contents.overlaid first).overlaid second := by
  apply ext_of
  intro slot
  rw [read_overlaid, read_overlaid, read_overlaid, List.reverse_append, List.lookup_append,
    Option.getD_or]

theorem putAll_of_inside {entries : List (Address × String)}
    (inside : ∀ entry ∈ entries, entry.1.InBounds) (contents : Contents) :
    contents.putAll entries = .ok (contents.overlaid entries) := by
  induction entries generalizing contents with
  | nil =>
    rw [putAll_nil, overlaid_nil]
  | cons entry rest ih =>
    obtain ⟨address, text⟩ := entry
    obtain ⟨slot, place⟩ := Address.exists_slot_of_inBounds (inside _ List.mem_cons_self)
    rw [putAll_inside place, overlaid_cons place]
    exact ih (fun entry member => inside entry (List.mem_cons_of_mem _ member)) _

theorem putAll_of_outside {before after : List (Address × String)} {address : Address}
    {text : String} (inside : ∀ entry ∈ before, entry.1.InBounds)
    (outside : ¬ address.InBounds) (contents : Contents) :
    contents.putAll (before ++ (address, text) :: after) = .error address := by
  induction before generalizing contents with
  | nil => exact putAll_outside (Address.slot?_eq_none_iff.mpr outside) contents text after
  | cons entry rest ih =>
    obtain ⟨first, written⟩ := entry
    obtain ⟨slot, place⟩ := Address.exists_slot_of_inBounds (inside _ List.mem_cons_self)
    rw [List.cons_append, putAll_inside place]
    exact ih (fun entry member => inside entry (List.mem_cons_of_mem _ member)) _

theorem listed_eq_overlaid (entries : List (Address × String)) :
    listed entries = blank.overlaid entries := by
  apply ext_of
  intro slot
  rw [read_listed, read_overlaid, read_blank]

theorem ofEntries_of_inside {entries : List (Address × String)}
    (found : (entries.find? fun entry => decide (¬ entry.1.InBounds)) = none) :
    ofEntries entries = .ok (listed entries) := by
  have inside : ∀ entry ∈ entries, entry.1.InBounds := by
    intro entry member
    have refused := List.find?_eq_none.mp found entry member
    simpa only [decide_eq_true_eq, Decidable.not_not] using refused
  rw [listed_eq_overlaid]
  exact putAll_of_inside inside blank

theorem ofEntries_of_outside {entries : List (Address × String)} {address : Address}
    {text : String}
    (found : (entries.find? fun entry => decide (¬ entry.1.InBounds)) = some (address, text)) :
    ofEntries entries = .error address := by
  obtain ⟨outside, before, after, same, earlier⟩ := List.find?_eq_some_iff_append.mp found
  have inside : ∀ entry ∈ before, entry.1.InBounds := by
    intro entry member
    have refused := earlier entry member
    simpa only [Bool.not_eq_true', decide_eq_false_iff_not, Decidable.not_not] using refused
  rw [same]
  exact putAll_of_outside inside (of_decide_eq_true outside) blank

end Contents

end Worksheet
