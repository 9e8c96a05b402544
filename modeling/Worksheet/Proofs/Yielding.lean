import Worksheet.Proofs.Scanning

namespace Worksheet.Scanner

variable {α β : Type} {P : α → Prop} {Q : β → Prop} {scanner other : Scanner α} {next : Scanner β}
  {skipper : Skipper}

/-- Whatever a scanner reads has a property. The lemmas follow how scanners are put together. -/
def Yields (scanner : Scanner α) (P : α → Prop) : Prop :=
  ∀ ⦃chars read⦄, scanner.result chars = some read → P read.1

theorem Yields.imp (yields : scanner.Yields P) {R : α → Prop}
    (weaker : ∀ value, P value → R value) : scanner.Yields R :=
  fun _ _ read => weaker _ (yields read)

theorem yields_map {f : α → β} (yields : scanner.Yields fun value => Q (f value)) :
    (f <$> scanner).Yields Q := by
  intro chars read taken
  rw [result_map] at taken
  obtain ⟨first, reads, rfl⟩ := Option.map_eq_some_iff.mp taken
  exact yields reads

theorem yields_giving {value : β} (given : Q value) : (scanner.giving value).Yields Q :=
  yields_map fun _ _ _ => given

theorem yields_bind {following : α → Scanner β} (yields : ∀ value, (following value).Yields Q) :
    (scanner >>= following).Yields Q := by
  intro chars read taken
  rw [result_bind] at taken
  obtain ⟨first, -, taken⟩ := Option.bind_eq_some_iff.mp taken
  exact yields first.1 taken

theorem Yields.seqRight (yields : next.Yields Q) : (scanner *> next).Yields Q :=
  yields_bind fun _ => yields

theorem Yields.seqLeft (yields : scanner.Yields P) : (scanner <* next).Yields P := by
  intro chars read taken
  rw [result_seqLeft] at taken
  obtain ⟨first, reads, rest⟩ := Option.bind_eq_some_iff.mp taken
  obtain ⟨second, -, rfl⟩ := Option.map_eq_some_iff.mp rest
  have has : P first.1 := yields reads
  exact has

theorem Yields.orElse (yields : scanner.Yields P) (yields' : other.Yields P) :
    (scanner <|> other).Yields P := by
  intro chars read taken
  rw [result_orElse] at taken
  rcases Option.or_eq_some_iff.mp taken with taken | ⟨-, taken⟩
  · exact yields taken
  · exact yields' taken

theorem Yields.filterMap (yields : scanner.Yields P) {f : α → Option β}
    (kept : ∀ value made, P value → f value = some made → Q made) :
    (scanner.filterMap f).Yields Q := by
  intro chars read taken
  rw [result_filterMap] at taken
  obtain ⟨first, reads, made⟩ := Option.bind_eq_some_iff.mp taken
  obtain ⟨value, given, rfl⟩ := Option.map_eq_some_iff.mp made
  exact kept first.1 value (yields reads) given

theorem Yields.after (yields : scanner.Yields P) : (scanner.after skipper).Yields P := by
  intro chars read taken
  rw [result_after] at taken
  exact yields taken

theorem Yields.skipping (yields : scanner.Yields P) : (scanner.skipping skipper).Yields P := by
  intro chars read taken
  rw [result_skipping] at taken
  obtain ⟨first, reads, rfl⟩ := Option.map_eq_some_iff.mp taken
  have has : P first.1 := yields reads
  exact has

theorem Yields.ahead (yields : scanner.Yields P) {p : List Char → Bool} :
    (scanner.ahead p).Yields P := by
  intro chars read taken
  rw [result_ahead] at taken
  exact yields (Option.filter_eq_some_iff.mp taken).1

theorem repeatedly_keeps {step : α → Scanner α} (kept : ∀ value, P value → (step value).Yields P)
    {value : α} (first : P value) (chars : List Char) : P (repeatedly step value chars).1 := by
  fun_induction repeatedly step value chars with
  | case1 value chars next taken ih =>
    exact ih (kept value first (result_of_eq_some taken))
  | case2 => exact first

theorem Yields.repeating (yields : scanner.Yields P) {step : α → Scanner α}
    (kept : ∀ value, P value → (step value).Yields P) : (scanner.repeating step).Yields P := by
  intro chars read taken
  rw [result_repeating] at taken
  obtain ⟨first, reads, rfl⟩ := Option.map_eq_some_iff.mp taken
  exact repeatedly_keeps kept (yields reads) first.2

theorem Yields.separatedBy (yields : scanner.Yields P) (separator : Scanner β) :
    (scanner.separatedBy separator).Yields fun values => ∀ value ∈ values, P value := by
  have first : ((· :: []) <$> scanner).Yields fun values => ∀ value ∈ values, P value :=
    yields_map (yields.imp fun _ has => List.forall_mem_singleton.mpr has)
  have step (before : List α) (all : ∀ value ∈ before, P value) :
      ((separator *> (· :: before) <$> scanner) : Scanner (List α)).Yields
        fun values => ∀ value ∈ values, P value :=
    (yields_map (yields.imp fun _ has => List.forall_mem_cons.mpr ⟨has, all⟩)).seqRight
  refine yields_map ((first.repeating step).imp fun _ all value member => ?_)
  exact all value (List.mem_reverse.mp member)

end Worksheet.Scanner
