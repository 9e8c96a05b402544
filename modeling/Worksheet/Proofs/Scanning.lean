import Mathlib.Data.List.Forall2
import Mathlib.Logic.Relation
import Worksheet.Text.Digits

namespace Worksheet

namespace Scanner

variable {α β : Type} {scanner : Scanner α} {chars rest : List Char} {value : α} {c : Char}

def result (scanner : Scanner α) (chars : List Char) : Option (α × List Char) :=
  (scanner chars).map fun scanned => (scanned.value, scanned.rest)

theorem result_of_eq_some {scanned : Scanned α chars} (read : scanner chars = some scanned) :
    scanner.result chars = some (scanned.value, scanned.rest) := by
  rw [result, read, Option.map_some]

theorem result_of_eq_none (stuck : scanner chars = none) : scanner.result chars = none := by
  rw [result, stuck, Option.map_none]

theorem result_map (f : α → β) (scanner : Scanner α) (chars : List Char) :
    (f <$> scanner).result chars = (scanner.result chars).map fun read => (f read.1, read.2) := by
  change ((scanner chars).map (Scanned.map f)).map _ = _
  rw [result, Option.map_map, Option.map_map]
  rfl

theorem result_giving (given : β) (scanner : Scanner α) (chars : List Char) :
    (scanner.giving given).result chars =
      (scanner.result chars).map fun read => (given, read.2) :=
  result_map (fun _ => given) scanner chars

theorem result_bind (scanner : Scanner α) (next : α → Scanner β) (chars : List Char) :
    (scanner >>= next).result chars =
      (scanner.result chars).bind fun read => (next read.1).result read.2 := by
  change (Scanner.bind scanner next chars).map _ = _
  unfold Scanner.bind result
  cases scanner chars with
  | none => rfl
  | some first =>
    rw [Option.map_map]
    rfl

theorem result_seqRight (scanner : Scanner α) (next : Scanner β) (chars : List Char) :
    (scanner *> next).result chars =
      (scanner.result chars).bind fun read => next.result read.2 :=
  result_bind scanner (fun _ => next) chars

theorem result_seqLeft (scanner : Scanner α) (next : Scanner β) (chars : List Char) :
    (scanner <* next).result chars = (scanner.result chars).bind fun read =>
      (next.result read.2).map fun other => (read.1, other.2) := by
  change (scanner >>= fun value => next.giving value).result chars = _
  simp only [result_bind, result_giving]

theorem result_orElse (scanner other : Scanner α) (chars : List Char) :
    (scanner <|> other).result chars = (scanner.result chars).or (other.result chars) := by
  change (Scanner.orElse scanner (fun _ => other) chars).map _ = _
  unfold Scanner.orElse result
  cases scanner chars <;> rfl

theorem result_choosing (choose : Char → Option α) (c : Char) (rest : List Char) :
    (choosing choose).result (c :: rest) = (choose c).map fun value => (value, rest) := by
  unfold result choosing
  rw [Option.map_map]
  rfl

theorem result_satisfying (p : Char → Bool) (c : Char) (rest : List Char) :
    (satisfying p).result (c :: rest) = if p c then some (c, rest) else none := by
  rw [satisfying, result_choosing]
  split <;> rfl

theorem result_char (c other : Char) (rest : List Char) :
    (char c).result (other :: rest) = if other = c then some ((), rest) else none := by
  rw [char, result_choosing]
  split <;> rfl

theorem result_filterMap (f : α → Option β) (scanner : Scanner α) (chars : List Char) :
    (scanner.filterMap f).result chars =
      (scanner.result chars).bind fun read => (f read.1).map fun value => (value, read.2) := by
  unfold result filterMap
  cases scanner chars with
  | none => rfl
  | some scanned =>
    rw [Option.map_map]
    rfl

theorem result_after (scanner : Scanner α) (skipper : Skipper) (chars : List Char) :
    (scanner.after skipper).result chars = scanner.result (skipper.skip chars) := by
  unfold result after
  rw [Option.map_map]
  rfl

theorem result_skipping (scanner : Scanner α) (skipper : Skipper) (chars : List Char) :
    (scanner.skipping skipper).result chars =
      (scanner.result chars).map fun read => (read.1, skipper.skip read.2) := by
  unfold result skipping
  rw [Option.map_map, Option.map_map]
  rfl

theorem result_ahead (p : List Char → Bool) (scanner : Scanner α) (chars : List Char) :
    (scanner.ahead p).result chars = (scanner.result chars).filter fun read => p read.2 := by
  unfold result ahead
  cases scanner chars with
  | none => rfl
  | some scanned =>
    simp only [Option.map_some, Option.filter_some]
    split <;> rfl

theorem result_optionally (scanner : Scanner α) (more : Scanner β) (chars : List Char) :
    (scanner.optionally more).result chars = (scanner.result chars).map fun read =>
      match more.result read.2 with
      | some other => ((read.1, some other.1), other.2)
      | none => ((read.1, none), read.2) := by
  unfold result optionally
  cases scanner chars with
  | none => rfl
  | some first =>
    dsimp only [Option.map_some]
    cases more first.rest <;> rfl

theorem result_repeating (scanner : Scanner α) (step : α → Scanner α) (chars : List Char) :
    (scanner.repeating step).result chars =
      (scanner.result chars).map fun read => repeatedly step read.1 read.2 := by
  unfold result repeating
  rw [Option.map_map, Option.map_map]
  rfl

theorem whole_eq (scanner : Scanner α) (skipper : Skipper) (chars : List Char) :
    scanner.whole skipper chars = (scanner.result chars).bind fun read =>
      if skipper.skip read.2 = [] then some read.1 else none := by
  unfold whole ahead skipping result
  cases scanner chars with
  | none => rfl
  | some scanned =>
    simp only [Option.map_some, Option.bind_some, Scanned.leaving, Option.filter_some,
      List.isEmpty_iff]
    split <;> rfl

theorem repeatedly_of_some {step : α → Scanner α} {next : α}
    (taken : (step value).result chars = some (next, rest)) :
    repeatedly step value chars = repeatedly step next rest := by
  obtain ⟨scanned, read, same⟩ := Option.map_eq_some_iff.mp taken
  cases same
  rw [repeatedly, read]

theorem repeatedly_of_none {step : α → Scanner α} (stuck : (step value).result chars = none) :
    repeatedly step value chars = (value, chars) := by
  rw [repeatedly, Option.map_eq_none_iff.mp stuck]

theorem result_run (p : Char → Bool) (chars : List Char) : (run p).result chars =
    if chars.takeWhile p = [] then none else some (chars.takeWhile p, chars.dropWhile p) := by
  unfold result run
  cases chars with
  | nil => rfl
  | cons c rest => cases first : p c <;> simp [first]

def Moves (step : α → Scanner α) (before after : α × List Char) : Prop :=
  (step before.1).result before.2 = some after

theorem repeatedly_of_moves {step : α → Scanner α} {before after : α × List Char}
    (moves : Relation.ReflTransGen (Moves step) before after) :
    repeatedly step before.1 before.2 = repeatedly step after.1 after.2 := by
  induction moves using Relation.ReflTransGen.head_induction_on with
  | refl => rfl
  | head move _ ih => rw [repeatedly_of_some move, ih]

/-- A scanner reads this much of a text, whatever comes behind it. -/
def Takes (scanner : Scanner α) (piece : List Char) (value : α) : Prop :=
  ∀ rest, scanner.result (piece ++ rest) = some (value, rest)

theorem repeatedly_takes {item : Scanner α} {pieces : List (List Char)} {values : List α}
    (takes : List.Forall₂ item.Takes pieces values) (before : List α) (rest : List Char) :
    repeatedly (fun items => (· :: items) <$> item) before (pieces.flatten ++ rest) =
      repeatedly (fun items => (· :: items) <$> item) (values.reverse ++ before) rest := by
  induction takes generalizing before with
  | nil => rfl
  | @cons piece value pieces values first _ ih =>
    have taken : ((· :: before) <$> item).result (piece ++ (pieces.flatten ++ rest)) =
        some (value :: before, pieces.flatten ++ rest) := by
      rw [result_map, first]
      rfl
    rw [List.flatten_cons, List.append_assoc, repeatedly_of_some taken, ih]
    simp

theorem result_itemsAfter {opening : Scanner β} {given : β} {item : Scanner α}
    {pieces : List (List Char)} {values : List α}
    (opened : opening.result chars = some (given, pieces.flatten ++ rest))
    (takes : List.Forall₂ item.Takes pieces values) (stuck : item.result rest = none) :
    (itemsAfter opening item).result chars = some (values, rest) := by
  have stop : ((· :: values.reverse) <$> item).result rest = none := by
    rw [result_map, stuck]
    rfl
  rw [itemsAfter, result_map, result_repeating, result_giving, opened]
  simp only [Option.map_some]
  rw [repeatedly_takes takes, List.append_nil, repeatedly_of_none stop]
  simp

end Scanner

theorem hexDigit?_lt {c : Char} {digit : Nat} (read : hexDigit? c = some digit) : digit < 16 := by
  unfold hexDigit? at read
  split at read
  · rename_i decimal
    have greatest : c.toNat ≤ 57 := (Char.isDigit_iff_toNat.mp decimal).2
    cases read
    have zero : '0'.toNat = 48 := rfl
    omega
  · split at read
    · rename_i small
      have greatest : c.toNat ≤ 102 := small.2
      cases read
      have a : 'a'.toNat = 97 := rfl
      omega
    · split at read
      · rename_i large
        have greatest : c.toNat ≤ 70 := large.2
        cases read
        have a : 'A'.toNat = 65 := rfl
        omega
      · cases read

theorem digitIn?_of_hexDigit? {c : Char} {digit : Nat} (read : hexDigit? c = some digit) :
    digitIn? 16 c = some digit := by
  rw [digitIn?, read, Option.filter_some, if_pos (decide_eq_true (hexDigit?_lt read))]

theorem takes_digits {chars : List Char} {unit : Nat} (length : chars.length = 4)
    (value : hexNumber? chars = some unit) : (digits 16 4).Takes chars unit := by
  intro rest
  obtain ⟨a, b, c, d, rfl⟩ : ∃ a b c d, chars = [a, b, c, d] := by
    match chars, length with
    | [a, b, c, d], _ => exact ⟨a, b, c, d, rfl⟩
  simp only [hexNumber?, List.foldlM_cons, List.foldlM_nil, Option.bind_eq_bind,
    Option.bind_eq_some_iff, Option.map_eq_some_iff, Option.pure_def, Option.some.injEq] at value
  obtain ⟨_, ⟨a', first, rfl⟩, _, ⟨b', second, rfl⟩, _, ⟨c', third, rfl⟩, _, ⟨d', fourth, rfl⟩,
    rfl⟩ := value
  simp only [digits, List.cons_append, List.nil_append, Scanner.result_bind, Scanner.result_map,
    Scanner.result_choosing, digitIn?_of_hexDigit? first, digitIn?_of_hexDigit? second,
    digitIn?_of_hexDigit? third, digitIn?_of_hexDigit? fourth, Option.map_some, Option.bind_some,
    Nat.mul_zero, Nat.zero_add]

end Worksheet
