import Worksheet.Proofs.Numeral
import Worksheet.Proofs.Quoting

namespace Worksheet.Json

open Scanner (char result_seqRight result_map result_giving result_orElse result_char result_run
  result_after result_optionally result_repeating)

def followers : List Char := [' ', '\n', '\t', '\r', ',', ']', '\x7d']

def Follows (rest : List Char) : Prop := ∀ c, rest.head? = some c → c ∈ followers

variable {chars exponent rest : List Char} {c : Char} {digits whole : Digits}

theorem Follows.stops (follows : Follows rest) : Stops rest := by
  have others : ∀ c ∈ followers, c.isDigit = false := by simp [followers]
  exact fun c first => others c (follows c first)

theorem Follows.head_ne (follows : Follows rest) (other : c ∉ followers) :
    rest.head? ≠ some c :=
  fun first => other (follows c first)

theorem result_char_of_ne (ne : chars.head? ≠ some c) : (char c).result chars = none := by
  cases chars with
  | nil => rfl
  | cons other rest =>
    rw [result_char, if_neg]
    rintro rfl
    exact ne rfl

theorem head_ne_of_digits (nonempty : digits.chars ≠ []) (rest : List Char)
    (other : c.isDigit = false) : (digits.chars ++ rest).head? ≠ some c := by
  intro first
  rw [List.head?_append_of_ne_nil _ nonempty] at first
  rw [digits.head_isDigit first] at other
  cases other

theorem result_decimalDigits (nonempty : digits.chars ≠ []) (stops : Stops rest) :
    decimalDigits.result (digits.chars ++ rest) = some (digits.chars, rest) := by
  rw [decimalDigits, result_run, digits.takeWhile_append stops, digits.dropWhile_append stops,
    if_neg nonempty]

theorem result_wholePart (nonempty : digits.chars ≠ [])
    (unpadded : digits.chars.head? = some '0' → digits.chars = ['0']) (stops : Stops rest) :
    wholePart.result (digits.chars ++ rest) = some (digits.chars, rest) := by
  rw [wholePart, result_orElse, result_giving, result_decimalDigits nonempty stops]
  by_cases zero : digits.chars.head? = some '0'
  · rw [unpadded zero]
    simp [result_char]
  · have other : (digits.chars ++ rest).head? ≠ some '0' := by
      rwa [List.head?_append_of_ne_nil _ nonempty]
    rw [result_char_of_ne other]
    rfl

theorem result_sign (sign : Sign) (nonempty : digits.chars ≠ []) (stops : Stops rest) :
    (Json.sign *> decimalDigits <|> decimalDigits).result (sign.chars ++ (digits.chars ++ rest)) =
      some (digits.chars, rest) := by
  have digital := result_decimalDigits nonempty stops
  rw [result_orElse, result_seqRight, Json.sign, result_orElse]
  cases sign with
  | absent =>
    have plus := result_char_of_ne (head_ne_of_digits nonempty rest (c := '+') rfl)
    have minus := result_char_of_ne (head_ne_of_digits nonempty rest (c := '-') rfl)
    simp [Sign.chars, plus, minus, digital]
  | plus => simp [Sign.chars, result_char, digital]
  | minus => simp [Sign.chars, result_char, digital]

theorem result_optionally_of_some {α β : Type} {scanner : Scanner α} {more : Scanner β}
    {value : α} {given : β} {between : List Char}
    (first : scanner.result chars = some (value, between))
    (second : more.result between = some (given, rest)) :
    (scanner.optionally more).result chars = some ((value, some given), rest) := by
  rw [result_optionally, first]
  simp [second]

theorem result_optionally_of_none {α β : Type} {scanner : Scanner α} {more : Scanner β}
    {value : α} (first : scanner.result chars = some (value, rest))
    (second : more.result rest = none) :
    (scanner.optionally more).result chars = some ((value, none), rest) := by
  rw [result_optionally, first]
  simp [second]

theorem exists_fraction {α : Type} {scanner : Scanner α} {value : α} (fraction : Digits)
    (first : scanner.result chars = some (value, Spelling.point fraction.chars ++ rest))
    (stops : Stops rest) (pointless : rest.head? ≠ some '.') :
    ∃ value, (scanner.optionally Json.fraction).result chars = some (value, rest) := by
  by_cases empty : fraction.chars = []
  · rw [empty] at first
    refine ⟨_, result_optionally_of_none first ?_⟩
    rw [Json.fraction, result_seqRight, result_char_of_ne pointless]
    rfl
  · refine ⟨(_, some ()), result_optionally_of_some first ?_⟩
    have point : Spelling.point fraction.chars = '.' :: fraction.chars := by
      cases written : fraction.chars with
      | nil => exact absurd written empty
      | cons => rfl
    rw [point, Json.fraction, result_seqRight, List.cons_append, result_char, if_pos rfl,
      Option.bind_some, result_giving, result_decimalDigits empty stops]
    rfl

theorem exists_exponent {α : Type} {scanner : Scanner α} {value : α} (power : ExponentText exponent)
    (first : scanner.result chars = some (value, exponent ++ rest)) (follows : Follows rest) :
    ∃ value, (scanner.optionally Json.exponent).result chars = some (value, rest) := by
  cases power with
  | absent =>
    refine ⟨_, result_optionally_of_none first ?_⟩
    have small := result_char_of_ne (follows.head_ne (c := 'e') (by decide))
    have large := result_char_of_ne (follows.head_ne (c := 'E') (by decide))
    rw [Json.exponent, result_seqRight, result_orElse, small, large]
    rfl
  | present marked sign nonempty =>
    refine ⟨(_, some ()), result_optionally_of_some first ?_⟩
    have digital := result_sign sign nonempty follows.stops
    rw [Json.exponent, result_seqRight, result_orElse, List.cons_append, List.append_assoc]
    rcases marked with rfl | rfl <;> simp [result_char, result_giving, digital]

theorem ExponentText.stops (power : ExponentText exponent) (follows : Follows rest) :
    Stops (exponent ++ rest) ∧ (exponent ++ rest).head? ≠ some '.' := by
  cases power with
  | absent => exact ⟨follows.stops, follows.head_ne (by decide)⟩
  | present marked => rcases marked with rfl | rfl <;> exact ⟨stops_cons rfl _, by simp⟩

theorem result_skipUnsigned (nonempty : whole.chars ≠ [])
    (unpadded : whole.chars.head? = some '0' → whole.chars = ['0']) (fraction : Digits)
    (power : ExponentText exponent) (follows : Follows rest) :
    skipUnsigned.result (whole.chars ++ (Spelling.point fraction.chars ++ (exponent ++ rest))) =
      some ((), rest) := by
  obtain ⟨stops, pointless⟩ := power.stops follows
  have stops' : Stops (Spelling.point fraction.chars ++ (exponent ++ rest)) := by
    cases fraction.chars with
    | nil => exact stops
    | cons => exact stops_cons rfl _
  have first := result_wholePart nonempty unpadded stops'
  obtain ⟨_, second⟩ := exists_fraction fraction first stops pointless
  obtain ⟨_, third⟩ := exists_exponent power second follows
  rw [skipUnsigned, result_giving, third]
  rfl

theorem takes_word (nonempty : chars ≠ []) : (Scanner.word chars).Takes chars () := by
  intro rest
  induction chars with
  | nil => exact absurd rfl nonempty
  | cons c chars ih =>
    cases chars with
    | nil => simp [Scanner.word, result_char]
    | cons other chars =>
      rw [Scanner.word, result_seqRight, List.cons_append, result_char, if_pos rfl]
      exact ih (List.cons_ne_nil _ _)
      exact List.cons_ne_nil _ _

theorem result_word_of_ne {first : Char} (ne : c ≠ first) (word : List Char) (rest : List Char) :
    (Scanner.word (first :: word)).result (c :: rest) = none := by
  cases word with
  | nil => rw [Scanner.word, result_char, if_neg ne]
  | cons other word =>
    rw [Scanner.word, result_seqRight, result_char, if_neg ne]
    · rfl
    · exact List.cons_ne_nil _ _

theorem result_skipString_of_ne (solid : isBlank c = false) (ne : c ≠ '"') (rest : List Char) :
    skipString.result (c :: rest) = none := by
  rw [skipString, result_seqRight, Scanner.itemsAfter, result_map, result_repeating, result_giving,
    result_symbol solid, if_neg ne]
  rfl

theorem result_skipUnsigned_of_not_digit (other : c.isDigit = false) (rest : List Char) :
    skipUnsigned.result (c :: rest) = none := by
  have zero : c ≠ '0' := by
    rintro rfl
    cases other
  have none : wholePart.result (c :: rest) = none := by
    simp [wholePart, result_orElse, result_giving, result_char, zero, decimalDigits, result_run,
      other]
  rw [skipUnsigned, result_giving, result_optionally, result_optionally, none]
  rfl

theorem result_skipScalar_string (string : StringText chars) (rest : List Char) :
    skipScalar.result (chars ++ rest) = some ((), rest) := by
  have read := string.result blank_nil rest
  rw [List.nil_append] at read
  rw [skipScalar, result_orElse, read]
  rfl

theorem isBlank_of_isDigit (digit : c.isDigit = true) : isBlank c = false := by
  have solid : ∀ c ∈ [' ', '\n', '\t', '\r'], c.isDigit = false := by simp
  cases blank : isBlank c with
  | false => rfl
  | true =>
    have listed : c ∈ [' ', '\n', '\t', '\r'] := by simpa [isBlank, or_assoc] using blank
    rw [solid c listed] at digit
    cases digit

theorem result_skipScalar_number (number : NumberText chars) (follows : Follows rest) :
    skipScalar.result (chars ++ rest) = some ((), rest) := by
  cases number with
  | @mk negative whole nonempty unpadded fraction exponent power =>
  have unsigned := result_skipUnsigned nonempty unpadded fraction power follows
  rw [skipScalar, result_orElse, result_orElse, result_orElse, result_seqRight, result_after]
  simp only [List.append_assoc]
  cases negative with
  | true =>
    rw [minus, if_pos rfl, List.singleton_append, result_skipString_of_ne rfl (by decide),
      result_symbol rfl, if_pos rfl, Option.bind_some, unsigned]
    rfl
  | false =>
    rw [minus, if_neg (by decide), List.nil_append]
    cases written : whole.chars with
    | nil => exact absurd written nonempty
    | cons c more =>
      have digit := whole.digital c (written ▸ List.mem_cons_self)
      have solid := isBlank_of_isDigit digit
      have quote : c ≠ '"' := by
        rintro rfl
        cases digit
      have minus : c ≠ '-' := by
        rintro rfl
        cases digit
      rw [written, List.cons_append] at unsigned
      rw [List.cons_append, result_skipString_of_ne solid quote, result_symbol solid, if_neg minus,
        skip_of_not_blank solid, unsigned]
      rfl

theorem result_skipScalar_of_letter (solid : isBlank c = false) (other : c.isDigit = false)
    (quote : c ≠ '"') (minus : c ≠ '-') (rest : List Char) : skipScalar.result (c :: rest) =
      ((Scanner.word ['t', 'r', 'u', 'e']).result (c :: rest)).or
        (((Scanner.word ['f', 'a', 'l', 's', 'e']).result (c :: rest)).or
          ((Scanner.word ['n', 'u', 'l', 'l']).result (c :: rest))) := by
  have toTrue : "true".toList = ['t', 'r', 'u', 'e'] := rfl
  have toFalse : "false".toList = ['f', 'a', 'l', 's', 'e'] := rfl
  have toNull : "null".toList = ['n', 'u', 'l', 'l'] := rfl
  simp only [skipScalar, result_orElse, result_seqRight, result_after, skip_of_not_blank solid,
    result_skipString_of_ne solid quote, result_symbol solid, if_neg minus,
    result_skipUnsigned_of_not_digit other, Option.bind_none, Option.none_or, toTrue, toFalse,
    toNull]

theorem result_skipScalar_word (listed : chars ∈ words) (rest : List Char) :
    skipScalar.result (chars ++ rest) = some ((), rest) := by
  have nonempty : chars ≠ [] := by
    rintro rfl
    exact absurd listed (by decide)
  have taken := takes_word nonempty rest
  simp only [words, List.mem_cons, List.not_mem_nil, or_false] at listed
  rcases listed with rfl | rfl | rfl
  all_goals
    rw [List.cons_append] at taken ⊢
    rw [result_skipScalar_of_letter rfl rfl (by decide) (by decide)]
  · rw [taken]
    rfl
  · rw [result_word_of_ne (by decide), taken]
    rfl
  · rw [result_word_of_ne (by decide), result_word_of_ne (by decide), taken]
    rfl

def Begins (chars : List Char) : Prop :=
  ∃ c rest, chars = c :: rest ∧ isBlank c = false ∧ c ∉ ['[', ']', '\x7b', '\x7d']

theorem begins_string (string : StringText chars) : Begins chars := by
  obtain ⟨pieces, _, same⟩ := string
  exact ⟨'"', _, same, rfl, by decide⟩

theorem begins_word (listed : chars ∈ words) : Begins chars := by
  simp only [words, List.mem_cons, List.not_mem_nil, or_false] at listed
  rcases listed with rfl | rfl | rfl <;> exact ⟨_, _, rfl, rfl, by decide⟩

theorem begins_number (number : NumberText chars) : Begins chars := by
  cases number with
  | @mk negative whole nonempty unpadded fraction exponent power =>
    cases negative with
    | true => exact ⟨'-', _, rfl, rfl, by decide⟩
    | false =>
      obtain ⟨c, rest, written⟩ := List.exists_cons_of_ne_nil nonempty
      have digit := whole.digital c (written ▸ List.mem_cons_self)
      refine ⟨c, _, by rw [written]; rfl, isBlank_of_isDigit digit, ?_⟩
      intro listed
      have others : ∀ c ∈ ['[', ']', '\x7b', '\x7d'], c.isDigit = false := by simp
      rw [others c listed] at digit
      cases digit

end Worksheet.Json
