import Worksheet.Json.Grammar
import Worksheet.Proofs.Scanning

namespace Worksheet.Json

open Scanner (result_seqRight result_seqLeft result_map result_giving result_orElse result_char
  result_choosing result_satisfying result_filterMap result_bind result_after)

variable {before chars digits rest : List Char} {c : Char} {unit : Nat} {text : String}

theorem blank_nil : Blank [] := fun _ member => absurd member List.not_mem_nil

theorem blank_append {after : List Char} (front : Blank before) (back : Blank after) :
    Blank (before ++ after) :=
  fun c member => (List.mem_append.mp member).elim (front c) (back c)

theorem skip_blanks (blank : Blank before) (chars : List Char) :
    blanks.skip (before ++ chars) = blanks.skip chars :=
  List.dropWhile_append_of_pos blank

theorem skip_of_not_blank (solid : isBlank c = false) (rest : List Char) :
    blanks.skip (c :: rest) = c :: rest :=
  List.dropWhile_cons_of_neg (Bool.eq_false_iff.mp solid)

theorem result_symbol_blank (blank : Blank before) (mark : Char) (chars : List Char) :
    (symbol mark).result (before ++ chars) = (symbol mark).result chars := by
  rw [symbol, result_after, result_after, skip_blanks blank]

theorem result_symbol (solid : isBlank c = false) (mark : Char) (rest : List Char) :
    (symbol mark).result (c :: rest) = if c = mark then some ((), rest) else none := by
  rw [symbol, result_after, skip_of_not_blank solid, result_char]

theorem CodeUnit.takes (written : CodeUnit digits unit) : codeUnit.Takes ('u' :: digits) unit := by
  intro rest
  rw [codeUnit, result_seqRight, List.cons_append, result_char, if_pos rfl]
  exact takes_digits written.length written.value rest

theorem charOfCode?_of_high (high : isHighSurrogate unit = true) : charOfCode? unit = none := by
  unfold isHighSurrogate at high
  rw [charOfCode?, if_neg]
  simp only [Bool.and_eq_true, decide_eq_true_eq] at high
  unfold Nat.isValidChar
  omega

theorem isHighSurrogate_of_pair {high low : Nat} (valid : charOfPair? high low = some c) :
    isHighSurrogate high = true := by
  unfold charOfPair? at valid
  split at valid
  · rename_i surrogates
    exact (Bool.and_eq_true_iff.mp surrogates).1
  · cases valid

theorem Spelled.takes (spelled : Spelled chars c) : character.Takes chars c := by
  intro rest
  have slash : isPlain '\\' = false := rfl
  have unnamed : unescape? 'u' = none := rfl
  cases spelled with
  | plain plain => simp [character, result_orElse, result_satisfying, plain]
  | letter named =>
    simp [character, result_orElse, result_satisfying, slash, result_seqRight, result_char,
      result_choosing, named]
  | number written valid =>
    have unit := written.takes rest
    rw [List.cons_append] at unit
    simp [character, result_orElse, result_satisfying, slash, result_seqRight, result_char,
      result_choosing, unnamed, result_filterMap, unit, valid]
  | @pair digits digits' _ _ _ written written' valid =>
    have first := written.takes ('\\' :: 'u' :: (digits' ++ rest))
    have second := written'.takes rest
    -- A high surrogate is no character by itself, so that the pair is tried.
    have high := charOfCode?_of_high (isHighSurrogate_of_pair valid)
    rw [List.cons_append] at first second
    simp [character, result_orElse, result_satisfying, slash, result_seqRight, result_char,
      result_choosing, unnamed, result_filterMap, first, high, surrogatePair, result_bind, second,
      valid]

theorem Stroke.takes (stroke : Stroke chars) : skipCharacter.Takes chars () := by
  intro rest
  have slash : isPlain '\\' = false := rfl
  have unnamed : unescape? 'u' = none := rfl
  cases stroke with
  | plain plain => simp [skipCharacter, result_orElse, result_giving, result_satisfying, plain]
  | letter named =>
    simp [skipCharacter, result_orElse, result_giving, result_satisfying, slash, result_seqRight,
      result_char, result_choosing, named]
  | number written =>
    have unit := written.takes rest
    rw [List.cons_append] at unit
    simp [skipCharacter, result_orElse, result_giving, result_satisfying, slash, result_seqRight,
      result_char, result_choosing, unnamed, unit]

theorem result_openQuote (blank : Blank before) (inner rest : List Char) :
    (symbol '"').result (before ++ ('"' :: inner ++ ['"']) ++ rest) =
      some ((), inner ++ '"' :: rest) := by
  rw [List.append_assoc, result_symbol_blank blank, List.cons_append, List.cons_append,
    result_symbol rfl, if_pos rfl, List.append_assoc]
  rfl

theorem Quoted.result (quoted : Quoted chars text) (blank : Blank before) (rest : List Char) :
    string.result (before ++ chars ++ rest) = some (text, rest) := by
  obtain ⟨pieces, spelled, same⟩ := quoted
  subst same
  have stuck : character.result ('"' :: rest) = none := by
    simp [character, result_orElse, result_satisfying, result_seqRight, result_char, isPlain]
  have items := Scanner.result_itemsAfter (result_openQuote blank pieces.flatten rest)
    (spelled.imp fun _ _ => Spelled.takes) stuck
  rw [string, result_map, result_seqLeft, items]
  simp [result_char]

theorem StringText.result (string : StringText chars) (blank : Blank before) (rest : List Char) :
    skipString.result (before ++ chars ++ rest) = some ((), rest) := by
  obtain ⟨pieces, strokes, same⟩ := string
  subst same
  have stuck : skipCharacter.result ('"' :: rest) = none := by
    simp [skipCharacter, result_orElse, result_giving, result_satisfying, result_seqRight,
      result_char, isPlain]
  have takes : List.Forall₂ skipCharacter.Takes pieces (pieces.map fun _ => ()) := by
    rw [List.forall₂_map_right_iff, List.forall₂_same]
    exact fun piece member => (strokes piece member).takes
  have items := Scanner.result_itemsAfter (result_openQuote blank pieces.flatten rest) takes stuck
  rw [skipString, result_seqRight, items]
  simp [result_char]

theorem unescape?_of_escapeLetter? {letter : Char} (named : escapeLetter? c = some letter) :
    unescape? letter = some c := by
  unfold escapeLetter? at named
  split at named <;> cases named <;> rfl

theorem isPlain_of_escapeLetter? (unnamed : escapeLetter? c = none) (control : ¬ c.toNat < 0x20) :
    isPlain c = true := by
  have quote : c ≠ '"' := by
    rintro rfl
    cases unnamed
  have slash : c ≠ '\\' := by
    rintro rfl
    cases unnamed
  simp [isPlain, quote, slash, Nat.le_of_not_lt control]

theorem codeUnit_control {number : Nat} (control : number < 0x20) :
    CodeUnit ['0', '0', Nat.digitChar (number / 16), Nat.digitChar (number % 16)] number := by
  have units : ∀ number : Fin 0x20, hexNumber? ['0', '0', Nat.digitChar (number.val / 16),
      Nat.digitChar (number.val % 16)] = some number.val := by decide
  exact ⟨rfl, units ⟨number, control⟩⟩

theorem charOfCode?_toNat (c : Char) : charOfCode? c.toNat = some c := by
  have valid : c.toNat.isValidChar := c.valid
  rw [charOfCode?, if_pos valid, Char.ofNat_toNat]

theorem spelled_escape (c : Char) : Spelled (escape c) c := by
  unfold escape
  split
  · rename_i named
    exact .letter (unescape?_of_escapeLetter? named)
  · rename_i unnamed
    split
    · rename_i control
      exact .number (codeUnit_control control) (charOfCode?_toNat c)
    · rename_i control
      exact .plain (isPlain_of_escapeLetter? unnamed control)

theorem quoted_quote (text : String) : Quoted (quote text) text := by
  refine ⟨text.toList.map escape, ?_, ?_⟩
  · rw [List.forall₂_map_left_iff, List.forall₂_same]
    exact fun c _ => spelled_escape c
  · rw [quote, List.flatMap_def]

end Worksheet.Json
