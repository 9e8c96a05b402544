import Worksheet.Json.Stored
import Worksheet.Literal.Spelling

namespace Worksheet

namespace Json

def Blank (chars : List Char) : Prop := ∀ c ∈ chars, isBlank c = true

structure CodeUnit (digits : List Char) (unit : Nat) : Prop where
  length : digits.length = 4
  value : hexNumber? digits = some unit

inductive Spelled : List Char → Char → Prop where
  | plain {c : Char} (plain : isPlain c = true) : Spelled [c] c
  | letter {letter c : Char} (named : unescape? letter = some c) : Spelled ['\\', letter] c
  | number {digits : List Char} {unit : Nat} {c : Char} (written : CodeUnit digits unit)
      (valid : charOfCode? unit = some c) : Spelled ('\\' :: 'u' :: digits) c
  | pair {digits digits' : List Char} {high low : Nat} {c : Char} (written : CodeUnit digits high)
      (written' : CodeUnit digits' low) (valid : charOfPair? high low = some c) :
      Spelled ('\\' :: 'u' :: digits ++ '\\' :: 'u' :: digits') c

def Quoted (chars : List Char) (text : String) : Prop :=
  ∃ pieces : List (List Char), List.Forall₂ Spelled pieces text.toList ∧
    chars = '"' :: pieces.flatten ++ ['"']

/-- What one character of a string may look like if nobody asks which it is. -/
inductive Stroke : List Char → Prop where
  | plain {c : Char} (plain : isPlain c = true) : Stroke [c]
  | letter {letter c : Char} (named : unescape? letter = some c) : Stroke ['\\', letter]
  | number {digits : List Char} {unit : Nat} (written : CodeUnit digits unit) :
      Stroke ('\\' :: 'u' :: digits)

def StringText (chars : List Char) : Prop :=
  ∃ pieces : List (List Char), (∀ piece ∈ pieces, Stroke piece) ∧
    chars = '"' :: pieces.flatten ++ ['"']

inductive ExponentText : List Char → Prop where
  | absent : ExponentText []
  | present {mark : Char} (marked : mark = 'e' ∨ mark = 'E') (sign : Sign) {digits : Digits}
      (nonempty : digits.chars ≠ []) : ExponentText (mark :: (sign.chars ++ digits.chars))

inductive NumberText : List Char → Prop where
  | mk (negative : Bool) {whole : Digits} (nonempty : whole.chars ≠ [])
      (unpadded : whole.chars.head? = some '0' → whole.chars = ['0']) (fraction : Digits)
      {exponent : List Char} (power : ExponentText exponent) :
      NumberText (minus negative ++
        (whole.chars ++ (Spelling.point fraction.chars ++ exponent)))

namespace Bracket

def openMark : Bracket → Char
  | .array => '['
  | .object => '\x7b'

def closeMark : Bracket → Char
  | .array => ']'
  | .object => '\x7d'

def enclosed (bracket : Bracket) (chars : List Char) : List Char :=
  bracket.openMark :: chars ++ [bracket.closeMark]

end Bracket

def separated (pieces : List (List Char)) : List Char := [','].intercalate pieces

def NameText (chars : List Char) : Prop :=
  ∃ before quoted after, Blank before ∧ StringText quoted ∧ Blank after ∧
    chars = before ++ quoted ++ after ++ [':']

def words : List (List Char) :=
  [['t', 'r', 'u', 'e'], ['f', 'a', 'l', 's', 'e'], ['n', 'u', 'l', 'l']]

inductive ValueText : List Char → Prop where
  | padded {before chars after : List Char} (front : Blank before) (value : ValueText chars)
      (back : Blank after) : ValueText (before ++ chars ++ after)
  | word {chars : List Char} (listed : chars ∈ words) : ValueText chars
  | number {chars : List Char} (number : NumberText chars) : ValueText chars
  | string {chars : List Char} (string : StringText chars) : ValueText chars
  | hollow (bracket : Bracket) {chars : List Char} (blank : Blank chars) :
      ValueText (bracket.enclosed chars)
  | array {items : List (List Char)} (nonempty : items ≠ [])
      (values : ∀ item ∈ items, ValueText item) :
      ValueText (Bracket.array.enclosed (separated items))
  | object {members : List (List Char × List Char)} (nonempty : members ≠ [])
      (names : ∀ member ∈ members, NameText member.1)
      (values : ∀ member ∈ members, ValueText member.2) :
      ValueText (Bracket.object.enclosed
        (separated (members.map fun member => member.1 ++ member.2)))

def Padded (Text : List Char → Prop) (chars : List Char) : Prop :=
  ∃ before inner after, Blank before ∧ Text inner ∧ Blank after ∧ chars = before ++ inner ++ after

/-- A member of an object. What is behind the colon means something under the member's name. -/
inductive MemberText {α : Type} (Means : String → List Char → α → Prop) : List Char → α → Prop where
  | mk {before quoted after chars : List Char} {name : String} {meaning : α} (front : Blank before)
      (named : Quoted quoted name) (back : Blank after) (means : Means name chars meaning) :
      MemberText Means (before ++ quoted ++ (after ++ ':' :: chars)) meaning

inductive ObjectText {α : Type} (Means : String → List Char → α → Prop) :
    List Char → List α → Prop where
  | hollow {chars : List Char} (blank : Blank chars) :
      ObjectText Means (Bracket.object.enclosed chars) []
  | members {pieces : List (List Char)} {meanings : List α} (nonempty : pieces ≠ [])
      (members : List.Forall₂ (MemberText Means) pieces meanings) :
      ObjectText Means (Bracket.object.enclosed (separated pieces)) meanings

def ObjectFor {α : Type} (Means : String → List Char → Option α → Prop) (document : String)
    (given : List α) : Prop :=
  ∃ meanings, Padded (ObjectText Means · meanings) document.toList ∧ meanings.filterMap id = given

end Json

open Json

namespace Cell

inductive Means : String → List Char → Option String → Prop where
  | raw {chars : List Char} {text : String} (given : Padded (Quoted · text) chars) :
      Means "raw" chars (some text)
  | other {name : String} {chars : List Char} (foreign : name ≠ "raw") (value : ValueText chars) :
      Means name chars none

end Cell

namespace Address

inductive Means : String → List Char → Option Coordinate → Prop where
  | row {chars : List Char} {number : Nat} (bounded : number < 0x10000000000000000)
      (given : Padded (· = Nat.toDigits 10 number) chars) : Means "row" chars (some (.row number))
  | col {chars : List Char} {number : Nat} (bounded : number < 0x10000000000000000)
      (given : Padded (· = Nat.toDigits 10 number) chars) : Means "col" chars (some (.col number))
  | other {name : String} {chars : List Char} (row : name ≠ "row") (col : name ≠ "col")
      (value : ValueText chars) : Means name chars none

end Address

end Worksheet
