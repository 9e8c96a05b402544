namespace Worksheet

structure Scanned (α : Type) (whole : List Char) where
  value : α
  rest : List Char
  shorter : rest.length < whole.length

namespace Scanned

variable {α β : Type} {part whole : List Char}

def map (f : α → β) (scanned : Scanned α whole) : Scanned β whole :=
  ⟨f scanned.value, scanned.rest, scanned.shorter⟩

def within (scanned : Scanned α part) (bound : part.length ≤ whole.length) : Scanned α whole :=
  ⟨scanned.value, scanned.rest, Nat.lt_of_lt_of_le scanned.shorter bound⟩

def andThen (first : Scanned α whole) (second : Scanned β first.rest) : Scanned β whole :=
  second.within (Nat.le_of_lt first.shorter)

def leaving (scanned : Scanned α whole) (rest : List Char)
    (bound : rest.length ≤ scanned.rest.length) : Scanned α whole :=
  ⟨scanned.value, rest, Nat.lt_of_le_of_lt bound scanned.shorter⟩

end Scanned

/-- Reads something off the front of a text, at least one character of it, or fails. -/
def Scanner (α : Type) : Type := (chars : List Char) → Option (Scanned α chars)

structure Skipper where
  skip : List Char → List Char
  bound : ∀ chars, (skip chars).length ≤ chars.length

/-- Takes a step as often as one is possible. A step reads on and changes what has been made of
    the text so far. -/
def repeatedly {α : Type} (step : α → Scanner α) (value : α) (chars : List Char) : α × List Char :=
  match step value chars with
  | some next => repeatedly step next.value next.rest
  | none => (value, chars)
termination_by chars.length
decreasing_by exact next.shorter

theorem length_repeatedly_le {α : Type} (step : α → Scanner α) (value : α) (chars : List Char) :
    (repeatedly step value chars).2.length ≤ chars.length := by
  fun_induction repeatedly step value chars with
  | case1 value chars next taken ih => exact Nat.le_of_lt (Nat.lt_of_le_of_lt ih next.shorter)
  | case2 => exact Nat.le_refl _

theorem length_dropWhile_le {α : Type} (p : α → Bool) (items : List α) :
    (items.dropWhile p).length ≤ items.length := by
  induction items with
  | nil => exact Nat.le_refl _
  | cons head tail ih =>
    simp only [List.dropWhile_cons]
    split
    · exact Nat.le_succ_of_le ih
    · exact Nat.le_refl _

namespace Scanner

variable {α β : Type}

def map (f : α → β) (scanner : Scanner α) : Scanner β := fun chars =>
  (scanner chars).map (Scanned.map f)

def giving (value : β) (scanner : Scanner α) : Scanner β := scanner.map fun _ => value

def bind (scanner : Scanner α) (next : α → Scanner β) : Scanner β := fun chars =>
  match scanner chars with
  | some first => (next first.value first.rest).map first.andThen
  | none => none

def orElse (scanner : Scanner α) (other : Unit → Scanner α) : Scanner α := fun chars =>
  match scanner chars with
  | some scanned => some scanned
  | none => other () chars

instance : Functor Scanner := ⟨map, fun value => map fun _ => value⟩

instance : Bind Scanner := ⟨bind⟩

instance : SeqRight Scanner := ⟨fun scanner next => scanner.bind fun _ => next ()⟩

instance : SeqLeft Scanner := ⟨fun scanner next => scanner.bind fun value => (next ()).giving value⟩

instance : OrElse (Scanner α) := ⟨orElse⟩

def fail : Scanner α := fun _ => none

def choosing (choose : Char → Option α) : Scanner α
  | c :: rest => (choose c).map fun value => ⟨value, rest, Nat.lt_succ_self rest.length⟩
  | [] => none

def satisfying (p : Char → Bool) : Scanner Char := choosing fun c => if p c then some c else none

def char (c : Char) : Scanner Unit := choosing fun other => if other = c then some () else none

def word : List Char → Scanner Unit
  | [] => fail
  | [c] => char c
  | c :: rest => char c *> word rest

def run (p : Char → Bool) : Scanner (List Char)
  | c :: rest =>
    if p c then
      some ⟨c :: rest.takeWhile p, rest.dropWhile p, Nat.lt_succ_of_le (length_dropWhile_le p rest)⟩
    else none
  | [] => none

def filterMap (f : α → Option β) (scanner : Scanner α) : Scanner β := fun chars =>
  match scanner chars with
  | some scanned => (f scanned.value).map fun value => scanned.map fun _ => value
  | none => none

def ahead (p : List Char → Bool) (scanner : Scanner α) : Scanner α := fun chars =>
  (scanner chars).filter fun scanned => p scanned.rest

def optionally (scanner : Scanner α) (more : Scanner β) : Scanner (α × Option β) := fun chars =>
  match scanner chars with
  | none => none
  | some first =>
    match more first.rest with
    | some second => some (first.andThen (second.map fun value => (first.value, some value)))
    | none => some (first.map fun value => (value, none))

def after (scanner : Scanner α) (skipper : Skipper) : Scanner α := fun chars =>
  (scanner (skipper.skip chars)).map fun scanned => scanned.within (skipper.bound chars)

def skipping (scanner : Scanner α) (skipper : Skipper) : Scanner α := fun chars =>
  (scanner chars).map fun scanned =>
    scanned.leaving (skipper.skip scanned.rest) (skipper.bound scanned.rest)

def repeating (scanner : Scanner α) (step : α → Scanner α) : Scanner α := fun chars =>
  (scanner chars).map fun first =>
    let reached := repeatedly step first.value first.rest
    (first.leaving reached.2 (length_repeatedly_le step first.value first.rest)).map
      fun _ => reached.1

def itemsAfter (opening : Scanner β) (item : Scanner α) : Scanner (List α) :=
  List.reverse <$> (opening.giving []).repeating fun items => (· :: items) <$> item

def separatedBy (item : Scanner α) (separator : Scanner β) : Scanner (List α) :=
  List.reverse <$> ((· :: []) <$> item).repeating fun items => separator *> (· :: items) <$> item

def whole (scanner : Scanner α) (skipper : Skipper) (chars : List Char) : Option α :=
  (((scanner.skipping skipper).ahead List.isEmpty) chars).map Scanned.value

end Scanner

namespace Skipper

def characters (p : Char → Bool) : Skipper := ⟨List.dropWhile p, length_dropWhile_le p⟩

def many {α : Type} (scanner : Scanner α) : Skipper :=
  ⟨fun chars => (repeatedly (fun _ => scanner.giving ()) () chars).2,
    length_repeatedly_le (fun _ => scanner.giving ()) ()⟩

end Skipper

end Worksheet
