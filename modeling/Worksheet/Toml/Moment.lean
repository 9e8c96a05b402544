import Worksheet.Text.Digits

namespace Worksheet.Toml

open Scanner (char)

def isLeap (year : Nat) : Bool := year % 4 = 0 && (year % 100 ≠ 0 || year % 400 = 0)

def daysIn (year month : Nat) : Nat :=
  if month = 2 then (if isLeap year then 29 else 28)
  else if month = 4 || month = 6 || month = 9 || month = 11 then 30
  else 31

def isDate (year month day : Nat) : Bool :=
  1 ≤ month && month ≤ 12 && 1 ≤ day && day ≤ daysIn year month

def isTime (hour minute second : Nat) : Bool := hour ≤ 23 && minute ≤ 59 && second ≤ 60

def date : Scanner Unit :=
  digits 10 4 >>= fun year =>
    char '-' *> digits 10 2 >>= fun month =>
      char '-' *> (digits 10 2).filterMap fun day => guard (isDate year month day)

def clock : Scanner Unit :=
  digits 10 2 >>= fun hour =>
    char ':' *> digits 10 2 >>= fun minute =>
      char ':' *> (digits 10 2).filterMap fun second => guard (isTime hour minute second)

def time : Scanner Unit := (clock.optionally (char '.' *> .run Char.isDigit)).giving ()

def shift : Scanner Unit :=
  (char '+' <|> char '-') *> digits 10 2 >>= fun hour =>
    char ':' *> (digits 10 2).filterMap fun minute => guard (isTime hour minute 0)

def offset : Scanner Unit := char 'Z' <|> char 'z' <|> shift

def timeOfDate : Scanner Unit :=
  (char 'T' <|> char 't' <|> char ' ') *> (time.optionally offset).giving ()

def moment : Scanner Unit := (date.optionally timeOfDate).giving () <|> time

end Worksheet.Toml
