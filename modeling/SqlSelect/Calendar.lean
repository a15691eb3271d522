namespace SqlSelect.Calendar

def isLeap (year : Int) : Bool := year % 4 == 0 && (year % 100 != 0 || year % 400 == 0)

def daysIn (year : Int) (month : Nat) : Nat :=
  if month = 2 then if isLeap year then 29 else 28
  else if month = 4 ∨ month = 6 ∨ month = 9 ∨ month = 11 then 30
  else 31

def daysBefore (year : Int) (month : Nat) : Nat :=
  (List.range (month - 1)).foldl (fun days earlier => days + daysIn year (earlier + 1)) 0

def dayNumber (year : Int) (month day : Nat) : Int :=
  let years := year - 1
  365 * years + years / 4 - years / 100 + years / 400 + daysBefore year month + day - 719163

end SqlSelect.Calendar
