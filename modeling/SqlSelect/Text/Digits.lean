namespace SqlSelect.Text

def digitValue? (c : Char) : Option Nat :=
  if c.isDigit then some (c.toNat - '0'.toNat)
  else if 'a' ≤ c ∧ c ≤ 'f' then some (c.toNat - 'a'.toNat + 10)
  else if 'A' ≤ c ∧ c ≤ 'F' then some (c.toNat - 'A'.toNat + 10)
  else none

def digitsValue (base : Nat) (digits : List Char) : Nat :=
  digits.foldl (fun n c => base * n + (digitValue? c).getD 0) 0

def digitsWithin? (count low high : Nat) (cs : List Char) : Option (Nat × List Char) :=
  let digits := cs.take count
  let value := digitsValue 10 digits
  if digits.length = count ∧ digits.all Char.isDigit ∧ low ≤ value ∧ value ≤ high then
    some (value, cs.drop count)
  else none

def sign : List Char → Bool × List Char
  | '-' :: cs => (true, cs)
  | '+' :: cs => (false, cs)
  | cs => (false, cs)

def expect? (c : Char) : List Char → Option (List Char)
  | d :: cs => if c = d then some cs else none
  | [] => none

def hexDigit (n : Nat) : Char := Nat.digitChar n

theorem digitValue?_hexDigit (n : Nat) (small : n < 16) : digitValue? (hexDigit n) = some n := by
  have all : ∀ k : Fin 16, digitValue? (hexDigit k) = some k.val := by decide
  exact all ⟨n, small⟩

def hexDigits (bytes : List UInt8) : List Char :=
  bytes.flatMap fun byte => [hexDigit (byte.toNat / 16), hexDigit (byte.toNat % 16)]

def hexBytes? : List Char → Option (List UInt8)
  | [] => some []
  | high :: low :: rest => do
    let high ← digitValue? high
    let low ← digitValue? low
    let bytes ← hexBytes? rest
    some (UInt8.ofNat (16 * high + low) :: bytes)
  | [_] => none

theorem hexBytes?_hexDigits (bytes : List UInt8) : hexBytes? (hexDigits bytes) = some bytes := by
  induction bytes with
  | nil => rfl
  | cons byte bytes ih =>
    have bound := byte.toNat_lt
    have high := digitValue?_hexDigit (byte.toNat / 16) (by omega)
    have low := digitValue?_hexDigit (byte.toNat % 16) (by omega)
    have whole : 16 * (byte.toNat / 16) + byte.toNat % 16 = byte.toNat := by omega
    simp only [hexDigits, List.flatMap_cons, List.cons_append, List.nil_append, hexBytes?, high, low,
      Option.bind_eq_bind, Option.bind_some, whole, UInt8.ofNat_toNat]
    rw [show (bytes.flatMap fun byte => [hexDigit (byte.toNat / 16), hexDigit (byte.toNat % 16)]) =
      hexDigits bytes from rfl, ih]
    rfl

end SqlSelect.Text
