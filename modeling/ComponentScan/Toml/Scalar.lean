import ComponentScan.Json.Token

/-!
# TOML scalars

The values that are written as bare words: truth values, numbers and dates. A whole number that
is not negative is told apart from all other numbers; a date is a value of its own kind, with one
member that no record has.
-/

namespace ComponentScan.Toml

/-! ## Digits -/

/-- The digits of a text in which single underscores may stand between digits. -/
def digits? (isDigit : Char → Bool) : List Char → Option (List Char)
  | [] => none
  | [c] => if isDigit c then some [c] else none
  | c :: '_' :: cs => if isDigit c then (digits? isDigit cs).map (c :: ·) else none
  | c :: cs => if isDigit c then (digits? isDigit cs).map (c :: ·) else none

def isOctal (c : Char) : Bool := '0' ≤ c && c ≤ '7'

def isBinary (c : Char) : Bool := c == '0' || c == '1'

def isHex (c : Char) : Bool := (Json.hexValue? c).isSome

def valueIn (base : Nat) (ds : List Char) : Nat :=
  ds.foldl (fun n c => n * base + (Json.hexValue? c).getD 0) 0

/-- The sign of a number, if it is negative, and what follows the sign. -/
def signed : List Char → Bool × List Char
  | '-' :: cs => (true, cs)
  | '+' :: cs => (false, cs)
  | cs => (false, cs)

/-- The digits of a decimal number, without a zero in front of others. -/
def decimal? (cs : List Char) : Option (List Char) :=
  (digits? Char.isDigit cs).filter fun ds => ds.head? != some '0' || ds.length == 1

/-! ## Numbers -/

/-- A whole number. Those outside the range of 128 bits are refused. -/
def integer? (cs : List Char) : Option Int :=
  let natural (base : Nat) (ds : Option (List Char)) : Option Int :=
    (ds.map (valueIn base)).bind fun n => if n < Nat.pow 2 128 then some (Int.ofNat n) else none
  match cs with
  | '0' :: 'x' :: ds => natural 16 (digits? isHex ds)
  | '0' :: 'o' :: ds => natural 8 (digits? isOctal ds)
  | '0' :: 'b' :: ds => natural 2 (digits? isBinary ds)
  | _ =>
    let (negative, ds) := signed cs
    if negative then
      ((decimal? ds).map (valueIn 10)).bind fun n =>
        if n ≤ Nat.pow 2 127 then some (-Int.ofNat n) else none
    else natural 10 (decimal? ds)

/-- Whether a number with these digits, to be multiplied by a power of ten, is beyond the
greatest float. -/
def overflows (ds : List Char) (exponent : Int) : Bool :=
  let ds := ds.dropWhile (· == '0')
  let size := Int.ofNat ds.length + exponent
  if ds.isEmpty || size < 300 then false
  else if 310 < size then true
  else
    let n := valueIn 10 ds
    let limit := Nat.pow 2 1024 - Nat.pow 2 970
    if 0 ≤ exponent then limit ≤ n * Nat.pow 10 exponent.toNat
    else limit * Nat.pow 10 exponent.natAbs ≤ n

/-- The exponent of a float, without the letter. -/
def exponent? (cs : List Char) : Option Int :=
  let (negative, ds) := signed cs
  (digits? Char.isDigit ds).map fun ds =>
    let n := Int.ofNat (valueIn 10 ds)
    if negative then -n else n

/-- Whether a text is a float. It has a fraction or an exponent. -/
def isFloat (cs : List Char) : Bool :=
  let (_, unsigned) := signed cs
  if unsigned == ['i', 'n', 'f'] || unsigned == ['n', 'a', 'n'] then true
  else
    let isMark (c : Char) := c == 'e' || c == 'E'
    let mantissa := unsigned.takeWhile (!isMark ·)
    let power := unsigned.dropWhile (!isMark ·)
    let whole := mantissa.takeWhile (· != '.')
    let point := mantissa.dropWhile (· != '.')
    let fraction := match point with
      | [] => some []
      | _ :: ds => digits? Char.isDigit ds
    let exponent := match power with
      | [] => some 0
      | _ :: ds => exponent? ds
    if point.isEmpty && power.isEmpty then false
    else
      match decimal? whole, fraction, exponent with
      | some ds, some fs, some e => !overflows (ds ++ fs) (e - Int.ofNat fs.length)
      | _, _, _ => false

/-! ## Dates -/

/-- The number that `count` digits stand for, and what follows them. -/
def fixed? (count : Nat) (cs : List Char) : Option (Nat × List Char) :=
  let ds := cs.take count
  if ds.length = count ∧ ds.all Char.isDigit then some (valueIn 10 ds, cs.drop count) else none

def daysIn (year month : Nat) : Nat :=
  if month = 2 then
    if year % 4 = 0 ∧ (year % 100 ≠ 0 ∨ year % 400 = 0) then 29 else 28
  else if month = 4 ∨ month = 6 ∨ month = 9 ∨ month = 11 then 30
  else 31

/-- What follows a date. -/
def afterDate? (cs : List Char) : Option (List Char) :=
  match fixed? 4 cs with
  | some (year, '-' :: cs) =>
    match fixed? 2 cs with
    | some (month, '-' :: cs) =>
      match fixed? 2 cs with
      | some (day, cs) =>
        if 1 ≤ month ∧ month ≤ 12 ∧ 1 ≤ day ∧ day ≤ daysIn year month then some cs else none
      | none => none
    | _ => none
  | _ => none

/-- What follows a time of the day. Seconds may be left out. -/
def afterTime? (cs : List Char) : Option (List Char) :=
  match fixed? 2 cs with
  | some (hour, ':' :: cs) =>
    match fixed? 2 cs with
    | some (minute, cs) =>
      if 24 < hour ∨ 59 < minute then none
      else
        match cs with
        | ':' :: cs =>
          match fixed? 2 cs with
          | some (second, cs) =>
            if 60 < second then none
            else
              match cs with
              | '.' :: c :: cs => if c.isDigit then some (cs.dropWhile Char.isDigit) else none
              | _ => some cs
          | none => none
        | _ => some cs
    | none => none
  | _ => none

/-- Whether a text is the offset of a time zone, or empty. -/
def isOffset : List Char → Bool
  | [] => true
  | [c] => c == 'Z' || c == 'z'
  | c :: cs =>
    (c == '+' || c == '-') &&
      match fixed? 2 cs with
      | some (hour, ':' :: cs) =>
        match fixed? 2 cs with
        | some (minute, []) => decide (hour ≤ 24 ∧ minute ≤ 59)
        | _ => false
      | _ => false

/-- Whether a text is a time of the day, with the offset of its time zone or without. -/
def isTime (cs : List Char) : Bool :=
  match afterTime? cs with
  | some rest => isOffset rest
  | none => false

/-- Whether a text is a time of the day without an offset. -/
def isLocalTime (cs : List Char) : Bool :=
  afterTime? cs == some []

/-- Whether a text is a date alone. -/
def isDate (cs : List Char) : Bool :=
  afterDate? cs == some []

/-- Whether a text is a date with a time of the day. -/
def isDateTime (cs : List Char) : Bool :=
  match afterDate? cs with
  | some (c :: rest) => (c == 'T' || c == 't') && isTime rest
  | _ => false

/-! ## Words -/

/-- A date or time as a value. -/
def moment (cs : List Char) : Json :=
  .object [("moment", .string (String.ofList cs))]

def ofInt : Int → Json
  | .ofNat n => .nat n
  | n => .number (.other (toString n))

/-- The value a word stands for. -/
def scalar? (cs : List Char) : Option Json :=
  if cs = "true".toList then some (.bool true)
  else if cs = "false".toList then some (.bool false)
  else
    match integer? cs with
    | some n => some (ofInt n)
    | none =>
      if isFloat cs then some (.number (.other (String.ofList cs)))
      else if isDate cs || isDateTime cs || isLocalTime cs then some (moment cs)
      else none

end ComponentScan.Toml
