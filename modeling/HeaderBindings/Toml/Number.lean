/-!
The numbers and times of TOML. Only integers are of use here, so the others are recognised, and
checked to be well-formed, without keeping their value.
-/

namespace HeaderBindings.Toml

/-- The longest run of digits in a base, in which single underscores separate digits; none when it
does not start with a digit or an underscore has no digit behind it. -/
def digits? (isDigit : Char → Bool) (text : List Char) : Option (List Char × List Char) :=
  let run := text.takeWhile fun c => isDigit c || c == '_'
  let wellFormed := run.head?.any isDigit && run.getLast?.any isDigit
    && !(run.zip (run.drop 1)).any fun pair => pair.1 == '_' && pair.2 == '_'
  if wellFormed then some (run.filter (· != '_'), text.drop run.length) else none

def digitValue (c : Char) : Nat :=
  if c.isDigit then c.toNat - 0x30 else if c.isLower then c.toNat - 0x57 else c.toNat - 0x37

def numberOf (base : Nat) (digits : List Char) : Nat :=
  digits.foldl (fun value c => value * base + digitValue c) 0

/-- The digits of a decimal number; a zero in front of other digits ends the number. -/
def decimalDigits? : List Char → Option (List Char × List Char)
  | '0' :: rest => some (['0'], rest)
  | text => digits? Char.isDigit text

/-- The sign in front of a number: whether it is negative, and the rest. -/
def sign : List Char → Bool × List Char
  | '-' :: rest => (true, rest)
  | '+' :: rest => (false, rest)
  | text => (false, text)

def inRange (value : Int) : Bool := -0x8000000000000000 ≤ value && value ≤ 0x7FFFFFFFFFFFFFFF

/-- An integer in a base other than ten; the text starts behind the letter of the base. -/
def basedInteger? (base : Nat) (isDigit : Char → Bool) (text : List Char) :
    Option (Int × List Char) :=
  (digits? isDigit text).bind fun (digits, rest) =>
    let value : Int := numberOf base digits
    if inRange value then some (value, rest) else none

def integer? (text : List Char) : Option (Int × List Char) :=
  match text with
  | '0' :: 'x' :: rest =>
      basedInteger? 16 (fun c => c.isDigit || ('a' ≤ c && c ≤ 'f') || ('A' ≤ c && c ≤ 'F')) rest
  | '0' :: 'o' :: rest => basedInteger? 8 (fun c => '0' ≤ c && c ≤ '7') rest
  | '0' :: 'b' :: rest => basedInteger? 2 (fun c => c == '0' || c == '1') rest
  | _ =>
      let (negative, start) := sign text
      (decimalDigits? start).bind fun (digits, rest) =>
        let size : Int := numberOf 10 digits
        let value := if negative then -size else size
        if inRange value then some (value, rest) else none

/-- The text behind an exponent. -/
def exponent? : List Char → Option (List Char)
  | c :: rest =>
      if c = 'e' || c = 'E' then (digits? Char.isDigit (sign rest).2).map (·.2) else none
  | [] => none

/-- The text behind a number with a fraction or an exponent, or a special one. -/
def float? (text : List Char) : Option (List Char) :=
  match (sign text).2 with
  | 'i' :: 'n' :: 'f' :: rest => some rest
  | 'n' :: 'a' :: 'n' :: rest => some rest
  | start =>
      (decimalDigits? start).bind fun (_, rest) =>
        match rest with
        | '.' :: fraction =>
            (digits? Char.isDigit fraction).map fun (_, after) => (exponent? after).getD after
        | _ => exponent? rest

/-! ### Times -/

/-- The number that exactly `count` digits write. -/
def fixedNumber? (count : Nat) (text : List Char) : Option (Nat × List Char) :=
  let digits := text.take count
  if digits.length = count && digits.all Char.isDigit then
    some (numberOf 10 digits, text.drop count)
  else none

/-- A number of two digits between two bounds. -/
def pair? (least most : Nat) (text : List Char) : Option (Nat × List Char) :=
  (fixedNumber? 2 text).bind fun (value, rest) =>
    if least ≤ value && value ≤ most then some (value, rest) else none

/-- The text behind a character that it has to start with. -/
def behind? (expected : Char) : List Char → Option (List Char)
  | c :: rest => if c = expected then some rest else none
  | [] => none

def daysInMonth (year month : Nat) : Nat :=
  if month = 2 then
    if year % 4 = 0 && (year % 100 != 0 || year % 400 = 0) then 29 else 28
  else if month = 4 || month = 6 || month = 9 || month = 11 then 30
  else 31

/-- The text behind a date. -/
def date? (text : List Char) : Option (List Char) := do
  let (year, rest) ← fixedNumber? 4 text
  let (month, rest) ← pair? 1 12 (← behind? '-' rest)
  let (_, rest) ← pair? 1 (daysInMonth year month) (← behind? '-' rest)
  pure rest

/-- The text behind the fraction of a second, if there is one. -/
def secondFraction? : List Char → Option (List Char)
  | '.' :: rest =>
      let digits := rest.takeWhile Char.isDigit
      if digits.isEmpty then none else some (rest.drop digits.length)
  | text => some text

/-- The text behind a time of day. -/
def time? (text : List Char) : Option (List Char) := do
  let (_, rest) ← pair? 0 23 text
  let (_, rest) ← pair? 0 59 (← behind? ':' rest)
  let (_, rest) ← pair? 0 60 (← behind? ':' rest)
  secondFraction? rest

/-- The text behind the offset of a time, if there is one. -/
def skipOffset (text : List Char) : List Char :=
  let offset? : Option (List Char) := match text with
    | 'Z' :: rest => some rest
    | 'z' :: rest => some rest
    | c :: rest =>
        if c = '+' || c = '-' then do
          let (_, rest) ← pair? 0 23 rest
          let (_, rest) ← pair? 0 59 (← behind? ':' rest)
          pure rest
        else none
    | [] => none
  offset?.getD text

/-- The text behind a date, a time or both. -/
def dateTime? (text : List Char) : Option (List Char) :=
  match date? text with
  | some (c :: rest) =>
      if c = 'T' || c = 't' || c = ' ' then
        match time? rest with
        | some after => some (skipOffset after)
        | none => some (c :: rest)
      else some (c :: rest)
  | some [] => some []
  | none => time? text

end HeaderBindings.Toml
