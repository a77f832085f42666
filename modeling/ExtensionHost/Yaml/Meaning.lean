/-
**What a plain scalar means where its form decides: nothing, a truth value, a number, or a word.**

* `Meaning.ofText`: the meaning by form.
* `natural?`: the natural numbers, in four notations and up to a limit.
* `isDecimal`: decimal fractions and numbers with an exponent, as long as they are finite as binary
  numbers of 64 bits, and the names of the values that are not.
-/

namespace ExtensionHost.Yaml

/-- What the form of a plain scalar says. -/
inductive Meaning where
  /-- No value. -/
  | null
  /-- A truth value. -/
  | flag (value : Bool)
  /-- A natural number of at most 64 bits. -/
  | natural (value : Nat)
  /-- Any other integer of at most 64 bits. -/
  | negative
  /-- An integer of more than 64 and at most 128 bits. -/
  | large
  /-- Any other number. -/
  | decimal
  /-- Anything else. -/
  | word
deriving DecidableEq, Repr

/-! ### Integers -/

/-- The value of a digit, letters included. -/
def digitValue? (c : Char) : Option Nat :=
  if '0' ≤ c && c ≤ '9' then some (c.toNat - '0'.toNat)
  else if 'a' ≤ c && c ≤ 'z' then some (c.toNat - 'a'.toNat + 10)
  else if 'A' ≤ c && c ≤ 'Z' then some (c.toNat - 'A'.toNat + 10)
  else none

/-- The number that digits write in a base; there has to be at least one. -/
def numeral? (base : Nat) (digits : List Char) : Option Nat :=
  if digits.isEmpty then none
  else digits.foldlM (fun value digit =>
    match digitValue? digit with
    | some figure => if figure < base then some (value * base + figure) else none
    | none => none) 0

/-- Digits with a zero before them, which write no decimal number. -/
def hasLeadingZero : List Char → Bool
  | '0' :: rest => !rest.isEmpty && rest.all Char.isDigit
  | _ => false

/-- The number that a text without a sign writes: in base 16, 8 or 2 after a mark, or in base 10. -/
def magnitude? (text : List Char) : Option Nat :=
  match text with
  | '0' :: 'x' :: digits => numeral? 16 digits
  | '0' :: 'o' :: digits => numeral? 8 digits
  | '0' :: 'b' :: digits => numeral? 2 digits
  | digits => if hasLeadingZero digits then none else numeral? 10 digits

/-- The natural number that a text writes, with or without a plus sign, up to a limit. -/
def natural? (limit : Nat) (text : List Char) : Option Nat :=
  let body := match text with
    | '+' :: rest => rest
    | rest => rest
  (magnitude? body).filter (· ≤ limit)

/-- The absolute value of the number that a text with a minus sign writes, up to a limit. -/
def negative? (limit : Nat) : List Char → Option Nat
  | '-' :: rest => (magnitude? rest).filter (· ≤ limit)
  | _ => none

/-! ### Decimals -/

/-- A decimal number without sign. -/
structure Decimal where
  /-- The digits as a number, the point ignored. -/
  digits : Nat
  /-- How many digits there are. -/
  length : Nat
  /-- The power of ten by which to multiply. -/
  exponent : Int

/-- The exponent that a text writes, after the letter; nothing at all is zero. -/
def exponent? : List Char → Option Int
  | [] => some 0
  | c :: rest =>
    if c = 'e' || c = 'E' then
      match rest with
      | '-' :: digits => (numeral? 10 digits).map fun value => -(value : Int)
      | '+' :: digits => (numeral? 10 digits).map Int.ofNat
      | digits => (numeral? 10 digits).map Int.ofNat
    else none

/-- The decimal number that a text writes, with a digit before or after the point. -/
def decimal? (text : List Char) : Option Decimal := do
  let whole := text.takeWhile Char.isDigit
  let rest := text.drop whole.length
  let part := match rest with
    | '.' :: after => after.takeWhile Char.isDigit
    | _ => []
  let tail := match rest with
    | '.' :: after => after.drop part.length
    | rest => rest
  let digits ← numeral? 10 (whole ++ part)
  let exponent ← exponent? tail
  return { digits, length := whole.length + part.length, exponent := exponent - part.length }

/-- The least number that a binary number of 64 bits does not hold as finite: the greatest it holds
and half a unit more. -/
def overflowBound : Nat :=
  Nat.pow 2 1024 - Nat.pow 2 970

/-- Whether a decimal number is below the bound. Numbers that are far on either side are told by
their length. -/
def Decimal.isFinite (number : Decimal) : Bool :=
  let size := number.exponent + number.length
  if number.digits = 0 || size < 300 then true
  else if 310 + number.length < size then false
  else if 0 ≤ number.exponent then number.digits * Nat.pow 10 number.exponent.toNat < overflowBound
  else number.digits < overflowBound * Nat.pow 10 (-number.exponent).toNat

/-- Infinity, without sign. -/
def infinityNames : List String :=
  [".inf", ".Inf", ".INF"]

/-- The value that is no number. -/
def notNumberNames : List String :=
  [".nan", ".NaN", ".NAN"]

/-- Whether a text writes a decimal number, or a value beyond the finite ones. -/
def isDecimal (text : List Char) : Bool :=
  let written := String.ofList text
  let finite (body : List Char) : Bool := (decimal? body).any Decimal.isFinite
  notNumberNames.contains written ||
    match text with
    | '+' :: body | '-' :: body => infinityNames.contains (String.ofList body) || finite body
    | body => infinityNames.contains written || finite body

/-! ### The meaning of a form -/

/-- The ways to write no value. -/
def nullNames : List String :=
  ["null", "Null", "NULL", "~"]

/-- The truth value that a text writes. -/
def flag? (text : String) : Option Bool :=
  [("true", true), ("True", true), ("TRUE", true), ("false", false), ("False", false),
    ("FALSE", false)].lookup text

/-- The number that a text writes. -/
def number? (text : List Char) : Option Meaning :=
  match natural? (Nat.pow 2 64 - 1) text with
  | some value => some (.natural value)
  | none =>
    if (negative? (Nat.pow 2 63) text).isSome then some .negative
    else if (natural? (Nat.pow 2 128 - 1) text).isSome ||
        (negative? (Nat.pow 2 127) text).isSome then
      some .large
    else
      let unsigned := match text with
        | '+' :: rest | '-' :: rest => rest
        | rest => rest
      if !hasLeadingZero unsigned && isDecimal text then some .decimal else none

/-- The meaning of a plain scalar by its form. -/
def Meaning.ofText (text : String) : Meaning :=
  if text.isEmpty || nullNames.contains text then .null
  else
    match flag? text with
    | some value => .flag value
    | none => (number? text.toList).getD .word

end ExtensionHost.Yaml
