import ObjectView.Text.Shapeless

/-!
# Values written out for a reader

Numbers are written in digits, highest first, with a fixed or with the least number of them.  Texts
stand between quotes, with escapes for what would not be seen or would end the text.  Records,
wrapped and optional values are written with the names of their types and fields.
-/

namespace ObjectView.Text

/-- The last `width` lower-case digits of a number. -/
def hexDigits (width : Nat) (n : Nat) : String :=
  String.ofList (go width n [])
where
  go : Nat → Nat → List Char → List Char
    | 0, _, digits => digits
    | width + 1, n, digits => go width (n / 16) (Nat.digitChar (n % 16) :: digits)

/-- As many digits as the number has, one for zero. -/
def shortHex (n : Nat) : String :=
  String.ofList (Nat.toDigits 16 n)

/-- Two digits a byte. -/
def hexBytes (bytes : List UInt8) : String :=
  String.join (bytes.map fun b => hexDigits 2 b.toNat)

/-- A number in decimal digits, with zeros in front of them up to a width. -/
def decimal (width n : Nat) : String :=
  let digits := Nat.toDigits 10 n
  String.ofList (List.replicate (width - digits.length) '0' ++ digits)

/-- A character inside quotes. -/
def escaped (c : Char) : String :=
  if c = '"' then "\\\""
  else if c = '\\' then "\\\\"
  else if c = '\n' then "\\n"
  else if c = '\r' then "\\r"
  else if c = '\t' then "\\t"
  else if c = '\x00' then "\\0"
  else if isShapeless c then "\\u\x7b" ++ shortHex c.toNat ++ "\x7d"
  else String.ofList [c]

def quoted (s : String) : String :=
  "\"" ++ String.join (s.toList.map escaped) ++ "\""

/-- A value inside the name of its type. -/
def wrapped (name value : String) : String :=
  name ++ "(" ++ value ++ ")"

def optional : Option String → String
  | some value => wrapped "Some" value
  | none => "None"

def fields (items : List (String × String)) : String :=
  ", ".intercalate (items.map fun (name, value) => name ++ ": " ++ value)

/-- A record with all its fields. -/
def record (name : String) (items : List (String × String)) : String :=
  name ++ " \x7b " ++ fields items ++ " \x7d"

/-- A record of which only some fields are shown. -/
def openRecord (name : String) (items : List (String × String)) : String :=
  name ++ " \x7b " ++ fields items ++ ", .. \x7d"

end ObjectView.Text
