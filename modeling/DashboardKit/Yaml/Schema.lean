import DashboardKit.Text.CodePoint

/-!
# YAML: tags and the forms of untagged scalars

A tag says what a node is.  A scalar without a tag of its own that is written plainly gets the tag
of the first form it has: truth value, floating-point number, integer, merge key, nothing,
timestamp, default key, and else text.

The forms accept one line break at their end.
-/

set_option autoImplicit false

namespace DashboardKit.Yaml

/-- What a node is. -/
inductive Tag where
  | null
  | bool
  | int
  | float
  | binary
  | timestamp
  | orderedMap
  | pairs
  | set
  | text
  | list
  | map
  /-- a key under which the entries of other maps are merged in -/
  | merge
  /-- a key for the value that stands for a whole map -/
  | default
  /-- a tag without a meaning here -/
  | unknown
  deriving DecidableEq, Repr

/-- The common start of the tags that have a meaning. -/
def tagStart : List Char := "tag:yaml.org,2002:".toList

/-- The tag with a given text. -/
def Tag.ofUri (uri : List Char) : Tag :=
  if uri.take tagStart.length != tagStart then .unknown
  else
    match String.ofList (uri.drop tagStart.length) with
    | "null" => .null
    | "bool" => .bool
    | "int" => .int
    | "float" => .float
    | "binary" => .binary
    | "timestamp" => .timestamp
    | "omap" => .orderedMap
    | "pairs" => .pairs
    | "set" => .set
    | "str" => .text
    | "seq" => .list
    | "map" => .map
    | "merge" => .merge
    | "value" => .default
    | _ => .unknown

/-! ## Forms -/

/-- An ASCII digit. -/
def isDigit (c : Char) : Bool := '0' ≤ c && c ≤ '9'

/-- A digit or an underline. -/
def isLooseDigit (c : Char) : Bool := isDigit c || c == '_'

/-- The words for truth values. -/
def truthWords : List String :=
  ["yes", "Yes", "YES", "no", "No", "NO", "true", "True", "TRUE", "false", "False", "FALSE",
    "on", "On", "ON", "off", "Off", "OFF"]

/-- The words for nothing. -/
def nullWords : List String := ["", "~", "null", "Null", "NULL"]

/-- A text without a sign in front. -/
def dropSign : List Char → List Char
  | c :: rest => if c == '-' || c == '+' then rest else c :: rest
  | [] => []

/-- Colons each followed by a number below sixty, at least one of them. -/
def isSexagesimalTail : List Char → Bool
  | [':', a] => isDigit a
  | ':' :: a :: ':' :: rest => isDigit a && isSexagesimalTail (':' :: rest)
  | ':' :: a :: b :: rest =>
    '0' ≤ a && a ≤ '5' && isDigit b && (rest.isEmpty || isSexagesimalTail rest)
  | _ => false

/-- An exponent with a sign, or nothing. -/
def isExponent : List Char → Bool
  | [] => true
  | e :: sign :: digits =>
    (e == 'e' || e == 'E') && (sign == '-' || sign == '+') && !digits.isEmpty
      && digits.all isDigit
  | _ => false

/-- A digit followed by digits and underlines, and what comes after. -/
def afterDigits? : List Char → Option (List Char)
  | c :: rest => if isDigit c then some (rest.dropWhile isLooseDigit) else none
  | [] => none

/-- The form of a floating-point number: a point is required, and an exponent needs a sign. -/
def isFloatForm (cs : List Char) : Bool :=
  let body := dropSign cs
  let decimal :=
    match afterDigits? body with
    | some ('.' :: rest) => isExponent (rest.dropWhile isLooseDigit)
    | some rest =>
      isSexagesimalTail (rest.takeWhile (· != '.'))
        && (match rest.dropWhile (· != '.') with
            | '.' :: rest => rest.all isLooseDigit
            | _ => false)
    | none => false
  let fraction :=
    match cs with
    | '.' :: rest => ((afterDigits? rest).map isExponent).getD false
    | _ => false
  decimal || fraction || [".inf", ".Inf", ".INF"].contains (String.ofList body)
    || [".nan", ".NaN", ".NAN"].contains (String.ofList cs)

/-- The form of an integer: binary, octal, decimal, hexadecimal or in parts of sixty. -/
def isIntForm (cs : List Char) : Bool :=
  match dropSign cs with
  | ['0'] => true
  | '0' :: 'b' :: rest => !rest.isEmpty && rest.all fun c => c == '0' || c == '1' || c == '_'
  | '0' :: 'x' :: rest =>
    !rest.isEmpty && rest.all fun c =>
      isLooseDigit c || ('a' ≤ c && c ≤ 'f') || ('A' ≤ c && c ≤ 'F')
  | '0' :: rest => rest.all fun c => ('0' ≤ c && c ≤ '7') || c == '_'
  | c :: rest =>
    '1' ≤ c && c ≤ '9'
      && (let tail := rest.dropWhile isLooseDigit
          tail.isEmpty || isSexagesimalTail tail)
  | [] => false

/-! ## Timestamps -/

/-- The time of day in a timestamp. -/
structure Clock where
  hour : Nat
  minute : Nat
  second : Nat
  /-- the digits after the point -/
  fraction : List Char
  /-- minutes from universal time -/
  offset : Option Int
  deriving Repr

/-- A timestamp as it is written. -/
structure Stamp where
  year : Nat
  month : Nat
  day : Nat
  clock : Option Clock
  deriving Repr

/-- The number that ASCII digits stand for. -/
def natOf (ds : List Char) : Nat := ds.foldl (fun n d => n * 10 + (d.toNat - 48)) 0

/-- Between `least` and `most` digits from the front. -/
def digits? (least most : Nat) (cs : List Char) : Option (Nat × List Char) :=
  let ds := (cs.take most).takeWhile isDigit
  if least ≤ ds.length then some (natOf ds, cs.drop ds.length) else none

/-- The rest of a text after a given character. -/
def after? (c : Char) : List Char → Option (List Char)
  | d :: rest => if c == d then some rest else none
  | [] => none

/-- The distance from universal time at the end of a timestamp. -/
def zone? (cs : List Char) : Option (Option Int) :=
  match cs.dropWhile (fun c => c == ' ' || c == '\t') with
  | [] => if cs.isEmpty then some none else none
  | ['Z'] => some (some 0)
  | sign :: rest => do
    if sign != '-' && sign != '+' then none
    let (hours, rest) ← digits? 1 2 rest
    let minutes ←
      match rest with
      | [] => some 0
      | _ => do
        let (m, rest) ← digits? 2 2 (← after? ':' rest)
        if rest.isEmpty then some m else none
    let distance : Int := hours * 60 + minutes
    return some (if sign == '-' then -distance else distance)

/-- The time of day after a date. -/
def clock? (cs : List Char) : Option Clock := do
  let (hour, cs) ← digits? 1 2 cs
  let (minute, cs) ← digits? 2 2 (← after? ':' cs)
  let (second, cs) ← digits? 2 2 (← after? ':' cs)
  let (fraction, cs) :=
    match cs with
    | '.' :: rest => (rest.takeWhile isDigit, rest.dropWhile isDigit)
    | rest => ([], rest)
  return ⟨hour, minute, second, fraction, ← zone? cs⟩

/-- The timestamp that a text spells: a date, and perhaps a time of day after the letter T or
blanks. -/
def stamp? (cs : List Char) : Option Stamp := do
  let (year, cs) ← digits? 4 4 cs
  let (month, cs) ← digits? 1 2 (← after? '-' cs)
  let (day, cs) ← digits? 1 2 (← after? '-' cs)
  match cs with
  | [] => return ⟨year, month, day, none⟩
  | c :: rest =>
    if c == 'T' || c == 't' then return ⟨year, month, day, some (← clock? rest)⟩
    else if c == ' ' || c == '\t' then
      let rest := rest.dropWhile fun c => c == ' ' || c == '\t'
      return ⟨year, month, day, some (← clock? rest)⟩
    else none

/-- The form of an untagged timestamp: a bare date needs two digits for month and day. -/
def isStampForm (cs : List Char) : Bool :=
  match stamp? cs with
  | none => false
  | some s => s.clock.isSome || cs.length == 10

/-! ## Resolution -/

/-- A text without one line break at its end. -/
def dropLastBreak (cs : List Char) : List Char :=
  if cs.getLast? == some '\n' then cs.dropLast else cs

/-- The tag that the form of a scalar gives it. -/
def Tag.ofForm (t : Text) : Tag :=
  match Text.chars? t with
  | none => .text
  | some written =>
    let cs := dropLastBreak written
    if truthWords.contains (String.ofList cs) then .bool
    else if isFloatForm cs then .float
    else if isIntForm cs then .int
    else if cs == "<<".toList then .merge
    else if nullWords.contains (String.ofList cs) && !(cs.isEmpty && !written.isEmpty) then .null
    else if isStampForm cs then .timestamp
    else if cs == ['='] then .default
    else if cs == ['!'] || cs == ['&'] || cs == ['*'] then .unknown
    else .text

end DashboardKit.Yaml
