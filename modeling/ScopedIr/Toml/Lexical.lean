import ScopedIr.Toml.Tree

/-!
# TOML lexical pieces

Scanners for the parts of a TOML line that hold no nested values: whitespace, comments and
line ends, the four kinds of string, keys, integers, floats and dates. Each scanner takes
the remaining characters and answers what it read and what is left, or `none` when the
text does not fit. A failure is never retried by another reading of the same text unless
the grammar allows one, so `none` means the document is malformed.

Loops that do not shrink their input structurally take a fuel argument; the readers in
`Toml.Parse` give each one more fuel than the input has characters, and every step
consumes one.
-/

namespace ScopedIr.Toml

/-- A scanner: what it read and the characters left, or `none`. -/
abbrev Scan (α : Type) := List Char → Option (α × List Char)

/-- Space or tab, the only blanks inside a TOML line. -/
def isWsChar (c : Char) : Bool := c = ' ' || c = '\t'

/-- Characters a bare key may use: ASCII letters, digits, `-` and `_`. -/
def isBareKeyChar (c : Char) : Bool := c.isAlphanum || c = '-' || c = '_'

/-- Characters a comment may hold: tab, printable ASCII and everything past ASCII. -/
def isCommentChar (c : Char) : Bool := c = '\t' || (' ' ≤ c && c ≤ '~') || 0x80 ≤ c.toNat

/-- Characters a basic string holds as they are: no quote, backslash or control character. -/
def isBasicChar (c : Char) : Bool :=
  c = ' ' || c = '\t' || c = '!' || ('#' ≤ c && c ≤ '[') || (']' ≤ c && c ≤ '~') ||
    0x80 ≤ c.toNat

/-- Characters a literal string may hold: no apostrophe or control character. -/
def isLiteralChar (c : Char) : Bool :=
  c = '\t' || (' ' ≤ c && c ≤ '&') || ('(' ≤ c && c ≤ '~') || 0x80 ≤ c.toNat

/-- Drops leading spaces and tabs. -/
def skipWs : List Char → List Char
  | c :: r => if isWsChar c then skipWs r else c :: r
  | [] => []

/-- Drops a line feed or a carriage return and line feed. -/
def newline? : List Char → Option (List Char)
  | '\n' :: r => some r
  | '\r' :: '\n' :: r => some r
  | _ => none

/-- Drops a comment, if one starts here, up to the end of its line. -/
def skipComment : List Char → List Char
  | '#' :: r => r.dropWhile isCommentChar
  | cs => cs

/-- The end of a line: blanks, an optional comment, then a newline or the end of input. -/
def lineEnd? (cs : List Char) : Option (List Char) :=
  match skipComment (skipWs cs) with
  | [] => some []
  | r => newline? r

/-- Drops blanks, newlines and comments that end in a newline, as between array items;
`inComment` says a comment is open. -/
def skipWsCommentNl (inComment : Bool) : List Char → List Char
  | [] => []
  | c :: r =>
    if c = '\n' then skipWsCommentNl false r
    else if c = '\r' then
      match r with
      | '\n' :: r' => skipWsCommentNl false r'
      | _ => c :: r
    else if inComment then
      if isCommentChar c then skipWsCommentNl true r else c :: r
    else if isWsChar c then skipWsCommentNl false r
    else if c = '#' then skipWsCommentNl true r
    else c :: r

/-- Drops blanks and newlines, as after a line-ending backslash. -/
def skipWsNl : List Char → List Char
  | [] => []
  | c :: r =>
    if isWsChar c || c = '\n' then skipWsNl r
    else if c = '\r' then
      match r with
      | '\n' :: r' => skipWsNl r'
      | _ => c :: r
    else c :: r

/-! ## Strings -/

/-- The value of a hexadecimal digit. -/
def hexValue? (c : Char) : Option Nat :=
  if '0' ≤ c && c ≤ '9' then some (c.toNat - '0'.toNat)
  else if 'a' ≤ c && c ≤ 'f' then some (c.toNat - 'a'.toNat + 10)
  else if 'A' ≤ c && c ≤ 'F' then some (c.toNat - 'A'.toNat + 10)
  else none

/-- The number written by exactly these hexadecimal digits. -/
def hexNumber? (ds : List Char) : Option Nat :=
  ds.foldlM (fun acc c => (fun d => 16 * acc + d) <$> hexValue? c) 0

/-- The character named by exactly `n` hexadecimal digits at the front, when they name a
Unicode scalar value. -/
def scalarEscape? (n : Nat) (cs : List Char) : Option (Char × List Char) := do
  let ds := cs.take n
  if ds.length ≠ n then none
  let code ← hexNumber? ds
  if h : code.isValidChar then some (Char.ofNatAux code h, cs.drop n) else none

/-- Reads the escape after a backslash: the character it stands for and what follows. -/
def escape? : Scan Char
  | 'b' :: r => some ('\x08', r)
  | 't' :: r => some ('\t', r)
  | 'n' :: r => some ('\n', r)
  | 'f' :: r => some ('\x0c', r)
  | 'r' :: r => some ('\r', r)
  | '"' :: r => some ('"', r)
  | '\\' :: r => some ('\\', r)
  | 'u' :: r => scalarEscape? 4 r
  | 'U' :: r => scalarEscape? 8 r
  | _ => none

/-- The body of a basic string after its opening quote, up to and past the closing quote;
`acc` holds the characters read so far, last first. -/
def basicBody : Nat → List Char → Scan String
  | 0, _, _ => none
  | _ + 1, _, [] => none
  | n + 1, acc, c :: r =>
    if c = '"' then some (String.ofList acc.reverse, r)
    else if c = '\\' then
      match escape? r with
      | some (e, r') => basicBody n (e :: acc) r'
      | none => none
    else if isBasicChar c then basicBody n (c :: acc) r
    else none

/-- The body of a literal string after its opening apostrophe, past the closing one. -/
def literalBody (acc : List Char) : Scan String
  | [] => none
  | c :: r =>
    if c = '\'' then some (String.ofList acc.reverse, r)
    else if isLiteralChar c then literalBody (c :: acc) r
    else none

/-- After a backslash in a multi-line basic string: blanks, a newline, then every blank
and newline that follows, all dropped. -/
def escapedNewline? (cs : List Char) : Option (List Char) :=
  (newline? (skipWs cs)).map skipWsNl

/-- The body of a multi-line basic string up to and past its closing `"""`. Up to two
quotes right before the closing three belong to the string. -/
def mlBasicBody : Nat → List Char → Scan String
  | 0, _, _ => none
  | _ + 1, acc, '"' :: '"' :: '"' :: '"' :: '"' :: r =>
    some (String.ofList ('"' :: '"' :: acc).reverse, r)
  | _ + 1, acc, '"' :: '"' :: '"' :: '"' :: r => some (String.ofList ('"' :: acc).reverse, r)
  | _ + 1, acc, '"' :: '"' :: '"' :: r => some (String.ofList acc.reverse, r)
  | n + 1, acc, '\\' :: r =>
    match escapedNewline? r with
    | some r' => mlBasicBody n acc r'
    | none =>
      match escape? r with
      | some (e, r') => mlBasicBody n (e :: acc) r'
      | none => none
  | n + 1, acc, '\r' :: '\n' :: r => mlBasicBody n ('\n' :: acc) r
  | n + 1, acc, '\n' :: r => mlBasicBody n ('\n' :: acc) r
  | n + 1, acc, c :: r =>
    if c = '"' || isBasicChar c then mlBasicBody n (c :: acc) r else none
  | _ + 1, _, [] => none

/-- The body of a multi-line literal string up to and past its closing `'''`. -/
def mlLiteralBody (acc : List Char) : Scan String
  | '\'' :: '\'' :: '\'' :: '\'' :: '\'' :: r =>
    some (String.ofList ('\'' :: '\'' :: acc).reverse, r)
  | '\'' :: '\'' :: '\'' :: '\'' :: r => some (String.ofList ('\'' :: acc).reverse, r)
  | '\'' :: '\'' :: '\'' :: r => some (String.ofList acc.reverse, r)
  | '\r' :: '\n' :: r => mlLiteralBody ('\n' :: acc) r
  | '\n' :: r => mlLiteralBody ('\n' :: acc) r
  | c :: r => if c = '\'' || isLiteralChar c then mlLiteralBody (c :: acc) r else none
  | [] => none

/-- Drops the newline that may follow the opening delimiter of a multi-line string. -/
def dropFirstNewline (cs : List Char) : List Char := (newline? cs).getD cs

/-- A string in any of its four forms, starting at its opening delimiter. -/
def string? (fuel : Nat) : Scan String
  | '"' :: '"' :: '"' :: r => mlBasicBody fuel [] (dropFirstNewline r)
  | '"' :: r => basicBody fuel [] r
  | '\'' :: '\'' :: '\'' :: r => mlLiteralBody [] (dropFirstNewline r)
  | '\'' :: r => literalBody [] r
  | _ => none

/-! ## Keys -/

/-- One key: bare, or a one-line basic or literal string. -/
def simpleKey? (fuel : Nat) : Scan String
  | '"' :: r => basicBody fuel [] r
  | '\'' :: r => literalBody [] r
  | cs =>
    match cs.span isBareKeyChar with
    | ([], _) => none
    | (k, r) => some (String.ofList k, r)

/-- A dotted key with the blanks around each part, most recent part first in `acc`. -/
def dottedKeyRev (fuel : Nat) : Nat → List String → Scan (List String)
  | 0, _, _ => none
  | n + 1, acc, cs => do
    let (k, r) ← simpleKey? fuel (skipWs cs)
    match skipWs r with
    | '.' :: r' => dottedKeyRev fuel n (k :: acc) r'
    | r' => some (k :: acc, r')

/-- A dotted key has fewer parts than this, and values nest fewer levels deep. -/
def depthLimit : Nat := 80

/-- A dotted key with the blanks around each part: its parts but the last, and the last. -/
def key? (fuel : Nat) (cs : List Char) : Option ((List String × String) × List Char) := do
  let (parts, r) ← dottedKeyRev fuel fuel [] cs
  match parts with
  | last :: before =>
    if depthLimit ≤ parts.length then none else some ((before.reverse, last), r)
  | [] => none

/-! ## Numbers -/

/-- Digits accepted by `ok`, each underscore standing between two of them; `acc` holds the
digits read so far, last first. An underscore not followed by a digit is an error. -/
def digitRun (ok : Char → Bool) (acc : List Char) : Scan (List Char)
  | '_' :: c :: r => if ok c then digitRun ok (c :: acc) r else none
  | ['_'] => none
  | c :: r => if ok c then digitRun ok (c :: acc) (r) else some (acc.reverse, c :: r)
  | [] => some (acc.reverse, [])

/-- At least one digit accepted by `ok`, then a `digitRun`. -/
def digits? (ok : Char → Bool) : Scan (List Char)
  | c :: r => if ok c then digitRun ok [c] r else none
  | [] => none

/-- The number written by decimal digits. -/
def decimalValue (ds : List Char) : Nat :=
  ds.foldl (fun acc c => 10 * acc + (c.toNat - '0'.toNat)) 0

/-- The number written by digits in base `b`. -/
def radixValue (b : Nat) (ds : List Char) : Nat :=
  ds.foldl (fun acc c => b * acc + ((hexValue? c).getD 0)) 0

/-- A sign, when one is written. -/
def sign? : List Char → Option Char × List Char
  | '+' :: r => (some '+', r)
  | '-' :: r => (some '-', r)
  | cs => (none, cs)

/-- A decimal integer: an optional sign, then `0` alone or digits without a leading zero. -/
def decInt? (cs : List Char) : Option ((Option Char × List Char) × List Char) :=
  let (s, r) := sign? cs
  match r with
  | '0' :: r' => some ((s, ['0']), r')
  | _ => (digits? Char.isDigit r).map fun (ds, r') => ((s, ds), r')

/-- The largest 64-bit signed integer, `2^63 - 1`. -/
def int64Max : Nat := 9223372036854775807

/-- A TOML integer in decimal, hexadecimal, octal or binary, within 64-bit range. -/
def integer? : Scan Int
  | '0' :: 'x' :: r => radix 16 (fun c => (hexValue? c).isSome) r
  | '0' :: 'o' :: r => radix 8 (fun c => '0' ≤ c && c ≤ '7') r
  | '0' :: 'b' :: r => radix 2 (fun c => c = '0' || c = '1') r
  | cs => do
    let ((s, ds), r) ← decInt? cs
    let v := decimalValue ds
    if s = some '-' then
      if v ≤ int64Max + 1 then some (-(v : Int), r) else none
    else if v ≤ int64Max then some ((v : Int), r) else none
where
  /-- Digits in base `b`, at most `int64Max`. -/
  radix (b : Nat) (ok : Char → Bool) (cs : List Char) : Option (Int × List Char) := do
    let (ds, r) ← digits? ok cs
    let v := radixValue b ds
    if v ≤ int64Max then some ((v : Int), r) else none

/-- Half way between the largest finite double and the next power of two, that is
`2^1024 - 2^970`: a decimal at or above it rounds to infinity. -/
def doubleOverflow : Nat :=
  179769313486231580793728971405303415079934132710037826936173778980444968292764750946649017977587207096330286416692887910946555547851940402630657488671505820681908902000708383676273854845817711531764475730270069855571366959622842914819860834936475292719074168444365510704342711559699508093042880177904174497792

/-- Whether `m × 10^e` rounds to infinity as a double. -/
def overflows (m : Nat) (e : Int) : Bool :=
  if m = 0 then false
  else
    let d : Int := (Nat.toDigits 10 m).length
    if 309 ≤ d - 1 + e then true
    else if d + e ≤ 308 then false
    else if 0 ≤ e then doubleOverflow ≤ m * Nat.pow 10 e.toNat
    else doubleOverflow * Nat.pow 10 (-e).toNat ≤ m

/-- `inf` or `nan` after an optional sign. -/
def specialFloat? (cs : List Char) : Option (String × List Char) :=
  let (s, r) := sign? cs
  let shown := match s with | some c => String.singleton c | none => ""
  match r with
  | 'i' :: 'n' :: 'f' :: r' => some (shown ++ "inf", r')
  | 'n' :: 'a' :: 'n' :: r' => some (shown ++ "nan", r')
  | _ => none

/-- An exponent after `e` or `E`: an optional sign and digits; its value. -/
def exponent? (cs : List Char) : Option (Int × List Char) := do
  let (s, r) := sign? cs
  let (ds, r') ← digits? Char.isDigit r
  let v : Int := decimalValue ds
  some (if s = some '-' then -v else v, r')

/-- A TOML float, kept as its text; a finite float must not round to positive infinity. -/
def float? (cs : List Char) : Option (String × List Char) :=
  match decInt? cs with
  | none => specialFloat? cs
  | some ((s, whole), r) =>
    let fin (frac : List Char) (e : Int) (rest : List Char) : Option (String × List Char) :=
      let m := decimalValue (whole ++ frac)
      if s ≠ some '-' && overflows m (e - frac.length) then none
      else some (String.ofList (cs.take (cs.length - rest.length)), rest)
    match r with
    | '.' :: r' => do
      let (frac, rest2) ← digits? Char.isDigit r'
      match rest2 with
      | c :: rest3 =>
        if c = 'e' || c = 'E' then do
          let (e, rest) ← exponent? rest3
          fin frac e rest
        else fin frac 0 rest2
      | [] => fin frac 0 []
    | c :: r' =>
      if c = 'e' || c = 'E' then do
        let (e, rest) ← exponent? r'
        fin [] e rest
      else none
    | [] => none

/-! ## Dates and times -/

/-- Exactly two decimal digits and their value. -/
def twoDigits? : Scan Nat
  | a :: b :: r => if a.isDigit && b.isDigit then some (decimalValue [a, b], r) else none
  | _ => none

/-- Whether `y` is a leap year of the Gregorian calendar. -/
def isLeapYear (y : Nat) : Bool := y % 4 = 0 && (y % 100 ≠ 0 || y % 400 = 0)

/-- The number of days in month `m` of year `y`. -/
def daysInMonth (y m : Nat) : Nat :=
  if m = 2 then (if isLeapYear y then 29 else 28)
  else if m = 4 || m = 6 || m = 9 || m = 11 then 30 else 31

/-- A full date `YYYY-MM-DD` naming a real day. -/
def date? : List Char → Option (List Char)
  | a :: b :: c :: d :: '-' :: r => do
    if !(a.isDigit && b.isDigit && c.isDigit && d.isDigit) then none
    let y := decimalValue [a, b, c, d]
    let (m, r) ← twoDigits? r
    if !(1 ≤ m && m ≤ 12) then none
    match r with
    | '-' :: r => do
      let (day, r) ← twoDigits? r
      if 1 ≤ day && day ≤ daysInMonth y m then some r else none
    | _ => none
  | _ => none

/-- A time `HH:MM:SS` with optional fractional seconds. -/
def time? (cs : List Char) : Option (List Char) := do
  let (h, r) ← twoDigits? cs
  match r with
  | ':' :: r => do
    let (m, r) ← twoDigits? r
    match r with
    | ':' :: r => do
      let (s, r) ← twoDigits? r
      if !(h ≤ 23 && m ≤ 59 && s ≤ 60) then none
      match r with
      | '.' :: r' => (digits0 r').map Prod.snd
      | _ => some r
    | _ => none
  | _ => none
where
  /-- At least one decimal digit. -/
  digits0 (cs : List Char) : Option (Unit × List Char) :=
    match cs.span Char.isDigit with
    | ([], _) => none
    | (_, r) => some ((), r)

/-- A time offset: `Z`, or a sign then `HH:MM`. -/
def offset? : List Char → Option (List Char)
  | 'Z' :: r | 'z' :: r => some r
  | c :: r =>
    if c = '+' || c = '-' then do
      let (h, r) ← twoDigits? r
      match r with
      | ':' :: r => do
        let (m, r) ← twoDigits? r
        if h ≤ 23 && m ≤ 59 then some r else none
      | _ => none
    else none
  | [] => none

/-- A date with an optional time and offset, or a time alone, kept as its text. -/
def datetime? (cs : List Char) : Option (String × List Char) :=
  let text (r : List Char) := (String.ofList (cs.take (cs.length - r.length)), r)
  match date? cs with
  | some r =>
    match r with
    | d :: r' =>
      if d = 'T' || d = 't' || d = ' ' then
        match time? r' with
        | some r'' => some (text ((offset? r'').getD r''))
        | none => some (text r)
      else some (text r)
    | [] => some (text r)
  | none => (time? cs).map text

end ScopedIr.Toml
