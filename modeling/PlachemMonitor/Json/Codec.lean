import PlachemMonitor.Json.Value

/-!
# `json.dumps` and `json.loads`

`dumps ascii v` is `json.dumps(v, ensure_ascii=ascii, sort_keys=True, separators=(",", ":"))`, and
`loads` is `json.loads` on a text. Texts are lists of characters. `loads` follows the C scanner of
the standard library:

* `scanString`: a string after its opening quote, with the escapes and the surrogate pairs.
  A `Char` is a Unicode scalar value, so the escape of a lone surrogate is refused here.
* `scanNumber`: a number is the longest run of number characters. (The scanner can cut a token
  earlier, as in `1-2`; what is left of the run then makes `loads` fail.)
* `scanOnce`, `scanElems`, `scanMembers`: a value, and the rest of a nonempty array or object after
  its opening bracket. They count down a fuel; `loads` gives them two units for each character,
  and each pair of calls consumes a character.
-/

namespace Plachem

namespace Json

/-! ## Writing -/

/-- One digit of `'{0:04x}'`. -/
def hexDigit (n : Nat) : Char :=
  if n < 10 then Char.ofNat (48 + n) else Char.ofNat (87 + n)

/-- `'\\u{0:04x}'.format(n)` -/
def escapeUnit (n : Nat) : List Char :=
  ['\\', 'u', hexDigit (n / 4096), hexDigit (n / 256 % 16), hexDigit (n / 16 % 16),
    hexDigit (n % 16)]

/-- A character inside a string: `ESCAPE` when `ascii` is false, else `ESCAPE_ASCII`. -/
def escapeChar (ascii : Bool) (c : Char) : List Char :=
  if c = '"' then ['\\', '"']
  else if c = '\\' then ['\\', '\\']
  else if c = '\n' then ['\\', 'n']
  else if c = '\r' then ['\\', 'r']
  else if c = '\t' then ['\\', 't']
  else if c.toNat = 8 then ['\\', 'b']
  else if c.toNat = 12 then ['\\', 'f']
  else if c.toNat < 32 then escapeUnit c.toNat
  else if ascii && decide (126 < c.toNat) then
    if c.toNat < 0x10000 then escapeUnit c.toNat
    else
      escapeUnit (0xd800 + (c.toNat - 0x10000) / 1024) ++
        escapeUnit (0xdc00 + (c.toNat - 0x10000) % 1024)
  else [c]

def encodeString (ascii : Bool) (s : String) : List Char :=
  '"' :: s.toList.flatMap (escapeChar ascii) ++ ['"']

/-- `int.__repr__` -/
def intText (n : Int) : List Char :=
  if n < 0 then '-' :: Nat.toDigits 10 n.natAbs else Nat.toDigits 10 n.natAbs

mutual

/-- The text of a value, its members in their own order. -/
def encode (ascii : Bool) : Json → List Char
  | .null => "null".toList
  | .bool true => "true".toList
  | .bool false => "false".toList
  | .int n => intText n
  | .float t => t.text
  | .str s => encodeString ascii s
  | .arr xs => '[' :: encodeElems ascii xs ++ [']']
  | .obj ms => '{' :: encodeMembers ascii ms ++ ['}']
  termination_by structural v => v

def encodeElems (ascii : Bool) : List Json → List Char
  | [] => []
  | [x] => encode ascii x
  | x :: xs => encode ascii x ++ ',' :: encodeElems ascii xs
  termination_by structural xs => xs

def encodeMembers (ascii : Bool) : List (String × Json) → List Char
  | [] => []
  | [(k, v)] => encodeString ascii k ++ ':' :: encode ascii v
  | (k, v) :: ms =>
    encodeString ascii k ++ ':' :: encode ascii v ++ ',' :: encodeMembers ascii ms
  termination_by structural ms => ms

end

/-- `json.dumps(v, ensure_ascii=ascii, sort_keys=True, separators=(",", ":"))` -/
def dumps (ascii : Bool) (v : Json) : List Char := v.sortKeys.encode ascii

/-! ## Reading -/

/-- `[ \t\n\r]` -/
def isSpace (c : Char) : Bool := c == ' ' || c == '\t' || c == '\n' || c == '\r'

def skipWs (cs : List Char) : List Char := cs.dropWhile isSpace

/-- What is left of `cs` after the literal `lit`. -/
def stripLit : List Char → List Char → Option (List Char)
  | [], cs => some cs
  | l :: lit, c :: cs => if l = c then stripLit lit cs else none
  | _ :: _, [] => none

def hexVal (c : Char) : Option Nat :=
  if '0' ≤ c ∧ c ≤ '9' then some (c.toNat - 48)
  else if 'a' ≤ c ∧ c ≤ 'f' then some (c.toNat - 87)
  else if 'A' ≤ c ∧ c ≤ 'F' then some (c.toNat - 55)
  else none

def hexUnit (a b c d : Char) : Option Nat := do
  let a ← hexVal a
  let b ← hexVal b
  let c ← hexVal c
  let d ← hexVal d
  some (4096 * a + 256 * b + 16 * c + d)

/-- The character of `\e`, `e ≠ 'u'`. -/
def unescape (e : Char) : Option Char :=
  if e = '"' then some '"'
  else if e = '\\' then some '\\'
  else if e = '/' then some '/'
  else if e = 'b' then some (Char.ofNat 8)
  else if e = 'f' then some (Char.ofNat 12)
  else if e = 'n' then some '\n'
  else if e = 'r' then some '\r'
  else if e = 't' then some '\t'
  else none

/-- The characters of a string up to its closing quote, and what follows it. -/
def scanString : List Char → Option (List Char × List Char)
  | [] => none
  | c :: cs =>
    if c = '"' then some ([], cs)
    else if c = '\\' then
      match cs with
      | [] => none
      | e :: cs =>
        if e = 'u' then
          match cs with
          | a :: b :: c :: d :: cs =>
            match hexUnit a b c d with
            | none => none
            | some u =>
              if 0xd800 ≤ u ∧ u ≤ 0xdbff then
                match cs with
                | '\\' :: 'u' :: a :: b :: c :: d :: cs =>
                  match hexUnit a b c d with
                  | none => none
                  | some l =>
                    if 0xdc00 ≤ l ∧ l ≤ 0xdfff then
                      (scanString cs).map fun (s, r) =>
                        (Char.ofNat (0x10000 + 1024 * (u - 0xd800) + (l - 0xdc00)) :: s, r)
                    else none
                | _ => none
              else if 0xdc00 ≤ u ∧ u ≤ 0xdfff then none
              else (scanString cs).map fun (s, r) => (Char.ofNat u :: s, r)
          | _ => none
        else
          match unescape e with
          | none => none
          | some x => (scanString cs).map fun (s, r) => (x :: s, r)
    else if c.toNat < 32 then none
    else (scanString cs).map fun (s, r) => (c :: s, r)

def readInt : List Char → Int
  | '-' :: ds => -Int.ofNat (Nat.ofDigitChars 10 ds 0)
  | ds => Int.ofNat (Nat.ofDigitChars 10 ds 0)

/-- A number from its whole text. -/
def readNumber (t : List Char) : Option Json :=
  if isIntText t then some (.int (readInt t))
  else if h : isFractional t = true then some (.float ⟨t, .inl h⟩)
  else none

def scanNumber (cs : List Char) : Option (Json × List Char) :=
  (readNumber (cs.takeWhile numberChar)).map fun v => (v, cs.dropWhile numberChar)

/-- A literal, `NaN` and the infinities included. -/
def scanLit (cs : List Char) : Option (Json × List Char) :=
  ((stripLit "null".toList cs).map fun r => (.null, r)) <|>
  ((stripLit "true".toList cs).map fun r => (.bool true, r)) <|>
  ((stripLit "false".toList cs).map fun r => (.bool false, r)) <|>
  ((stripLit "NaN".toList cs).map fun r => (.float ⟨"NaN".toList, .inr (by decide)⟩, r)) <|>
  ((stripLit "Infinity".toList cs).map fun r =>
    (.float ⟨"Infinity".toList, .inr (by decide)⟩, r)) <|>
  ((stripLit "-Infinity".toList cs).map fun r =>
    (.float ⟨"-Infinity".toList, .inr (by decide)⟩, r))

mutual

def scanOnce : Nat → List Char → Option (Json × List Char)
  | 0, _ => none
  | _ + 1, [] => none
  | n + 1, c :: cs =>
    if c = '"' then (scanString cs).map fun (s, r) => (.str (String.ofList s), r)
    else if c = '{' then
      match skipWs cs with
      | '}' :: r => some (.obj [], r)
      | cs => (scanMembers n cs).map fun (ms, r) => (.obj (dictOf ms), r)
    else if c = '[' then
      match skipWs cs with
      | ']' :: r => some (.arr [], r)
      | cs => (scanElems n cs).map fun (xs, r) => (.arr xs, r)
    else scanLit (c :: cs) <|> scanNumber (c :: cs)
  termination_by structural n => n

def scanElems : Nat → List Char → Option (List Json × List Char)
  | 0, _ => none
  | n + 1, cs =>
    match scanOnce n cs with
    | none => none
    | some (x, r) =>
      match skipWs r with
      | ']' :: r => some ([x], r)
      | ',' :: r => (scanElems n (skipWs r)).map fun (xs, r) => (x :: xs, r)
      | _ => none
  termination_by structural n => n

def scanMembers : Nat → List Char → Option (List (String × Json) × List Char)
  | n + 1, '"' :: cs =>
    match scanString cs with
    | none => none
    | some (k, r) =>
      match skipWs r with
      | ':' :: r =>
        match scanOnce n (skipWs r) with
        | none => none
        | some (v, r) =>
          match skipWs r with
          | '}' :: r => some ([(String.ofList k, v)], r)
          | ',' :: r =>
            (scanMembers n (skipWs r)).map fun (ms, r) => ((String.ofList k, v) :: ms, r)
          | _ => none
      | _ => none
  | _, _ => none
  termination_by structural n => n

end

/-- `json.loads`: `none` is a `JSONDecodeError`. -/
def loads (s : List Char) : Option Json :=
  if s.head? = some '\ufeff' then none
  else
    match scanOnce (2 * s.length + 2) (skipWs s) with
    | some (v, r) => if skipWs r = [] then some v else none
    | none => none


end Json

end Plachem
