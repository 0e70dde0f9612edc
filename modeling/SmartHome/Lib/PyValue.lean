import Mathlib.Data.Rat.Floor
import SmartHome.Lib.Binary64

/-! # Python values

The values that `json.loads` can return, with the operations a program without static types applies to
them: truth, dictionary look-up, `==` and `<`, and the conversions `float(..)` and `int(..)`. A float is the exact
value of its double; the sign of a zero is left out. -/

namespace SmartHome

/-- Exceptions of the language itself. -/
inductive BuiltinError where
  | typeError
  | valueError
  | overflowError
  | attributeError
  deriving DecidableEq, Repr

/-- A value of `float`: a rational number of the format, an infinity or no number. -/
inductive PyFloat where
  | finite (q : ℚ)
  | inf (negative : Bool)
  | nan
  deriving DecidableEq, Repr

/-- A value of a JSON type, or some other object (a `datetime`, say). -/
inductive PyValue where
  | none
  | bool (b : Bool)
  | int (z : Int)
  | float (x : PyFloat)
  | str (s : String)
  | list (xs : List PyValue)
  | dict (items : List (String × PyValue))
  | object

/-- A JSON object. -/
abbrev PyDict := List (String × PyValue)

namespace PyFloat

/-- `x < y`. -/
def lt : PyFloat → PyFloat → Bool
  | finite p, finite q => p < q
  | finite _, inf negative => !negative
  | inf negative, finite _ => negative
  | inf a, inf b => a && !b
  | nan, _ => false
  | _, nan => false

/-- `==` on floats: `nan` differs from every float, itself included. -/
def eq : PyFloat → PyFloat → Bool
  | finite p, finite q => p == q
  | inf a, inf b => a == b
  | _, _ => false

/-- The smallest magnitude that rounds to infinity. -/
def overflowBound : ℚ := 2 ^ 1024 - 2 ^ 970

theorem overflowBound_large : (64 : ℚ) ≤ overflowBound := by
  have hsplit : (2 : ℚ) ^ 1024 = 2 ^ 54 * 2 ^ 970 := by rw [← pow_add]
  have hone : (1 : ℚ) ≤ 2 ^ 970 := one_le_pow₀ (by norm_num)
  rw [overflowBound, hsplit]
  generalize (2 : ℚ) ^ 970 = x at hone
  norm_num
  linarith

/-- The double nearest to a number, which is infinite from the bound on. -/
def ofRat (q : ℚ) : PyFloat :=
  if q ≥ overflowBound then inf false else if q ≤ -overflowBound then inf true else finite (Binary64.nearest q)

/-- `x * 2`: no digit is lost. -/
def twice : PyFloat → PyFloat
  | finite q => if q * 2 ≥ overflowBound then inf false else if q * 2 ≤ -overflowBound then inf true else finite (q * 2)
  | x => x

/-- `x / k`, for a positive `k`. -/
def div (k : ℕ) : PyFloat → PyFloat
  | finite q => ofRat (q / k)
  | x => x

/-- The product of a double with two is rounded to itself. -/
theorem twice_eq_ofRat {q : ℚ} (h : Binary64.nearest q = q) : (finite q).twice = ofRat (q * 2) := by
  rw [twice, ofRat, Binary64.nearest_mul_two h]

/-- The digits of the shortest decimal numeral that is read back as `q`, the nearest of these, with the place of the
    point from the first digit on. -/
def shortestDigits (q : ℚ) : List Char × Int :=
  let point := Int.log 10 q + 1
  let found := (List.range 17).findSome? fun n =>
    let unit : ℚ := 10 ^ (point - (n + 1))
    [Binary64.roundEven (q / unit), ⌊q / unit⌋, ⌈q / unit⌉].find? fun digits : ℤ => Binary64.nearest (digits * unit) = q
  (Nat.toDigits 10 (found.getD 0).toNat, point)

/-- The numeral with these digits; large and small numbers have an exponent. -/
def numeral (digits : List Char) (point : Int) : List Char :=
  if -4 < point ∧ point ≤ 16 then
    if point ≤ 0 then '0' :: '.' :: List.replicate (-point).toNat '0' ++ digits
    else
      let whole := (digits ++ List.replicate (point.toNat - digits.length) '0')
      whole.take point.toNat ++ '.' :: if point.toNat < digits.length then digits.drop point.toNat else ['0']
  else
    let exponent := Nat.toDigits 10 (point - 1).natAbs
    digits.take 1 ++ (if 1 < digits.length then '.' :: digits.drop 1 else []) ++
      'e' :: (if point < 1 then '-' else '+') :: (List.replicate (2 - exponent.length) '0' ++ exponent)

/-- `str(x)`; a zero has lost its sign. -/
def text : PyFloat → String
  | finite q =>
    if q = 0 then "0.0"
    else
      let (digits, point) := shortestDigits |q|
      String.ofList ((if q < 0 then ['-'] else []) ++ numeral digits point)
  | nan => "nan"
  | inf negative => if negative then "-inf" else "inf"

example : (finite 7.5).text = "7.5" := by decide +kernel

end PyFloat

/-! ### Numerals -/

namespace Numeral

/-- The space separators of Unicode, and the line and paragraph separators. -/
def isSeparator (c : Char) : Bool :=
  [32, 160, 5760, 8232, 8233, 8239, 8287, 12288].contains c.toNat || (8192 ≤ c.toNat && c.toNat ≤ 8202)

/-- `c.isspace()`, which `str.strip()` cuts off. -/
def isSpace (c : Char) : Bool := isSeparator c || [9, 10, 11, 12, 13, 28, 29, 30, 31, 133].contains c.toNat

/-- `Py_ISSPACE`, which the conversions of an ASCII text skip. -/
def isAsciiSpace (c : Char) : Bool := [9, 10, 11, 12, 13, 32].contains c.toNat

/-- The characters without the spaces around them. -/
def strip (space : Char → Bool) (cs : List Char) : List Char := ((cs.dropWhile space).reverse.dropWhile space).reverse

/-- The value of an ASCII digit. -/
def digit (c : Char) : Nat := c.toNat - '0'.toNat

/-- The digits zero beyond ASCII in Unicode 15.0; the digits one to nine of the script follow each. -/
def zeros : List Nat :=
  [0x660, 0x6F0, 0x7C0, 0x966, 0x9E6, 0xA66, 0xAE6, 0xB66, 0xBE6, 0xC66, 0xCE6, 0xD66, 0xDE6, 0xE50, 0xED0, 0xF20,
    0x1040, 0x1090, 0x17E0, 0x1810, 0x1946, 0x19D0, 0x1A80, 0x1A90, 0x1B50, 0x1BB0, 0x1C40, 0x1C50, 0xA620, 0xA8D0,
    0xA900, 0xA9D0, 0xA9F0, 0xAA50, 0xABF0, 0xFF10, 0x104A0, 0x10D30, 0x11066, 0x110F0, 0x11136, 0x111D0, 0x112F0,
    0x11450, 0x114D0, 0x11650, 0x116C0, 0x11730, 0x118E0, 0x11950, 0x11C50, 0x11D50, 0x11DA0, 0x11F50, 0x16A60,
    0x16AC0, 0x16B50, 0x1D7CE, 0x1D7D8, 0x1D7E2, 0x1D7EC, 0x1D7F6, 0x1E140, 0x1E2F0, 0x1E4F0, 0x1E950, 0x1FBF0]

/-- A decimal digit as the ASCII digit, a space as a blank, and any other character beyond ASCII as a mark that no
    numeral contains. -/
def asciiOf (c : Char) : Char :=
  if c.toNat < 127 then c
  else if isSpace c then ' '
  else match zeros.find? fun first => first ≤ c.toNat && c.toNat ≤ first + 9 with
    | some first => Char.ofNat ('0'.toNat + (c.toNat - first))
    | none => '?'

/-- `_PyUnicode_TransformDecimalAndSpaceToASCII` and the strip after it: what `float(..)` and `int(..)` read. -/
def prepare (cs : List Char) : List Char :=
  strip isAsciiSpace (if cs.all fun c => c.toNat < 128 then cs else cs.map asciiOf)

/-- Reads decimal digits, with single underscores between them: their value, their number and the rest. -/
def scanDigits (value count : Nat) : List Char → Nat × Nat × List Char
  | [] => (value, count, [])
  | '_' :: c :: cs =>
    if 0 < count && c.isDigit then scanDigits (10 * value + digit c) (count + 1) cs else (value, count, '_' :: c :: cs)
  | c :: cs => if c.isDigit then scanDigits (10 * value + digit c) (count + 1) cs else (value, count, c :: cs)

/-- The sign before a number. -/
def scanSign : List Char → Bool × List Char
  | '-' :: cs => (true, cs)
  | '+' :: cs => (false, cs)
  | cs => (false, cs)

/-- An exponent part, zero when there is none. -/
def scanExponent : List Char → Option Int
  | [] => some 0
  | c :: cs =>
    if c = 'e' || c = 'E' then
      let (negative, cs) := scanSign cs
      match scanDigits 0 0 cs with
      | (value, count, []) => if count = 0 then none else some (if negative then -(value : Int) else value)
      | _ => none
    else none

/-- Digits with a point and an exponent. -/
def scanDecimal (cs : List Char) : Option ℚ := do
  let (whole, wholeCount, rest) := scanDigits 0 0 cs
  let (fraction, fractionCount, rest) := match rest with
    | '.' :: rest => scanDigits 0 0 rest
    | rest => (0, 0, rest)
  if wholeCount + fractionCount = 0 then none
  let exponent ← scanExponent rest
  some (((whole : ℚ) * 10 ^ fractionCount + fraction) * 10 ^ (exponent - fractionCount))

/-- `text.split(sep)`. -/
def split (sep : Char) : List Char → List (List Char)
  | [] => [[]]
  | c :: cs =>
    if c = sep then [] :: split sep cs
    else match split sep cs with
      | [] => [[c]]
      | word :: words => (c :: word) :: words

/-- The exact number that a decimal numeral stands for. -/
def decimal (s : String) : Option ℚ :=
  let (negative, cs) := scanSign (prepare s.toList)
  (scanDecimal cs).map fun q => if negative then -q else q

/-- `float(text)`. -/
def parseFloat (s : String) : Option PyFloat :=
  let (negative, cs) := scanSign (prepare s.toList)
  let word := cs.map Char.toLower
  if word = "inf".toList || word = "infinity".toList then some (.inf negative)
  else if word = "nan".toList then some .nan
  else (decimal s).map PyFloat.ofRat

/-- Texts of more than 4300 digits are refused. -/
def parseInt (cs : List Char) : Option Int :=
  let (negative, cs) := scanSign (prepare cs)
  match scanDigits 0 0 cs with
  | (value, count, []) =>
    if count = 0 || 4300 < count then none else some (if negative then -(value : Int) else value)
  | _ => none

end Numeral

namespace PyValue

/-- `bool(value)`. -/
def truthy : PyValue → Bool
  | none => false
  | bool b => b
  | int z => z ≠ 0
  | float x => x ≠ .finite 0
  | str s => s ≠ ""
  | list xs => !xs.isEmpty
  | dict items => !items.isEmpty
  | object => true

/-- `value is None`. -/
def isNone : PyValue → Bool
  | none => true
  | _ => false

/-- The number that a number or a `bool` is in a comparison. -/
def number? : PyValue → Option PyFloat
  | bool b => some (.finite (if b then 1 else 0))
  | int z => some (.finite z)
  | float x => some x
  | _ => Option.none

/-- `v == w`, for a `v` that is neither a list nor a dictionary. -/
def eq (v w : PyValue) : Bool :=
  match v.number?, w.number?, v, w with
  | some x, some y, _, _ => x.eq y
  | _, _, str s, str t => s == t
  | _, _, none, none => true
  | _, _, _, _ => false

/-- `v < w`, for a `v` that is neither a list nor a dictionary. -/
def lt (v w : PyValue) : Except BuiltinError Bool :=
  match v.number?, w.number?, v, w with
  | some x, some y, _, _ => .ok (x.lt y)
  | _, _, str s, str t => .ok (s < t)
  | _, _, _, _ => .error .typeError

/-- `str(v)`; the texts of containers and of other objects play no part here. -/
def text : PyValue → String
  | str s => s
  | int z => toString z
  | float x => x.text
  | bool b => if b then "True" else "False"
  | none => "None"
  | list _ | dict _ | object => ""

/-- `float(value)`. -/
def toFloat : PyValue → Except BuiltinError PyFloat
  | bool b => .ok (.finite (if b then 1 else 0))
  | int z => if PyFloat.overflowBound ≤ |(z : ℚ)| then .error .overflowError else .ok (.ofRat z)
  | float x => .ok x
  | str s => (Numeral.parseFloat s).elim (.error .valueError) .ok
  | _ => .error .typeError

/-- `int(v)`: a float is cut towards zero. -/
def toInt : PyValue → Except BuiltinError Int
  | bool b => .ok (if b then 1 else 0)
  | int z => .ok z
  | float (.finite q) => .ok (q.num.tdiv q.den)
  | float (.inf _) => .error .overflowError
  | float .nan => .error .valueError
  | str s => (Numeral.parseInt s.toList).elim (.error .valueError) .ok
  | _ => .error .typeError

mutual

/-- `v == w`, for values of any kind. -/
def same : PyValue → PyValue → Bool
  | list xs, list ys => sameList xs ys
  | dict d, dict e => d.length == e.length && sameItems d e
  | v, w => v.eq w

/-- The lists hold the same values. -/
def sameList : List PyValue → List PyValue → Bool
  | [], [] => true
  | x :: xs, y :: ys => same x y && sameList xs ys
  | _, _ => false

/-- The items have the same values in another object. -/
def sameItems : List (String × PyValue) → List (String × PyValue) → Bool
  | [], _ => true
  | (key, v) :: d, e =>
    (match e.lookup key with
    | some w => same v w
    | .none => false) && sameItems d e

end

@[simp] theorem truthy_none : none.truthy = false := rfl
@[simp] theorem isNone_none : none.isNone = true := rfl

end PyValue

namespace PyDict

/-- `d.get(key)`. -/
def get (d : PyDict) (key : String) : PyValue := (d.lookup key).getD .none

/-- `d.get(key, default)`. -/
def getD (d : PyDict) (key : String) (default : PyValue) : PyValue := (d.lookup key).getD default

/-- The objects are the same, in any order of their keys. -/
def same (d e : PyDict) : Bool := (PyValue.dict d).same (.dict e)

end PyDict

/-- A UUID. -/
abbrev Uuid := BitVec 128

/-- The text of a UUID, with its hyphens. -/
def Uuid.text (id : Uuid) : String :=
  let digits := id.toHex.toList
  let group (start count : Nat) : String := String.ofList ((digits.drop start).take count)
  "-".intercalate [group 0 8, group 8 4, group 12 4, group 16 4, group 20 12]

end SmartHome
