import ScriptHost.Text.Basic

/-! Encodings of text as bytes: the ones that every interpreter knows, and what becomes of code
points and bytes that they have no form for. -/
namespace ScriptHost

inductive Encoding where
  | utf8
  | ascii
  | latin1
  | utf16 (bigEndian : Bool) (marked : Bool)
  | utf32 (bigEndian : Bool) (marked : Bool)
  deriving DecidableEq, Repr

/-- What becomes of what has no encoded or decoded form. -/
inductive Leniency where
  | strict | ignore | replace | escape | surrogates | surrogateEscape | reference
  deriving DecidableEq, Repr

/-- A stretch of code points or bytes without a form, and why they have none. -/
structure EncodingDefect where
  start : Nat
  stop : Nat
  reason : String
  deriving DecidableEq, Repr

namespace Encoding

private def normalized (name : String) : String :=
  String.ofList (name.toList.map fun c => if c = '_' ∨ c = ' ' then '-' else c.toLower)

private def names : List (String × Encoding) := [
  ("utf-8", .utf8), ("utf8", .utf8), ("u8", .utf8), ("utf", .utf8), ("cp65001", .utf8), ("utf8-ucs2", .utf8),
  ("ascii", .ascii), ("us-ascii", .ascii), ("646", .ascii), ("iso646-us", .ascii), ("us", .ascii),
  ("latin-1", .latin1), ("latin1", .latin1), ("iso-8859-1", .latin1), ("iso8859-1", .latin1),
  ("8859", .latin1), ("cp819", .latin1), ("l1", .latin1), ("latin", .latin1), ("iso8859", .latin1),
  ("utf-16", .utf16 false true), ("utf16", .utf16 false true), ("u16", .utf16 false true),
  ("utf-16-le", .utf16 false false), ("utf-16le", .utf16 false false),
  ("utf-16-be", .utf16 true false), ("utf-16be", .utf16 true false),
  ("utf-32", .utf32 false true), ("utf32", .utf32 false true), ("u32", .utf32 false true),
  ("utf-32-le", .utf32 false false), ("utf-32le", .utf32 false false),
  ("utf-32-be", .utf32 true false), ("utf-32be", .utf32 true false)]

def ofName? (name : String) : Option Encoding := names.lookup (normalized name)

/-- The name of an encoding in messages. -/
def name : Encoding → String
  | .utf8 => "utf-8"
  | .ascii => "ascii"
  | .latin1 => "latin-1"
  | .utf16 _ true => "utf-16"
  | .utf16 false false => "utf-16-le"
  | .utf16 true false => "utf-16-be"
  | .utf32 _ true => "utf-32"
  | .utf32 false false => "utf-32-le"
  | .utf32 true false => "utf-32-be"

private def octet (n : Nat) : UInt8 := (n % 256).toUInt8

private def utf8Form (p : Nat) : List UInt8 :=
  if p < 0x80 then [octet p]
  else if p < 0x800 then [octet (0xc0 + p / 64), octet (0x80 + p % 64)]
  else if p < 0x10000 then [octet (0xe0 + p / 4096), octet (0x80 + p / 64 % 64), octet (0x80 + p % 64)]
  else [octet (0xf0 + p / 262144), octet (0x80 + p / 4096 % 64), octet (0x80 + p / 64 % 64), octet (0x80 + p % 64)]

private def ordered (bigEndian : Bool) (low : List UInt8) : List UInt8 := if bigEndian then low.reverse else low

private def unit16 (bigEndian : Bool) (n : Nat) : List UInt8 := ordered bigEndian [octet n, octet (n / 256)]

/-- The bytes of a code point, unless the encoding has none for it. -/
private def form? (e : Encoding) (p : Nat) : Option (List UInt8) :=
  match e with
  | .ascii => if p < 128 then some [octet p] else none
  | .latin1 => if p < 256 then some [octet p] else none
  | .utf8 => if Text.isSurrogate p then none else some (utf8Form p)
  | .utf16 big _ =>
    if Text.isSurrogate p then none
    else if p < 0x10000 then some (unit16 big p)
    else some (unit16 big (0xd800 + (p - 0x10000) / 1024) ++ unit16 big (0xdc00 + (p - 0x10000) % 1024))
  | .utf32 big _ =>
    if Text.isSurrogate p then none
    else some (ordered big [octet p, octet (p / 256), octet (p / 65536), 0])

private def start : Encoding → List UInt8
  | .utf16 big true => unit16 big 0xfeff
  | .utf32 big true => ordered big [0xff, 0xfe, 0, 0]
  | _ => []

private def reason : Encoding → String
  | .ascii => "ordinal not in range(128)"
  | .latin1 => "ordinal not in range(256)"
  | _ => "surrogates not allowed"

private def hexText (width n : Nat) : String :=
  let digits := String.ofList (Nat.toDigits 16 n)
  String.ofList (List.replicate (width - digits.length) '0') ++ digits

private def escaped (p : Nat) : String :=
  if p < 0x100 then "\\x" ++ hexText 2 p
  else if p < 0x10000 then "\\u" ++ hexText 4 p
  else "\\U" ++ hexText 8 p

/-- What stands for a code point without a form, if anything may. -/
private def substitute? (e : Encoding) (leniency : Leniency) (p : Nat) : Option (List UInt8) :=
  let plain (s : String) : Option (List UInt8) := (s.toList.map Char.toNat).flatMapM e.form?
  match leniency with
  | .strict => none
  | .ignore => some []
  | .replace => plain "?"
  | .escape => plain (escaped p)
  | .reference => plain ("&#" ++ toString p ++ ";")
  | .surrogates => if e = .utf8 && Text.isSurrogate p then some (utf8Form p) else none
  | .surrogateEscape => if 0xdc80 ≤ p ∧ p < 0xdd00 then some [octet (p - 0xdc00)] else none

private def encodeFrom (e : Encoding) (leniency : Leniency) :
    Nat → List Nat → Except EncodingDefect (List UInt8)
  | _, [] => .ok []
  | place, p :: rest =>
    match (e.form? p).or (e.substitute? leniency p) with
    | some data => (encodeFrom e leniency (place + 1) rest).map (data ++ ·)
    | none =>
      let run := (rest.takeWhile fun q => (e.form? q).isNone).length
      .error ⟨place, place + 1 + run, e.reason⟩

/-- The bytes of a text. -/
def encode (e : Encoding) (leniency : Leniency) (t : Text) : Except EncodingDefect (List UInt8) :=
  (e.encodeFrom leniency 0 t.points).map (e.start ++ ·)

private def isContinuation (b : UInt8) : Bool := 0x80 ≤ b && b < 0xc0

/-- Whether a byte may come second after a first one that announces several. -/
private def isSecond (first second : UInt8) : Bool :=
  isContinuation second &&
    if first = 0xe0 then 0xa0 ≤ second
    else if first = 0xed then second < 0xa0
    else if first = 0xf0 then 0x90 ≤ second
    else if first = 0xf4 then second < 0x90
    else true

/-- The code point at the start of some bytes and how many of them it takes up, or how many have
no form and why. -/
private def utf8Point (data : List UInt8) : Except (Nat × String) (Nat × Nat) :=
  let cut : String := "unexpected end of data"
  let broken : String := "invalid continuation byte"
  let bits (b : UInt8) : Nat := b.toNat % 64
  match data with
  | [] => .error (0, cut)
  | a :: rest =>
    if a < 0x80 then .ok (a.toNat, 1)
    else if a < 0xc2 ∨ 0xf5 ≤ a then .error (1, "invalid start byte")
    else match rest with
      | [] => .error (1, cut)
      | b :: rest =>
        if !isSecond a b then .error (1, broken)
        else if a < 0xe0 then .ok (a.toNat % 32 * 64 + bits b, 2)
        else match rest with
          | [] => .error (2, cut)
          | c :: rest =>
            if !isContinuation c then .error (2, broken)
            else if a < 0xf0 then .ok (a.toNat % 16 * 4096 + bits b * 64 + bits c, 3)
            else match rest with
              | [] => .error (3, cut)
              | d :: _ =>
                if !isContinuation d then .error (3, broken)
                else .ok (a.toNat % 8 * 262144 + bits b * 4096 + bits c * 64 + bits d, 4)

private def pointAt (e : Encoding) (data : List UInt8) : Except (Nat × String) (Nat × Nat) :=
  match e, data with
  | .utf8, data => utf8Point data
  | .ascii, b :: _ => if b < 128 then .ok (b.toNat, 1) else .error (1, "ordinal not in range(128)")
  | .utf16 big _, a :: b :: rest =>
    let unit (a b : UInt8) : Nat := if big then a.toNat * 256 + b.toNat else b.toNat * 256 + a.toNat
    let high := unit a b
    if !Text.isSurrogate high then .ok (high, 2)
    else if 0xdc00 ≤ high then .error (2, "illegal encoding")
    else match rest with
      | c :: d :: _ =>
        let low := unit c d
        if 0xdc00 ≤ low ∧ low < 0xe000 then .ok (0x10000 + (high - 0xd800) * 1024 + (low - 0xdc00), 4)
        else .error (2, "illegal UTF-16 surrogate")
      | _ => .error (2 + rest.length, "unexpected end of data")
  | .utf16 _ _, data => .error (data.length, "truncated data")
  | .utf32 big _, a :: b :: c :: d :: _ =>
    let word := (if big then [a, b, c, d] else [d, c, b, a]).foldl (fun n x => n * 256 + x.toNat) 0
    if Text.isSurrogate word then .error (4, "code point in surrogate code point range(0xd800, 0xe000)")
    else if 0x110000 ≤ word then .error (4, "code point not in range(0x110000)")
    else .ok (word, 4)
  | .utf32 _ _, data => .error (data.length, "truncated data")
  | _, b :: _ => .ok (b.toNat, 1)
  | _, [] => .error (0, "")

private def repair? (leniency : Leniency) (data : List UInt8) : Option (List Nat) :=
  match leniency with
  | .strict | .reference | .surrogates => none
  | .ignore => some []
  | .replace => some [0xfffd]
  | .escape => some (data.flatMap fun b => (escaped b.toNat).toList.map Char.toNat)
  | .surrogateEscape => data.mapM fun b => if b < 128 then none else some (0xdc00 + b.toNat)

private def decodeFrom (e : Encoding) (leniency : Leniency) :
    Nat → Nat → List UInt8 → Except EncodingDefect (List Nat)
  | 0, _, _ => .ok []
  | _ + 1, _, [] => .ok []
  | fuel + 1, place, data =>
    match e.pointAt data with
    | .ok (p, size) => (decodeFrom e leniency fuel (place + size) (data.drop size)).map (p :: ·)
    | .error (size, reason) =>
      match repair? leniency (data.take size) with
      | some points => (decodeFrom e leniency fuel (place + size) (data.drop size)).map (points ++ ·)
      | none => .error ⟨place, place + size, reason⟩

/-- The text of some bytes. -/
def decode (e : Encoding) (leniency : Leniency) (data : List UInt8) : Except EncodingDefect Text :=
  let (e, data) : Encoding × List UInt8 :=
    match e, data with
    | .utf16 _ true, 0xff :: 0xfe :: rest => (.utf16 false true, rest)
    | .utf16 _ true, 0xfe :: 0xff :: rest => (.utf16 true true, rest)
    | .utf32 _ true, 0xff :: 0xfe :: 0 :: 0 :: rest => (.utf32 false true, rest)
    | e, data => (e, data)
  (e.decodeFrom leniency (data.length + 1) 0 data).map Text.mk

end Encoding

def Leniency.ofName? : String → Option Leniency
  | "strict" => some .strict
  | "ignore" => some .ignore
  | "replace" => some .replace
  | "backslashreplace" => some .escape
  | "surrogatepass" => some .surrogates
  | "surrogateescape" => some .surrogateEscape
  | "xmlcharrefreplace" => some .reference
  | _ => none

end ScriptHost
