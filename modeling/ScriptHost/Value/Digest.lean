/-! The 64-bit digest that files keys: one mixing round for each word of input and three
to finish, from fixed starting words. -/
namespace ScriptHost.Digest

private structure Words where
  a : UInt64
  b : UInt64
  c : UInt64
  d : UInt64

private def rotate (x : UInt64) (n : UInt64) : UInt64 := (x <<< n) ||| (x >>> (64 - n))

private def Words.mix (w : Words) : Words :=
  let a := w.a + w.b
  let b := rotate w.b 13 ^^^ a
  let a := rotate a 32
  let c := w.c + w.d
  let d := rotate w.d 16 ^^^ c
  let a := a + d
  let d := rotate d 21 ^^^ a
  let c := c + b
  let b := rotate b 17 ^^^ c
  ⟨a, b, rotate c 32, d⟩

private def Words.absorb (w : Words) (word : UInt64) : Words :=
  let mixed := Words.mix { w with d := w.d ^^^ word }
  { mixed with a := mixed.a ^^^ word }

/-- The number whose base-256 digits are the bytes, the lowest first. -/
private def littleEndian (bytes : List UInt8) : UInt64 :=
  bytes.foldr (fun byte word => (word <<< 8) ||| byte.toUInt64) 0

private def absorbAll (w : Words) : List UInt8 → Words × List UInt8
  | b₀ :: b₁ :: b₂ :: b₃ :: b₄ :: b₅ :: b₆ :: b₇ :: rest =>
    absorbAll (w.absorb (littleEndian [b₀, b₁, b₂, b₃, b₄, b₅, b₆, b₇])) rest
  | rest => (w, rest)

/-- The digest of a byte string under zero keys. -/
def ofBytes (bytes : List UInt8) : UInt64 :=
  let start : Words :=
    ⟨0x736f6d6570736575, 0x646f72616e646f6d, 0x6c7967656e657261, 0x7465646279746573⟩
  let (words, rest) := absorbAll start bytes
  let words := words.absorb ((bytes.length.toUInt64 <<< 56) ||| littleEndian rest)
  let words := Words.mix (Words.mix (Words.mix { words with c := words.c ^^^ 0xff }))
  words.a ^^^ words.b ^^^ words.c ^^^ words.d

end ScriptHost.Digest
