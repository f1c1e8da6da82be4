import SoloScenario.Text.Digits
import SoloScenario.Text.Printable

/-! Quoted text and quoted bytes. The literal of a text is one printable line
between two equal quotes: what cannot be shown is written by its number, and the
quote is chosen so that it seldom needs a backslash. -/

namespace SoloScenario.Text.Quoted

/-- The quote around a text: double only if the text holds single quotes and no double one. -/
def quoteFor (cs : List Char) : Char :=
  if cs.contains '\'' && !cs.contains '"' then '"' else '\''

/-- The form of one character between two of these quotes. -/
def escape (quote c : Char) : List Char :=
  if c = quote ∨ c = '\\' then ['\\', c]
  else if c = '\t' then ['\\', 't']
  else if c = '\n' then ['\\', 'n']
  else if c = '\r' then ['\\', 'r']
  else if isPrintable c then [c]
  else if c.toNat < 0x100 then '\\' :: 'x' :: hexDigits 2 c.toNat
  else if c.toNat < 0x10000 then '\\' :: 'u' :: hexDigits 4 c.toNat
  else '\\' :: 'U' :: hexDigits 8 c.toNat

def encode (cs : List Char) : List Char :=
  quoteFor cs :: (cs.flatMap (escape (quoteFor cs)) ++ [quoteFor cs])

/-- The form of one byte between two of these quotes. -/
def escapeByte (quote : Char) (b : UInt8) : List Char :=
  if b.toNat < 0x80 then escape quote (Char.ofNat b.toNat)
  else '\\' :: 'x' :: hexDigits 2 b.toNat

/-- The literal of bytes: that of a text of ASCII after the letter b. -/
def encodeBytes (bs : List UInt8) : List Char :=
  let quote := quoteFor (bs.map fun b => Char.ofNat b.toNat)
  'b' :: quote :: (bs.flatMap (escapeByte quote) ++ [quote])

theorem quoteFor_cases (cs : List Char) : quoteFor cs = '"' ∨ quoteFor cs = '\'' := by
  unfold quoteFor; split <;> simp

end SoloScenario.Text.Quoted

namespace SoloScenario.Text

def quoted (s : String) : String := String.ofList (Quoted.encode s.toList)

example : quoted "it's" = "\"it's\"" := by decide +kernel
example : quoted "'\"\\\n\u200b" = "'\\'\"\\\\\\n\\u200b'" := by decide +kernel

end SoloScenario.Text
