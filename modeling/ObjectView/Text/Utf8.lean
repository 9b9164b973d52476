/-!
# Reading bytes as text

Bytes are read as UTF-8.  Where they break its rules, one replacement character stands for the
longest run of bytes that could still have begun a character, or for the one byte that could not.
-/

namespace ObjectView.Text.Utf8

/-- What is still missing of a character: how many bytes, the value so far, and the least and the
greatest byte that may come next. -/
structure Unfinished where
  owed : Nat
  value : Nat
  least : UInt8
  greatest : UInt8

/-- What a byte in the place of a first byte means. -/
inductive First
  | character (c : Char)
  | started (p : Unfinished)
  | invalid

def first (b : UInt8) : First :=
  if b < 0x80 then .character (Char.ofNat b.toNat)
  else if b < 0xc2 then .invalid
  else if b < 0xe0 then .started ⟨1, b.toNat - 0xc0, 0x80, 0xbf⟩
  else if b < 0xf0 then
    .started ⟨2, b.toNat - 0xe0, if b = 0xe0 then 0xa0 else 0x80, if b = 0xed then 0x9f else 0xbf⟩
  else if b < 0xf5 then
    .started ⟨3, b.toNat - 0xf0, if b = 0xf0 then 0x90 else 0x80, if b = 0xf4 then 0x8f else 0xbf⟩
  else .invalid

def replacement : Char := '\uFFFD'

/-- The characters that a byte completes between two characters, and what it leaves unfinished. -/
def start (b : UInt8) : List Char × Option Unfinished :=
  match first b with
  | .character c => ([c], none)
  | .started p => ([], some p)
  | .invalid => ([replacement], none)

def step (state : Option Unfinished) (b : UInt8) : List Char × Option Unfinished :=
  match state with
  | none => start b
  | some p =>
      if p.least ≤ b ∧ b ≤ p.greatest then
        let value := p.value * 64 + (b.toNat - 0x80)
        if p.owed ≤ 1 then ([Char.ofNat value], none)
        else ([], some ⟨p.owed - 1, value, 0x80, 0xbf⟩)
      else
        let (text, next) := start b
        (replacement :: text, next)

def decodeFrom : Option Unfinished → List UInt8 → List Char
  | none, [] => []
  | some _, [] => [replacement]
  | state, b :: rest =>
      let (text, next) := step state b
      text ++ decodeFrom next rest

/-- The text that bytes stand for, whatever they are. -/
def decode (bytes : List UInt8) : String :=
  String.ofList (decodeFrom none bytes)

end ObjectView.Text.Utf8
