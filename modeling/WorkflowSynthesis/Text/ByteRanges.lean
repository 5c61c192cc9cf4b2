/-!
Characters as bytes. In UTF-8 a range of characters becomes a list of sequences of byte ranges, in
ascending order.
-/

namespace WorkflowSynthesis.Text

def utf8 (code : Nat) : List Nat :=
  if code < 0x80 then [code]
  else if code < 0x800 then [0xC0 + code / 0x40, 0x80 + code % 0x40]
  else if code < 0x10000 then [0xE0 + code / 0x1000, 0x80 + code / 0x40 % 0x40, 0x80 + code % 0x40]
  else [0xF0 + code / 0x40000, 0x80 + code / 0x1000 % 0x40, 0x80 + code / 0x40 % 0x40, 0x80 + code % 0x40]

/-- The end of the first part where a range has to be cut: between encodings of different lengths, and
between blocks of which it does not hold every member. -/
def cut? (first last : Nat) : Option Nat :=
  match [0x7F, 0x7FF, 0xFFFF].find? fun limit => decide (first ≤ limit) && decide (limit < last) with
  | some limit => some limit
  | none =>
    if last < 0x80 then none
    else [0x40, 0x1000, 0x40000].findSome? fun block =>
      if first / block = last / block then none
      else if first % block ≠ 0 then some (first / block * block + block - 1)
      else if last % block ≠ block - 1 then some (last / block * block - 1)
      else none

/-- The sequences of byte ranges for the scalar values from `first` to `last`, cut at most `cuts` times
on the way to each of them. -/
def byteRanges : Nat → Nat → Nat → List (List (Nat × Nat))
  | 0, first, last => [(utf8 first).zip (utf8 last)]
  | cuts + 1, first, last =>
    match cut? first last with
    | none => [(utf8 first).zip (utf8 last)]
    | some limit => byteRanges cuts first limit ++ byteRanges cuts (limit + 1) last

/-- The sequences of byte ranges for several ranges. Three cuts separate the lengths, and two for each size
of a block the blocks. -/
def allByteRanges (ranges : List (Nat × Nat)) : List (List (Nat × Nat)) :=
  ranges.flatMap fun (first, last) => byteRanges 9 first last

end WorkflowSynthesis.Text
