/-!
# Reading UTF-8

`decodeLossy` reads bytes as UTF-8. Where they are not UTF-8, the longest start of a character that
the bytes still allow is replaced by one U+FFFD, and a byte that starts no character by another.
-/

namespace SqlBackend.Text

/-- The bytes that may follow the first byte `b` of a character: the range of the second byte and
the number of further bytes after it. -/
def secondByte (b : Nat) : Option (Nat × Nat × Nat) :=
  if 0xC2 ≤ b && b ≤ 0xDF then some (0x80, 0xBF, 0)
  else if b == 0xE0 then some (0xA0, 0xBF, 1)
  else if (0xE1 ≤ b && b ≤ 0xEC) || (0xEE ≤ b && b ≤ 0xEF) then some (0x80, 0xBF, 1)
  else if b == 0xED then some (0x80, 0x9F, 1)
  else if b == 0xF0 then some (0x90, 0xBF, 2)
  else if 0xF1 ≤ b && b ≤ 0xF3 then some (0x80, 0xBF, 2)
  else if b == 0xF4 then some (0x80, 0x8F, 2)
  else none

/-- The bits that a first byte contributes. -/
def leadBits (b : Nat) : Nat :=
  if b < 0xE0 then b - 0xC0 else if b < 0xF0 then b - 0xE0 else b - 0xF0

def replacement : Char := Char.ofNat 0xFFFD

/-- Where the reader stands inside a character: the bits so far, the range of the next byte, and the
number of bytes after that one. -/
structure Pending where
  bits : Nat
  low : Nat
  high : Nat
  more : Nat

/-- One byte read between characters: what it completes, and what it leaves open. -/
def startByte (b : Nat) : List Char × Option Pending :=
  if b < 0x80 then ([Char.ofNat b], none)
  else
    match secondByte b with
    | some (low, high, more) => ([], some ⟨leadBits b, low, high, more⟩)
    | none => ([replacement], none)

/-- One byte read inside a character. A byte that does not belong there ends it and is read anew. -/
def nextByte (p : Pending) (b : Nat) : List Char × Option Pending :=
  if p.low ≤ b && b ≤ p.high then
    let bits := p.bits * 64 + (b - 0x80)
    match p.more with
    | 0 => ([Char.ofNat bits], none)
    | more + 1 => ([], some ⟨bits, 0x80, 0xBF, more⟩)
  else
    let (cs, p) := startByte b
    (replacement :: cs, p)

def decodeFrom : Option Pending → List UInt8 → List Char
  | none, [] => []
  | some _, [] => [replacement]
  | none, b :: bs => let (cs, p) := startByte b.toNat; cs ++ decodeFrom p bs
  | some p, b :: bs => let (cs, p) := nextByte p b.toNat; cs ++ decodeFrom p bs

def decodeLossy (bytes : List UInt8) : String := String.ofList (decodeFrom none bytes)

/-- The UTF-8 form of a text. -/
def encode (s : String) : List UInt8 := s.toUTF8.toList

theorem toList_loop (bytes : ByteArray) (i : Nat) (acc : List UInt8) :
    ByteArray.toList.loop bytes i acc = acc.reverse ++ bytes.data.toList.drop i := by
  fun_induction ByteArray.toList.loop bytes i acc with
  | case1 i acc hi ih =>
    have hget : bytes.get! i = bytes.data[i] := getElem!_pos bytes.data i hi
    have hdrop : bytes.data.toList.drop i = bytes.data[i] :: bytes.data.toList.drop (i + 1) :=
      List.drop_eq_getElem_cons (Array.length_toList ▸ hi)
    rw [ih, List.reverse_cons, List.append_assoc, hdrop, hget]
    rfl
  | case2 i acc hi =>
    have hend : bytes.data.toList.drop i = [] := List.drop_of_length_le (Nat.le_of_not_lt hi)
    rw [hend, List.append_nil]

/-- The bytes of a text are those of its characters. -/
theorem encode_ofList (cs : List Char) :
    encode (String.ofList cs) = cs.flatMap String.utf8EncodeChar := by
  have hbytes : (String.ofList cs).toUTF8 = cs.utf8Encode := String.toByteArray_ofList
  have hlist : ∀ bytes : ByteArray, bytes.toList = bytes.data.toList := fun bytes =>
    toList_loop bytes 0 []
  rw [encode, hbytes, hlist, List.utf8Encode, List.data_toByteArray]

end SqlBackend.Text
