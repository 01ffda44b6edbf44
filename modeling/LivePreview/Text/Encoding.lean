/-!
# Reading bytes as text

A file is a list of bytes, and an encoding says which text it holds, or where it holds none. In the
encoding of several bytes for a character, a wrong byte ends the group that came before it, and the
group is what the fault points at.
-/

namespace LivePreview.Text

inductive Encoding where
  | utf8
  | latin1
  | ascii
  deriving DecidableEq, Repr

def Encoding.label : Encoding → String
  | utf8 => "utf-8"
  | latin1 => "latin-1"
  | ascii => "ascii"

/-- Bytes that stand for no text: the first of them, where it is, how many there are, and why. -/
structure DecodingFault where
  encoding : Encoding
  byte : Nat
  position : Nat
  count : Nat
  reason : String
  deriving DecidableEq, Repr

def hexByte (n : Nat) : String :=
  let digits := Nat.toDigits 16 n
  String.ofList (if digits.length < 2 then '0' :: digits else digits)

def DecodingFault.text (f : DecodingFault) : String :=
  "'" ++ f.encoding.label ++ "' codec can't decode " ++
    (if f.count = 1 then
      "byte 0x" ++ hexByte f.byte ++ " in position " ++ toString f.position
    else
      "bytes in position " ++ toString f.position ++ "-" ++
        toString (f.position + f.count - 1)) ++
    ": " ++ f.reason

/-- Why a group of bytes is none, and how many bytes of it are to blame. -/
structure GroupFault where
  count : Nat
  reason : String

def isTail (b : Nat) : Bool := 0x80 ≤ b && b < 0xc0

def startFault : GroupFault := ⟨1, "invalid start byte"⟩

def tailFault (count : Nat) : GroupFault := ⟨count, "invalid continuation byte"⟩

/-- The number of bytes of the group that a byte starts. -/
def groupSize? (b : Nat) : Option Nat :=
  if b < 0x80 then some 1
  else if b < 0xc2 then none
  else if b < 0xe0 then some 2
  else if b < 0xf0 then some 3
  else if b < 0xf5 then some 4
  else none

/-- Whether the second byte of a group makes the shortest form of a character that is one. -/
def isSecond (first second : Nat) : Bool :=
  isTail second &&
    (if first = 0xe0 then 0xa0 ≤ second
    else if first = 0xed then second < 0xa0
    else if first = 0xf0 then 0x90 ≤ second
    else if first = 0xf4 then second < 0x90
    else true)

/-- How many bytes after the first, of at most `missing`, continue the group well. -/
def goodTail (first : Nat) (missing : Nat) (bs : List Nat) : Nat :=
  match bs with
  | [] => 0
  | b :: bs =>
    if missing = 0 || !isSecond first b then 0
    else 1 + ((bs.take (missing - 1)).takeWhile isTail).length

/-- The code point of a whole group. -/
def groupValue (size first : Nat) (tail : List Nat) : Nat :=
  let head := if size = 1 then first else first % Nat.pow 2 (7 - size)
  tail.foldl (fun n b => 64 * n + b % 64) head

/-- The first character of some bytes, and the number of bytes after the first that belong to it. -/
def firstGroup (b : Nat) (bs : List Nat) : Except GroupFault (Char × Nat) :=
  match groupSize? b with
  | none => .error startFault
  | some size =>
    let good := goodTail b (size - 1) bs
    if good = size - 1 then .ok (Char.ofNat (groupValue size b (bs.take good)), good)
    else if good < bs.length then .error (tailFault (good + 1))
    else .error ⟨bs.length + 1, "unexpected end of data"⟩

/-- Decode groups; `skip` bytes belong to the group just read. -/
def decodeGroups : (position skip : Nat) → List Nat → Except DecodingFault (List Char)
  | _, _, [] => .ok []
  | position, skip + 1, _ :: bs => decodeGroups (position + 1) skip bs
  | position, 0, b :: bs =>
    match firstGroup b bs with
    | .error f => .error ⟨.utf8, b, position, f.count, f.reason⟩
    | .ok (c, rest) => (decodeGroups (position + 1) rest bs).map (c :: ·)

/-- Decode bytes below 128, each of which is a character. -/
def decodeAscii : (position : Nat) → List Nat → Except DecodingFault (List Char)
  | _, [] => .ok []
  | position, b :: bs =>
    if b < 128 then (decodeAscii (position + 1) bs).map (Char.ofNat b :: ·)
    else .error ⟨.ascii, b, position, 1, "ordinal not in range(128)"⟩

def Encoding.decode (e : Encoding) (bs : List Nat) : Except DecodingFault String :=
  (match e with
  | .utf8 => decodeGroups 0 0 bs
  | .latin1 => .ok (bs.map Char.ofNat)
  | .ascii => decodeAscii 0 bs).map String.ofList

/-- The bytes of a text. -/
def encodeUtf8 (s : String) : List Nat := s.toUTF8.toList.map (·.toNat)

end LivePreview.Text
