/-!
Reading bytes as UTF-8. Decoding stops at the first byte that cannot continue a character and tells
where that is and how many bytes form the longest start of a character found there; a text may also
end inside a character. Reading that must not fail puts the replacement character for each such
start instead.
-/

namespace HeaderBindings.Text

/-- Why bytes are not UTF-8: all before `validLength` are, and the next `badLength` bytes start no
character, or, with none, the bytes end inside a character. -/
structure Utf8Error where
  validLength : Nat
  badLength : Option Nat
  deriving DecidableEq

def Utf8Error.message (error : Utf8Error) : String :=
  match error.badLength with
  | some count =>
      "invalid utf-8 sequence of " ++ toString count ++ " bytes from index "
        ++ toString error.validLength
  | none => "incomplete utf-8 byte sequence from index " ++ toString error.validLength

/-- What the first bytes of a non-empty list are: a character, a start of one that the byte after it
does not continue, or a start that the list ends in. -/
inductive Utf8Head where
  | char (c : Char) (length : Nat)
  | bad (length : Nat)
  | incomplete
  deriving DecidableEq

/-- The least and the greatest second byte of a character of more than one byte, and the number of
bytes after the first. -/
def secondByteRange (first : Nat) : Option (Nat × Nat × Nat) :=
  if first < 0xC2 then none
  else if first < 0xE0 then some (0x80, 0xBF, 1)
  else if first = 0xE0 then some (0xA0, 0xBF, 2)
  else if first = 0xED then some (0x80, 0x9F, 2)
  else if first < 0xF0 then some (0x80, 0xBF, 2)
  else if first = 0xF0 then some (0x90, 0xBF, 3)
  else if first < 0xF4 then some (0x80, 0xBF, 3)
  else if first = 0xF4 then some (0x80, 0x8F, 3)
  else none

/-- Reads `count` further bytes of a character whose bytes so far give `code` and number `taken`;
the next byte must lie between `least` and `greatest`, the ones after it between `0x80` and
`0xBF`. -/
def continueChar (code taken least greatest : Nat) : Nat → List UInt8 → Utf8Head
  | 0, _ => .char (Char.ofNat code) taken
  | _ + 1, [] => .incomplete
  | count + 1, byte :: rest =>
      if least ≤ byte.toNat ∧ byte.toNat ≤ greatest then
        continueChar (code * 64 + (byte.toNat - 0x80)) (taken + 1) 0x80 0xBF count rest
      else .bad taken

/-- What the bytes starting with `first` are. -/
def utf8Head (first : UInt8) (rest : List UInt8) : Utf8Head :=
  if first.toNat < 0x80 then .char (Char.ofNat first.toNat) 1
  else
    match secondByteRange first.toNat with
    | none => .bad 1
    | some (least, greatest, count) =>
        continueChar (first.toNat % (64 >>> count)) 1 least greatest count rest

/-- Decodes with `fuel` steps, `done` bytes being decoded already; the decoded characters stand in
`text`, the last one first. -/
def decodeFrom (done : Nat) (text : List Char) : Nat → List UInt8 → Except Utf8Error (List Char)
  | _, [] => .ok text.reverse
  | 0, _ :: _ => .ok text.reverse
  | fuel + 1, first :: rest =>
      match utf8Head first rest with
      | .char c length => decodeFrom (done + length) (c :: text) fuel ((first :: rest).drop length)
      | .bad length => .error ⟨done, some length⟩
      | .incomplete => .error ⟨done, none⟩

/-- The text that the bytes encode. A step consumes at least one byte, so as many steps as there are
bytes are enough. -/
def decodeUtf8 (bytes : List UInt8) : Except Utf8Error String :=
  (decodeFrom 0 [] bytes.length bytes).map String.ofList

/-- Decodes with `fuel` steps, putting a replacement character for each start that does not become
a character. -/
def decodeLossyFrom (text : List Char) : Nat → List UInt8 → List Char
  | _, [] => text.reverse
  | 0, _ :: _ => text.reverse
  | fuel + 1, first :: rest =>
      match utf8Head first rest with
      | .char c length => decodeLossyFrom (c :: text) fuel ((first :: rest).drop length)
      | .bad length => decodeLossyFrom ('\uFFFD' :: text) fuel ((first :: rest).drop length)
      | .incomplete => ('\uFFFD' :: text).reverse

/-- The text that the bytes encode, with a replacement character where they encode none. -/
def decodeUtf8Lossy (bytes : List UInt8) : String :=
  String.ofList (decodeLossyFrom [] bytes.length bytes)

def encodeUtf8 (text : String) : List UInt8 := text.toUTF8.data.toList

end HeaderBindings.Text
