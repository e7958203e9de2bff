/-!
# Decoding bytes as text

Bytes are read as UTF-8. Where they are not well formed, each longest run of bytes that could have
begun a character becomes one replacement character, and reading goes on after it.
-/

namespace NonlinearProgram.Text

def replacement : Char := Char.ofNat 0xFFFD

/-- How a leading byte continues: how many bytes follow, the range of the first of them, and the
bits the leading byte gives. -/
structure Lead where
  following : Nat
  low : Nat
  high : Nat
  bits : Nat

/-- The ranges after a leading byte leave out overlong forms, surrogates and what lies beyond the
last code point. -/
def lead? (byte : Nat) : Option Lead :=
  if byte < 0x80 then some ⟨0, 0, 0, byte⟩
  else if byte < 0xC2 then none
  else if byte < 0xE0 then some ⟨1, 0x80, 0xBF, byte - 0xC0⟩
  else if byte = 0xE0 then some ⟨2, 0xA0, 0xBF, 0⟩
  else if byte = 0xED then some ⟨2, 0x80, 0x9F, 0xD⟩
  else if byte < 0xF0 then some ⟨2, 0x80, 0xBF, byte - 0xE0⟩
  else if byte = 0xF0 then some ⟨3, 0x90, 0xBF, 0⟩
  else if byte < 0xF4 then some ⟨3, 0x80, 0xBF, byte - 0xF0⟩
  else if byte = 0xF4 then some ⟨3, 0x80, 0x8F, 4⟩
  else none

/-- Reads the bytes that must follow a leading one: the character they complete, or the replacement
character where one is missing, and the bytes not read. -/
def following : Nat → Nat → Nat → Nat → List Nat → Char × List Nat
  | 0, _, _, code, rest => (Char.ofNat code, rest)
  | _ + 1, _, _, _, [] => (replacement, [])
  | count + 1, low, high, code, byte :: rest =>
    if low ≤ byte ∧ byte ≤ high then
      following count 0x80 0xBF (code * 64 + byte % 64) rest
    else (replacement, byte :: rest)

theorem following_length (count low high code : Nat) (bytes : List Nat) :
    (following count low high code bytes).2.length ≤ bytes.length := by
  induction count generalizing low high code bytes with
  | zero => simp [following]
  | succ count ih =>
    cases bytes with
    | nil => simp [following]
    | cons byte rest =>
      unfold following
      split
      · exact Nat.le_trans (ih ..) (by simp)
      · simp

def decode (bytes : List Nat) : List Char :=
  match bytes with
  | [] => []
  | byte :: rest =>
    match lead? byte with
    | none => replacement :: decode rest
    | some lead =>
      let read := following lead.following lead.low lead.high lead.bits rest
      read.1 :: decode read.2
termination_by bytes.length
decreasing_by
  · simp
  · have := following_length lead.following lead.low lead.high lead.bits rest
    simp only [List.length_cons]
    omega

def decodeUtf8 (bytes : List Nat) : String := String.ofList (decode bytes)

end NonlinearProgram.Text
