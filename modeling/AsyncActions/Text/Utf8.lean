/-!
# Bytes and characters

`encode` writes characters in UTF-8. `decode` reads any bytes: each longest invalid start of a
sequence becomes one replacement character, so decoding never fails.
-/

namespace AsyncActions

abbrev Bytes := List UInt8

namespace Utf8

def encode (cs : List Char) : Bytes := cs.flatMap String.utf8EncodeChar

def encodeString (s : String) : Bytes := encode s.toList

/-- The character that stands for bytes that encode none. -/
def replacement : Char := '\uFFFD'

def isContinuation (b : UInt8) : Bool := 0x80 ≤ b && b ≤ 0xBF

/-- Which second bytes a lead byte of a longer sequence admits: no overlong form, no surrogate,
nothing past the last code point. -/
def admitsSecond (lead b : UInt8) : Bool :=
  if lead = 0xE0 then 0xA0 ≤ b && b ≤ 0xBF
  else if lead = 0xED then 0x80 ≤ b && b ≤ 0x9F
  else if lead = 0xF0 then 0x90 ≤ b && b ≤ 0xBF
  else if lead = 0xF4 then 0x80 ≤ b && b ≤ 0x8F
  else isContinuation b

/-- How many bytes a sequence has that starts with `lead`; zero if none starts so. -/
def sequenceLength (lead : UInt8) : Nat :=
  if lead < 0x80 then 1
  else if 0xC2 ≤ lead && lead ≤ 0xDF then 2
  else if 0xE0 ≤ lead && lead ≤ 0xEF then 3
  else if 0xF0 ≤ lead && lead ≤ 0xF4 then 4
  else 0

def bits (b : UInt8) : Nat := b.toNat % 64

/-- The first character of the bytes and what follows it, if they start with a whole sequence. -/
def next? : Bytes → Option (Char × Bytes)
  | [] => none
  | lead :: rest =>
    match sequenceLength lead, rest with
    | 1, rest => some (Char.ofNat lead.toNat, rest)
    | 2, b :: rest =>
      if admitsSecond lead b then some (Char.ofNat (lead.toNat % 32 * 64 + bits b), rest) else none
    | 3, b :: c :: rest =>
      if admitsSecond lead b && isContinuation c then
        some (Char.ofNat (lead.toNat % 16 * 4096 + bits b * 64 + bits c), rest)
      else none
    | 4, b :: c :: d :: rest =>
      if admitsSecond lead b && isContinuation c && isContinuation d then
        some (Char.ofNat (lead.toNat % 8 * 262144 + bits b * 4096 + bits c * 64 + bits d), rest)
      else none
    | _, _ => none

/-- What follows the longest start of a sequence that `lead` and these bytes form. -/
def dropInvalid (lead : UInt8) (rest : Bytes) : Bytes :=
  match rest with
  | [] => []
  | b :: rest' =>
    if 3 ≤ sequenceLength lead && admitsSecond lead b then
      match rest' with
      | c :: rest'' =>
        if sequenceLength lead = 4 && isContinuation c then rest'' else rest'
      | [] => []
    else rest

theorem next?_length {bs rest : Bytes} {c : Char} (h : next? bs = some (c, rest)) :
    rest.length < bs.length := by
  unfold next? at h
  split at h
  · cases h
  · split at h <;> simp_all <;> omega

theorem dropInvalid_length (lead : UInt8) (rest : Bytes) :
    (dropInvalid lead rest).length ≤ rest.length := by
  unfold dropInvalid
  repeat' split
  all_goals simp
  omega

/-- The characters of the bytes, with replacement characters where they encode none. -/
def decode : Bytes → List Char
  | [] => []
  | lead :: rest =>
    match _h : next? (lead :: rest) with
    | some (c, rest') => c :: decode rest'
    | none => replacement :: decode (dropInvalid lead rest)
termination_by bs => bs.length
decreasing_by
  · exact next?_length _h
  · have := dropInvalid_length lead rest
    simp only [List.length_cons]
    omega

theorem decode_of_ascii {bs : Bytes} (h : bs.all (· < 0x80) = true) :
    decode bs = bs.map fun b => Char.ofNat b.toNat := by
  induction bs with
  | nil => simp [decode]
  | cons b bs ih =>
    simp only [List.all_cons, Bool.and_eq_true, decide_eq_true_eq] at h
    obtain ⟨hb, hbs⟩ := h
    have hnext : next? (b :: bs) = some (Char.ofNat b.toNat, bs) := by
      simp [next?, sequenceLength, hb]
    have ih := ih hbs
    rw [decode]
    split
    · next c rest hc =>
      rw [hnext] at hc
      cases hc
      rw [ih, List.map_cons]
    · next hc =>
      rw [hnext] at hc
      cases hc

/-- Each character with the number of its bytes. A byte that starts no sequence stands alone, as
one replacement character. -/
def units : Bytes → List (Char × Nat)
  | [] => []
  | lead :: rest =>
    match _h : next? (lead :: rest) with
    | some (c, rest') => (c, sequenceLength lead) :: units rest'
    | none => (replacement, 1) :: units rest
termination_by bs => bs.length
decreasing_by
  · exact next?_length _h
  · simp

end Utf8

/-- The bytes from offset `a` up to offset `b`. A negative offset counts from the end, offsets
past an end stop at it, and reversed offsets give nothing. -/
def Bytes.slice (bs : Bytes) (a b : Int) : Bytes :=
  let size : Int := bs.length
  let clip (i : Int) : Nat := (min (if i < 0 then max (i + size) 0 else i) size).toNat
  (bs.take (clip b)).drop (clip a)

end AsyncActions
