/-!
# Decoding UTF-8

A text in UTF-8 is a sequence of characters of one to four bytes. The first byte of a character says
how many bytes follow and in which range the second one lies; the later ones lie in `80`–`BF`.

`decodeLossy` reads any sequence of bytes: where no character can be read, the longest stretch that
begins a character and cannot be continued, or else a single byte, becomes one `U+FFFD`.
`decode?` reads only sequences without such a place.
-/

namespace TopicConsumer.Text

/-- What the first byte of a character promises: the bytes that follow it, the range of the next of
them, and the bits of the character that it carries itself. -/
structure Lead where
  following : Nat
  low : Nat
  high : Nat
  bits : Nat

/-- The promise of a first byte, and none for a byte that begins no character. -/
def Lead.of? (b : UInt8) : Option Lead :=
  let n := b.toNat
  if n < 0x80 then some ⟨0, 0x80, 0xBF, n⟩
  else if 0xC2 ≤ n ∧ n ≤ 0xDF then some ⟨1, 0x80, 0xBF, n - 0xC0⟩
  else if n = 0xE0 then some ⟨2, 0xA0, 0xBF, 0⟩
  else if n = 0xED then some ⟨2, 0x80, 0x9F, 0xD⟩
  else if 0xE1 ≤ n ∧ n ≤ 0xEF then some ⟨2, 0x80, 0xBF, n - 0xE0⟩
  else if n = 0xF0 then some ⟨3, 0x90, 0xBF, 0⟩
  else if 0xF1 ≤ n ∧ n ≤ 0xF3 then some ⟨3, 0x80, 0xBF, n - 0xF0⟩
  else if n = 0xF4 then some ⟨3, 0x80, 0x8F, 4⟩
  else none

/-- What has been read of one place: a character, or a stretch that is no character. -/
inductive Piece where
  | char (c : Char)
  | broken
  deriving DecidableEq

/-- Reads the bytes that complete a character, and what is left after them. A byte out of range is
not read, since a character may begin with it. -/
def Lead.complete (lead : Lead) : List UInt8 → Piece × List UInt8
  | [] => if lead.following = 0 then (.char (Char.ofNat lead.bits), []) else (.broken, [])
  | b :: rest =>
    if lead.following = 0 then (.char (Char.ofNat lead.bits), b :: rest)
    else if lead.low ≤ b.toNat ∧ b.toNat ≤ lead.high then
      complete ⟨lead.following - 1, 0x80, 0xBF, lead.bits * 64 + (b.toNat - 0x80)⟩ rest
    else (.broken, b :: rest)

theorem Lead.length_complete_le (lead : Lead) (rest : List UInt8) :
    (lead.complete rest).2.length ≤ rest.length := by
  induction rest generalizing lead with
  | nil => unfold complete; split <;> simp
  | cons b rest ih =>
    unfold complete
    split
    · simp
    · split
      · exact Nat.le_succ_of_le (ih _)
      · simp

/-- The pieces of a sequence of bytes. -/
def pieces : List UInt8 → List Piece
  | [] => []
  | b :: rest =>
    match Lead.of? b with
    | none => .broken :: pieces rest
    | some lead =>
      have := lead.length_complete_le rest
      (lead.complete rest).1 :: pieces (lead.complete rest).2
termination_by bytes => bytes.length
decreasing_by all_goals simp; try omega

/-- The character shown for a piece. -/
def Piece.shown : Piece → Char
  | .char c => c
  | .broken => '\uFFFD'

/-- The text of the bytes, each place that holds no character shown as `U+FFFD`. -/
def decodeLossy (bytes : List UInt8) : String := String.ofList ((pieces bytes).map Piece.shown)

/-- The text of the bytes, if they are well-formed UTF-8 throughout. -/
def decode? (bytes : List UInt8) : Option String :=
  let ps := pieces bytes
  if ps.contains .broken then none else some (String.ofList (ps.map Piece.shown))

/-- The bytes of a text. -/
def encode (s : String) : List UInt8 := s.toUTF8.toList

end TopicConsumer.Text
