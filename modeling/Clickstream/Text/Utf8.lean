/-!
# UTF-8

Text as bytes. `Utf8.decode?` reads bytes that are well formed; `Utf8.lossy`
reads any bytes and puts U+FFFD in the place of each longest part that starts a
character but does not finish one, and of each byte that starts none.
-/

namespace Clickstream.Utf8

/-- The bytes of a text. -/
def encode (cs : List Char) : List UInt8 := cs.flatMap String.utf8EncodeChar

/-- A character of which some bytes have been read: how many are still to come,
    the bounds of the next one, and the bits so far. -/
structure Pending where
  more : Nat
  low : Nat
  high : Nat
  bits : Nat

/-- What a byte is when a new character should start. -/
inductive Lead
  | char (c : Char)
  | pending (p : Pending)
  | illFormed

/-- The first byte of a character. -/
def lead (b : Nat) : Lead :=
  if b < 0x80 then .char (Char.ofNat b)
  else if b < 0xC2 then .illFormed
  else if b < 0xE0 then .pending ⟨1, 0x80, 0xBF, b - 0xC0⟩
  else if b = 0xE0 then .pending ⟨2, 0xA0, 0xBF, 0⟩
  else if b = 0xED then .pending ⟨2, 0x80, 0x9F, 0xD⟩
  else if b < 0xF0 then .pending ⟨2, 0x80, 0xBF, b - 0xE0⟩
  else if b = 0xF0 then .pending ⟨3, 0x90, 0xBF, 0⟩
  else if b < 0xF4 then .pending ⟨3, 0x80, 0xBF, b - 0xF0⟩
  else if b = 0xF4 then .pending ⟨3, 0x80, 0x8F, 4⟩
  else .illFormed

/-- The characters in bytes, with nothing for each part that is none. `before`
    holds what was read already, the latest first. -/
def scan (before : List (Option Char)) (pending : Option Pending) :
    List UInt8 → List (Option Char)
  | [] => (if pending.isSome then none :: before else before).reverse
  | b :: rest =>
    let n := b.toNat
    match pending with
    | some p =>
      if p.low ≤ n ∧ n ≤ p.high then
        let bits := p.bits * 64 + (n - 0x80)
        if p.more = 1 then scan (some (Char.ofNat bits) :: before) none rest
        else scan before (some ⟨p.more - 1, 0x80, 0xBF, bits⟩) rest
      else
        match lead n with
        | .char c => scan (some c :: none :: before) none rest
        | .pending q => scan (none :: before) (some q) rest
        | .illFormed => scan (none :: none :: before) none rest
    | none =>
      match lead n with
      | .char c => scan (some c :: before) none rest
      | .pending q => scan before (some q) rest
      | .illFormed => scan (none :: before) none rest

/-- The characters in bytes that are well formed. -/
def decode? (bs : List UInt8) : Option (List Char) := (scan [] none bs).mapM fun c => c

/-- The characters in any bytes. -/
def lossy (bs : List UInt8) : List Char := (scan [] none bs).map (·.getD '\uFFFD')

end Clickstream.Utf8
