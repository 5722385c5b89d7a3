/-! Reading bytes as text when they may not be UTF-8: each longest beginning of a character that
does not go on as it should becomes one replacement character. -/
namespace ClientAccess.Text.Utf8

structure Lead where
  following : Nat
  low : UInt8
  high : UInt8
  bits : Nat

def lead? (b : UInt8) : Option Lead :=
  if b < 0x80 then some ⟨0, 0x80, 0xBF, b.toNat⟩
  else if b < 0xC2 then none
  else if b < 0xE0 then some ⟨1, 0x80, 0xBF, b.toNat - 0xC0⟩
  else if b == 0xE0 then some ⟨2, 0xA0, 0xBF, 0⟩
  else if b == 0xED then some ⟨2, 0x80, 0x9F, 0xD⟩
  else if b < 0xF0 then some ⟨2, 0x80, 0xBF, b.toNat - 0xE0⟩
  else if b == 0xF0 then some ⟨3, 0x90, 0xBF, 0⟩
  else if b == 0xF4 then some ⟨3, 0x80, 0x8F, 4⟩
  else if b < 0xF4 then some ⟨3, 0x80, 0xBF, b.toNat - 0xF0⟩
  else none

def replacement : Char := Char.ofNat 0xFFFD

/-- Reads `n` further bytes within bounds; gives the character, or the replacement at the first
byte that does not fit, and what is left. -/
def follow (n : Nat) (low high : UInt8) (bits : Nat) (bs : List UInt8) : Char × List UInt8 :=
  match n, bs with
  | 0, bs => (Char.ofNat bits, bs)
  | _ + 1, [] => (replacement, [])
  | n + 1, b :: bs =>
    if low ≤ b ∧ b ≤ high then follow n 0x80 0xBF (bits * 64 + (b.toNat - 0x80)) bs
    else (replacement, b :: bs)

theorem length_follow_le (n : Nat) (low high : UInt8) (bits : Nat) (bs : List UInt8) :
    (follow n low high bits bs).2.length ≤ bs.length := by
  fun_induction Utf8.follow n low high bits bs <;> simp_all
  omega

def lossyChars (bs : List UInt8) : List Char :=
  match bs with
  | [] => []
  | b :: bs =>
    match lead? b with
    | none => replacement :: lossyChars bs
    | some l =>
      let step := follow l.following l.low l.high l.bits bs
      step.1 :: lossyChars step.2
termination_by bs.length
decreasing_by
  · simp
  · have := length_follow_le l.following l.low l.high l.bits bs
    simp only [List.length_cons]
    omega

def lossy (bytes : ByteArray) : String :=
  (String.fromUTF8? bytes).getD (String.ofList (lossyChars bytes.data.toList))

end ClientAccess.Text.Utf8
