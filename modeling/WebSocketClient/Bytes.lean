/-!
# Octet strings

Octet strings and the big-endian numbers that frames carry in them.  A number
is written at a fixed width and reduced to that width; reading takes as many
octets as there are.
-/

namespace WebSocketClient

abbrev Bytes := List UInt8

/-- What holds of the 256 octets one by one holds of every octet. -/
theorem forall_octet {property : UInt8 -> Prop}
    (hall : forall n : Fin 256, property (UInt8.ofNat n)) (octet : UInt8) : property octet := by
  have hoctet := hall ⟨octet.toNat, octet.toNat_lt⟩
  rwa [UInt8.ofNat_toNat] at hoctet

namespace Bytes

/-- Whether there are at least `n` octets; no more of them are looked at. -/
def hasAtLeast : (n : Nat) -> Bytes -> Bool
  | 0, _ => true
  | _ + 1, [] => false
  | n + 1, _ :: rest => hasAtLeast n rest

theorem hasAtLeast_iff (n : Nat) (bytes : Bytes) : hasAtLeast n bytes ↔ n <= bytes.length := by
  induction bytes generalizing n with
  | nil => cases n <;> simp [hasAtLeast]
  | cons octet rest ih => cases n <;> simp [hasAtLeast, ih]

/-!
## Big-endian numbers
-/

/-- The lowest `width` octets of a number, most significant octet first. -/
def bigEndian : (width : Nat) -> Nat -> Bytes
  | 0, _ => []
  | width + 1, n => UInt8.ofNat (n / Nat.pow 256 width) :: bigEndian width n

def ofBigEndian (bytes : Bytes) : Nat :=
  bytes.foldl (fun value octet => value * 256 + octet.toNat) 0

@[simp] theorem length_bigEndian (width n : Nat) :
    (bigEndian width n).length = width := by
  induction width with
  | zero => rfl
  | succ width ih => simp [bigEndian, ih]

@[simp] theorem ofBigEndian_nil : ofBigEndian [] = 0 := rfl

end Bytes

end WebSocketClient
