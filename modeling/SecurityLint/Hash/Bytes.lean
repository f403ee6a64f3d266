/-!
Numbers as bytes.
-/
namespace SecurityLint.Hash

/-- The `n` lowest bytes of a number, lowest first. -/
def littleEndian : (n : Nat) → Nat → List UInt8
  | 0, _ => []
  | n + 1, x => UInt8.ofNat x :: littleEndian n (x / 256)

/-- The `n` lowest bytes of a number, highest first. -/
def bigEndian (n x : Nat) : List UInt8 :=
  (littleEndian n x).reverse

end SecurityLint.Hash
