import SecurityLint.Finding
import SecurityLint.Hash.Sha256

/-!
Fingerprints of findings. Two reports of one finding in an unchanged tree have the same
fingerprint, so that a host can drop the second.
-/
namespace SecurityLint

def hexByte (b : UInt8) : List Char :=
  [(b.toNat / 16).digitChar, (b.toNat % 16).digitChar]

namespace Finding

/-- The file that a finding is in; a finding without location is in the file with the empty path. -/
def file (f : Finding) : Path :=
  f.location.elim .empty (·.file)

/-- What a fingerprint is taken of: rule, file as a text, anchor and message. -/
def identity (f : Finding) : List UInt8 :=
  Text.utf8 f.ruleId ++
    0 :: (Text.utf8 f.file.lossy ++ 0 :: (Hash.littleEndian 8 f.anchor ++ Text.utf8 f.message))

/-- The hash of the identity in hexadecimal digits. -/
def fingerprint (f : Finding) : String :=
  String.ofList ((Hash.Sha256.digest f.identity).flatMap hexByte)

end Finding

end SecurityLint
