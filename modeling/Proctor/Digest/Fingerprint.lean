import Proctor.Digest.Base64
import Proctor.Digest.Sha256
import Proctor.Test.Spec
import Proctor.Text.Utf8

/-!
# Fingerprints of a source

The fingerprint covers the version of the controller and the source of a Test. A finished Test
whose fingerprint is no longer the recorded one is run again.
-/

namespace Proctor

/-- What is hashed: version, language, content and name, one after the other. -/
def Source.hashedBytes (s : Source) (version : String) : List UInt8 :=
  Text.bytes version ++ Text.bytes s.language.wire ++ Text.bytes s.content ++ Text.bytes s.name

/-- The fingerprint of a source under a version of the controller. -/
def Source.digest (s : Source) (version : String) : String :=
  String.ofList ('v' :: Base64.encode (Sha256.hash (s.hashedBytes version)))

end Proctor
