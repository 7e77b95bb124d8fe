import DeploymentGateway.Hash.Sha256
import DeploymentGateway.Model.Package
import DeploymentGateway.Text.Percent
/-!
Ids of packages. Back ends without a registry make packages up from what is deployed, so the same
source must always give the same id: a digest of type, address and path, which no separator can
confuse as long as they contain no NUL.
-/

set_option autoImplicit false

namespace DeploymentGateway.PackageId

/-- What is hashed: the word of the type, the address and the path, with a NUL between them. -/
def source (type : PackageType) (url path : String) : List UInt8 :=
  Text.Percent.octets type.word ++ 0 :: Text.Percent.octets url ++ 0 :: Text.Percent.octets path

/-- The first half of the digest, as hexadecimal digits. -/
def fingerprint (octets : List UInt8) : String :=
  String.ofList <| ((Hash.Sha256.digest octets).take 16).flatMap fun octet =>
    [Text.hexDigit false (octet.toNat / 16), Text.hexDigit false (octet.toNat % 16)]

/-- The id of a package. -/
def derive (type : PackageType) (url path : String) : String :=
  type.idMark ++ "-" ++ fingerprint (source type url path)

end DeploymentGateway.PackageId
