import CodeWorkspace.Digest.Blake3
import CodeWorkspace.Manifest.Load

/-!
# Drawing identities

The identities for a manifest are digests of a seed and of the place that they are for.  They have
the form of random identifiers: a four as the 13th digit, and the bits one and zero in front of
the 17th group of four.
-/

namespace CodeWorkspace

/-- The identifier that has the form of a random one and takes its other bits from a number. -/
def Uuid.random (number : Nat) : Uuid :=
  .ofNat (number &&& 0xFFFFFFFFFFFF0FFF3FFFFFFFFFFFFFFF ||| 0x40008000000000000000)

/-- The identifier for a place. -/
def Uuid.drawn (seed : List UInt8) (place : String) : Uuid :=
  let digest := Digest.Blake3.hexDigest (seed ++ place.toUTF8.toList)
  .random ((Hex.ofDigits? (digest.toList.take 32)).getD 0)

/-- The identities that come out of a seed. -/
def Draws.ofSeed (seed : List UInt8) : Draws where
  project place := ⟨.drawn seed ("project " ++ toString place)⟩
  document project place :=
    ⟨.drawn seed ("document " ++ toString project ++ " " ++ toString place)⟩

end CodeWorkspace
