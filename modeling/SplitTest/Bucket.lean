import SplitTest.Sha1
import SplitTest.Text.Encoding

/-! Buckets: a seed and a key are hashed to one of a number of buckets. -/
namespace SplitTest

def bucketBytes (seed key : String) : List UInt8 :=
  utf8Bytes (seed ++ key)

def bucketDigest (seed key : String) : Nat :=
  (Sha1.digest (bucketBytes seed key)).toNat

/-- The bucket of a key: its digest, modulo the number of buckets and with that number's sign. There
is none among zero buckets. -/
def bucketOf? (seed key : String) (buckets : Int) : Option Int :=
  if buckets = 0 then none
  else some (Int.fmod (bucketDigest seed key) buckets)

/-- The number of buckets of an experiment: a share is a multiple of a thousandth. -/
def bucketCount : Int := 1000

def bucketOf (seed key : String) : Int :=
  bucketDigest seed key % bucketCount

end SplitTest
