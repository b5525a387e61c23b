import ScanBinder.Bytes

/-!
# Run-length coding of TIFF images

A byte below 128 announces that many bytes and one more as they are; a byte above 128
repeats the byte after it.
-/

namespace ScanBinder

/-- What comes of unpacking: bytes, or nothing if the byte to be repeated is missing. -/
inductive UnpackedBits where
  | complete (out : Bytes)
  | cut

/-- Unpacks until `limit` bytes are there or the data ends; those in `done` come first, the last
in front. -/
def unpackBits (limit : Nat) : (fuel : Nat) → (done : Bytes) → (count : Nat) → Bytes → UnpackedBits
  | 0, _, _, _ => .cut
  | fuel + 1, done, count, bs =>
    if limit ≤ count then .complete (done.reverse.take limit)
    else
      match bs with
      | [] => .complete done.reverse
      | n :: bs =>
        if n < 128 then
          let run := bs.take (n.toNat + 1)
          unpackBits limit fuel (run.reverse ++ done) (count + run.length) (bs.drop (n.toNat + 1))
        else if n = 128 then unpackBits limit fuel done count bs
        else
          match bs with
          | [] => .cut
          | v :: bs =>
            let m := 257 - n.toNat
            unpackBits limit fuel (List.replicate m v ++ done) (count + m) bs

end ScanBinder
