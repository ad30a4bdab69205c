import MessageAbi.Word

/-!
This module contains the 256-bit Keccak hash: a sponge over 25 lanes of 64 bits that takes in 136
bytes at a time. The lane in column `x` of row `y` has the number `x + 5 * y`.
-/

namespace MessageAbi.Keccak

/--
The 25 lanes, row by row.
-/
abbrev State := List UInt64

def rotate (lane : UInt64) (n : UInt64) : UInt64 :=
  (lane <<< n) ||| (lane >>> (64 - n))

def parity : State → List UInt64
  | a :: b :: c :: d :: e :: rest =>
    List.zipWith (· ^^^ ·) [a, b, c, d, e] (parity rest)
  | _ => [0, 0, 0, 0, 0]

def mixColumns (state : State) : State :=
  match parity state with
  | [a, b, c, d, e] =>
    let mix := [e ^^^ rotate b 1, a ^^^ rotate c 1, b ^^^ rotate d 1, c ^^^ rotate e 1,
      d ^^^ rotate a 1]
    List.zipWith (· ^^^ ·) state (mix ++ mix ++ mix ++ mix ++ mix)
  | _ => state

/--
For each lane after the move, the number of the lane it comes from and how far that one is rotated.
-/
def moves : List (Nat × UInt64) :=
  [(0, 0), (6, 44), (12, 43), (18, 21), (24, 14),
   (3, 28), (9, 20), (10, 3), (16, 45), (22, 61),
   (1, 1), (7, 6), (13, 25), (19, 8), (20, 18),
   (4, 27), (5, 36), (11, 10), (17, 15), (23, 56),
   (2, 62), (8, 55), (14, 39), (15, 41), (21, 2)]

def moveLanes (state : State) : State :=
  moves.map fun (source, n) => rotate (state.getD source 0) n

def combineRows : State → State
  | a :: b :: c :: d :: e :: rest =>
    (a ^^^ (~~~b &&& c)) :: (b ^^^ (~~~c &&& d)) :: (c ^^^ (~~~d &&& e)) ::
      (d ^^^ (~~~e &&& a)) :: (e ^^^ (~~~a &&& b)) :: combineRows rest
  | rest => rest

def roundConstants : List UInt64 :=
  [0x0000000000000001, 0x0000000000008082, 0x800000000000808a, 0x8000000080008000,
   0x000000000000808b, 0x0000000080000001, 0x8000000080008081, 0x8000000000008009,
   0x000000000000008a, 0x0000000000000088, 0x0000000080008009, 0x000000008000000a,
   0x000000008000808b, 0x800000000000008b, 0x8000000000008089, 0x8000000000008003,
   0x8000000000008002, 0x8000000000000080, 0x000000000000800a, 0x800000008000000a,
   0x8000000080008081, 0x8000000000008080, 0x0000000080000001, 0x8000000080008008]

def round (state : State) (constant : UInt64) : State :=
  match combineRows (moveLanes (mixColumns state)) with
  | first :: rest => (first ^^^ constant) :: rest
  | [] => []

def permute (state : State) : State :=
  roundConstants.foldl round state

def rate : Nat := 136

def pad (message : Bytes) : Bytes :=
  let missing := rate - message.length % rate
  if missing = 1 then message ++ [0x81]
  else message ++ [0x01] ++ List.replicate (missing - 2) 0 ++ [0x80]

def toLanes : Bytes → List UInt64
  | a :: b :: c :: d :: e :: f :: g :: h :: rest =>
    UInt64.ofNat (ofBigEndian [h, g, f, e, d, c, b, a]) :: toLanes rest
  | _ => []

def absorb : (blocks : Nat) → State → List UInt64 → State
  | 0, state, _ => state
  | blocks + 1, state, lanes =>
    let block := lanes.take (rate / 8) ++ List.replicate (25 - rate / 8) 0
    absorb blocks (permute (List.zipWith (· ^^^ ·) state block)) (lanes.drop (rate / 8))

def hash (message : Bytes) : Bytes :=
  let padded := pad message
  let state := absorb (padded.length / rate) (List.replicate 25 0) (toLanes padded)
  (state.take 4).flatMap fun lane => (toBigEndian 8 lane.toNat).reverse

end MessageAbi.Keccak
