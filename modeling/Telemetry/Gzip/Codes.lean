/-
Prefix codes, and the lengths and distances of the compressed format.

A code is given by the length of each symbol's word: words of one length are
consecutive in the order of the symbols, and shorter words come first. The
tables give the smallest length or distance of a symbol and how many bits follow.
-/

namespace Telemetry.Gzip

/-- A prefix code: how many words have each length, from 1 to 15, and the symbols in the
order of their words. -/
structure Code where
  counts : List Nat
  symbols : Array Nat

namespace Code

/-- Each symbol with a word of the given length. -/
def ofLength (lengths : List Nat) (n : Nat) : List Nat :=
  (lengths.zipIdx.filter fun (l, _) => l = n).map (·.2)

/-- The words use up the code's space, counted in words of 15 bits. -/
def space (counts : List Nat) : Nat :=
  counts.zipIdx.foldl (fun n (count, i) => n + count <<< (14 - i)) 0

/-- The code with these word lengths, of which 0 means no word. It must be complete, unless
one symbol alone is used or none. -/
def ofLengths? (lengths : List Nat) : Option Code :=
  let bySize := (List.range 15).map fun i => ofLength lengths (i + 1)
  let counts := bySize.map List.length
  let symbols := bySize.flatten
  if space counts = 1 <<< 15 ∨ symbols.length ≤ 1 then some ⟨counts, symbols.toArray⟩ else none

/-- The code of literals and lengths that needs no description. -/
def fixedLiteral : Option Code :=
  ofLengths? (List.replicate 144 8 ++ List.replicate 112 9 ++ List.replicate 24 7 ++
    List.replicate 8 8)

/-- The code of distances that needs no description. -/
def fixedDistance : Option Code :=
  ofLengths? (List.replicate 32 5)

end Code

/-- Smallest length and extra bits of the symbols from 257 on. -/
def lengthTable : List (Nat × Nat) := [
  (3, 0), (4, 0), (5, 0), (6, 0), (7, 0), (8, 0), (9, 0), (10, 0), (11, 1), (13, 1), (15, 1),
  (17, 1), (19, 2), (23, 2), (27, 2), (31, 2), (35, 3), (43, 3), (51, 3), (59, 3), (67, 4),
  (83, 4), (99, 4), (115, 4), (131, 5), (163, 5), (195, 5), (227, 5), (258, 0)]

/-- Smallest distance and extra bits of the symbols from 0 on. -/
def distanceTable : List (Nat × Nat) := [
  (1, 0), (2, 0), (3, 0), (4, 0), (5, 1), (7, 1), (9, 2), (13, 2), (17, 3), (25, 3), (33, 4),
  (49, 4), (65, 5), (97, 5), (129, 6), (193, 6), (257, 7), (385, 7), (513, 8), (769, 8),
  (1025, 9), (1537, 9), (2049, 10), (3073, 10), (4097, 11), (6145, 11), (8193, 12),
  (12289, 12), (16385, 13), (24577, 13)]

/-- The order in which a block gives the lengths of the code for lengths. -/
def lengthOrder : List Nat :=
  [16, 17, 18, 0, 8, 7, 9, 6, 10, 5, 11, 4, 12, 3, 13, 2, 14, 1, 15]

end Telemetry.Gzip
