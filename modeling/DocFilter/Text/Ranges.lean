/-!
# Sets of code points

A set of code points is a list of closed intervals that ascend, are disjoint and do not touch.
All operations keep that form, so membership can stop at the first interval that starts later.
The ends of the intervals stand for characters, so none of them is a surrogate.
-/

namespace DocFilter
namespace Text

/-- Closed intervals of code points, ascending and pairwise separated by a gap. -/
abbrev Ranges := List (Nat × Nat)

namespace Ranges

/-- The largest code point. -/
def maxPoint : Nat := 0x10FFFF

/-- Membership of a code point. -/
def mem : Ranges → Nat → Bool
  | [], _ => false
  | (lo, hi) :: rest, n =>
      if n < lo then false
      else if n ≤ hi then true
      else mem rest n

/-- Adds the interval from `lo` to `hi`, joining every interval that it meets or touches. -/
def insertRange (lo hi : Nat) : Ranges → Ranges
  | [] => [(lo, hi)]
  | (a, b) :: rest =>
      if hi + 1 < a then (lo, hi) :: (a, b) :: rest
      else if b + 1 < lo then (a, b) :: insertRange lo hi rest
      else insertRange (min lo a) (max hi b) rest

/-- The set of all points that some interval of an arbitrary list covers. -/
def normalize (xs : List (Nat × Nat)) : Ranges :=
  xs.foldr (fun r acc => insertRange r.1 r.2 acc) []

/-- The interval from `lo` to `hi` in front of intervals that begin no earlier, joined with those
that it meets or touches. -/
def join (lo hi : Nat) : List (Nat × Nat) → Ranges
  | [] => [(lo, hi)]
  | (a, b) :: rest =>
      if a ≤ hi + 1 then join lo (max hi b) rest
      else (lo, hi) :: join a b rest

/-- The union of two sets. -/
def union (s t : Ranges) : Ranges :=
  match List.merge s t (fun r q => r.1 ≤ q.1) with
  | [] => []
  | (lo, hi) :: rest => join lo hi rest

/-- The union of a list of sets. -/
def unions (sets : List Ranges) : Ranges :=
  sets.foldr union []

/-- The code point behind another.  Surrogates stand for no character and are passed over. -/
def next (n : Nat) : Nat :=
  if n = 0xD7FF then 0xE000 else n + 1

/-- The code point before another, again without regard to surrogates. -/
def previous (n : Nat) : Nat :=
  if n = 0xE000 then 0xD7FF else n - 1

/-- What lies between two intervals.  Between two that only surrogates separate it is taken to be
from the end of the one to the start of the other. -/
def gap (hi lo : Nat) : Nat × Nat :=
  (min (next hi) (previous lo), max (next hi) (previous lo))

/-- The gaps between intervals, the first of which ends at `hi`, and the one behind them. -/
def gapsBehind (hi : Nat) : Ranges → Ranges
  | [] => if hi < maxPoint then [(next hi, maxPoint)] else []
  | (a, b) :: rest => gap hi a :: gapsBehind b rest

/-- The code points outside a set. -/
def complement : Ranges → Ranges
  | [] => [(0, maxPoint)]
  | (lo, hi) :: rest =>
      (if 0 < lo then [(0, previous lo)] else []) ++ gapsBehind hi rest

/-- What the intervals of a set have in common with the one from `lo` to `hi`. -/
def clip (lo hi : Nat) (t : Ranges) : Ranges :=
  ((t.dropWhile fun r => r.2 < lo).takeWhile fun r => r.1 ≤ hi).map fun r =>
    (max lo r.1, min hi r.2)

/-- The intersection of two sets. -/
def inter (s t : Ranges) : Ranges :=
  s.flatMap fun r => clip r.1 r.2 t

/-- What remains of the interval from `lo` to `hi` without the points of a set. -/
def cut (lo hi : Nat) : Ranges → Ranges
  | [] => [(lo, hi)]
  | (a, b) :: rest =>
      if b < lo then cut lo hi rest
      else if hi < a then [(lo, hi)]
      else
        (if lo < a then [(lo, previous a)] else []) ++
          (if b < hi then cut (next b) hi rest else [])

/-- The points of `s` that are not in `t`. -/
def diff (s t : Ranges) : Ranges :=
  s.flatMap fun r => cut r.1 r.2 t

/-- The points that lie in exactly one of two sets. -/
def symmDiff (s t : Ranges) : Ranges :=
  diff (union s t) (inter s t)

/-- The set of a single code point. -/
def point (n : Nat) : Ranges := [(n, n)]

/-- The number of code points in a set. -/
def size (s : Ranges) : Nat :=
  s.foldl (fun n r => n + (r.2 + 1 - r.1)) 0

end Ranges

end Text
end DocFilter
