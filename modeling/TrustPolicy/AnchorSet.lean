import TrustPolicy.Certificate

/-!
# Trust anchors

A trust anchor is a certificate that is trusted as a root, with a flag that
says whether it bypasses pins. A set of anchors keeps them in the order of
insertion, one for each fingerprint; the first anchor of a fingerprint stays.
-/

namespace TrustPolicy

/-- A trusted certificate. -/
structure Anchor where
  certificate : Certificate
  /-- Whether chains to this anchor need not satisfy pins. -/
  overridesPins : Bool
  deriving DecidableEq, Hashable

/-- Anchors in the order of insertion, with the position of each fingerprint. -/
structure AnchorSet where
  anchors : List Anchor
  positions : List (List UInt8 × Nat)
  deriving DecidableEq

namespace AnchorSet

/-- The set without anchors. -/
def empty : AnchorSet := ⟨[], []⟩

/-- The anchor that is recorded for a certificate. -/
def find?
    (set : AnchorSet)
    (certificate : Certificate) : Option Anchor :=
  match set.positions.lookup certificate.fingerprint with
  | none => none
  | some position => set.anchors[position]?

/-- Whether an anchor is recorded for a certificate. -/
def contains
    (set : AnchorSet)
    (certificate : Certificate) : Bool :=
  (set.find? certificate).isSome

/-- Whether the fingerprint of an anchor has no position yet. -/
def isNew
    (set : AnchorSet)
    (anchor : Anchor) : Bool :=
  (set.positions.lookup anchor.certificate.fingerprint).isNone

/-- The set with an anchor added at the end, or the same set if its fingerprint
is recorded already. -/
def insert
    (set : AnchorSet)
    (anchor : Anchor) : AnchorSet :=
  if set.isNew anchor then
    ⟨set.anchors ++ [anchor],
      set.positions ++ [(anchor.certificate.fingerprint, set.anchors.length)]⟩
  else set

/-- The set with anchors inserted one after another. -/
def extend
    (set : AnchorSet)
    (anchors : List Anchor) : AnchorSet :=
  anchors.foldl insert set

/-- The set of the anchors of a list. -/
def ofList (anchors : List Anchor) : AnchorSet :=
  empty.extend anchors

/-- The number of anchors. -/
def size (set : AnchorSet) : Nat :=
  set.anchors.length

/-- Whether there are no anchors. -/
def isEmpty (set : AnchorSet) : Bool :=
  set.anchors.isEmpty

/-- The certificates of the anchors, in the same order. -/
def certificates (set : AnchorSet) : List Certificate :=
  set.anchors.map Anchor.certificate

@[simp] theorem extend_nil (set : AnchorSet) : set.extend [] = set := rfl

@[simp] theorem extend_cons
    (set : AnchorSet)
    (anchor : Anchor)
    (anchors : List Anchor) :
    set.extend (anchor :: anchors) = (set.insert anchor).extend anchors := rfl

theorem extend_append
    (set : AnchorSet)
    (first second : List Anchor) :
    set.extend (first ++ second) = (set.extend first).extend second :=
  List.foldl_append

end AnchorSet
end TrustPolicy
